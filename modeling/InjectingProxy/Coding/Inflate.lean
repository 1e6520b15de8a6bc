import InjectingProxy.Coding.Huffman

/-!
# Unpacking compressed data

Compressed data is a row of blocks.  A block holds bytes as they are, or symbols for bytes and for
copies of what came before, in a fixed code or in one that the block itself describes.

The reader takes bits from the data it has, and stops when they run out or make no sense; the
output up to that point is kept.  So the output for the data received so far can be passed on
while the rest is still to come.

## What is here

* `Source`, `Unpacking`: the data with the place reached and the output so far, and actions on it.
* `Flaw`: what makes no sense.
* `blocks`: unpack blocks up to the last one.
-/

set_option autoImplicit false

namespace InjectingProxy
namespace Coding

/-- What makes no sense in compressed data. -/
inductive Flaw where
  | headerCheck
  | method
  | windowSize
  | headerFlags
  | headerSum
  | dictionaryNeeded
  | blockType
  | storedLengths
  | tooManySymbols
  | codeLengths
  | lengthRepeat
  | noEndOfBlock
  | literalCode
  | distanceCode
  | literalSymbol
  | distanceSymbol
  | distanceTooFar
  | dataSum
  | dataLength
  deriving DecidableEq, Repr

/-- The wording of a flaw. -/
def Flaw.message (f : Flaw) : String :=
  let because (s : String) : String := "Error -3 while decompressing data: " ++ s
  match f with
  | .headerCheck => because "incorrect header check"
  | .method => because "unknown compression method"
  | .windowSize => because "invalid window size"
  | .headerFlags => because "unknown header flags set"
  | .headerSum => because "header crc mismatch"
  | .dictionaryNeeded => "Error 2 while decompressing data"
  | .blockType => because "invalid block type"
  | .storedLengths => because "invalid stored block lengths"
  | .tooManySymbols => because "too many length or distance symbols"
  | .codeLengths => because "invalid code lengths set"
  | .lengthRepeat => because "invalid bit length repeat"
  | .noEndOfBlock => because "invalid code -- missing end-of-block"
  | .literalCode => because "invalid literal/lengths set"
  | .distanceCode => because "invalid distances set"
  | .literalSymbol => because "invalid literal/length code"
  | .distanceSymbol => because "invalid distance code"
  | .distanceTooFar => because "invalid distance too far back"
  | .dataSum => because "incorrect data check"
  | .dataLength => because "incorrect length check"

/-- Why unpacking stops. -/
inductive Stop where
  /-- The data ends here for now. -/
  | short
  | flawed (f : Flaw)
  deriving DecidableEq, Repr

/-- Data with the number of the next bit, and the output so far. -/
structure Source where
  data : ByteArray
  bit : Nat
  output : Array UInt8

/-- An action on a source that may stop. -/
abbrev Unpacking := EStateM Stop Source

/-- Stop because of a flaw. -/
def refuse {α : Type} (f : Flaw) : Unpacking α := throw (.flawed f)

/-- The next bit. -/
def nextBit : Unpacking Nat := do
  let s ← get
  match s.data[s.bit / 8]? with
  | none => throw .short
  | some b =>
    set { s with bit := s.bit + 1 }
    pure (b.toNat / weight (s.bit % 8) % 2)

/-- The next bits as a number, the lowest bit first.  None is taken unless all are there. -/
def bits (count : Nat) : Unpacking Nat := do
  let s ← get
  if 8 * s.data.size < s.bit + count then throw .short
  let ds ← (List.range count).mapM fun i => do pure ((← nextBit) * weight i)
  pure (ds.foldl Nat.add 0)

/-- Go on at the next whole byte. -/
def align : Unpacking Unit := modify fun s => { s with bit := (s.bit + 7) / 8 * 8 }

/-- Append a byte to the output. -/
def emit (b : UInt8) : Unpacking Unit := modify fun s => { s with output := s.output.push b }

/-- How many bits the data has: no loop below runs longer. -/
def budget : Unpacking Nat := do pure (8 * (← get).data.size + 1)

/-- The symbol for the next bits, of which `code` is the number read so far, in a full code.
`first` is the number of the first run of the present length, `index` how many symbols are
shorter. -/
def fullSymbol (symbols : Array Nat) (code first index : Nat) : List Nat → Unpacking (Option Nat)
  | [] => pure none
  | count :: counts => do
    let code := 2 * code + (← nextBit)
    let first := 2 * first
    if code < first + count then pure symbols[index + (code - first)]?
    else fullSymbol symbols code (first + count) (index + count) counts

/-- The symbol for the next bits, if they have a meaning. -/
def symbol : Code → Unpacking (Option Nat)
  | .empty => do
    discard nextBit
    pure none
  | .single s => do pure (if (← nextBit) = 0 then some s else none)
  | .full counts symbols => fullSymbol symbols 0 0 0 counts

/-- The smallest length of a copy for each length symbol from 257 on, and its extra bits. -/
def copyLengths : Array (Nat × Nat) :=
  #[(3, 0), (4, 0), (5, 0), (6, 0), (7, 0), (8, 0), (9, 0), (10, 0), (11, 1), (13, 1), (15, 1),
    (17, 1), (19, 2), (23, 2), (27, 2), (31, 2), (35, 3), (43, 3), (51, 3), (59, 3), (67, 4),
    (83, 4), (99, 4), (115, 4), (131, 5), (163, 5), (195, 5), (227, 5), (258, 0)]

/-- The smallest distance of a copy for each distance symbol, and its extra bits. -/
def copyDistances : Array (Nat × Nat) :=
  #[(1, 0), (2, 0), (3, 0), (4, 0), (5, 1), (7, 1), (9, 2), (13, 2), (17, 3), (25, 3), (33, 4),
    (49, 4), (65, 5), (97, 5), (129, 6), (193, 6), (257, 7), (385, 7), (513, 8), (769, 8),
    (1025, 9), (1537, 9), (2049, 10), (3073, 10), (4097, 11), (6145, 11), (8193, 12),
    (12289, 12), (16385, 13), (24577, 13)]

/-- Append a copy of the output that begins `distance` bytes before its end. -/
def copy (distance : Nat) : (length : Nat) → Unpacking Unit
  | 0 => pure ()
  | length + 1 => do
    let out := (← get).output
    emit (out.getD (out.size - distance) 0)
    copy distance length

/-- The code of literals and lengths, and the code of distances. -/
structure Codes where
  literals : Code
  distances : Code

/-- Unpack symbols up to the end of the block. -/
def symbols (codes : Codes) : (fuel : Nat) → Unpacking Unit
  | 0 => throw .short
  | fuel + 1 => do
    match ← symbol codes.literals with
    | none => refuse .literalSymbol
    | some s =>
      if s < 256 then
        emit (UInt8.ofNat s)
        symbols codes fuel
      else if s = 256 then pure ()
      else
        match copyLengths[s - 257]? with
        | none => refuse .literalSymbol
        | some (least, extra) =>
          let length := least + (← bits extra)
          match ← symbol codes.distances with
          | none => refuse .distanceSymbol
          | some d =>
            match copyDistances[d]? with
            | none => refuse .distanceSymbol
            | some (least, extra) =>
              let distance := least + (← bits extra)
              if (← get).output.size < distance then refuse .distanceTooFar
              copy distance length
              symbols codes fuel

/-- Take over bytes as they are. -/
def rawBytes : (count : Nat) → Unpacking Unit
  | 0 => pure ()
  | count + 1 => do
    emit (UInt8.ofNat (← bits 8))
    rawBytes count

/-- A block of bytes as they are. -/
def storedBlock : Unpacking Unit := do
  align
  let lengths ← bits 32
  let length := lengths % 65536
  if length + lengths / 65536 ≠ 65535 then refuse .storedLengths
  rawBytes length

/-- The codes of a block that describes none. -/
def fixedCodes : Codes where
  literals :=
    (Code.ofLengths true (List.replicate 144 8 ++ List.replicate 112 9 ++ List.replicate 24 7 ++
      List.replicate 8 8)).getD .empty
  distances := (Code.ofLengths true (List.replicate 32 5)).getD .empty

/-- The order in which the lengths of the code for lengths are given. -/
def lengthOrder : List Nat := [16, 17, 18, 0, 8, 7, 9, 6, 10, 5, 11, 4, 12, 3, 13, 2, 14, 1, 15]

/-- The symbol for the next bits in the code for lengths, where a bit without a meaning stands for
the length 0. -/
def lengthSymbol (code : Code) : Unpacking Nat := do pure ((← symbol code).getD 0)

/-- Lengths of symbols until there are `total`, the last one first. -/
def codeLengths (code : Code) (total : Nat) : (fuel : Nat) → List Nat → Unpacking (List Nat)
  | 0, _ => throw .short
  | fuel + 1, done => do
    if total ≤ done.length then pure done
    else
      let s ← lengthSymbol code
      if s < 16 then codeLengths code total fuel (s :: done)
      else
        let extra ← bits (if s = 16 then 2 else if s = 17 then 3 else 7)
        let count := (if s = 18 then 11 else 3) + extra
        let value ←
          if s = 16 then
            match done with
            | [] => refuse .lengthRepeat
            | last :: _ => pure last
          else pure 0
        if total < done.length + count then refuse .lengthRepeat
        codeLengths code total fuel (List.replicate count value ++ done)

/-- The codes that a block describes. -/
def describedCodes : Unpacking Codes := do
  let sizes ← bits 14
  let literalCount := sizes % 32 + 257
  let distanceCount := sizes / 32 % 32 + 1
  let lengthCount := sizes / 1024 + 4
  if 286 < literalCount ∨ 30 < distanceCount then refuse .tooManySymbols
  let given ← (lengthOrder.take lengthCount).mapM fun s => do pure (s, ← bits 3)
  let lengths := (List.range 19).map fun s => (given.lookup s).getD 0
  match Code.ofLengths false lengths with
  | none => refuse .codeLengths
  | some code =>
    let all := (← codeLengths code (literalCount + distanceCount) (← budget) []).reverse
    if all.getD 256 0 = 0 then refuse .noEndOfBlock
    match Code.ofLengths true (all.take literalCount) with
    | none => refuse .literalCode
    | some literals =>
      match Code.ofLengths true (all.drop literalCount) with
      | none => refuse .distanceCode
      | some distances => pure { literals, distances }

/-- Unpack blocks up to the last one. -/
def blocks : (fuel : Nat) → Unpacking Unit
  | 0 => throw .short
  | fuel + 1 => do
    let head ← bits 3
    match head / 2 with
    | 0 => storedBlock
    | 1 => symbols fixedCodes (← budget)
    | 2 => symbols (← describedCodes) (← budget)
    | _ => refuse .blockType
    if head % 2 = 1 then align else blocks fuel

end Coding
end InjectingProxy
