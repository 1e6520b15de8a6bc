import InjectingProxy.Coding.Inflate
import InjectingProxy.Text.Basic

/-!
# Forms of compressed data

Compressed blocks travel bare, or with a header before and a check sum behind them, in one of two
forms.

## What is here

* `Form`: the three forms.
* `Form.unpack`: unpack data of a form.
* `Inflater`: data that arrives in pieces, each of which gives the output that it completes.
-/

set_option autoImplicit false

namespace InjectingProxy
namespace Coding

/-- The form in which compressed blocks travel. -/
inductive Form where
  | bare
  | zlib
  | gzip
  deriving DecidableEq, Repr

/-- The check sum of two running sums. -/
def adlerSum (data : Array UInt8) : Nat :=
  let (a, b) := data.foldl
    (fun (a, b) x =>
      let a := (a + x.toNat) % 65521
      (a, (b + a) % 65521)) (1, 0)
  b * 65536 + a

/-- Divide a check sum by its polynomial, one bit at a time. -/
def crcShift : (steps : Nat) → UInt32 → UInt32
  | 0, c => c
  | steps + 1, c => crcShift steps (if c % 2 = 1 then (c >>> 1) ^^^ 0xEDB88320 else c >>> 1)

/-- The check sum by division. -/
def crcSum (data : Array UInt8) : Nat :=
  ((data.foldl (fun c x => crcShift 8 (c ^^^ x.toUInt32)) 0xFFFFFFFF) ^^^ 0xFFFFFFFF).toNat

/-- A number of four bytes, the highest first. -/
def bigEndian32 : Unpacking Nat := do
  let n ← bits 32
  pure (n % 256 * 16777216 + n / 256 % 256 * 65536 + n / 65536 % 256 * 256 + n / 16777216)

/-- Bytes up to a zero. -/
def skipText : (fuel : Nat) → Unpacking Unit
  | 0 => throw .short
  | fuel + 1 => do if (← bits 8) = 0 then pure () else skipText fuel

/-- The header of the first form. -/
def zlibHeader : Unpacking Unit := do
  let n ← bits 16
  if (n % 256 * 256 + n / 256) % 31 ≠ 0 then refuse .headerCheck
  if n % 16 ≠ 8 then refuse .method
  if 7 < n / 16 % 16 then refuse .windowSize
  if n / 8192 % 2 = 1 then
    discard (bits 32)
    refuse .dictionaryNeeded

/-- The header of the second form: its flags say which parts follow. -/
def gzipHeader : Unpacking Unit := do
  if (← bits 16) ≠ 0x8B1F then refuse .headerCheck
  let flags ← bits 16
  if flags % 256 ≠ 8 then refuse .method
  if flags / 8192 ≠ 0 then refuse .headerFlags
  let has (bit : Nat) : Bool := flags / weight bit % 2 = 1
  discard (bits 32)
  discard (bits 16)
  if has 10 then
    let count ← bits 16
    (List.range count).forM fun _ => discard (bits 8)
  if has 11 then skipText (← budget)
  if has 12 then skipText (← budget)
  if has 9 then
    let s ← get
    let read := (s.data.extract 0 (s.bit / 8)).data
    if (← bits 16) ≠ crcSum read % 65536 then refuse .headerSum

/-- Unpack data of a form. -/
def Form.unpack : Form → Unpacking Unit
  | .bare => do blocks (← budget)
  | .zlib => do
    zlibHeader
    blocks (← budget)
    if (← bigEndian32) ≠ adlerSum (← get).output then refuse .dataSum
  | .gzip => do
    gzipHeader
    blocks (← budget)
    let out := (← get).output
    if (← bits 32) ≠ crcSum out then refuse .dataSum
    if (← bits 32) ≠ out.size % 4294967296 then refuse .dataLength

/-- The output for all data so far.  Data behind the end is passed over. -/
def Form.outputOf (form : Form) (data : Bytes) : Except Flaw Bytes :=
  match form.unpack.run { data := ⟨data.toArray⟩, bit := 0, output := #[] } with
  | .ok _ s => .ok s.output.toList
  | .error .short s => .ok s.output.toList
  | .error (.flawed f) _ => .error f

/-- Data that arrives in pieces: what has arrived, and how much output has been passed on. -/
structure Inflater where
  form : Form
  received : Bytes
  passedOn : Nat

/-- The state before any data. -/
def Inflater.start (form : Form) : Inflater := ⟨form, [], 0⟩

/-- Take a piece of data: the output that it completes. -/
def Inflater.feed (i : Inflater) (piece : Bytes) : Except Flaw (Bytes × Inflater) :=
  let received := i.received ++ piece
  match i.form.outputOf received with
  | .error f => .error f
  | .ok output => .ok (output.drop i.passedOn, { i with received, passedOn := output.length })

end Coding
end InjectingProxy
