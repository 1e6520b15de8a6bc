import InjectingProxy.Text.Normal
import InjectingProxy.Text.Quoted
import InjectingProxy.Url.Idna.Classes
import InjectingProxy.Url.Idna.Punycode

/-!
# Labels of host names

A label is a part of a host name between dots.  It may hold characters beyond ASCII if it obeys
the rules for internationalised names, and then has an ASCII form that begins with `xn--`.  The
rules look at code points, because an ASCII form can also stand for numbers that are no characters.

## What is here

* `Idna.Fault`: what can be wrong with a name.
* `Idna.checkLabel`: the rules, in the order in which they are tried.
* `Idna.toAscii`, `Idna.toUnicode`: the two forms of a label.
-/

set_option autoImplicit false

namespace InjectingProxy
namespace Idna

/-- What is wrong with a host name or one of its labels. -/
inductive Fault where
  | nameTooLong
  | nameEmpty
  | labelEmpty
  | labelTooLong
  | notComposed
  | hyphensInside
  | hyphenAtEnd
  | markFirst
  | character (c place : Nat) (label : List Nat)
  | joiner (c place : Nat) (label : List Nat)
  | joinerNeighbour (c place : Nat) (label : List Nat)
  | context (c place : Nat) (label : List Nat)
  | directionUnknown (place : Nat) (label : List Nat)
  | directionFirst (label : List Nat)
  | directionRight (place : Nat)
  | directionLeft (place : Nat)
  | mixedNumbers
  | directionLast
  | asciiFormEmpty
  | asciiFormHyphen
  | asciiFormMalformed
  | asciiFormIndirect
  deriving DecidableEq, Repr

/-- A code point as `U+` and at least four figures. -/
def pointName (c : Nat) : String :=
  let digits := (Nat.toDigits 16 c).map Char.toUpper
  "U+" ++ String.ofList (List.replicate (4 - digits.length) '0' ++ digits)

/-- Code points between quotes. -/
def quotedPoints (label : List Nat) : String := String.ofList (Quoted.encodePoints label)

/-- The text of a fault. -/
def Fault.message : Fault → String
  | .nameTooLong => "Domain too long"
  | .nameEmpty => "Empty domain"
  | .labelEmpty => "Empty Label"
  | .labelTooLong => "Label too long"
  | .notComposed => "Label must be in Normalization Form C"
  | .hyphensInside => "Label has disallowed hyphens in 3rd and 4th position"
  | .hyphenAtEnd => "Label must not start or end with a hyphen"
  | .markFirst => "Label begins with an illegal combining character"
  | .character c place label =>
    "Codepoint " ++ pointName c ++ " at position " ++ toString (place + 1) ++ " of " ++
      quotedPoints label ++ " not allowed"
  | .joiner c place label =>
    "Joiner " ++ pointName c ++ " not allowed at position " ++ toString (place + 1) ++ " in " ++
      quotedPoints label
  | .joinerNeighbour c place label =>
    "Unknown codepoint adjacent to joiner " ++ pointName c ++ " at position " ++
      toString (place + 1) ++ " in " ++ quotedPoints label
  | .context c place label =>
    "Codepoint " ++ pointName c ++ " not allowed at position " ++ toString (place + 1) ++
      " in " ++ quotedPoints label
  | .directionUnknown place label =>
    "Unknown directionality in label " ++ quotedPoints label ++ " at position " ++
      toString (place + 1)
  | .directionFirst label =>
    "First codepoint in label " ++ quotedPoints label ++ " must be directionality L, R or AL"
  | .directionRight place =>
    "Invalid direction for codepoint at position " ++ toString (place + 1) ++
      " in a right-to-left label"
  | .directionLeft place =>
    "Invalid direction for codepoint at position " ++ toString (place + 1) ++
      " in a left-to-right label"
  | .mixedNumbers => "Can not mix numeral types in a right-to-left label"
  | .directionLast => "Label ends with illegal codepoint directionality"
  | .asciiFormEmpty => "Malformed A-label, no Punycode eligible content found"
  | .asciiFormHyphen => "A-label must not end with a hyphen"
  | .asciiFormMalformed => "Invalid A-label"
  | .asciiFormIndirect => "A-label is not the canonical Punycode encoding of its U-label"

/-- The longest label in its ASCII form. -/
def maxLabel : Nat := 63

/-- The longest name without and with a dot at its end. -/
def maxName (dotAtEnd : Bool) : Nat := if dotAtEnd then 254 else 253

/-- The first code point that is not transparent joins in a way that `joins` accepts. -/
def joinsThrough (joins : Nat → Bool) : List Nat → Bool
  | [] => false
  | c :: rest => if transparent.contains c then joinsThrough joins rest else joins c

/-- Whether a joiner may stand between these code points, those before it with the nearest first.
There is no answer after a code point of which not even the name is known. -/
def joinerFits? (c : Nat) (before after : List Nat) : Option Bool :=
  let follows (r : Ranges) : Bool := (before.head?.map r.contains).getD false
  if follows viramas then some true
  else if follows recent || follows nameless then none
  else
    some (c = 0x200C &&
      joinsThrough (fun n => leftJoining.contains n || dualJoining.contains n) before &&
      joinsThrough (fun n => rightJoining.contains n || dualJoining.contains n) after)

/-- The code points that may stand in some contexts only. -/
def isContextual (c : Nat) : Bool :=
  c = 0xB7 || c = 0x375 || c = 0x5F3 || c = 0x5F4 || c = 0x30FB || (0x660 ≤ c && c ≤ 0x669) ||
    (0x6F0 ≤ c && c ≤ 0x6F9)

/-- A code point that depends on its context may stand between these code points of a label. -/
def contextFits (c : Nat) (before after label : List Nat) : Bool :=
  if c = 0xB7 then before.head? == some 0x6C && after.head? == some 0x6C
  else if c = 0x375 then (after.head?.map greek.contains).getD false
  else if c = 0x30FB then label.any fun d => d != 0x30FB && japanese.contains d
  else if c ≤ 0x5F4 then (before.head?.map hebrew.contains).getD false
  else if c ≤ 0x669 then label.all fun d => !(0x6F0 ≤ d && d ≤ 0x6F9)
  else label.all fun d => !(0x660 ≤ d && d ≤ 0x669)

/-- Every code point of a label may stand where it stands.  `before` holds those already passed,
the nearest first. -/
def checkPoints (label : List Nat) (before : List Nat) : List Nat → Except Fault Unit
  | [] => .ok ()
  | c :: rest =>
    if isValid c then checkPoints label (c :: before) rest
    else if c = 0x200C || c = 0x200D then
      match joinerFits? c before rest with
      | some true => checkPoints label (c :: before) rest
      | some false => .error (.joiner c before.length label)
      | none => .error (.joinerNeighbour c before.length label)
    else if isContextual c then
      if contextFits c before rest label then checkPoints label (c :: before) rest
      else .error (.context c before.length label)
    else .error (.character c before.length label)

/-- The characters of a right-to-left label from the place `place` on.  `ends` says whether the
label may end here, `numbers` which kind of digits it has. -/
def checkRight (place : Nat) (ends : Bool) (numbers : Option Direction) :
    List Direction → Except Fault Unit
  | [] => if ends then .ok () else .error .directionLast
  | d :: rest =>
    if d = .left then .error (.directionRight place)
    else
      let ends :=
        match d with
        | .right | .arabicLetter | .europeanNumber | .arabicNumber => true
        | .nonspacing => ends
        | _ => false
      if d = .arabicNumber ∨ d = .europeanNumber then
        match numbers with
        | none => checkRight (place + 1) ends (some d) rest
        | some kind =>
          if kind = d then checkRight (place + 1) ends numbers rest else .error .mixedNumbers
      else checkRight (place + 1) ends numbers rest

/-- The characters of a left-to-right label from the place `place` on. -/
def checkLeft (place : Nat) (ends : Bool) : List Direction → Except Fault Unit
  | [] => if ends then .ok () else .error .directionLast
  | d :: rest =>
    match d with
    | .right | .arabicLetter | .arabicNumber => .error (.directionLeft place)
    | .left | .europeanNumber => checkLeft (place + 1) true rest
    | .nonspacing => checkLeft (place + 1) ends rest
    | _ => checkLeft (place + 1) false rest

/-- The directions of writing in a label agree, if any part is written from right to left. -/
def checkDirections (label : List Nat) : Except Fault Unit :=
  match label.findIdx? recent.contains with
  | some place => .error (.directionUnknown place label)
  | none =>
    let directions := label.map direction
    if directions.any fun d => d = .right || d = .arabicLetter || d = .arabicNumber then
      match directions with
      | .right :: _ | .arabicLetter :: _ => checkRight 0 false none directions
      | .left :: _ => checkLeft 0 false directions
      | _ => .error (.directionFirst label)
    else .ok ()

/-- The hyphen, which may stand only between other characters. -/
def hyphen : Nat := 0x2D

/-- The rules for a label. -/
def checkLabel (label : List Nat) : Except Fault Unit := do
  if label.isEmpty then throw .labelEmpty
  if maxName true < label.length then throw .labelTooLong
  if !Normal.isComposed label then throw .notComposed
  if (label.drop 2).take 2 == [hyphen, hyphen] then throw .hyphensInside
  if label.head? == some hyphen || label.getLast? == some hyphen then throw .hyphenAtEnd
  if (label.head?.map marks.contains).getD false then throw .markFirst
  checkPoints label [] label
  checkDirections label

/-- How an ASCII form begins. -/
def asciiMark : Text := ['x', 'n', '-', '-']

/-- The label that an ASCII label stands for, of which it must be the ASCII form.  Code points that
pass the rules are characters. -/
def toUnicode (label : Text) : Except Fault Text := do
  let label := Text.lowerAscii label
  match Text.dropStart? asciiMark label with
  | none =>
    checkLabel (label.map Char.toNat)
    pure label
  | some body =>
    if body.isEmpty then throw .asciiFormEmpty
    if body.getLast? == some '-' then throw .asciiFormHyphen
    match Punycode.decode? body with
    | none => throw .asciiFormMalformed
    | some points =>
      checkLabel points
      let meant := points.map Char.ofNat
      if Punycode.encode meant != body then throw .asciiFormIndirect
      pure meant

/-- The ASCII form of a label.  A label of ASCII characters is its own form. -/
def toAscii (label : Text) : Except Fault Text := do
  let ascii ←
    if Text.isAscii label then do
      discard (toUnicode label)
      pure label
    else do
      checkLabel (label.map Char.toNat)
      pure (asciiMark ++ Punycode.encode label)
  if maxLabel < ascii.length then throw .labelTooLong
  pure ascii

end Idna
end InjectingProxy
