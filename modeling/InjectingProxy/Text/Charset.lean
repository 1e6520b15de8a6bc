import InjectingProxy.Text.Quoted

/-!
# Characters with one byte each

Some places hold only the first characters there are, one byte each.  A text with other characters
has no form there, and `Charset.encode` names the first run of them.

## What is here

* `Charset`: how many of the first characters there are, with two instances.
* `Charset.encode`: the bytes of a text, or the characters that have none.
-/

set_option autoImplicit false

namespace InjectingProxy

/-- The characters below a number, which have one byte each. -/
structure Charset where
  name : String
  size : Nat
  deriving DecidableEq, Repr

namespace Charset

/-- The characters below 128. -/
def ascii : Charset := ⟨"ascii", 128⟩

/-- The characters below 256. -/
def latin : Charset := ⟨"latin-1", 256⟩

/-- The character has a byte of its own. -/
def fits (s : Charset) (c : Char) : Bool := c.toNat < s.size

/-- The first run of characters without a byte: where it begins, and its characters. -/
structure Fault where
  charset : Charset
  place : Nat
  run : Text
  deriving DecidableEq, Repr

/-- One byte for each character, or the first run of characters that have none. -/
def encode (s : Charset) (t : Text) : Except Fault Bytes :=
  if t.all s.fits then .ok (t.map fun c => UInt8.ofNat c.toNat)
  else .error ⟨s, (t.takeWhile s.fits).length, (t.dropWhile s.fits).takeWhile (!s.fits ·)⟩

/-- What is wrong with a text that has no such form. -/
def Fault.message (f : Fault) : String :=
  let range := ": ordinal not in range(" ++ toString f.charset.size ++ ")"
  "'" ++ f.charset.name ++ "' codec can't encode " ++
    match f.run with
    | [c] =>
      "character '" ++ Quoted.escapeNumber c.toNat ++ "' in position " ++ toString f.place ++ range
    | run =>
      "characters in position " ++ toString f.place ++ "-" ++
        toString (f.place + run.length - 1) ++ range

end Charset
end InjectingProxy
