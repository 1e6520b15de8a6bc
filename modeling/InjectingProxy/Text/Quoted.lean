import InjectingProxy.Text.Printable

/-!
# Quoted text

A message shows a text between quotes: single ones, or double ones when the text holds a single
quote and no double one.  The backslash, the quote in use and what has no visible form are
escaped, so that the text can be read back.
-/

set_option autoImplicit false

namespace InjectingProxy
namespace Quoted

/-- A number in hexadecimal with small letters, in a given least width. -/
def hexadecimal (width n : Nat) : String :=
  let digits := Nat.toDigits 16 n
  String.ofList (List.replicate (width - digits.length) '0' ++ digits)

/-- The escape of a code point by its number, in the shortest of three widths. -/
def escapeNumber (n : Nat) : String :=
  if n < 0x100 then "\\x" ++ hexadecimal 2 n
  else if n < 0x10000 then "\\u" ++ hexadecimal 4 n
  else "\\U" ++ hexadecimal 8 n

/-- The quote that stands around a text. -/
def quoteFor (t : Text) : Char := if t.contains '\'' && !t.contains '"' then '"' else '\''

/-- A character inside quotes. -/
def escapeChar (quote c : Char) : Text :=
  if c = quote || c = '\\' then ['\\', c]
  else if c = '\n' then ['\\', 'n']
  else if c = '\r' then ['\\', 'r']
  else if c = '\t' then ['\\', 't']
  else if isPrintable c then [c]
  else (escapeNumber c.toNat).toList

/-- A text between quotes. -/
def encode (t : Text) : Text := quoteFor t :: t.flatMap (escapeChar (quoteFor t)) ++ [quoteFor t]

/-- Numbers of characters between quotes, where numbers of no character are escaped. -/
def encodePoints (points : List Nat) : Text :=
  let isChar (n : Nat) : Bool := n.isValidChar
  let quote := quoteFor ((points.filter isChar).map Char.ofNat)
  quote :: points.flatMap (fun n =>
    if isChar n then escapeChar quote (Char.ofNat n) else (escapeNumber n).toList) ++ [quote]

end Quoted

/-- A text between quotes, as a string. -/
def Text.quoted (t : Text) : String := String.ofList (Quoted.encode t)

/-- A string between quotes. -/
def quoted (s : String) : String := Text.quoted s.toList

end InjectingProxy
