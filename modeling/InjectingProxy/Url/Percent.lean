import InjectingProxy.Text.Table
import InjectingProxy.Text.Utf8

/-!
# Percent encoding

A part of an address holds printable ASCII characters only.  Any other character, and those that
would end the part, are written as their bytes, each as `%` and two hexadecimal digits.  The
percent sign itself is kept wherever an address is given as text, so that what is encoded already
is not encoded again.

## What is here

* `Percent.encode`: encode the characters that are not safe.
* `Percent.unescape`, `Percent.decode`: the bytes and the text that an encoded part stands for.
* The safe characters of each part of an address.
-/

set_option autoImplicit false

namespace InjectingProxy
namespace Percent

/-- A hexadecimal digit with a capital letter. -/
def hexDigit (n : Nat) : Char := if n < 10 then Char.ofNat (48 + n) else Char.ofNat (55 + n)

/-- A byte as `%` and two digits. -/
def escapeByte (b : UInt8) : Text := ['%', hexDigit (b.toNat / 16), hexDigit (b.toNat % 16)]

/-- A character as its bytes in UTF-8. -/
def escapeChar (c : Char) : Text := (Utf8.encodeChar c).flatMap escapeByte

/-- A text with its unsafe characters escaped. -/
def encode (safe : Char → Bool) (t : Text) : Text :=
  t.flatMap fun c => if safe c then [c] else escapeChar c

/-- The value of a byte as a hexadecimal digit. -/
def byteValue? (b : UInt8) : Option Nat := hexValue? (Char.ofNat b.toNat)

/-- The byte that begins an escape. -/
def mark : UInt8 := 0x25

/-- Bytes whose escapes are undone.  A percent sign without two hexadecimal digits after it stands
for itself. -/
def unescape : Bytes → Bytes
  | [] => []
  | [a] => [a]
  | [a, b] => [a, b]
  | a :: b :: c :: rest =>
    match a == mark, byteValue? b, byteValue? c with
    | true, some high, some low => UInt8.ofNat (16 * high + low) :: unescape rest
    | _, _, _ => a :: unescape (b :: c :: rest)

/-- The text of an encoded part; bytes that are no text become U+FFFD. -/
def decode (t : Text) : Text := Utf8.decodeLossy (unescape (Utf8.encode t))

/-- The visible ASCII characters and the blank. -/
def isPrintableAscii (c : Char) : Bool := 0x20 ≤ c.toNat && c.toNat ≤ 0x7E

/-- Letters, digits and four marks, which are never escaped. -/
def isUnreserved (c : Char) : Bool := c.isAlphanum || "-._~".toList.contains c

/-- The safe characters of a path. -/
def pathSafe (c : Char) : Bool := isPrintableAscii c && !" \"#<>?`\x7b\x7d".toList.contains c

/-- The safe characters of a query. -/
def querySafe (c : Char) : Bool := isPrintableAscii c && !" \"#<>".toList.contains c

/-- The safe characters of a fragment. -/
def fragmentSafe (c : Char) : Bool := isPrintableAscii c && !" \"<>`".toList.contains c

/-- The safe characters of user name and password. -/
def userinfoSafe (c : Char) : Bool :=
  isPrintableAscii c && !" \"#<>?`\x7b\x7d/;=@[\\]^|".toList.contains c

/-- The safe characters of a host name in ASCII. -/
def hostSafe (c : Char) : Bool :=
  isUnreserved c || "!$&'()*+,;=\"`\x7b\x7d%|\\".toList.contains c

end Percent
end InjectingProxy
