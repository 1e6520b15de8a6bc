import InjectingProxy.Text.Charset

/-!
# Bytes as text, one character each

Header values hold characters below U+0100, one byte each.  Every byte stands for a character.
-/

set_option autoImplicit false

namespace InjectingProxy
namespace Latin

/-- The character of each byte. -/
def decode (bs : Bytes) : Text := bs.map fun b => Char.ofNat b.toNat

/-- The characters of the bytes below 128; the others are left out. -/
def decodeAscii (bs : Bytes) : Text := decode (bs.filter (· < 128))

end Latin
end InjectingProxy
