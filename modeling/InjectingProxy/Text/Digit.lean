import InjectingProxy.Text.Table

/-!
# Decimal digits and blanks

Every script's decimal digits stand in runs of ten, zero first, so the value of a digit is its
distance from the start of its range modulo ten.  Blanks are the white-space characters together
with the four separators U+001C to U+001F.
-/

set_option autoImplicit false

namespace InjectingProxy

/-- The decimal digits of all scripts. -/
def decimalDigits : Ranges := .ofLines
  ["30-39 660-669 6f0-6f9 7c0-7c9 966-96f 9e6-9ef a66-a6f ae6-aef b66-b6f be6-bef c66-c6f",
    "ce6-cef d66-d6f de6-def e50-e59 ed0-ed9 f20-f29 1040-1049 1090-1099 17e0-17e9 1810-1819",
    "1946-194f 19d0-19d9 1a80-1a89 1a90-1a99 1b50-1b59 1bb0-1bb9 1c40-1c49 1c50-1c59 a620-a629",
    "a8d0-a8d9 a900-a909 a9d0-a9d9 a9f0-a9f9 aa50-aa59 abf0-abf9 ff10-ff19 104a0-104a9",
    "10d30-10d39 11066-1106f 110f0-110f9 11136-1113f 111d0-111d9 112f0-112f9 11450-11459",
    "114d0-114d9 11650-11659 116c0-116c9 11730-11739 118e0-118e9 11950-11959 11c50-11c59",
    "11d50-11d59 11da0-11da9 16a60-16a69 16ac0-16ac9 16b50-16b59 1d7ce-1d7ff 1e140-1e149",
    "1e2f0-1e2f9 1e950-1e959 1fbf0-1fbf9"]

/-- The value of a decimal digit of any script. -/
def digitValue? (c : Char) : Option Nat :=
  if '0' ≤ c && c ≤ '9' then some (c.toNat - 48)
  else if c.toNat < 128 then none
  else
    match decimalDigits.nearest? c.toNat with
    | some (first, last) =>
      if first ≤ c.toNat && c.toNat ≤ last then some ((c.toNat - first) % 10) else none
    | none => none

/-- The blank characters. -/
def blanks : Ranges := .ofLines
  ["9-d 1c-20 85 a0 1680 2000-200a 2028-2029 202f 205f 3000"]

/-- The character is a blank. -/
def isBlank (c : Char) : Bool := blanks.contains c.toNat

/-- The character is white space; the four separators below the plain space are not. -/
def isWhite (c : Char) : Bool := isBlank c && !(0x1C ≤ c.toNat && c.toNat ≤ 0x1F)

/-- The number that decimal digits write, the most significant first. -/
def decimalNumber (digits : List Nat) : Nat := digits.foldl (fun n d => 10 * n + d) 0

end InjectingProxy
