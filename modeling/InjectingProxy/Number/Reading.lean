import InjectingProxy.Text.Digit

/-!
# Reading numbers

Settings and options hold numbers as text.  Blanks may stand around a number, its digits may be
those of any script, and a single underscore may stand between two digits.

## What is here

* `Whole.read`: a whole number with an optional sign, of at most 4300 digits.
* `Decimal.read?`: a decimal with an optional fraction and exponent, an infinity or not-a-number.
-/

set_option autoImplicit false

namespace InjectingProxy
namespace Whole

/-- The longest whole number that is read. -/
def maxDigits : Nat := 4300

/-- Why a text is read as no whole number. -/
inductive Fault where
  | malformed
  | tooLong (digits : Nat)
  deriving DecidableEq, Repr

/-- Digits with single underscores between them: the values of the digits and what follows.  There
is no answer if two underscores meet or the last character taken is an underscore. -/
def digitRun : Text → Option (List Nat × Text)
  | [] => some ([], [])
  | c :: rest =>
    match digitValue? c with
    | some d => (digitRun rest).map fun (ds, more) => (d :: ds, more)
    | none =>
      if c = '_' then
        match rest with
        | next :: _ =>
          match digitValue? next with
          | some _ => digitRun rest
          | none => none
        | [] => none
      else some ([], c :: rest)

/-- A sign, true for a minus, and what follows it. -/
def sign : Text → Bool × Text
  | '-' :: rest => (true, rest)
  | '+' :: rest => (false, rest)
  | t => (false, t)

/-- The whole number that a text writes. -/
def read (t : Text) : Except Fault Int :=
  let (negative, body) := sign (t.dropWhile isWhite)
  match body with
  | '_' :: _ => .error .malformed
  | _ =>
    match digitRun body with
    | none => .error .malformed
    | some ([], _) => .error .malformed
    | some (ds, rest) =>
      if maxDigits < ds.length then .error (.tooLong ds.length)
      else if rest.all isWhite then
        let n : Int := decimalNumber ds
        .ok (if negative then -n else n)
      else .error .malformed

end Whole

namespace Decimal

/-- The floating-point number nearest to `m * 10 ^ e`.  Exponents beyond all numbers are settled
first, so that the power is never large. -/
def nearest (m : Nat) (digits : Nat) (e : Int) : Float :=
  if m = 0 then 0
  else if 400 < e + digits then 1.0 / 0.0
  else if e + digits < -400 then 0
  else if 0 ≤ e then Float.ofScientific m false e.toNat
  else Float.ofScientific m true (-e).toNat

/-- The values of leading digits 0 to 9, and what follows. -/
def digits : Text → List Nat × Text
  | [] => ([], [])
  | c :: rest =>
    if c.isDigit then
      let (ds, more) := digits rest
      ((c.toNat - 48) :: ds, more)
    else ([], c :: rest)

/-- An exponent that ends the text, if the text is not empty. -/
def exponent? : Text → Option Int
  | [] => some 0
  | c :: rest =>
    if c = 'e' || c = 'E' then
      let (negative, body) := Whole.sign rest
      match digits body with
      | ([], _) => none
      | (ds, []) =>
        let n : Int := decimalNumber ds
        some (if negative then -n else n)
      | _ => none
    else none

/-- A decimal without a sign: digits, a point and more digits, of which one part may be missing,
and an exponent. -/
def unsigned? (t : Text) : Option Float :=
  let (whole, afterWhole) := digits t
  let (fraction, rest) :=
    match afterWhole with
    | '.' :: more => digits more
    | _ => ([], afterWhole)
  if whole.isEmpty && fraction.isEmpty then none
  else
    (exponent? rest).map fun e =>
      let ds := (whole ++ fraction).dropWhile (· == 0)
      nearest (decimalNumber ds) ds.length (e - fraction.length)

/-- The number that a text without blanks and underscores writes. -/
def plain? (t : Text) : Option Float :=
  let (negative, body) := Whole.sign t
  let word := String.ofList (Text.lowerAscii body)
  let size :=
    if word == "inf" || word == "infinity" then some (1.0 / 0.0)
    else if word == "nan" then some (0.0 / 0.0)
    else unsigned? body
  size.map fun x => if negative then -x else x

/-- The text without the underscores that stand between two digits 0 to 9; no answer if another
underscore is in it. -/
def dropUnderscores : (afterDigit : Bool) → Text → Option Text
  | _, [] => some []
  | afterDigit, c :: rest =>
    if c = '_' then
      match rest with
      | next :: _ => if afterDigit && next.isDigit then dropUnderscores false rest else none
      | [] => none
    else (dropUnderscores c.isDigit rest).map (c :: ·)

/-- Digits of all scripts as digits 0 to 9. -/
def plainDigits (t : Text) : Text :=
  t.map fun c =>
    match digitValue? c with
    | some d => Char.ofNat (48 + d)
    | none => c

/-- The number that a text writes. -/
def read? (t : Text) : Option Float :=
  (dropUnderscores false (plainDigits (Text.trim isWhite t))).bind plain?

end Decimal
end InjectingProxy
