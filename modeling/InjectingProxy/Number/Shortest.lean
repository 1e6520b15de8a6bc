import InjectingProxy.Number.Binary

/-!
# The fewest digits that read back

A floating-point number is written with the fewest decimal digits that are nearer to it than to
any other such number; of several texts of that length, the nearest.  Between 0.0001 and 10 ^ 16
the text is positional and has a fraction, outside it has an exponent.

The digits are found by exact arithmetic: the numbers that round to `m * 2 ^ q` form an interval,
and a decimal grid of `n` digits has a point in it exactly if one of the two grid points around
the number lies in it.
-/

set_option autoImplicit false

namespace InjectingProxy
namespace Shortest

/-- Decimal digits, the most significant first, and the place of the point: the number is
`0.d₁d₂… * 10 ^ point`. -/
structure Digits where
  digits : List Char
  point : Int

/-- Numbers in quarters of a unit in the last place: the number itself, the ends of the interval
of numbers that round to it, and whether the ends belong to the interval.  The unit is
`2 ^ (q - 2)`. -/
structure Interval where
  value : Nat
  low : Nat
  high : Nat
  closed : Bool
  exponent : Int

/-- The interval of the numbers that round to `m * 2 ^ q`.  Below a power of two the neighbour is
nearer. -/
def Interval.of (m : Nat) (q : Int) : Interval where
  value := 4 * m
  low := 4 * m - (if m = pow2 52 ∧ -1074 < q then 1 else 2)
  high := 4 * m + 2
  closed := m % 2 = 0
  exponent := q - 2

/-- The quotient `n * 2 ^ e * 10 ^ d` as numerator and denominator. -/
def ratio (n : Nat) (e d : Int) : Nat × Nat :=
  (n * pow2 e.toNat * pow10 d.toNat, pow2 (-e).toNat * pow10 (-d).toNat)

/-- Of `fuel` places below the point, count those at which the quotient is still below a tenth. -/
def leadingZeros : (fuel : Nat) → (num den : Nat) → Nat
  | 0, _, _ => 0
  | fuel + 1, num, den => if 10 * num < den then leadingZeros fuel (10 * num) den + 1 else 0

/-- The place of the point of a positive quotient. -/
def pointOf (num den : Nat) : Int :=
  if den ≤ num then ((Nat.toDigits 10 (num / den)).length : Int)
  else -(leadingZeros 400 num den : Int)

/-- The point of the grid with `n` digits that lies in the interval and nearest to its value; an
exact tie goes to the even one. -/
def onGrid? (iv : Interval) (point : Int) (n : Nat) : Option Nat :=
  let scaled (x : Nat) : Nat × Nat := ratio x iv.exponent (n - point)
  let (num, den) := scaled iv.value
  let below := num / den
  let inside (c : Nat) : Bool :=
    let low := (scaled iv.low).1
    let high := (scaled iv.high).1
    if iv.closed then low ≤ c * den && c * den ≤ high else low < c * den && c * den < high
  match inside below, inside (below + 1) with
  | true, true =>
    let left := num - below * den
    let right := (below + 1) * den - num
    some (if left < right || (left == right && below % 2 == 0) then below else below + 1)
  | true, false => some below
  | false, true => some (below + 1)
  | false, false => none

/-- The shortest digits of the positive number `m * 2 ^ q`. -/
def digits (m : Nat) (q : Int) : Digits :=
  let iv := Interval.of m q
  let (num, den) := ratio iv.value iv.exponent 0
  let point := pointOf num den
  let lengths := (List.range 17).map (· + 1)
  match lengths.findSome? fun n => (onGrid? iv point n).map fun c => (n, c) with
  | some (n, c) =>
    let text := Nat.toDigits 10 c
    { digits := ((text.reverse.dropWhile (· == '0')).reverse),
      point := if n < text.length then point + 1 else point }
  | none => { digits := ['0'], point := 1 }

/-- An exponent with its sign, in two digits at least. -/
def exponentText (e : Int) : List Char :=
  let size := Nat.toDigits 10 e.natAbs
  (if e < 0 then '-' else '+') :: (List.replicate (2 - size.length) '0' ++ size)

/-- Digits with their point: positional from 0.0001 up to 10 ^ 16, else with an exponent. -/
def Digits.layout (d : Digits) : List Char :=
  let count : Int := d.digits.length
  if -3 ≤ d.point ∧ d.point ≤ 16 then
    if d.point ≤ 0 then ['0', '.'] ++ List.replicate (-d.point).toNat '0' ++ d.digits
    else if count ≤ d.point then
      d.digits ++ List.replicate (d.point - count).toNat '0' ++ ['.', '0']
    else d.digits.take d.point.toNat ++ '.' :: d.digits.drop d.point.toNat
  else
    let mantissa :=
      match d.digits with
      | first :: second :: more => first :: '.' :: second :: more
      | few => few
    mantissa ++ 'e' :: exponentText (d.point - 1)

end Shortest

/-- The shortest text of a floating-point number. -/
def shortest (x : Float) : String :=
  match Binary.ofFloat x with
  | .nan => "nan"
  | .infinite negative => if negative then "-inf" else "inf"
  | .finite negative m q =>
    let body := if m = 0 then ['0', '.', '0'] else (Shortest.digits m q).layout
    String.ofList (if negative then '-' :: body else body)

end InjectingProxy
