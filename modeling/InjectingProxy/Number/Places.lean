import InjectingProxy.Number.Binary

/-!
# A fixed number of places

A floating-point number is rounded to the nearest decimal with the given number of places; a
number half-way between two goes to the one whose last digit is even.
-/

set_option autoImplicit false

namespace InjectingProxy

/-- The quotient rounded to the nearest whole number, a half to the even neighbour. -/
def roundDiv (num den : Nat) : Nat :=
  let below := num / den
  let rest := num % den
  if 2 * rest < den then below
  else if den < 2 * rest then below + 1
  else if below % 2 = 0 then below else below + 1

/-- The text of a floating-point number with so many places. -/
def fixedPlaces (places : Nat) (x : Float) : String :=
  match Binary.ofFloat x with
  | .nan => "nan"
  | .infinite negative => if negative then "-inf" else "inf"
  | .finite negative m q =>
    let n := roundDiv (m * pow2 q.toNat * pow10 places) (pow2 (-q).toNat)
    let whole := toString (n / pow10 places)
    let rest := Nat.toDigits 10 (n % pow10 places)
    let fraction := String.ofList (List.replicate (places - rest.length) '0' ++ rest)
    (if negative then "-" else "") ++ whole ++ (if places = 0 then "" else "." ++ fraction)

end InjectingProxy
