/-!
# What a floating-point number is

A finite number is a whole number times a power of two.  `Binary.ofFloat` takes it apart, so that
text can be made from it by exact arithmetic.
-/

set_option autoImplicit false

namespace InjectingProxy

/-- A floating-point number: `finite negative m q` is `m * 2 ^ q`, with a minus sign if `negative`
holds. -/
inductive Binary where
  | nan
  | infinite (negative : Bool)
  | finite (negative : Bool) (m : Nat) (q : Int)
  deriving DecidableEq, Repr

/-- A power of two. -/
def pow2 (n : Nat) : Nat := Nat.pow 2 n

/-- A power of ten. -/
def pow10 (n : Nat) : Nat := Nat.pow 10 n

namespace Binary

/-- The number that 64 bits stand for. -/
def ofBits (bits : UInt64) : Binary :=
  let n := bits.toNat
  let negative := n / pow2 63 = 1
  let exponent : Nat := n / pow2 52 % pow2 11
  let fraction := n % pow2 52
  if exponent = 2047 then if fraction = 0 then .infinite negative else .nan
  else if exponent = 0 then .finite negative fraction (-1074)
  else .finite negative (pow2 52 + fraction) ((exponent : Int) - 1075)

/-- Take a floating-point number apart. -/
def ofFloat (x : Float) : Binary := ofBits x.toBits

end Binary

/-- The floating-point number nearest to a whole number; none if that lies beyond the largest. -/
def floatOfInt? (n : Int) : Option Float :=
  let x := Float.ofNat n.natAbs
  if x.isInf then none else some (if n < 0 then -x else x)

/-- The whole number that a finite floating-point number without a fraction stands for. -/
def intOfFloat? (x : Float) : Option Int :=
  match Binary.ofFloat x with
  | .finite negative m q =>
    let size : Option Nat :=
      if 0 ≤ q then some (m * pow2 q.toNat)
      else if m % pow2 (-q).toNat = 0 then some (m / pow2 (-q).toNat)
      else none
    size.map fun n => if negative then -(n : Int) else n
  | _ => none

end InjectingProxy
