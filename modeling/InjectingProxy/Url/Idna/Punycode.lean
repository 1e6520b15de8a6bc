import InjectingProxy.Text.Basic

/-!
# Punycode

A label with characters beyond ASCII travels as its ASCII characters, a hyphen, and a row of
numbers with digits `a` to `z` and `0` to `9` that say where the other characters go.

## What is here

* `Punycode.encode`: the ASCII form of a label.
* `Punycode.decode?`: the code points of the label of an ASCII form.
-/

set_option autoImplicit false

namespace InjectingProxy
namespace Punycode

/-- The letter or figure for a digit below 36. -/
def digitChar (d : Nat) : Char := if d < 26 then Char.ofNat (97 + d) else Char.ofNat (22 + d)

/-- The digit that a letter or figure stands for. -/
def digitValue? (c : Char) : Option Nat :=
  if c.isDigit then some (c.toNat - 22)
  else if 'a' ≤ c && c ≤ 'z' then some (c.toNat - 97)
  else if 'A' ≤ c && c ≤ 'Z' then some (c.toNat - 65)
  else none

/-- The digit at which a number may end, at the place `j` for a given bias. -/
def threshold (j bias : Nat) : Nat := min 26 (max 1 (36 * (j + 1) - bias))

/-- Divide by 35 until the number is small, counting 36 for each time. -/
def settle : (fuel : Nat) → (delta k : Nat) → Nat × Nat
  | 0, delta, k => (delta, k)
  | fuel + 1, delta, k => if 455 < delta then settle fuel (delta / 35) (k + 36) else (delta, k)

/-- The bias after a number: `first` says whether it was the first, `count` how many characters
there are now. -/
def adapt (delta : Nat) (first : Bool) (count : Nat) : Nat :=
  let delta := if first then delta / 700 else delta / 2
  let (delta, k) := settle 64 (delta + delta / count) 0
  k + 36 * delta / (delta + 38)

/-- The digits of a number, from the place `j` on. -/
def number : (fuel : Nat) → (n j bias : Nat) → Text
  | 0, _, _, _ => []
  | fuel + 1, n, j, bias =>
    let t := threshold j bias
    if n < t then [digitChar n]
    else digitChar (t + (n - t) % (36 - t)) :: number fuel ((n - t) / (36 - t)) (j + 1) bias

/-- The smallest code point of a text that is at least `least`. -/
def nextPoint? (least : Nat) (t : Text) : Option Nat :=
  ((t.map Char.toNat).filter (least ≤ ·)).min?

/-- What the encoder carries from one character to the next: how many steps since the last
number, the bias, how many characters are placed, and whether no number has been written. -/
structure Progress where
  delta : Nat
  bias : Nat
  placed : Nat
  first : Bool

/-- Write the numbers for all occurrences of the code point `point`. -/
def writePoint (point : Nat) (p : Progress) : Text → Text × Progress
  | [] => ([], p)
  | c :: rest =>
    if c.toNat < point then writePoint point { p with delta := p.delta + 1 } rest
    else if c.toNat = point then
      let digits := number 64 p.delta 0 p.bias
      let next : Progress :=
        { delta := 0, bias := adapt p.delta p.first (p.placed + 1), placed := p.placed + 1,
          first := false }
      let (more, last) := writePoint point next rest
      (digits ++ more, last)
    else writePoint point p rest

/-- Write the numbers for the code points from `least` on, each in turn. -/
def writeFrom (t : Text) : (fuel : Nat) → (least : Nat) → Progress → Text
  | 0, _, _ => []
  | fuel + 1, least, p =>
    match nextPoint? least t with
    | none => []
    | some point =>
      let steps := (point - least) * (p.placed + 1)
      let (digits, next) := writePoint point { p with delta := p.delta + steps } t
      digits ++ writeFrom t fuel (point + 1) { next with delta := next.delta + 1 }

/-- The ASCII form of a label. -/
def encode (t : Text) : Text :=
  let plain := t.filter fun c => c.toNat < 128
  let numbers := writeFrom t (t.length + 1) 128
    { delta := 0, bias := 72, placed := plain.length, first := true }
  if plain.isEmpty then numbers else plain ++ '-' :: numbers

/-- Read a number: its value and the digits after it. -/
def readNumber : (digits : List Nat) → (j bias weight sum : Nat) → Option (Nat × List Nat)
  | [], _, _, _, _ => none
  | d :: rest, j, bias, weight, sum =>
    let t := threshold j bias
    let sum := sum + d * weight
    if d < t then some (sum, rest) else readNumber rest (j + 1) bias (weight * (36 - t)) sum

/-- Place the code points that numbers stand for.  Each number takes at least one digit, so as many
rounds as there are digits are enough. -/
def place :
    (fuel : Nat) → (digits : List Nat) → (position point bias : Nat) → (first : Bool) →
      List Nat → Option (List Nat)
  | 0, _, _, _, _, _, t => some t
  | fuel + 1, digits, position, point, bias, first, t =>
    if digits.isEmpty then some t
    else
      match readNumber digits 0 bias 1 0 with
      | none => none
      | some (delta, rest) =>
        let room := t.length + 1
        let point := point + (position + delta) / room
        let position := (position + delta) % room
        if point < 0x110000 then
          place fuel rest (position + 1) point (adapt delta first room) false
            (t.take position ++ point :: t.drop position)
        else none

/-- The code points of the label of an ASCII form, which need not be characters. -/
def decode? (t : Text) : Option (List Nat) :=
  let (plain, numbers) :=
    match Text.cut (· == '-') t.reverse with
    | (tail, some before) => (before.reverse, tail.reverse)
    | (_, none) => ([], t)
  match numbers.mapM digitValue? with
  | some digits =>
    if Text.isAscii plain then place digits.length digits 0 128 72 true (plain.map Char.toNat)
    else none
  | none => none

end Punycode
end InjectingProxy
