import InjectingProxy.Text.Basic

/-!
# Tables of code points

A property of characters is given by ranges of code points, and a mapping by ranges with
numbers.  Both are written as text, hexadecimal and in rising order, and read once.

## What is here

* `Ranges`: a set of code points; `41-5a 61-7a` are the letters of the Latin alphabet.
* `Mapping`: a list of numbers for each of some ranges; `e9:65,301` takes one point to two.
-/

set_option autoImplicit false

namespace InjectingProxy

/-- The value of a hexadecimal digit. -/
def hexValue? (c : Char) : Option Nat :=
  if '0' ≤ c && c ≤ '9' then some (c.toNat - 48)
  else if 'a' ≤ c && c ≤ 'f' then some (c.toNat - 87)
  else if 'A' ≤ c && c ≤ 'F' then some (c.toNat - 55)
  else none

/-- The number that hexadecimal digits write. -/
def hexNumber (t : Text) : Nat := t.foldl (fun n c => 16 * n + (hexValue? c).getD 0) 0

/-- A range: two numbers with a hyphen between them, or one number that is first and last. -/
def readRange (t : Text) : Nat × Nat :=
  let (first, last) := Text.cut (· == '-') t
  (hexNumber first, hexNumber (last.getD first))

/-- A binary search: the last of the places from `low` up to `high` whose key is at most `key`,
where `keyAt` rises with the place. -/
def lastAtMost (keyAt : Nat → Nat) (key : Nat) (low high : Nat) : Nat :=
  if h : low + 1 < high then
    let middle := (low + high) / 2
    if keyAt middle ≤ key then lastAtMost keyAt key middle high
    else lastAtMost keyAt key low middle
  else low
termination_by high - low

/-- A set of code points, as ranges in rising order. -/
structure Ranges where
  bounds : Array (Nat × Nat)

namespace Ranges

/-- The set that lines of text describe, with a range or a single code point between blanks. -/
def ofLines (lines : List String) : Ranges where
  bounds := ((lines.flatMap fun s => Text.pieces (· == ' ') s.toList).map readRange).toArray

/-- The range that begins last at or before a number. -/
def nearest? (r : Ranges) (n : Nat) : Option (Nat × Nat) :=
  r.bounds[lastAtMost (fun i => (r.bounds[i]?.getD (0, 0)).1) n 0 r.bounds.size]?

/-- The number lies in one of the ranges. -/
def contains (r : Ranges) (n : Nat) : Bool :=
  match r.nearest? n with
  | some (first, last) => first ≤ n && n ≤ last
  | none => false

end Ranges

/-- Numbers for ranges of code points in rising order: the first and last point of a range, and the
numbers for it. -/
structure Mapping where
  entries : Array (Nat × Nat × List Nat)

namespace Mapping

/-- The mapping that lines of text describe, entries between blanks. -/
def ofLines (lines : List String) : Mapping where
  entries := ((lines.flatMap fun s => Text.pieces (· == ' ') s.toList).map fun entry =>
    let (key, values) := Text.cut (· == ':') entry
    let (first, last) := readRange key
    (first, last, (Text.pieces (· == ',') (values.getD [])).map hexNumber)).toArray

/-- The first point of the range that holds a number, and the numbers for the range. -/
def get? (m : Mapping) (n : Nat) : Option (Nat × List Nat) :=
  match m.entries[lastAtMost (fun i => (m.entries[i]?.getD (0, 0, [])).1) n 0 m.entries.size]? with
  | some (first, last, values) => if first ≤ n && n ≤ last then some (first, values) else none
  | none => none

end Mapping
end InjectingProxy
