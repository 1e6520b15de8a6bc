/-!
# Codes with lengths

In compressed data a symbol is a run of bits, and a code is given by the length of each symbol's
run alone: runs of one length follow each other in the order of the symbols, after the shorter
ones.

A code must use up all runs of bits.  The exceptions are a code without any symbol and, where a
caller admits it, a code with one symbol of one bit; both leave runs of one bit without a meaning.
-/

set_option autoImplicit false

namespace InjectingProxy
namespace Coding

/-- The weight of a bit. -/
def weight (bit : Nat) : Nat := Nat.pow 2 bit

/-- A code for symbols. -/
inductive Code where
  /-- No symbol: every bit is without a meaning. -/
  | empty
  /-- One symbol, for the bit 0. -/
  | single (symbol : Nat)
  /-- Every run of bits has a meaning.  `counts` says how many symbols have each length from one
  bit on, and `symbols` lists them by length. -/
  | full (counts : List Nat) (symbols : Array Nat)

namespace Code

/-- The longest run of bits for a symbol. -/
def maxLength : Nat := 15

/-- How many symbols have each length, from one bit on. -/
def countsOf (lengths : List Nat) : List Nat :=
  (List.range maxLength).map fun i => lengths.count (i + 1)

/-- The symbols of a length. -/
def symbolsOf (lengths : List Nat) (n : Nat) : List Nat :=
  lengths.zipIdx.filterMap fun (l, symbol) => if l = n then some symbol else none

/-- How many runs of the greatest length are left over, given the counts; no answer if the
symbols need more runs than there are. -/
def leftOver (left : Nat) : List Nat → Option Nat
  | [] => some left
  | count :: rest => if 2 * left < count then none else leftOver (2 * left - count) rest

/-- The code in which each symbol has the given length, 0 for symbols that do not occur. -/
def ofLengths (oneBitSuffices : Bool) (lengths : List Nat) : Option Code :=
  let counts := countsOf lengths
  match leftOver 1 counts with
  | none => none
  | some left =>
    let bySize := (List.range maxLength).flatMap fun i => symbolsOf lengths (i + 1)
    if bySize.isEmpty then some .empty
    else if left = 0 then some (.full counts bySize.toArray)
    else
      match bySize, counts.head? with
      | [symbol], some 1 => if oneBitSuffices then some (.single symbol) else none
      | _, _ => none

end Code
end Coding
end InjectingProxy
