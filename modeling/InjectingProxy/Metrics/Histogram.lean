/-!
# Histograms

A histogram sorts amounts into buckets by their upper bounds and keeps their sum.  The number type
is a parameter: amounts are seconds as floating-point numbers when the proxy runs, and exact
numbers where laws about sums and orders are wanted.

## What is here

* `Bound`: the upper bound of a bucket, the last of which admits every amount.
* `Histogram`, `Histogram.observe`: buckets with counts, and an amount put into its bucket.
* `Histogram.cumulative`: how many amounts lie at or below each bound.
-/

set_option autoImplicit false

namespace InjectingProxy

variable {τ : Type}

/-- The upper bound of a bucket. -/
inductive Bound (τ : Type) where
  | upTo (limit : τ)
  | unbounded
  deriving Repr

/-- The amount lies at or below the bound.  An amount that is no number lies below none. -/
def Bound.admits [LE τ] [DecidableLE τ] : Bound τ → τ → Bool
  | .upTo limit, amount => amount ≤ limit
  | .unbounded, amount => amount ≤ amount

/-- Buckets in the order of their bounds, each with the number of amounts that went into it, and the
sum of all amounts. -/
structure Histogram (τ : Type) where
  buckets : List (Bound τ × Nat)
  sum : τ
  deriving Repr

namespace Histogram

/-- The empty histogram with these bounds, and a bucket for all that lies above them. -/
def empty [OfNat τ 0] (limits : List τ) : Histogram τ where
  buckets := (limits.map Bound.upTo ++ [Bound.unbounded]).map fun b => (b, 0)
  sum := 0

/-- Count an amount in the first bucket that admits it. -/
def place [LE τ] [DecidableLE τ] (amount : τ) : List (Bound τ × Nat) → List (Bound τ × Nat)
  | [] => []
  | (bound, count) :: rest =>
    if bound.admits amount then (bound, count + 1) :: rest
    else (bound, count) :: place amount rest

/-- Put an amount into its bucket. -/
def observe [Add τ] [LE τ] [DecidableLE τ] (h : Histogram τ) (amount : τ) : Histogram τ where
  buckets := place amount h.buckets
  sum := h.sum + amount

/-- The counts of buckets, each with those before it, of which there are `before`. -/
def runningTotals (before : Nat) : List (Bound τ × Nat) → List (Bound τ × Nat)
  | [] => []
  | (bound, count) :: rest => (bound, before + count) :: runningTotals (before + count) rest

/-- How many amounts lie at or below each bound. -/
def cumulative (h : Histogram τ) : List (Bound τ × Nat) := runningTotals 0 h.buckets

/-- How many amounts have been counted. -/
def count (h : Histogram τ) : Nat := (h.buckets.map Prod.snd).foldl Nat.add 0

end Histogram
end InjectingProxy
