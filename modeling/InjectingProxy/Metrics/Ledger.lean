import InjectingProxy.Metrics.Histogram
import InjectingProxy.Outcome

/-!
# The ledger of requests

The ledger counts the outcomes of requests, how many requests are in flight, and how long the
finished ones took.

## What is here

* `Ledger`, with `record`, `started` and `finished`.
* `Ledger.total`: how often an outcome was recorded.
* `Entry`, `Ledger.enter`: the three things that are told to a ledger, as values.
-/

set_option autoImplicit false

namespace InjectingProxy

variable {τ : Type}

/-- What is known about the requests so far.  Outcomes stand in the order of their first use. -/
structure Ledger (τ : Type) where
  totals : List (Outcome × Nat)
  inFlight : Int
  latency : Histogram τ
  deriving Repr

namespace Ledger

/-- The ledger before any request. -/
def empty [OfNat τ 0] (limits : List τ) : Ledger τ where
  totals := []
  inFlight := 0
  latency := .empty limits

/-- One more of an outcome; a new one goes to the end. -/
def increment (o : Outcome) : List (Outcome × Nat) → List (Outcome × Nat)
  | [] => [(o, 1)]
  | (p, n) :: rest => if p = o then (p, n + 1) :: rest else (p, n) :: increment o rest

/-- Record an outcome. -/
def record (l : Ledger τ) (o : Outcome) : Ledger τ := { l with totals := increment o l.totals }

/-- Record outcomes one after the other. -/
def recordAll (l : Ledger τ) (os : List Outcome) : Ledger τ := os.foldl record l

/-- A request has begun. -/
def started (l : Ledger τ) : Ledger τ := { l with inFlight := l.inFlight + 1 }

/-- A request is over after some time. -/
def finished [Add τ] [LE τ] [DecidableLE τ] (l : Ledger τ) (elapsed : τ) : Ledger τ :=
  { l with inFlight := l.inFlight - 1, latency := l.latency.observe elapsed }

/-- How often an outcome was recorded. -/
def total (l : Ledger τ) (o : Outcome) : Nat := (l.totals.lookup o).getD 0

/-- Something that is told to the ledger. -/
inductive Entry (τ : Type) where
  | recorded (o : Outcome)
  | started
  | finished (elapsed : τ)

/-- Tell the ledger one thing. -/
def enter [Add τ] [LE τ] [DecidableLE τ] (l : Ledger τ) : Entry τ → Ledger τ
  | .recorded o => l.record o
  | .started => l.started
  | .finished elapsed => l.finished elapsed

end Ledger
end InjectingProxy
