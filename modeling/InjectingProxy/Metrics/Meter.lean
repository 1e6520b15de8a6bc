import InjectingProxy.Metrics.Ledger

/-!
# Measuring calls

A meter is a ledger with a clock.  It wraps calls: one that serves a request is counted as in
flight while it runs and observed when it is over, however it ends; other calls run as they are.

## What is here

* `Meter`, with `start`, `finish` and `advance`.
* `Call`: a call that takes some time, makes further calls in turn, and returns or fails.
* `Call.run`: what a measured call does.
-/

set_option autoImplicit false

namespace InjectingProxy

variable {τ ε : Type}

/-- A ledger with a clock. -/
structure Meter (τ : Type) where
  ledger : Ledger τ
  now : τ
  deriving Repr

/-- What is told about a request that is over: how long it took, and how many are still in
flight. -/
structure Note (τ : Type) where
  elapsed : τ
  inFlight : Int
  deriving Repr

namespace Meter

/-- A request begins now. -/
def start (m : Meter τ) : Meter τ := { m with ledger := m.ledger.started }

/-- A request is over now that began at a given time. -/
def finish [Add τ] [Sub τ] [LE τ] [DecidableLE τ] (m : Meter τ) (began : τ) :
    Note τ × Meter τ :=
  let elapsed := m.now - began
  let ledger := m.ledger.finished elapsed
  (⟨elapsed, ledger.inFlight⟩, { m with ledger })

/-- Time passes. -/
def advance [Add τ] (m : Meter τ) (time : τ) : Meter τ := { m with now := m.now + time }

end Meter

/-- A call: whether it serves a request, the time that passes in it, the calls that it then makes in
turn, and the fault with which it ends if it does not return. -/
inductive Call (τ ε : Type) where
  | node (served : Bool) (time : τ) (calls : List (Call τ ε)) (fault : Option ε)

/-- What a call has done: how many requests were in flight when it and the calls in it began, the
fault that came out, and the notes about the requests that are over. -/
structure CallResult (τ ε : Type) where
  seen : List Int
  raised : Option ε
  notes : List (Note τ)
  meter : Meter τ

namespace Call

variable [Add τ] [Sub τ] [LE τ] [DecidableLE τ]

mutual

/-- Run a call.  A fault of a call that it makes comes out of it, too, before it makes the next. -/
def run : Call τ ε → Meter τ → CallResult τ ε
  | .node served time calls fault, m =>
    let entered := if served then m.start else m
    let inner := runAll calls (entered.advance time)
    let raised := inner.raised.or fault
    let seen := entered.ledger.inFlight :: inner.seen
    if served then
      let (note, meter) := inner.meter.finish m.now
      ⟨seen, raised, inner.notes ++ [note], meter⟩
    else ⟨seen, raised, inner.notes, inner.meter⟩

/-- Run calls in turn, up to the first that fails. -/
def runAll : List (Call τ ε) → Meter τ → CallResult τ ε
  | [], m => ⟨[], none, [], m⟩
  | c :: rest, m =>
    let first := c.run m
    match first.raised with
    | some e => ⟨first.seen, some e, first.notes, first.meter⟩
    | none =>
      let others := runAll rest first.meter
      ⟨first.seen ++ others.seen, others.raised, first.notes ++ others.notes, others.meter⟩

end

end Call
end InjectingProxy
