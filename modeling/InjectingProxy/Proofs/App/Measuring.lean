import InjectingProxy.App.Basic
import InjectingProxy.Proofs.Metrics.Ledger

/-!
# What is measured in the steps of a request

A request is measured in three steps: it enters, outcomes are recorded once it is settled what is
sent, and it leaves.  The first and the last change the number of requests in flight and nothing
else of the ledger that matters for the totals; the second adds to the totals of the outcomes.
None of them touches the count of requests or the client for the backend.
-/

set_option autoImplicit false

namespace InjectingProxy
namespace App
namespace State

variable (s : State)

/-- How many requests are in flight. -/
def inFlight : Int := s.meter.ledger.inFlight

/-- How long the requests took that are over. -/
def latency : Histogram Float := s.meter.ledger.latency

/-- How often an outcome has been recorded. -/
def total (o : Outcome) : Nat := s.meter.ledger.total o

/-! ## Entering -/

@[simp] theorem enter_asked : s.enter.asked = s.asked := rfl

@[simp] theorem enter_backendOpen : s.enter.backendOpen = s.backendOpen := rfl

@[simp] theorem enter_inFlight : s.enter.inFlight = s.inFlight + 1 := rfl

@[simp] theorem enter_latency : s.enter.latency = s.latency := rfl

@[simp] theorem enter_total (o : Outcome) : s.enter.total o = s.total o := rfl

/-! ## Recording -/

variable (h : Handling) (delay : Float)

theorem absorb_ledger :
    (s.absorb h delay).meter.ledger = s.meter.ledger.recordAll h.recorded := by
  rw [absorb]
  dsimp only
  split <;> rfl

@[simp] theorem absorb_asked : (s.absorb h delay).asked = s.asked := rfl

@[simp] theorem absorb_backendOpen : (s.absorb h delay).backendOpen = s.backendOpen := rfl

@[simp] theorem absorb_inFlight : (s.absorb h delay).inFlight = s.inFlight := by
  rw [inFlight, absorb_ledger, Ledger.inFlight_recordAll]
  rfl

@[simp] theorem absorb_latency : (s.absorb h delay).latency = s.latency := by
  rw [latency, absorb_ledger, Ledger.latency_recordAll]
  rfl

/-- **The outcomes that are recorded are added to their totals.** -/
theorem absorb_total (o : Outcome) :
    (s.absorb h delay).total o = s.total o + h.recorded.count o := by
  rw [total, absorb_ledger, Ledger.total_recordAll]
  rfl

/-! ## Leaving -/

variable (began : Float) (x : Exchange)

@[simp] theorem leave_asked : (s.leave began x).1.asked = s.asked := rfl

@[simp] theorem leave_backendOpen : (s.leave began x).1.backendOpen = s.backendOpen := rfl

@[simp] theorem leave_inFlight : (s.leave began x).1.inFlight = s.inFlight - 1 := rfl

@[simp] theorem leave_latency :
    (s.leave began x).1.latency = s.latency.observe (s.meter.now - began) := rfl

@[simp] theorem leave_total (o : Outcome) : (s.leave began x).1.total o = s.total o := rfl

end State
end App
end InjectingProxy
