import InjectingProxy.Proofs.App.Isolation
import InjectingProxy.Proofs.Metrics.Balance

/-!
# What is measured is in balance

Every request is measured as a call is: it is in flight while it is served, and observed when it is
over.  So after each request of a run, whatever has become of it, as many requests are in flight as
before it, and there is one observation more (`App.serve_measures`).  When requests go on at the
same time, as many more are in flight as are on their way, and there is one observation for each
that is over (`App.follow_level`).

`App.measured_in_balance` says this of requests, and of trees of calls whatever they are.
-/

set_option autoImplicit false

namespace InjectingProxy

/-! ## Trees of calls -/

section Calls

variable {τ ε : Type} [Add τ] [Sub τ] [LE τ] [DecidableLE τ]

/-- A call is in balance from the meter with which it begins, and so is every call that is made
while it runs. -/
structure Call.IsBalanced (c : Call τ ε) (m : Meter τ) : Prop where
  /-- When a call ends, as many requests are in flight as when it began. -/
  inFlight : ∀ v ∈ c.visits 0 m,
    (v.call.run v.meter).meter.ledger.inFlight = v.meter.ledger.inFlight
  /-- A call finds one request more in flight for each that is around it, its own included. -/
  seen : (c.run m).seen = (c.visits 0 m).map fun v ↦ m.ledger.inFlight + v.depth
  /-- What is observed are the times that are told, one for each request. -/
  latency : (c.run m).meter.ledger.latency =
      m.ledger.latency.observeAll ((c.run m).notes.map Note.elapsed) ∧
    (c.run m).notes.length = (c.visits 0 m).countP fun v ↦ v.call.served
  /-- Each of them is counted, if they are numbers. -/
  count : m.ledger.latency.IsOpen →
    (∀ elapsed ∈ (c.run m).notes.map Note.elapsed, elapsed ≤ elapsed) →
    (c.run m).meter.ledger.latency.count =
      m.ledger.latency.count + (c.visits 0 m).countP fun v ↦ v.call.served
  /-- A call that serves no request leaves what the calls leave that it makes. -/
  unserved : ∀ v ∈ c.visits 0 m, v.call.served = false →
    (v.call.run v.meter).meter =
      (Call.runAll v.call.calls (v.meter.advance v.call.time)).meter
  /-- The outcomes that have been recorded stay as they are. -/
  totals : (c.run m).meter.ledger.totals = m.ledger.totals
  /-- A fault of a call comes out as it is. -/
  raised : ∀ v ∈ c.visits 0 m, ∀ e, (v.call.run v.meter).raised = some e →
    (c.run m).raised = some e
  /-- A fault that comes out is one with which a call has ended of itself. -/
  origin : ∀ e, (c.run m).raised = some e → ∃ v ∈ c.visits 0 m, v.Raises e

theorem Call.isBalanced (c : Call τ ε) (m : Meter τ) : c.IsBalanced m where
  inFlight := fun v _ ↦ (v.call.run_balances v.below v.meter).inFlight
  seen := by
    rw [(c.run_balances 0 m).seen]
    refine List.map_congr_left fun v hv ↦ ?_
    have hentry := (c.run_balances 0 m).entries v hv
    rw [v.call.enter_inFlight, Visit.depth]
    omega
  latency := ⟨(c.run_balances 0 m).latency, (c.run_balances 0 m).observations⟩
  count := by
    intro hopen hnumbers
    rw [(c.run_balances 0 m).latency, Histogram.count_observeAll _ hnumbers hopen, List.length_map,
      (c.run_balances 0 m).observations]
  unserved := by
    intro v _ hserved
    obtain ⟨hinner, -, hmeter⟩ := Call.run_of_not_served v.meter hserved
    rw [hmeter, hinner]
  totals := (c.run_balances 0 m).totals
  raised := (c.run_balances 0 m).raised
  origin := (c.run_balances 0 m).origin

end Calls

namespace App

/-! ## Requests one after the other -/

/-- A request has been measured, and took some time: as many requests are in flight as before, and
there is one observation more, which is told last. -/
structure Measures (s : State) (x : Exchange) (s' : State) (elapsed : Float) : Prop where
  inFlight : s'.inFlight = s.inFlight
  latency : s'.latency = s.latency.observe elapsed
  told : x.events.getLast? = some (.processed elapsed s'.inFlight)

/-- **Every request is measured once**, whatever becomes of it. -/
theorem serve_measures (a : App) (s : State) (r : Request) (w : Surroundings) :
    ∃ elapsed, Measures s (a.serve s r w).exchange (a.serve s r w).state elapsed := by
  let handled : State := State.absorb { s.enter with asked := (a.handle s.enter r w.backend).2 }
    (a.handle s.enter r w.backend).1 w.delay
  have hinFlight : handled.inFlight = s.enter.inFlight := State.absorb_inFlight _ _ _
  have hlatency : handled.latency = s.enter.latency := State.absorb_latency _ _ _
  obtain ⟨hafter, hobserved⟩ :=
    Meter.finish_of_start s.meter handled.meter [] hinFlight hlatency
  exact ⟨handled.meter.now - s.meter.now, hafter, hobserved, List.getLast?_concat⟩

/-- After requests that are served one after the other, as many are in flight as before them, and
there is one observation for each. -/
theorem after_measures (a : App) (requests : List (Request × Surroundings)) : ∀ s : State,
    (a.after s requests).inFlight = s.inFlight ∧
      ∃ amounts : List Float, amounts.length = requests.length ∧
        (a.after s requests).latency = s.latency.observeAll amounts := by
  induction requests with
  | nil => exact fun s ↦ ⟨rfl, [], rfl, rfl⟩
  | cons request requests ih =>
    intro s
    obtain ⟨elapsed, hmeasures⟩ := serve_measures a s request.1 request.2
    obtain ⟨hinFlight, amounts, hlength, hlatency⟩ := ih (a.serve s request.1 request.2).state
    rw [hmeasures.latency] at hlatency
    exact ⟨hinFlight.trans hmeasures.inFlight, elapsed :: amounts,
      congrArg Nat.succ hlength, hlatency⟩

/-! ## Requests at the same time -/

/-- A step begins to measure its task, or ends it, or changes nothing of what is measured. -/
theorem step_cases (a : App) (s : State) (t : Task) :
    (t.stage = .arrived ∧ a.step s t = (s.enter, { t with stage := .measured s.meter.now })) ∨
      (∃ began x, t.stage = .answered began x ∧
        a.step s t = ((s.leave began x).1, { t with stage := .over (s.leave began x).2 })) ∨
      ((a.step s t).1.inFlight = s.inFlight ∧ (a.step s t).1.latency = s.latency ∧
        (a.step s t).2.isOnItsWay = t.isOnItsWay ∧
        (a.step s t).2.exchange?.isSome = t.exchange?.isSome) := by
  obtain ⟨r, w, stage, counted, seen⟩ := t
  cases stage with
  | arrived => exact .inl ⟨rfl, rfl⟩
  | measured began =>
    refine .inr (.inr ?_)
    rw [step]
    cases a.receive s.asked r with
    | aside result => exact ⟨rfl, rfl, rfl, rfl⟩
    | counted ordinal inject =>
      cases inject with
      | true => exact ⟨State.absorb_inFlight _ _ _, State.absorb_latency _ _ _, rfl, rfl⟩
      | false => exact ⟨rfl, rfl, rfl, rfl⟩
  | admitted began told =>
    exact .inr (.inr ⟨s.absorb_inFlight _ _, s.absorb_latency _ _, rfl, rfl⟩)
  | handled began h => exact .inr (.inr ⟨rfl, rfl, rfl, rfl⟩)
  | answered began x => exact .inr (.inl ⟨began, x, rfl, rfl⟩)
  | «over» x => exact .inr (.inr ⟨rfl, rfl, rfl, rfl⟩)

/-- What is measured of tasks since a state: as many more requests are in flight as are on their
way, and there is one observation for each that is over. -/
structure Level (s₀ s : State) (ts : List Task) : Prop where
  inFlight : s.inFlight = s₀.inFlight + ts.countP Task.isOnItsWay
  latency : ∃ amounts : List Float, amounts.length = ts.countP (·.exchange?.isSome) ∧
    s.latency = s₀.latency.observeAll amounts

theorem Level.perm {s₀ s : State} {ts ts' : List Task} (h : Level s₀ s ts) (hp : ts.Perm ts') :
    Level s₀ s ts' where
  inFlight := hp.countP_eq Task.isOnItsWay ▸ h.inFlight
  latency := hp.countP_eq (·.exchange?.isSome) ▸ h.latency

/-- Tasks that have just arrived. -/
theorem level_arriving (s : State) (requests : List (Request × Surroundings)) :
    Level s s (requests.map fun p ↦ Task.arriving p.1 p.2) where
  inFlight := by simp [List.countP_map, Function.comp_def, Task.arriving, Task.isOnItsWay]
  latency := ⟨[], by simp [List.countP_map, Function.comp_def, Task.arriving, Task.exchange?], rfl⟩

/-- A step of the first task keeps the level. -/
theorem Level.step (a : App) {s₀ s : State} {t : Task} {ts : List Task}
    (h : Level s₀ s (t :: ts)) : Level s₀ (a.step s t).1 ((a.step s t).2 :: ts) := by
  obtain ⟨hinFlight, amounts, hlength, hlatency⟩ := h
  rcases step_cases a s t with ⟨hstage, hstep⟩ | ⟨began, x, hstage, hstep⟩ |
    ⟨hsame, hobserved, hway, hover⟩
  · rw [hstep]
    rw [List.countP_cons_of_neg (by simp [Task.isOnItsWay, hstage])] at hinFlight
    rw [List.countP_cons_of_neg (by simp [Task.exchange?, hstage])] at hlength
    refine ⟨?_, amounts, ?_, s.enter_latency.trans hlatency⟩
    · rw [List.countP_cons_of_pos rfl, State.enter_inFlight, hinFlight]
      omega
    · rw [List.countP_cons_of_neg Bool.false_ne_true, hlength]
  · rw [hstep]
    rw [List.countP_cons_of_pos (by simp [Task.isOnItsWay, hstage])] at hinFlight
    rw [List.countP_cons_of_neg (by simp [Task.exchange?, hstage])] at hlength
    refine ⟨?_, amounts ++ [s.meter.now - began], ?_, ?_⟩
    · rw [List.countP_cons_of_neg Bool.false_ne_true, State.leave_inFlight, hinFlight]
      omega
    · rw [List.countP_cons_of_pos rfl, List.length_append, hlength]
      rfl
    · rw [State.leave_latency, hlatency, Histogram.observeAll_append]
      rfl
  · rw [List.countP_cons] at hinFlight hlength
    refine ⟨?_, amounts, ?_, hobserved.trans hlatency⟩
    · rw [List.countP_cons, hway, hsame, hinFlight]
    · rw [List.countP_cons, hover, hlength]

/-- **Every row of steps keeps the level.** -/
theorem follow_level (a : App) {s₀ : State} (schedule : List Nat) : ∀ {p : State × List Task},
    Level s₀ p.1 p.2 → Level s₀ (a.follow p schedule).1 (a.follow p schedule).2 := by
  induction schedule with
  | nil => exact fun h ↦ h
  | cons i schedule ih =>
    intro p h
    refine ih (p := a.stepAt p i) ?_
    rw [stepAt]
    cases hi : p.2[i]? with
    | none => exact h
    | some t =>
      obtain ⟨hlt, rfl⟩ := List.getElem?_eq_some_iff.1 hi
      -- the order of the tasks does not matter, so the one whose step it is comes first
      have hfirst := h.perm (List.getElem_cons_eraseIdx_perm hlt).symm
      exact (hfirst.step a).perm (List.set_perm_cons_eraseIdx hlt _).symm

/-! ## Main statement -/

/-- **In balance.**  Whatever calls a measured call makes, and whichever of them fail, every one of
them ends with as many requests in flight as it began with, there is one observation for each
request, and faults come out as they are.  So after each request of a run there are as many in
flight as before it, and there is one observation more, which is counted if it is a number; and
when requests go on at the same time, what is in flight are those that are on their way. -/
theorem measured_in_balance {τ ε : Type} [Add τ] [Sub τ] [LE τ] [DecidableLE τ] :
    (∀ (c : Call τ ε) (m : Meter τ), c.IsBalanced m) ∧
      ∀ (a : App) (s : State), s.latency.IsOpen → ∀ requests : List (Request × Surroundings),
        (∀ (i : Nat) (r : Request) (w : Surroundings), requests[i]? = some (r, w) →
          ∃ served elapsed, (a.run s requests)[i]? = some served ∧
            Measures (a.after s (requests.take i)) served.exchange served.state elapsed ∧
            (elapsed ≤ elapsed → served.state.latency.count =
              (a.after s (requests.take i)).latency.count + 1)) ∧
        ∀ schedule : List Nat,
          let p := a.follow (s, requests.map fun p ↦ Task.arriving p.1 p.2) schedule
          Level s p.1 p.2 := by
  refine ⟨Call.isBalanced, fun a s hopen requests ↦ ⟨fun i r w hrequest ↦ ?_, fun schedule ↦ ?_⟩⟩
  · obtain ⟨elapsed, hmeasures⟩ := serve_measures a (a.after s (requests.take i)) r w
    refine ⟨_, elapsed, by rw [getElem?_run, hrequest]; rfl, hmeasures, fun hnumber ↦ ?_⟩
    obtain ⟨-, amounts, -, hlatency⟩ := after_measures a (requests.take i) s
    have hopen : (a.after s (requests.take i)).latency.IsOpen := by
      rw [hlatency]
      exact hopen.observeAll amounts
    exact (congrArg Histogram.count hmeasures.latency).trans (hopen.count_observe hnumber)
  · exact follow_level a schedule (level_arriving s requests)

/-- A request in which another one fails, so that a third one is not made. -/
def failingNest : Call Int String :=
  .node true 1 [.node false 2 [.node true 3 [] (some "broken")] none, .node true 5 [] none] none

/-- The fault comes out of it, nothing stays in flight, and both requests are counted.  A request
that fails leaves nothing in flight, either. -/
theorem failing_nest_in_balance :
    let m : Meter Int := ⟨.empty [4], 0⟩
    let r : Request := ⟨"GET", word "/a", []⟩
    let broken : Surroundings := { Surroundings.calm with backend := .fails (.system "broken") }
    (failingNest.run m).raised = some "broken" ∧ (failingNest.run m).seen = [1, 1, 2] ∧
      (failingNest.run m).meter.ledger.inFlight = 0 ∧
      (failingNest.run m).meter.ledger.latency.count = 2 ∧
      ∃ served elapsed, (alternating.run .initial [(r, .calm), (r, broken)])[1]? = some served ∧
        Measures (alternating.after .initial [(r, .calm)]) served.exchange served.state elapsed ∧
        (elapsed ≤ elapsed → served.state.latency.count =
          (alternating.after .initial [(r, .calm)]).latency.count + 1) := by
  intro m r broken
  obtain ⟨hcalls, hrequests⟩ := measured_in_balance (τ := Int) (ε := String)
  have hbalanced : failingNest.IsBalanced m := hcalls failingNest m
  have hopen : m.ledger.latency.IsOpen := Histogram.isOpen_empty [4]
  refine ⟨hbalanced.raised ⟨.node true 3 [] (some "broken"), 1, ⟨m.ledger.started, 3⟩⟩ ?_ _ rfl,
    hbalanced.seen.trans rfl, hbalanced.inFlight ⟨failingNest, 0, m⟩ ?_,
    (hbalanced.count hopen fun _ _ ↦ Int.le_refl _).trans rfl, ?_⟩
  · exact List.mem_of_getElem? (i := 2) rfl
  · exact List.mem_of_getElem? (i := 0) rfl
  · exact (hrequests alternating .initial (Histogram.isOpen_empty _) _).1 1 r broken rfl

end App
end InjectingProxy
