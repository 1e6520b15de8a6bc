import InjectingProxy.App.Task
import InjectingProxy.Proofs.App.Forwarding
import InjectingProxy.Proofs.App.Measuring
import InjectingProxy.Proofs.Gate
import Mathlib.Data.List.Perm.Basic

/-!
# Requests at the same time share the count

Any number of well-formed requests, with a healthy backend, take their steps in any order.  What
is true of them all the time is `Shared`: the requests that have passed the gate have the ordinals
that follow the count from the beginning, each once; the totals are those of the requests that are
settled; and as many more requests are in flight as are on their way.

Nothing here depends on the order in which the requests are listed (`Shared.perm`), so it is enough
to look at a step of the first one (`Shared.advance`).  A schedule is a row of steps of any of them
(`shared_stepAt`, `shared_follow`).  Once all requests are over, the ordinals say how many of them
were picked.
-/

set_option autoImplicit false

namespace InjectingProxy

/-! ## What is known about one task -/

/-- How many steps a task may still take. -/
def Stage.rank : Stage → Nat
  | .arrived => 5
  | .measured _ => 4
  | .admitted _ _ => 3
  | .handled _ _ => 2
  | .answered _ _ => 1
  | .over _ => 0

theorem Stage.rank_le (s : Stage) : s.rank ≤ App.lifetime := by
  cases s <;> simp [rank, App.lifetime]

namespace Task

/-- The ordinal of a task that has passed the gate. -/
def ordinal? (t : Task) : Option Int := t.counted.map Counted.ordinal

/-- The outcomes that have been recorded for a task. -/
def recorded (t : Task) : List Outcome :=
  match t.stage with
  | .handled _ h => h.recorded
  | .answered _ x | .over x => x.recorded
  | _ => []

/-- The response to a task, from the moment at which it is settled. -/
def response? (t : Task) : Option Response :=
  match t.stage with
  | .handled _ h => h.result.toOption
  | .answered _ x | .over x => x.response
  | _ => none

/-- The requests that a task has made to the backend. -/
def outbound (t : Task) : List Outbound :=
  match t.stage with
  | .handled _ h => h.outbound
  | .answered _ x | .over x => x.outbound
  | _ => []

/-- The task has begun to be measured and is not over. -/
def isOnItsWay (t : Task) : Bool :=
  match t.stage with
  | .arrived | .over _ => false
  | _ => true

/-- The task is over. -/
def IsOver (t : Task) : Prop := ∃ x, t.stage = .over x

theorem isOver_of_rank {t : Task} (h : t.stage.rank = 0) : t.IsOver := by
  cases hs : t.stage with
  | «over» x => exact ⟨x, hs⟩
  | _ => rw [hs] at h; cases h

/-- A task with a well-formed request to a healthy backend. -/
structure IsHealthy (t : Task) : Prop where
  request : t.request.IsWellFormed
  backend : t.around.backend.IsHealthy

/-- A task that is settled in the way that its ordinal asks for: with the injected error as far as
it can be made, and without the backend, or with an answer of the backend. -/
inductive IsSettled (a : App) (g : Gate) (t : Task) : Prop
  | injected (ordinal : Int) (counted : t.counted = some ⟨ordinal, some true⟩)
      (picked : g.injects ordinal = true) (recorded : t.recorded = [.errorInjected])
      (response : t.response? = a.inject.result.toOption) (outbound : t.outbound = [])
  | relayed (ordinal : Int) (counted : t.counted = some ⟨ordinal, some false⟩)
      (picked : g.injects ordinal = false) (recorded : t.recorded = [.forwardedOk])
      (answer : Answer) (response : t.response? = some (.relayed answer)) (o : Outbound)
      (outbound : t.outbound = [o])

/-- Whether a task is settled depends on its count, outcomes, response and requests only. -/
theorem IsSettled.congr {a : App} {g : Gate} {t t' : Task} (h : t.IsSettled a g)
    (hcounted : t'.counted = t.counted) (hrecorded : t'.recorded = t.recorded)
    (hresponse : t'.response? = t.response?) (houtbound : t'.outbound = t.outbound) :
    t'.IsSettled a g := by
  cases h with
  | injected ordinal counted picked recorded response outbound =>
    exact .injected ordinal (hcounted.trans counted) picked (hrecorded.trans recorded)
      (hresponse.trans response) (houtbound.trans outbound)
  | relayed ordinal counted picked recorded answer response o outbound =>
    exact .relayed ordinal (hcounted.trans counted) picked (hrecorded.trans recorded) answer
      (hresponse.trans response) o (houtbound.trans outbound)

/-- How far a task has come and how it was counted fit together. -/
def IsSound (a : App) (g : Gate) (t : Task) : Prop :=
  match t.stage with
  | .arrived | .measured _ => t.counted = none
  | .admitted _ _ => ∃ ordinal, t.counted = some ⟨ordinal, some false⟩ ∧ g.injects ordinal = false
  | .handled _ _ | .answered _ _ | .over _ => t.IsSettled a g

end Task

/-! ## What is known about all of them -/

namespace App

variable {a : App} {g : Gate} {u₀ : Url}

/-- Tasks that share the count since it was that of a state: the state now, and the tasks. -/
structure Shared (a : App) (g : Gate) (s₀ s : State) (ts : List Task) : Prop where
  backendOpen : s.backendOpen = true
  healthy : ∀ t ∈ ts, t.IsHealthy
  sound : ∀ t ∈ ts, t.IsSound a g
  asked : s.asked = s₀.asked + (ts.filterMap Task.ordinal?).length
  ordinals : (ts.filterMap Task.ordinal?).Perm
    ((List.range (ts.filterMap Task.ordinal?).length).map fun i : Nat ↦ s₀.asked + 1 + i)
  inFlight : s.inFlight = s₀.inFlight + ts.countP Task.isOnItsWay
  total : ∀ o, s.total o = s₀.total o + (ts.flatMap Task.recorded).count o

/-- The order of the tasks does not matter. -/
theorem Shared.perm {s₀ s : State} {ts ts' : List Task} (h : Shared a g s₀ s ts)
    (hp : ts.Perm ts') : Shared a g s₀ s ts' := by
  have hordinals := hp.filterMap Task.ordinal?
  exact {
    backendOpen := h.backendOpen
    healthy := fun t ht ↦ h.healthy t (hp.mem_iff.2 ht)
    sound := fun t ht ↦ h.sound t (hp.mem_iff.2 ht)
    asked := hordinals.length_eq ▸ h.asked
    ordinals := hordinals.length_eq ▸ hordinals.symm.trans h.ordinals
    inFlight := hp.countP_eq Task.isOnItsWay ▸ h.inFlight
    total := fun o ↦ (h.total o).trans (by rw [(hp.flatMap_right Task.recorded).count_eq]) }

/-- Tasks that have just arrived. -/
theorem shared_arriving {s : State} (hopen : s.backendOpen = true)
    (arrivals : List (Request × Surroundings))
    (h : ∀ p ∈ arrivals, p.1.IsWellFormed ∧ p.2.backend.IsHealthy) :
    Shared a g s s (arrivals.map fun p ↦ Task.arriving p.1 p.2) := by
  have hnone : (arrivals.map fun p ↦ Task.arriving p.1 p.2).filterMap Task.ordinal? = [] := by
    simp [Task.arriving, Task.ordinal?]
  have hnothing : (arrivals.map fun p ↦ Task.arriving p.1 p.2).flatMap Task.recorded = [] := by
    refine List.flatMap_eq_nil_iff.2 fun t ht ↦ ?_
    obtain ⟨p, -, rfl⟩ := List.mem_map.1 ht
    rfl
  exact {
    backendOpen := hopen
    healthy := fun t ht ↦ by
      obtain ⟨p, hp, rfl⟩ := List.mem_map.1 ht
      exact ⟨(h p hp).1, (h p hp).2⟩
    sound := fun t ht ↦ by
      obtain ⟨p, hp, rfl⟩ := List.mem_map.1 ht
      rfl
    asked := by rw [hnone]; simp
    ordinals := by rw [hnone]; simp
    inFlight := by simp [List.countP_map, Function.comp_def, Task.arriving, Task.isOnItsWay]
    total := fun o ↦ by rw [hnothing]; rfl }

/-! ## What a step does -/

/-- What a step of a task does to what is shared: it may take the next ordinal, and the numbers
change by what changes about the task. -/
structure Advances (s : State) (t : Task) (s' : State) (t' : Task) : Prop where
  counted : (t'.ordinal? = t.ordinal? ∧ s'.asked = s.asked) ∨
    (t.ordinal? = none ∧ t'.ordinal? = some (s.asked + 1) ∧ s'.asked = s.asked + 1)
  inFlight : s'.inFlight + (if t.isOnItsWay then 1 else 0 : Nat) =
    s.inFlight + (if t'.isOnItsWay then 1 else 0 : Nat)
  total : ∀ o, s'.total o + t.recorded.count o = s.total o + t'.recorded.count o

/-- A step leaves the client for the backend open, and the task with its request. -/
theorem step_keeps (a : App) (s : State) (t : Task) :
    (a.step s t).1.backendOpen = s.backendOpen ∧ (a.step s t).2.request = t.request ∧
      (a.step s t).2.around = t.around := by
  obtain ⟨r, w, stage, counted, seen⟩ := t
  cases stage with
  | arrived => exact ⟨s.enter_backendOpen, rfl, rfl⟩
  | measured began =>
    rw [step]
    cases a.receive s.asked r with
    | aside result => exact ⟨rfl, rfl, rfl⟩
    | counted ordinal inject =>
      cases inject with
      | true => exact ⟨State.absorb_backendOpen _ _ _, rfl, rfl⟩
      | false => exact ⟨rfl, rfl, rfl⟩
  | admitted began told => exact ⟨State.absorb_backendOpen _ _ _, rfl, rfl⟩
  | handled began h => exact ⟨rfl, rfl, rfl⟩
  | answered began x => exact ⟨s.leave_backendOpen began x, rfl, rfl⟩
  | «over» x => exact ⟨rfl, rfl, rfl⟩

section Step

variable (hgate : a.decider = .gate g) (hsite : a.config.Reaches u₀)

include hgate in
/-- A well-formed request takes the next ordinal, and the gate decides by this ordinal. -/
theorem receive_of_isWellFormed (asked : Int) {r : Request} (hr : r.IsWellFormed) :
    a.receive asked r = .counted (asked + 1) (g.injects (asked + 1)) := by
  rw [receive_of_reachesGate asked hr.rooted.path hr.reachesGate, hgate]
  rfl

theorem step_of_inject {s : State} {t : Task} {began : Float} {ordinal : Int}
    (hstage : t.stage = .measured began)
    (h : a.receive s.asked t.request = .counted ordinal true) :
    a.step s t =
      (State.absorb { s with asked := ordinal } a.inject t.around.delay,
        { t with
          counted := some ⟨ordinal, some true⟩
          stage := .handled began
            { a.inject with events := a.told t.request ordinal true ++ a.inject.events } }) := by
  rw [step, hstage]
  simp only [h]
  rfl

theorem step_of_forward {s : State} {t : Task} {began : Float} {ordinal : Int}
    (hstage : t.stage = .measured began)
    (h : a.receive s.asked t.request = .counted ordinal false) :
    a.step s t =
      ({ s with asked := ordinal },
        { t with
          counted := some ⟨ordinal, some false⟩
          stage := .admitted began (a.told t.request ordinal false) }) := by
  rw [step, hstage]
  simp only [h]
  rfl

include hgate in
theorem step_advances (s : State) {t : Task} (ht : t.request.IsWellFormed)
    (hsound : t.IsSound a g) : Advances s t (a.step s t).1 (a.step s t).2 := by
  have hreceive := receive_of_isWellFormed hgate s.asked ht
  obtain ⟨r, w, stage, counted, seen⟩ := t
  cases stage with
  | arrived =>
    refine ⟨.inl ⟨rfl, s.enter_asked⟩, ?_, s.enter_total⟩
    exact (Int.add_zero _).trans s.enter_inFlight
  | measured began =>
    cases hsound
    cases hinjects : g.injects (s.asked + 1) with
    | true =>
      rw [hinjects] at hreceive
      rw [step_of_inject rfl hreceive]
      refine ⟨.inr ⟨rfl, rfl, State.absorb_asked _ _ _⟩, ?_, fun o ↦ ?_⟩
      · rw [State.absorb_inFlight]
        rfl
      · rw [State.absorb_total]
        rfl
    | false =>
      rw [hinjects] at hreceive
      rw [step_of_forward rfl hreceive]
      exact ⟨.inr ⟨rfl, rfl, rfl⟩, rfl, fun _ ↦ rfl⟩
  | admitted began told =>
    rw [step]
    refine ⟨.inl ⟨rfl, State.absorb_asked _ _ _⟩, ?_, fun o ↦ ?_⟩
    · rw [State.absorb_inFlight]
      rfl
    · rw [State.absorb_total]
      rfl
  | handled began h =>
    refine ⟨.inl ⟨rfl, rfl⟩, rfl, fun o ↦ ?_⟩
    show s.total o + _ = s.total o + (answer h w).recorded.count o
    rw [answer_recorded]
    rfl
  | answered began x =>
    refine ⟨.inl ⟨rfl, s.leave_asked began x⟩, ?_, fun o ↦ ?_⟩
    · show (s.leave began x).1.inFlight + 1 = s.inFlight + 0
      rw [State.leave_inFlight]
      omega
    · show (s.leave began x).1.total o + _ = s.total o + _
      rw [State.leave_total]
      rfl
  | «over» x => exact ⟨.inl ⟨rfl, rfl⟩, rfl, fun _ ↦ rfl⟩

include hgate hsite in
/-- A step keeps a task sound. -/
theorem step_sound {s : State} (hopen : s.backendOpen = true) {t : Task} (ht : t.IsHealthy)
    (hsound : t.IsSound a g) : (a.step s t).2.IsSound a g := by
  have hreceive := receive_of_isWellFormed hgate s.asked ht.request
  have hforward := forward_of_isWellFormed hsite hopen ht.request ht.backend
  obtain ⟨r, w, stage, counted, seen⟩ := t
  cases stage with
  | arrived => exact hsound
  | measured began =>
    cases hinjects : g.injects (s.asked + 1) with
    | true =>
      rw [hinjects] at hreceive
      rw [step_of_inject rfl hreceive]
      exact .injected (s.asked + 1) rfl hinjects rfl rfl rfl
    | false =>
      rw [hinjects] at hreceive
      rw [step_of_forward rfl hreceive]
      exact ⟨s.asked + 1, rfl, hinjects⟩
  | admitted began told =>
    obtain ⟨ordinal, hcounted, hinjects⟩ := hsound
    obtain ⟨answer, o, hresult, houtbound, hrecorded⟩ := hforward
    refine .relayed ordinal hcounted hinjects hrecorded answer ?_ o houtbound
    show (a.forward s r w.backend).result.toOption = _
    rw [hresult]
    rfl
  | handled began h =>
    exact Task.IsSettled.congr hsound rfl (answer_recorded h w) (answer_response h w)
      (answer_outbound h w)
  | answered began x => exact Task.IsSettled.congr hsound rfl rfl rfl rfl
  | «over» x => exact hsound

end Step

/-- One more ordinal after those that follow a count in a row. -/
theorem perm_range_succ {start : Int} {ordinals : List Int}
    (h : ordinals.Perm ((List.range ordinals.length).map fun i : Nat ↦ start + 1 + i)) :
    ((start + ordinals.length + 1) :: ordinals).Perm
      ((List.range (ordinals.length + 1)).map fun i : Nat ↦ start + 1 + i) := by
  rw [List.range_succ, List.map_append, List.map_singleton, Int.add_right_comm]
  exact (List.perm_append_singleton _ _).symm.trans (h.append_right _)

/-- A step of the first task keeps what is known about all. -/
theorem Shared.advance {s₀ s s' : State} {t t' : Task} {ts : List Task}
    (h : Shared a g s₀ s (t :: ts)) (hopen : s'.backendOpen = true) (ht : t'.IsHealthy)
    (hsound : t'.IsSound a g) (hadvances : Advances s t s' t') :
    Shared a g s₀ s' (t' :: ts) := by
  have hcounted : s'.asked = s₀.asked + ((t' :: ts).filterMap Task.ordinal?).length ∧
      ((t' :: ts).filterMap Task.ordinal?).Perm
        ((List.range ((t' :: ts).filterMap Task.ordinal?).length).map
          fun i : Nat ↦ s₀.asked + 1 + i) := by
    rcases hadvances.counted with ⟨hsame, hasked⟩ | ⟨hnone, hnew, hasked⟩
    · have hordinals : (t' :: ts).filterMap Task.ordinal? = (t :: ts).filterMap Task.ordinal? := by
        rw [List.filterMap_cons, List.filterMap_cons, hsame]
      rw [hordinals, hasked]
      exact ⟨h.asked, h.ordinals⟩
    · have hordinals : (t' :: ts).filterMap Task.ordinal? =
          (s.asked + 1) :: (t :: ts).filterMap Task.ordinal? := by
        rw [List.filterMap_cons, List.filterMap_cons, hnone, hnew]
      rw [hordinals, hasked, List.length_cons, h.asked]
      exact ⟨by omega, perm_range_succ h.ordinals⟩
  have hflight := h.inFlight
  rw [List.countP_cons] at hflight
  exact {
    backendOpen := hopen
    healthy := List.forall_mem_cons.2 ⟨ht, (List.forall_mem_cons.1 h.healthy).2⟩
    sound := List.forall_mem_cons.2 ⟨hsound, (List.forall_mem_cons.1 h.sound).2⟩
    asked := hcounted.1
    ordinals := hcounted.2
    inFlight := by
      have := hadvances.inFlight
      rw [List.countP_cons]
      omega
    total := fun o ↦ by
      have hbefore := h.total o
      have := hadvances.total o
      rw [List.flatMap_cons, List.count_append] at hbefore ⊢
      omega }

/-! ## Schedules -/

section Schedule

variable (hgate : a.decider = .gate g) (hsite : a.config.Reaches u₀)
include hgate hsite

/-- **A step of any task keeps what is known about all.** -/
theorem shared_stepAt {s₀ s : State} {ts : List Task} (h : Shared a g s₀ s ts) (i : Nat) :
    Shared a g s₀ (a.stepAt (s, ts) i).1 (a.stepAt (s, ts) i).2 := by
  rw [stepAt]
  cases hi : ts[i]? with
  | none => exact h
  | some t =>
    obtain ⟨hlt, rfl⟩ := List.getElem?_eq_some_iff.1 hi
    have hfirst := h.perm (List.getElem_cons_eraseIdx_perm hlt).symm
    have ht := hfirst.healthy _ List.mem_cons_self
    have hsound := hfirst.sound _ List.mem_cons_self
    obtain ⟨hopen, hrequest, haround⟩ := step_keeps a s ts[i]
    refine (hfirst.advance (hopen.trans h.backendOpen) ?_ ?_ ?_).perm
      (List.set_perm_cons_eraseIdx hlt _).symm
    · exact ⟨hrequest ▸ ht.request, haround ▸ ht.backend⟩
    · exact step_sound hgate hsite h.backendOpen ht hsound
    · exact step_advances hgate s ht.request hsound

/-- So does every schedule. -/
theorem shared_follow {s₀ : State} (schedule : List Nat) : ∀ {p : State × List Task},
    Shared a g s₀ p.1 p.2 →
    Shared a g s₀ (a.follow p schedule).1 (a.follow p schedule).2 := by
  induction schedule with
  | nil => exact fun h ↦ h
  | cons i schedule ih => exact fun h ↦ ih (shared_stepAt hgate hsite h i)

end Schedule

theorem length_follow (a : App) (schedule : List Nat) : ∀ p : State × List Task,
    (a.follow p schedule).2.length = p.2.length := by
  induction schedule with
  | nil => exact fun _ ↦ rfl
  | cons i schedule ih =>
    intro p
    refine (ih (a.stepAt p i)).trans ?_
    rw [stepAt]
    split
    · rfl
    · exact List.length_set

/-! ## Coming to an end -/

theorem rank_step (a : App) (s : State) (t : Task) :
    (a.step s t).2.stage.rank ≤ t.stage.rank - 1 := by
  obtain ⟨r, w, stage, counted, seen⟩ := t
  cases stage with
  | measured began =>
    rw [step]
    cases a.receive s.asked r with
    | aside result => exact Nat.le_succ 2
    | counted ordinal inject =>
      cases inject with
      | true => exact Nat.le_succ 2
      | false => exact Nat.le_refl 3
  | arrived => exact Nat.le_refl 4
  | admitted began told => exact Nat.le_refl 2
  | handled began h => exact Nat.le_refl 1
  | answered began x => exact Nat.le_refl 0
  | «over» x => exact Nat.le_refl 0

/-- A schedule takes a task on by as many steps as it names the task. -/
theorem rank_follow (a : App) (schedule : List Nat) (i : Nat) :
    ∀ (p : State × List Task) (t t' : Task), p.2[i]? = some t →
      (a.follow p schedule).2[i]? = some t' →
      t'.stage.rank ≤ t.stage.rank - schedule.count i := by
  induction schedule with
  | nil =>
    intro p t t' ht ht'
    cases ht.symm.trans ht'
    exact Nat.le_refl _
  | cons j schedule ih =>
    intro p t t' ht ht'
    rw [follow, List.foldl_cons, ← follow] at ht'
    rw [List.count_cons]
    by_cases hj : j = i
    · subst hj
      have hlt : j < p.2.length := (List.getElem?_eq_some_iff.1 ht).1
      have hstep : (a.stepAt p j).2[j]? = some (a.step p.1 t).2 := by
        rw [stepAt, ht]
        exact List.getElem?_set_self hlt
      have hrest := ih _ _ _ hstep ht'
      have := rank_step a p.1 t
      rw [if_pos (beq_self_eq_true j)]
      omega
    · have hkept : (a.stepAt p j).2[i]? = some t := by
        rw [stepAt]
        split
        · exact ht
        · exact (List.getElem?_set_ne hj).trans ht
      rw [if_neg (by simpa using hj)]
      exact ih _ _ _ hkept ht'

/-- **A schedule that names every place often enough brings all tasks to an end.** -/
theorem over_of_follow (a : App) (p : State × List Task) (schedule : List Nat)
    (h : ∀ i < p.2.length, lifetime ≤ schedule.count i) :
    ∀ t ∈ (a.follow p schedule).2, t.IsOver := by
  intro t' ht'
  obtain ⟨i, hi, rfl⟩ := List.mem_iff_getElem.1 ht'
  have hlt : i < p.2.length := length_follow a schedule p ▸ hi
  have hrank := rank_follow a schedule i p _ _ (List.getElem?_eq_getElem hlt)
    (List.getElem?_eq_getElem hi)
  have hcount := h i hlt
  have hbound := p.2[i].stage.rank_le
  exact Task.isOver_of_rank (by omega)

/-! ## Counting -/

/-- Of settled tasks, each has an ordinal, and those with a picked ordinal and the others are told
apart by everything that was done for them. -/
structure Tallies (a : App) (g : Gate) (ts : List Task) : Prop where
  length : (ts.filterMap Task.ordinal?).length = ts.length
  responses : ∀ reply : Reply, a.inject.result = .ok (.reply reply) →
    ts.countP (·.response? = some (.reply reply)) =
      (ts.filterMap Task.ordinal?).countP g.injects
  injected : (ts.flatMap Task.recorded).count .errorInjected =
    (ts.filterMap Task.ordinal?).countP g.injects
  forwarded : (ts.flatMap Task.recorded).count .forwardedOk +
    (ts.filterMap Task.ordinal?).countP g.injects = ts.length
  calls : (ts.flatMap Task.outbound).length +
    (ts.filterMap Task.ordinal?).countP g.injects = ts.length

theorem ordinals_cons {t : Task} {c : Counted} (h : t.counted = some c) (ts : List Task) :
    (t :: ts).filterMap Task.ordinal? = c.ordinal :: ts.filterMap Task.ordinal? := by
  rw [List.filterMap_cons, Task.ordinal?, h]
  rfl

theorem tallies_of_isSettled {ts : List Task} (h : ∀ t ∈ ts, t.IsSettled a g) :
    Tallies a g ts := by
  induction ts with
  | nil => exact ⟨rfl, fun _ _ ↦ rfl, rfl, rfl, rfl⟩
  | cons t ts ih =>
    obtain ⟨hlength, hresponses, hinjected, hforwarded, hcalls⟩ :=
      ih fun t' ht' ↦ h t' (List.mem_cons_of_mem t ht')
    cases h t List.mem_cons_self with
    | injected ordinal counted picked recorded response outbound =>
      have hordinals := ordinals_cons counted ts
      constructor
      · rw [hordinals, List.length_cons, hlength, List.length_cons]
      · intro reply hreply
        have hmade : t.response? = some (.reply reply) := by
          rw [response, hreply]
          rfl
        simp [hordinals, picked, hmade, hresponses reply hreply]
      · simp [hordinals, picked, recorded, hinjected]
      · simp [hordinals, picked, recorded]
        omega
      · rw [List.flatMap_cons, outbound, hordinals, List.countP_cons_of_pos picked,
          List.nil_append, List.length_cons]
        omega
    | relayed ordinal counted picked recorded answer response o outbound =>
      have hordinals := ordinals_cons counted ts
      constructor
      · rw [hordinals, List.length_cons, hlength, List.length_cons]
      · intro reply hreply
        simp [hordinals, picked, response, hresponses reply hreply]
      · simp [hordinals, picked, recorded, hinjected]
      · simp [hordinals, picked, recorded]
        omega
      · rw [List.flatMap_cons, outbound, hordinals, List.countP_cons_of_neg (by simp [picked])]
        simp only [List.length_append, List.length_cons, List.length_nil]
        omega

/-- How many of the `n` ordinals after a count are picked by a gate. -/
def picked (g : Gate) (count : Int) (n : Nat) : Nat :=
  (List.range n).countP fun i : Nat ↦ (count + 1 + i) % g.modulus = 1 % g.modulus

theorem countP_injects_eq_picked (g : Gate) (count : Int) (n : Nat) :
    ((List.range n).map fun i : Nat ↦ count + 1 + i).countP g.injects = picked g count n := by
  rw [List.countP_map, picked]
  refine List.countP_congr fun i _ ↦ ?_
  rw [Function.comp_apply, Gate.injects_iff, decide_eq_true_iff]

/-- **Requests at the same time share the count.**  In every state that a schedule leads to, as many
more requests are in flight as are on their way.  Once all are over, their ordinals are those that
follow the count, each once; the injected error went to as many as the gate picks of them, without
the backend, and all others were relayed, each with one request to the backend; and as many are in
flight as in the beginning.  All are over if every one is given its turn often enough. -/
theorem follow_shares_count {config : Config} {u₀ : Url} (hsite : config.Reaches u₀)
    (owns : Bool) (passed : Cookie.Keeping) (s : State) (hopen : s.backendOpen = true)
    (arrivals : List (Request × Surroundings))
    (harrivals : ∀ p ∈ arrivals, p.1.IsWellFormed ∧ p.2.backend.IsHealthy)
    (schedule : List Nat) :
    let a : App := { ofConfig config with ownsBackend := owns, passed }
    let n := arrivals.length
    let after := a.follow (s, arrivals.map fun p ↦ Task.arriving p.1 p.2) schedule
    let injected := picked config.gate s.asked n
    after.2.length = n ∧
    after.1.inFlight = s.inFlight + after.2.countP Task.isOnItsWay ∧
    ((∀ t ∈ after.2, t.IsOver) →
      (after.2.filterMap Task.ordinal?).Perm
        ((List.range n).map fun i : Nat ↦ s.asked + 1 + i) ∧
      after.1.asked = s.asked + n ∧
      (∀ reply, Reply.injected config.errorStatus = .ok reply →
        after.2.countP (·.response? = some (.reply reply)) = injected) ∧
      after.1.total .errorInjected = s.total .errorInjected + injected ∧
      (after.2.flatMap Task.outbound).length = n - injected ∧
      after.1.total .forwardedOk = s.total .forwardedOk + (n - injected) ∧
      after.1.inFlight = s.inFlight) ∧
    ((∀ i < n, lifetime ≤ schedule.count i) → ∀ t ∈ after.2, t.IsOver) := by
  intro a n after injected
  have hlength : after.2.length = n := (length_follow a schedule _).trans (List.length_map _)
  have hshared : Shared a config.gate s after.1 after.2 :=
    shared_follow rfl hsite schedule (shared_arriving hopen arrivals harrivals)
  refine ⟨hlength, hshared.inFlight, fun hover ↦ ?_, fun hcount ↦ ?_⟩
  · have hsettled : ∀ t ∈ after.2, t.IsSettled a config.gate := by
      intro t ht
      obtain ⟨x, hx⟩ := hover t ht
      have := hshared.sound t ht
      rwa [Task.IsSound, hx] at this
    have htallies := tallies_of_isSettled hsettled
    have hordinals := hshared.ordinals
    rw [htallies.length, hlength] at hordinals
    have hpicked : (after.2.filterMap Task.ordinal?).countP config.gate.injects = injected := by
      rw [hordinals.countP_eq, countP_injects_eq_picked]
    have hflight : after.2.countP Task.isOnItsWay = 0 := by
      refine List.countP_eq_zero.2 fun t ht ↦ ?_
      obtain ⟨x, hx⟩ := hover t ht
      rw [Task.isOnItsWay, hx]
      exact Bool.false_ne_true
    have hasked := hshared.asked
    have hinjected := hshared.total .errorInjected
    have hforwarded := hshared.total .forwardedOk
    have hflying := hshared.inFlight
    rw [htallies.length, hlength] at hasked
    rw [htallies.injected, hpicked] at hinjected
    have hcalls := htallies.calls
    have hothers := htallies.forwarded
    rw [hpicked, hlength] at hcalls hothers
    refine ⟨hordinals, hasked, fun reply hreply ↦ ?_, hinjected, ?_, ?_, ?_⟩
    · refine (htallies.responses reply ?_).trans hpicked
      show ((Reply.injected config.errorStatus).map Response.reply).mapError _ = _
      rw [hreply]
      rfl
    · omega
    · omega
    · rw [hflying, hflight]
      exact Int.add_zero _
  · exact over_of_follow a _ schedule fun i hi ↦ hcount i (by simpa using hi)

/-- Three requests that take turns: the first and the third to pass the gate get the injected error,
whichever they are. -/
theorem turns_share_count :
    let r : Request := ⟨"GET", word "/a?x=1", []⟩
    let arrivals := List.replicate 3 (r, Surroundings.calm)
    let schedule := (List.replicate 5 [2, 0, 1]).flatten
    let after := alternating.follow
      (.initial, arrivals.map fun p ↦ Task.arriving p.1 p.2) schedule
    (∀ p ∈ arrivals, p.1.IsWellFormed ∧ p.2.backend.IsHealthy) ∧
      (∀ t ∈ after.2, t.IsOver) ∧
      (∃ reply, Reply.injected alternating.config.errorStatus = .ok reply ∧
        after.2.countP (·.response? = some (.reply reply)) = 2) ∧
      after.1.total .errorInjected = 2 ∧ after.1.total .forwardedOk = 1 ∧
      after.1.inFlight = 0 := by
  intro r arrivals schedule after
  have hsite : alternating.config.Reaches
      ⟨"http".toList, [], "backend.test".toList, none, [], none, none⟩ :=
    ⟨rfl, rfl, ⟨⟨_, rfl⟩, ⟨_, rfl⟩⟩, rfl⟩
  have hr : r.IsWellFormed :=
    { gets := by decide
      rooted := by decide
      reachesGate := ⟨by decide, "x=1".toList, by decide⟩
      printable := forall_of_all (by decide)
      address_short := by decide
      query_short := by decide }
  have harrivals : ∀ p ∈ arrivals, p.1.IsWellFormed ∧ p.2.backend.IsHealthy := by
    intro p hp
    rw [List.eq_of_mem_replicate hp]
    exact ⟨hr, _, rfl, fun _ _ h ↦ nomatch h⟩
  obtain ⟨-, -, hover, hend⟩ :=
    follow_shares_count hsite false alternating.passed .initial rfl arrivals harrivals schedule
  have hcount : ∀ i < 3, lifetime ≤ schedule.count i := by decide
  obtain ⟨-, -, hresponses, hinjected, -, hforwarded, hflight⟩ := hover (hend hcount)
  have hpicked : picked alternating.config.gate State.initial.asked arrivals.length = 2 := by
    decide
  rw [hpicked] at hinjected hforwarded
  have hmade := (hresponses _ rfl).trans hpicked
  exact ⟨harrivals, hend hcount, ⟨_, rfl, hmade⟩, hinjected, hforwarded, hflight⟩

end App
end InjectingProxy
