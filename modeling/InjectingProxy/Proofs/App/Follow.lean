import InjectingProxy.App.Task

/-!
# What steps keep, schedules keep

Several tasks take their steps in the order of a schedule.  Something that is true of the common
state and of each task, and that every single step keeps, is true after every schedule
(`App.follow_keeps`).  A step changes the task that takes it and the common state, and no other
task.
-/

set_option autoImplicit false

namespace InjectingProxy

theorem Task.exchange?_eq_some_iff {t : Task} {x : Exchange} :
    t.exchange? = some x ↔ t.stage = .over x := by
  rw [exchange?]
  split
  · rename_i y hstage
    rw [hstage, Option.some.injEq, Stage.over.injEq]
  · rename_i hstage
    exact ⟨fun h ↦ absurd h.symm (Option.some_ne_none x), fun h ↦ absurd h (hstage x)⟩

namespace App

variable {a : App} {I : State → Prop} {P : Task → Prop}

theorem stepAt_keeps (hstate : ∀ s t, I s → P t → I (a.step s t).1)
    (htask : ∀ s t, I s → P t → P (a.step s t).2) {p : State × List Task} (hI : I p.1)
    (hP : ∀ t ∈ p.2, P t) (i : Nat) :
    I (a.stepAt p i).1 ∧ ∀ t ∈ (a.stepAt p i).2, P t := by
  rw [stepAt]
  split
  · exact ⟨hI, hP⟩
  · rename_i t ht
    have ht : P t := hP t (List.mem_of_getElem? ht)
    refine ⟨hstate p.1 t hI ht, fun t' ht' ↦ ?_⟩
    rcases List.mem_or_eq_of_mem_set ht' with ht' | rfl
    · exact hP t' ht'
    · exact htask p.1 t hI ht

/-- **What every step keeps is kept by every row of steps**, of the common state and of each
task. -/
theorem follow_keeps (hstate : ∀ s t, I s → P t → I (a.step s t).1)
    (htask : ∀ s t, I s → P t → P (a.step s t).2) (schedule : List Nat) :
    ∀ p : State × List Task, I p.1 → (∀ t ∈ p.2, P t) →
      I (a.follow p schedule).1 ∧ ∀ t ∈ (a.follow p schedule).2, P t := by
  induction schedule with
  | nil => exact fun p hI hP ↦ ⟨hI, hP⟩
  | cons i schedule ih =>
    intro p hI hP
    obtain ⟨hI', hP'⟩ := stepAt_keeps hstate htask hI hP i
    exact ih (a.stepAt p i) hI' hP'

/-- Requests that have just arrived, after a row of steps. -/
theorem follow_arriving (hstate : ∀ s t, I s → P t → I (a.step s t).1)
    (htask : ∀ s t, I s → P t → P (a.step s t).2) (harriving : ∀ r w, P (Task.arriving r w))
    {s : State} (hs : I s) (requests : List (Request × Surroundings)) (schedule : List Nat) :
    ∀ t ∈ (a.follow (s, requests.map fun p ↦ Task.arriving p.1 p.2) schedule).2, P t := by
  refine (follow_keeps hstate htask schedule (s, _) hs fun t ht ↦ ?_).2
  obtain ⟨p, -, rfl⟩ := List.mem_map.1 ht
  exact harriving p.1 p.2

end App
end InjectingProxy
