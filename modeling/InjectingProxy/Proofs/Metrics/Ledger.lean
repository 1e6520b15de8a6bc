import InjectingProxy.Metrics.Ledger

/-!
# The totals of a ledger

Recording an outcome adds one to its total and leaves the other totals alone (`total_record`), so
the totals after many outcomes are counts of the list of outcomes (`total_recordAll`).
-/

set_option autoImplicit false

namespace InjectingProxy
namespace Ledger

variable {τ : Type}

theorem lookup_increment (o p : Outcome) (totals : List (Outcome × Nat)) :
    ((increment o totals).lookup p).getD 0
      = (totals.lookup p).getD 0 + if p = o then 1 else 0 := by
  induction totals with
  | nil =>
    rw [increment, List.lookup_cons]
    by_cases h : p = o
    · simp [h]
    · rw [beq_eq_false_iff_ne.2 h, if_neg h]
      rfl
  | cons entry rest ih =>
    obtain ⟨q, n⟩ := entry
    rw [increment]
    by_cases hq : q = o
    · subst hq
      rw [if_pos rfl, List.lookup_cons, List.lookup_cons]
      by_cases hp : p = q
      · simp [hp]
      · rw [beq_eq_false_iff_ne.2 hp, if_neg hp]
        rfl
    · rw [if_neg hq, List.lookup_cons, List.lookup_cons]
      by_cases hp : p = q
      · subst hp; simp [hq]
      · rw [beq_eq_false_iff_ne.2 hp]
        exact ih

/-- **Recording an outcome adds one to its total and to no other.** -/
theorem total_record (l : Ledger τ) (o p : Outcome) :
    (l.record o).total p = l.total p + if p = o then 1 else 0 :=
  lookup_increment o p l.totals

theorem total_recordAll (os : List Outcome) : ∀ (l : Ledger τ) (p : Outcome),
    (l.recordAll os).total p = l.total p + os.count p := by
  induction os with
  | nil => exact fun _ _ ↦ rfl
  | cons o os ih =>
    intro l p
    rw [recordAll, List.foldl_cons, ← recordAll, ih, total_record, List.count_cons]
    by_cases h : o = p
    · subst h; simp; omega
    · simp [h, Ne.symm h]

@[simp] theorem inFlight_recordAll (os : List Outcome) : ∀ l : Ledger τ,
    (l.recordAll os).inFlight = l.inFlight := by
  induction os with
  | nil => exact fun _ ↦ rfl
  | cons o os ih => exact fun l ↦ ih (l.record o)

@[simp] theorem latency_recordAll (os : List Outcome) : ∀ l : Ledger τ,
    (l.recordAll os).latency = l.latency := by
  induction os with
  | nil => exact fun _ ↦ rfl
  | cons o os ih => exact fun l ↦ ih (l.record o)

end Ledger
end InjectingProxy
