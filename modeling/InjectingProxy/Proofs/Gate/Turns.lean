import Mathlib.Algebra.Order.Floor.Div
import Mathlib.Data.Int.ModEq
import InjectingProxy.Proofs.Gate

/-!
# The turns of a gate

Each consultation of a gate, and each increment beside it, counts one further
(`Counting.getElem?_run`).  So the ordinals of a run are consecutive, whoever shares the count, and
what a gate decides depends on the ordinal and on its modulus alone (`Counting.sharesCount`).

If nobody else counts, the decisions of a gate in a row are those for consecutive ordinals
(`Gate.decisions_eq`), and a part of the row is a row again, from a later start.  Of as many
consecutive ordinals as the modulus says, exactly one comes after a multiple of it
(`Gate.count_window`), and this needs no assumption on the start, which may be below zero.  From
the start 0, each multiple below the number of decisions adds one turn (`Gate.count_turns`).

`Gate.one_turn_per_window` puts this together.
-/

set_option autoImplicit false

namespace InjectingProxy

/-! ## A count that is shared -/

namespace Counting

/-- The gate that is consulted, if one is. -/
def gate? : Counting → Option Gate
  | .consult g => some g
  | .increment => none

/-- The count after some operations: the ordinal of what was counted last. -/
def after (start : Int) (cs : List Counting) : Int :=
  (run start cs).getLast?.elim start Counted.ordinal

theorem perform_eq (count : Int) (c : Counting) :
    c.perform count = ⟨count + 1, c.gate?.map (·.injects (count + 1))⟩ := by
  cases c <;> rfl

/-- **What comes of an operation depends on its place**, and not on the operations before it. -/
theorem getElem?_run (cs : List Counting) : ∀ (start : Int) (i : Nat),
    (run start cs)[i]? = cs[i]?.map fun c ↦ c.perform (start + i) := by
  induction cs with
  | nil => exact fun _ _ ↦ rfl
  | cons c cs ih =>
    intro start i
    cases i with
    | zero =>
      rw [Int.natCast_zero, Int.add_zero]
      rfl
    | succ i =>
      have hnext : (c.perform start).ordinal + i = start + (i + 1 : Nat) := by
        rw [perform_eq, Int.natCast_succ, Int.add_assoc, Int.add_comm 1]
      rw [run, List.getElem?_cons_succ, List.getElem?_cons_succ, ih, hnext]

theorem length_run (cs : List Counting) : ∀ start, (run start cs).length = cs.length := by
  induction cs with
  | nil => exact fun _ ↦ rfl
  | cons c cs ih => exact fun _ ↦ congrArg (· + 1) (ih _)

theorem after_eq (start : Int) (cs : List Counting) : after start cs = start + cs.length := by
  rw [after, List.getLast?_eq_getElem?, getElem?_run, length_run]
  rcases List.eq_nil_or_concat cs with rfl | ⟨before, c, rfl⟩
  · exact (Int.add_zero start).symm
  · simp [perform_eq, Int.add_assoc]

/-- The ordinals of a run are consecutive. -/
theorem ordinals_run (start : Int) (cs : List Counting) :
    (run start cs).map Counted.ordinal =
      (List.range cs.length).map fun i : Nat ↦ start + i + 1 := by
  refine List.ext_getElem? fun i ↦ ?_
  rw [List.getElem?_map, List.getElem?_map, getElem?_run]
  rcases Nat.lt_or_ge i cs.length with hi | hi
  · simp [hi, perform_eq]
  · simp [hi]

/-- Operations on a shared count: each counts one, with an ordinal of its own, and a decision
depends on the ordinal and on the modulus of the gate that was asked. -/
structure SharesCount (start : Int) (cs : List Counting) : Prop where
  length : (run start cs).length = cs.length
  final : after start cs = start + cs.length
  distinct : ((run start cs).map Counted.ordinal).Nodup
  ordinal : ∀ (i : Nat) (counted : Counted), (run start cs)[i]? = some counted →
    counted.ordinal = start + (i + 1)
  decided : ∀ (i : Nat) (g : Gate) (counted : Counted), cs[i]? = some (.consult g) →
    (run start cs)[i]? = some counted →
      counted.decision = some (decide (counted.ordinal ≡ 1 [ZMOD g.modulus]))

/-- **Whoever shares a count, each of them counts one.** -/
theorem sharesCount (start : Int) (cs : List Counting) : SharesCount start cs where
  length := length_run cs start
  final := after_eq start cs
  distinct := by
    rw [ordinals_run]
    exact List.nodup_range.map fun i j h ↦ by simpa using h
  ordinal := by
    intro i counted h
    rw [getElem?_run] at h
    obtain ⟨c, -, rfl⟩ := Option.map_eq_some_iff.1 h
    rw [perform_eq]
    exact Int.add_assoc start i 1
  decided := by
    intro i g counted hc h
    rw [getElem?_run, hc] at h
    cases h
    rfl

end Counting

/-! ## Decisions in a row -/

namespace Gate

/-- What a gate decides in so many consultations, if nobody else counts. -/
def decisions (g : Gate) (start : Int) (k : Nat) : List Bool :=
  (Counting.run start (List.replicate k (.consult g))).filterMap Counted.decision

variable (g : Gate)

theorem toNat_modulus : (g.modulus.toNat : Int) = g.modulus :=
  Int.toNat_of_nonneg (Int.le_trans (by decide) g.one_le_modulus)

theorem toNat_modulus_pos : 0 < g.modulus.toNat := by
  have := g.one_le_modulus
  omega

/-- Counting from zero, the turns come after the multiples of the modulus. -/
theorem injects_add_one_iff_dvd (before : Nat) :
    g.injects (before + 1) = true ↔ g.modulus.toNat ∣ before := by
  rw [injects_iff_dvd, Int.add_sub_cancel, ← Int.natCast_dvd_natCast, toNat_modulus]

theorem decisions_succ (start : Int) (k : Nat) :
    g.decisions start (k + 1) = g.injects (start + 1) :: g.decisions (start + 1) k := rfl

theorem decisions_eq (start : Int) (k : Nat) :
    g.decisions start k = (List.range k).map fun i : Nat ↦ g.injects (start + i + 1) := by
  induction k generalizing start with
  | zero => rfl
  | succ k ih =>
    rw [decisions_succ, ih, List.range_succ_eq_map, List.map_cons, List.map_map]
    refine congrArg₂ List.cons (by simp) (List.map_congr_left fun i _ ↦ ?_)
    have hnext : start + 1 + i = start + (i + 1 : Nat) := by omega
    rw [Function.comp_apply, hnext]

theorem length_decisions (start : Int) (k : Nat) : (g.decisions start k).length = k := by
  rw [decisions_eq, List.length_map, List.length_range]

theorem getElem?_decisions_eq_some_true_iff (start : Int) (k i : Nat) :
    (g.decisions start k)[i]? = some true ↔ i < k ∧ start + (i + 1) ≡ 1 [ZMOD g.modulus] := by
  rw [decisions_eq, List.getElem?_map, Option.map_eq_some_iff]
  simp only [List.getElem?_eq_some_iff, List.length_range, List.getElem_range, injects_iff]
  constructor
  · rintro ⟨_, ⟨hi, rfl⟩, h⟩
    exact ⟨hi, Int.add_assoc start i 1 ▸ h⟩
  · rintro ⟨hi, h⟩
    exact ⟨i, ⟨hi, rfl⟩, (Int.add_assoc start i 1).symm ▸ h⟩

/-- The decisions after some others are those from a later start. -/
theorem drop_decisions (start : Int) (j k : Nat) :
    (g.decisions start (j + k)).drop j = g.decisions (start + j) k := by
  induction j generalizing start with
  | zero => simp
  | succ j ih =>
    have hlater : start + 1 + j = start + (j + 1 : Nat) := by omega
    rw [Nat.add_right_comm, decisions_succ, List.drop_succ_cons, ih, hlater]

theorem take_decisions (start : Int) (j k : Nat) :
    (g.decisions start (j + k)).take j = g.decisions start j := by
  rw [decisions_eq, decisions_eq, ← List.map_take, List.take_range,
    Nat.min_eq_left (Nat.le_add_right j k)]

/-! ## Turns -/

/-- The only turn within one modulus from the start: what is missing to the next multiple. -/
theorem injects_within_iff (start : Int) {i : Nat} (hi : i < g.modulus.toNat) :
    g.injects (start + i + 1) = true ↔ i = (-start % g.modulus).toNat := by
  have hpos : 0 < g.modulus := g.one_le_modulus
  have hlt : (i : Int) < g.modulus := by
    rw [← g.toNat_modulus]
    exact Int.ofNat_lt.2 hi
  have hsmall : (i : Int) % g.modulus = i := Int.emod_eq_of_lt (Int.natCast_nonneg i) hlt
  have hnonneg : 0 ≤ -start % g.modulus := Int.emod_nonneg _ hpos.ne'
  calc g.injects (start + i + 1) = true
    _ ↔ g.modulus ∣ i - -start := by
      rw [injects_iff_dvd, Int.add_sub_cancel, Int.sub_neg, Int.add_comm start i]
    _ ↔ (i : Int) % g.modulus = -start % g.modulus := by
      rw [Int.emod_eq_emod_iff_emod_sub_eq_zero, Int.dvd_iff_emod_eq_zero]
    _ ↔ i = (-start % g.modulus).toNat := by
      rw [hsmall]
      omega

/-- **One turn in every window**, wherever it begins. -/
theorem count_window (start : Int) : (g.decisions start g.modulus.toNat).count true = 1 := by
  let turn := (-start % g.modulus).toNat
  have hturn : turn < g.modulus.toNat := by
    have hlt : -start % g.modulus < g.modulus := Int.emod_lt_of_pos _ g.one_le_modulus
    have := g.toNat_modulus_pos
    omega
  rw [decisions_eq, List.count, List.countP_map]
  calc (List.range g.modulus.toNat).countP _
    _ = (List.range g.modulus.toNat).count turn := List.countP_congr fun i hi ↦ by
      simpa [turn] using g.injects_within_iff start (List.mem_range.1 hi)
    _ = 1 := List.count_eq_one_of_mem List.nodup_range (List.mem_range.2 hturn)

/-- **From the start 0, a gate has as many turns as there are windows begun.** -/
theorem count_turns (k : Nat) : (g.decisions 0 k).count true = k ⌈/⌉ g.modulus.toNat := by
  induction k with
  | zero => rw [zero_ceilDiv]; rfl
  | succ k ih =>
    have hlast : g.decisions 0 (k + 1) = g.decisions 0 k ++ [g.injects (k + 1)] := by
      rw [decisions_eq, List.range_succ, List.map_append, ← decisions_eq, List.map_singleton,
        Int.zero_add]
    have hpos := g.toNat_modulus_pos
    have hinjects : g.injects (k + 1) = true ↔ g.modulus.toNat ∣ k + 1 + g.modulus.toNat - 1 := by
      rw [injects_add_one_iff_dvd, Nat.add_right_comm, Nat.add_sub_cancel,
        Nat.dvd_add_left (Nat.dvd_refl _)]
    have hk : k + 1 + g.modulus.toNat - 1 = k + g.modulus.toNat - 1 + 1 := by omega
    rw [hlast, List.count_append, ih, Nat.ceilDiv_eq_add_pred_div, Nat.ceilDiv_eq_add_pred_div, hk,
      Nat.succ_div, ← hk]
    cases hturn : g.injects (k + 1) with
    | true =>
      rw [if_pos (hinjects.1 hturn)]
      rfl
    | false =>
      rw [if_neg (mt hinjects.2 (Bool.not_eq_true _ ▸ hturn))]
      rfl

/-! ## Main statement -/

/-- The decisions of one gate that nobody else counts for, from any start. -/
structure HasTurns (g : Gate) : Prop where
  length : ∀ start k, (g.decisions start k).length = k
  /-- Of as many decisions in a row as the modulus says, exactly one is an injection. -/
  window : ∀ start k j, j + g.modulus.toNat ≤ k →
    (((g.decisions start k).drop j).take g.modulus.toNat).count true = 1
  /-- The injections are those whose ordinal is congruent to 1. -/
  residue : ∀ (start : Int) (k i : Nat),
    (g.decisions start k)[i]? = some true ↔ i < k ∧ start + (i + 1) ≡ 1 [ZMOD g.modulus]
  /-- From 0, these are the first decision and then every `modulus`-th. -/
  schedule : ∀ k i : Nat, (g.decisions 0 k)[i]? = some true ↔
    i < k ∧ ∃ before : Nat, i + 1 = 1 + before * g.modulus.toNat
  total : ∀ k, (g.decisions 0 k).count true = k ⌈/⌉ g.modulus.toNat

theorem hasTurns : g.HasTurns where
  length := g.length_decisions
  window := by
    intro start k j hk
    obtain ⟨rest, rfl⟩ := Nat.exists_eq_add_of_le hk
    rw [Nat.add_assoc, drop_decisions, take_decisions, count_window]
  residue := g.getElem?_decisions_eq_some_true_iff
  schedule := by
    intro k i
    rw [getElem?_decisions_eq_some_true_iff, Int.zero_add]
    refine and_congr_right fun _ ↦ ?_
    calc (i : Int) + 1 ≡ 1 [ZMOD g.modulus]
      _ ↔ g.modulus.toNat ∣ i := (g.injects_iff (i + 1)).symm.trans (g.injects_add_one_iff_dvd i)
      _ ↔ ∃ before : Nat, i + 1 = 1 + before * g.modulus.toNat := by
        simp only [Dvd.dvd, Nat.mul_comm g.modulus.toNat, Nat.add_comm 1, Nat.add_right_cancel_iff]
  total := g.count_turns

/-- **One injected error in every window, whatever the start.**  A positive modulus makes a gate.
Alone on a count, it injects exactly once in as many decisions in a row as the modulus says; and
whatever shares a count, each operation counts one and decides by its own ordinal. -/
theorem one_turn_per_window {m : Int} (hm : 1 ≤ m) :
    (∃ g, ofModulus m = .ok g ∧ g.modulus = m ∧ g.HasTurns) ∧
      ∀ start cs, Counting.SharesCount start cs :=
  ⟨⟨⟨m, hm⟩, dif_pos hm, rfl, hasTurns _⟩, Counting.sharesCount⟩

/-- A gate for every third request that starts below zero, alone and with others. -/
theorem third_turns_below_zero : ∃ g, ofModulus 3 = .ok g ∧
    g.decisions (-7) 6 = [false, true, false, false, true, false] ∧
      (((g.decisions (-7) 6).drop 2).take 3).count true = 1 ∧
        Counting.after (-7) [.consult g, .increment, .consult g.successor] = -4 := by
  obtain ⟨⟨g, hg, hmodulus, hturns⟩, hshares⟩ := one_turn_per_window (m := 3) (by decide)
  have hthree : g = ⟨3, by decide⟩ := by
    cases g
    cases hmodulus
    rfl
  have hwindow := hturns.window (-7) 6 2 (by rw [hmodulus]; decide)
  rw [hmodulus] at hwindow
  refine ⟨g, hg, ?_, hwindow, (hshares _ _).final⟩
  rw [hthree]
  decide

end Gate
end InjectingProxy
