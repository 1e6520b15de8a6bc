import Mathlib.Algebra.Order.Ring.Rat
import Mathlib.Data.List.Forall2
import InjectingProxy.Metrics.Exposition
import InjectingProxy.Proofs.Metrics.Balance
import InjectingProxy.Proofs.Metrics.Ledger

/-!
# What a history adds up to

A meter is told of outcomes, of requests that begin and of requests that are over, in any order.  A
request can be said to be over twice or without having begun, and the clock can go back.  Whatever
the history, the ledger adds up to it (`Meter.history_adds_up`): each outcome has been recorded so
many times, so many requests have begun and so many are over, and so many of these took no longer
than the bound of a bucket.

One step changes the totals, the requests in flight and the latency in one way each
(`Meter.total_take`, `Meter.inFlight_take`, `Meter.latency_take`), and from there on only the buckets
need an argument.  A histogram counts an amount in one bucket, and reports how many amounts are in a
bucket or in one before it.  If the bounds are in order, these are the amounts that lie at or below
the bound (`Histogram.cumulative_observeAll`).

Times are exact numbers here.  The bounds of the buckets are those of the proxy
(`Exposition.exactBounds`), and they are in order.
-/

set_option autoImplicit false

namespace InjectingProxy

variable {τ : Type}

/-! ## Buckets -/

namespace Histogram

/-- The bounds are in order: what lies below one lies below those after it. -/
def IsOrdered [LE τ] [DecidableLE τ] (h : Histogram τ) : Prop :=
  (h.buckets.map Prod.fst).Pairwise fun b c ↦ ∀ x, b.admits x = true → c.admits x = true

theorem bounds_runningTotals (buckets : List (Bound τ × Nat)) : ∀ before,
    (runningTotals before buckets).map Prod.fst = buckets.map Prod.fst := by
  induction buckets with
  | nil => simp [runningTotals]
  | cons bucket rest ih => simp [runningTotals, ih]

/-- What is in earlier buckets counts for all. -/
theorem runningTotals_succ (buckets : List (Bound τ × Nat)) : ∀ before,
    runningTotals (before + 1) buckets =
      (runningTotals before buckets).map fun e ↦ (e.1, e.2 + 1) := by
  induction buckets with
  | nil => simp [runningTotals]
  | cons bucket rest ih =>
    intro before
    simp [runningTotals, ← ih, Nat.add_right_comm before 1 bucket.2]

theorem le_of_mem_runningTotals {e : Bound τ × Nat} {buckets : List (Bound τ × Nat)} :
    ∀ {before}, e ∈ runningTotals before buckets → before ≤ e.2 := by
  induction buckets with
  | nil => simp [runningTotals]
  | cons bucket rest ih =>
    intro before h
    rcases List.mem_cons.1 h with rfl | h
    · exact Nat.le_add_right before bucket.2
    · exact Nat.le_trans (Nat.le_add_right before bucket.2) (ih h)

/-- **Later buckets report no less than earlier ones**, whatever their bounds are. -/
theorem pairwise_runningTotals (buckets : List (Bound τ × Nat)) : ∀ before,
    ((runningTotals before buckets).map Prod.snd).Pairwise (· ≤ ·) := by
  induction buckets with
  | nil => simp [runningTotals]
  | cons bucket rest ih =>
    intro before
    refine List.pairwise_cons.2 ⟨fun n hn ↦ ?_, ih _⟩
    obtain ⟨e, he, rfl⟩ := List.mem_map.1 hn
    exact le_of_mem_runningTotals he

section Place

variable [LE τ] [DecidableLE τ]

/-- An amount that is counted in one bucket is reported by all that admit it. -/
theorem runningTotals_place (amount : τ) {buckets : List (Bound τ × Nat)}
    (h : (buckets.map Prod.fst).Pairwise fun b c ↦ ∀ x, b.admits x = true → c.admits x = true) :
    ∀ before, runningTotals before (place amount buckets) =
      (runningTotals before buckets).map fun e ↦ (e.1, e.2 + (e.1.admits amount).toNat) := by
  induction buckets with
  | nil => simp [runningTotals, place]
  | cons bucket rest ih =>
    intro before
    obtain ⟨hfirst, hrest⟩ := List.pairwise_cons.1 h
    rw [place]
    by_cases hadmits : bucket.1.admits amount = true
    · -- then so does every bound after it
      have hlater : ∀ e ∈ runningTotals (before + bucket.2) rest, e.1.admits amount = true := by
        intro e he
        refine hfirst e.1 ?_ amount hadmits
        rw [← bounds_runningTotals rest (before + bucket.2)]
        exact List.mem_map_of_mem he
      have hmore : (runningTotals (before + bucket.2) rest).map (fun e ↦ (e.1, e.2 + 1)) =
          (runningTotals (before + bucket.2) rest).map
            fun e ↦ (e.1, e.2 + (e.1.admits amount).toNat) :=
        List.map_congr_left fun e he ↦ by rw [hlater e he, Bool.toNat_true]
      rw [if_pos hadmits, runningTotals, runningTotals, List.map_cons, ← hmore,
        ← runningTotals_succ, hadmits]
      rfl
    · rw [if_neg hadmits, runningTotals, runningTotals, List.map_cons, ih hrest,
        Bool.eq_false_iff.2 hadmits]
      rfl

end Place

section Observe

variable [Add τ] [LE τ] [DecidableLE τ]

theorem IsOrdered.observe {h : Histogram τ} (hordered : h.IsOrdered) (amount : τ) :
    (h.observe amount).IsOrdered := by
  rw [IsOrdered, Histogram.observe, bounds_place]
  exact hordered

theorem IsOrdered.observeAll (amounts : List τ) : ∀ {h : Histogram τ}, h.IsOrdered →
    (h.observeAll amounts).IsOrdered := by
  induction amounts with
  | nil => exact fun hordered ↦ hordered
  | cons x amounts ih => exact fun hordered ↦ ih (hordered.observe x)

theorem IsOrdered.cumulative_observe {h : Histogram τ} (hordered : h.IsOrdered) (amount : τ) :
    (h.observe amount).cumulative =
      h.cumulative.map fun e ↦ (e.1, e.2 + (e.1.admits amount).toNat) :=
  runningTotals_place amount hordered 0

/-- **Each bucket reports how many amounts its bound admits.** -/
theorem IsOrdered.cumulative_observeAll (amounts : List τ) : ∀ {h : Histogram τ}, h.IsOrdered →
    (h.observeAll amounts).cumulative =
      h.cumulative.map fun e ↦ (e.1, e.2 + amounts.countP e.1.admits) := by
  induction amounts with
  | nil =>
    intro h _
    simp [Histogram.observeAll]
  | cons x amounts ih =>
    intro h hordered
    rw [Histogram.observeAll, List.foldl_cons, ← Histogram.observeAll, ih (hordered.observe x),
      hordered.cumulative_observe, List.map_map]
    refine List.map_congr_left fun e _ ↦ ?_
    cases hadmits : e.1.admits x <;>
      simp [hadmits, Nat.add_assoc, Nat.add_comm 1]

/-- **What a bucket reports never decreases.** -/
theorem IsOrdered.cumulative_le {h : Histogram τ} (hordered : h.IsOrdered) (amounts : List τ) :
    List.Forall₂ (fun e e' ↦ e.1 = e'.1 ∧ e.2 ≤ e'.2) h.cumulative
      (h.observeAll amounts).cumulative := by
  rw [hordered.cumulative_observeAll, List.forall₂_map_right_iff, List.forall₂_same]
  exact fun e _ ↦ ⟨rfl, Nat.le_add_right e.2 _⟩

end Observe

/-- Empty buckets report nothing. -/
theorem cumulative_empty [OfNat τ 0] (limits : List τ) :
    (empty limits).cumulative = (limits.map Bound.upTo ++ [Bound.unbounded]).map fun b ↦ (b, 0) := by
  rw [cumulative, empty]
  generalize limits.map Bound.upTo ++ [Bound.unbounded] = bounds
  induction bounds with
  | nil => simp [runningTotals]
  | cons b bounds ih => simp [runningTotals, ih]

theorem count_empty [OfNat τ 0] (limits : List τ) : (empty limits).count = 0 := by
  rw [count, empty]
  generalize limits.map Bound.upTo ++ [Bound.unbounded] = bounds
  induction bounds with
  | nil => rfl
  | cons b bounds ih => exact ih

theorem isOrdered_empty [LinearOrder τ] [OfNat τ 0] {limits : List τ}
    (h : limits.Pairwise (· ≤ ·)) : (empty limits).IsOrdered := by
  simp only [IsOrdered, empty, List.map_map, Function.comp_def, List.map_id', List.pairwise_append,
    List.pairwise_map, List.pairwise_singleton, List.mem_map, List.mem_singleton, true_and]
  constructor
  · refine h.imp fun hle x hx ↦ ?_
    exact decide_eq_true (le_trans (of_decide_eq_true hx) hle)
  · rintro b - c rfl x -
    exact decide_eq_true (le_refl x)

end Histogram

/-! ## Histories -/

namespace Meter

/-- What a meter is told, with the time on the clock: an outcome, a request that begins, or one that
is over and is said to have begun at some time. -/
inductive Step (τ : Type) where
  | record (o : Outcome)
  | start (clock : τ)
  | finish (clock began : τ)

namespace Step

/-- The outcome that is recorded. -/
def outcome? : Step τ → Option Outcome
  | .record o => some o
  | _ => none

/-- A request begins. -/
def isStart : Step τ → Bool
  | .start _ => true
  | _ => false

/-- A request is over. -/
def isFinish : Step τ → Bool
  | .finish _ _ => true
  | _ => false

/-- How long a request that is over took. -/
def elapsed? [Sub τ] : Step τ → Option τ
  | .finish clock began => some (clock - began)
  | _ => none

end Step

variable [Add τ] [Sub τ] [LE τ] [DecidableLE τ]

/-- Tell the meter one thing. -/
def take (m : Meter τ) : Step τ → Meter τ
  | .record o => { m with ledger := m.ledger.record o }
  | .start clock => Meter.start { m with now := clock }
  | .finish clock began => (Meter.finish { m with now := clock } began).2

/-- Tell the meter a history. -/
def takeAll (m : Meter τ) (history : List (Step τ)) : Meter τ := history.foldl take m

/-! ### One step -/

theorem total_take (m : Meter τ) (s : Step τ) (o : Outcome) :
    (m.take s).ledger.total o = m.ledger.total o + (s.outcome? == some o).toNat := by
  cases s with
  | record p =>
    refine (Ledger.total_record m.ledger p o).trans ?_
    by_cases h : o = p
    · simp [h, Step.outcome?]
    · simp [h, Ne.symm h, Step.outcome?]
  | start clock => rfl
  | finish clock began => rfl

theorem inFlight_take (m : Meter τ) (s : Step τ) :
    (m.take s).ledger.inFlight = m.ledger.inFlight + s.isStart.toNat - s.isFinish.toNat := by
  cases s with
  | record o => simp [take, Ledger.record, Step.isStart, Step.isFinish]
  | start clock => simp [take, start, Ledger.started, Step.isStart, Step.isFinish]
  | finish clock began => simp [take, finish, Ledger.finished, Step.isStart, Step.isFinish]

theorem latency_take (m : Meter τ) (s : Step τ) :
    (m.take s).ledger.latency = m.ledger.latency.observeAll s.elapsed?.toList := by
  cases s <;> rfl

/-! ### Histories of any length -/

theorem total_takeAll (history : List (Step τ)) (o : Outcome) : ∀ m : Meter τ,
    (m.takeAll history).ledger.total o =
      m.ledger.total o + history.countP fun s ↦ s.outcome? == some o := by
  induction history with
  | nil => exact fun m ↦ rfl
  | cons s history ih =>
    intro m
    rw [takeAll, List.foldl_cons, ← takeAll, ih, total_take]
    cases h : s.outcome? == some o <;> simp [h, Nat.add_assoc, Nat.add_comm 1]

theorem inFlight_takeAll (history : List (Step τ)) : ∀ m : Meter τ,
    (m.takeAll history).ledger.inFlight =
      m.ledger.inFlight + history.countP Step.isStart - history.countP Step.isFinish := by
  induction history with
  | nil => simp [takeAll]
  | cons s history ih =>
    intro m
    rw [takeAll, List.foldl_cons, ← takeAll, ih, inFlight_take, List.countP_cons, List.countP_cons]
    cases s.isStart <;> cases s.isFinish <;> simp <;> omega

theorem latency_takeAll (history : List (Step τ)) : ∀ m : Meter τ,
    (m.takeAll history).ledger.latency =
      m.ledger.latency.observeAll (history.filterMap Step.elapsed?) := by
  induction history with
  | nil => exact fun m ↦ rfl
  | cons s history ih =>
    intro m
    rw [takeAll, List.foldl_cons, ← takeAll, ih, latency_take, ← Histogram.observeAll_append]
    cases h : s.elapsed? <;> simp [h]

end Meter

/-! ## Totals -/

/-- The ledger adds up to a history: what it says of outcomes, of requests in flight, of requests
that are over, and of how long these took. -/
structure Ledger.AddsUp [Sub τ] [LE τ] [DecidableLE τ] (l : Ledger τ) (limits : List τ)
    (history : List (Meter.Step τ)) : Prop where
  total : ∀ o, l.total o = history.countP fun s ↦ s.outcome? == some o
  inFlight : l.inFlight = history.countP Meter.Step.isStart - history.countP Meter.Step.isFinish
  count : l.latency.count = history.countP Meter.Step.isFinish
  cumulative : l.latency.cumulative =
    limits.map (fun limit ↦
      (.upTo limit, history.countP fun s ↦ s.elapsed?.any fun time ↦ time ≤ limit)) ++
      [(.unbounded, l.latency.count)]

namespace Meter

theorem length_elapsed [Sub τ] (history : List (Step τ)) :
    (history.filterMap Step.elapsed?).length = history.countP Step.isFinish := by
  rw [List.length_filterMap_eq_countP]
  refine List.countP_congr fun s _ ↦ ?_
  cases s <;> simp [Step.elapsed?, Step.isFinish]

section Linear

variable [Add τ] [Sub τ] [OfNat τ 0] [LinearOrder τ]

/-- A meter that has been told nothing. -/
def fresh (limits : List τ) (clock : τ) : Meter τ := ⟨.empty limits, clock⟩

/-- **A ledger whose buckets are in order adds up to its history.** -/
theorem addsUp_takeAll {limits : List τ} (h : limits.Pairwise (· ≤ ·)) (clock : τ)
    (history : List (Step τ)) :
    ((fresh limits clock).takeAll history).ledger.AddsUp limits history := by
  have hlatency : ((fresh limits clock).takeAll history).ledger.latency =
      (Histogram.empty limits).observeAll (history.filterMap Step.elapsed?) :=
    latency_takeAll history (fresh limits clock)
  have hcount : ((fresh limits clock).takeAll history).ledger.latency.count =
      history.countP Step.isFinish := by
    rw [hlatency, Histogram.count_observeAll _ (fun x _ ↦ le_refl x)
      (Histogram.isOpen_empty limits), length_elapsed, Histogram.count_empty, Nat.zero_add]
  refine
    { total := fun o ↦ ?_
      inFlight := ?_
      count := hcount
      cumulative := ?_ }
  · rw [total_takeAll]
    exact Nat.zero_add _
  · rw [inFlight_takeAll]
    exact congrArg (· - _) (Int.zero_add _)
  · have hlimit (limit : τ) : (history.filterMap Step.elapsed?).countP (Bound.upTo limit).admits =
        history.countP fun s ↦ s.elapsed?.any fun time ↦ time ≤ limit := by
      rw [List.countP_filterMap]
      refine List.countP_congr fun s _ ↦ ?_
      cases s.elapsed? <;> simp [Bound.admits]
    have hall : (history.filterMap Step.elapsed?).countP Bound.unbounded.admits =
        history.countP Step.isFinish := by
      rw [← length_elapsed, List.countP_eq_length]
      exact fun time _ ↦ decide_eq_true (le_refl time)
    rw [hcount, hlatency, (Histogram.isOrdered_empty h).cumulative_observeAll,
      Histogram.cumulative_empty]
    simp [hlimit, hall]

end Linear

end Meter

/-! ## The ledger of the proxy -/

/-- The exact value of a number; nothing that is no number or infinite has one. -/
def Binary.exact : Binary → ℚ
  | .finite negative m q =>
    let size : ℚ := if 0 ≤ q then m * pow2 q.toNat else m / pow2 (-q).toNat
    if negative then -size else size
  | _ => 0

/-- The bounds of the latency buckets as exact numbers. -/
def Exposition.exactBounds : List ℚ := bounds.map fun x ↦ (Binary.ofFloat x).exact

theorem Exposition.exactBounds_pairwise : exactBounds.Pairwise (· ≤ ·) := by
  decide +kernel

namespace Meter

/-- **What the proxy has measured adds up to its whole history**, in whichever order requests begin
and end, and wherever the clock stands.  Each total is the number of times that the outcome was
recorded; as many requests are in flight as have begun and are not over; each bucket reports how many
requests have taken no longer than its bound, and so no less than the buckets before it.  To record
an outcome changes nothing else, and no total and no bucket ever decreases. -/
theorem history_adds_up (clock : ℚ) (history more : List (Step ℚ)) :
    let m := (fresh Exposition.exactBounds clock).takeAll history
    m.ledger.AddsUp Exposition.exactBounds history ∧
      (m.ledger.latency.cumulative.map Prod.snd).Pairwise (· ≤ ·) ∧
      (∀ o, (m.take (.record o)).ledger.inFlight = m.ledger.inFlight ∧
        (m.take (.record o)).ledger.latency = m.ledger.latency ∧
        ∀ p, (m.take (.record o)).ledger.total p = m.ledger.total p + if p = o then 1 else 0) ∧
      (∀ o, m.ledger.total o ≤ (m.takeAll more).ledger.total o) ∧
      List.Forall₂ (fun e e' ↦ e.1 = e'.1 ∧ e.2 ≤ e'.2) m.ledger.latency.cumulative
        (m.takeAll more).ledger.latency.cumulative := by
  intro m
  have hordered : m.ledger.latency.IsOrdered := by
    rw [show m.ledger.latency = _ from latency_takeAll history _]
    exact (Histogram.isOrdered_empty Exposition.exactBounds_pairwise).observeAll _
  refine ⟨addsUp_takeAll Exposition.exactBounds_pairwise clock history,
    Histogram.pairwise_runningTotals _ 0, fun o ↦ ⟨rfl, rfl, Ledger.total_record m.ledger o⟩,
    fun o ↦ ?_, ?_⟩
  · rw [total_takeAll more o m]
    exact Nat.le_add_right _ _
  · rw [latency_takeAll more m]
    exact hordered.cumulative_le _

/-- A request that is over twice, both times before it has begun, leaves fewer than none in flight,
and both times are counted in the first bucket. -/
example :
    let l := ((fresh Exposition.exactBounds 0).takeAll
      [.start 3, .finish 1 3, .finish 1 3]).ledger
    l.inFlight = -1 ∧ l.latency.cumulative.head?.map Prod.snd = some 2 ∧ l.latency.count = 2 := by
  decide +kernel

end Meter

end InjectingProxy
