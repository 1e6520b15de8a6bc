import InjectingProxy.Metrics.Meter

/-!
# Measured calls are in balance

Calls are nested: each can make further calls in turn, and a fault of one of them comes out of all
calls around it and cuts the rest short.  `Call.visits` lists the calls that are made while one
runs, each with the number of requests around it and the meter with which it begins.  Whatever the
tree of calls and wherever a fault comes from, the number of requests in flight is the same when a
call ends as when it began, each call finds it raised by the requests around it, and there is one
observation for each request (`Call.run_balances`).

The induction is on the tree (`Call.induction`).  What is true of each of some calls is true of
these calls in turn, up to the first that fails (`Call.runAll_balances`), and from there it is one
step to the call that makes them.

That an observation is counted needs a histogram with a bucket that admits it
(`Histogram.count_observeAll`).
-/

set_option autoImplicit false

namespace InjectingProxy

variable {τ ε : Type}

/-! ## Observations -/

namespace Histogram

/-- The histogram has a bucket without an upper bound. -/
def IsOpen (h : Histogram τ) : Prop := .unbounded ∈ h.buckets.map Prod.fst

theorem isOpen_empty [OfNat τ 0] (limits : List τ) : (empty limits).IsOpen := by
  simp [IsOpen, empty]

section Place

variable [LE τ] [DecidableLE τ]

theorem bounds_place (amount : τ) (buckets : List (Bound τ × Nat)) :
    (place amount buckets).map Prod.fst = buckets.map Prod.fst := by
  induction buckets with
  | nil => rfl
  | cons bucket rest ih =>
    rw [place]
    split
    · rfl
    · exact congrArg (bucket.1 :: ·) ih

/-- One bucket counts an amount, if there is one that admits it. -/
theorem foldl_place {amount : τ} {buckets : List (Bound τ × Nat)}
    (h : ∃ b ∈ buckets.map Prod.fst, b.admits amount = true) : ∀ start : Nat,
    ((place amount buckets).map Prod.snd).foldl Nat.add start =
      (buckets.map Prod.snd).foldl Nat.add start + 1 := by
  have hshift (ns : List Nat) : ∀ start : Nat,
      ns.foldl Nat.add (start + 1) = ns.foldl Nat.add start + 1 := by
    induction ns with
    | nil => exact fun _ ↦ rfl
    | cons n ns ih =>
      intro start
      rw [List.foldl_cons, List.foldl_cons, ← ih]
      exact congrArg (ns.foldl Nat.add) (Nat.add_right_comm start 1 n)
  induction buckets with
  | nil =>
    obtain ⟨b, hb, -⟩ := h
    cases hb
  | cons bucket rest ih =>
    intro start
    rw [place]
    split
    · exact hshift _ (start + bucket.2)
    · rename_i hrefused
      obtain ⟨b, hb, hadmits⟩ := h
      rcases List.mem_cons.1 hb with rfl | hb
      · exact absurd hadmits hrefused
      · exact ih ⟨b, hb, hadmits⟩ (start + bucket.2)

end Place

variable [Add τ] [LE τ] [DecidableLE τ]

/-- Observe amounts one after the other. -/
def observeAll (h : Histogram τ) (amounts : List τ) : Histogram τ := amounts.foldl observe h

theorem IsOpen.observe {h : Histogram τ} (hopen : h.IsOpen) (amount : τ) :
    (h.observe amount).IsOpen := by
  rw [IsOpen, Histogram.observe, bounds_place]
  exact hopen

/-- **An amount that is a number is counted.** -/
theorem IsOpen.count_observe {h : Histogram τ} (hopen : h.IsOpen) {amount : τ}
    (hnumber : amount ≤ amount) : (h.observe amount).count = h.count + 1 :=
  foldl_place ⟨.unbounded, hopen, decide_eq_true hnumber⟩ 0

theorem IsOpen.observeAll (amounts : List τ) : ∀ {h : Histogram τ}, h.IsOpen →
    (h.observeAll amounts).IsOpen := by
  induction amounts with
  | nil => exact fun hopen ↦ hopen
  | cons x amounts ih => exact fun hopen ↦ ih (hopen.observe x)

theorem count_observeAll (amounts : List τ) (hnumbers : ∀ x ∈ amounts, x ≤ x) :
    ∀ {h : Histogram τ}, h.IsOpen → (h.observeAll amounts).count = h.count + amounts.length := by
  induction amounts with
  | nil => exact fun _ ↦ rfl
  | cons x amounts ih =>
    intro h hopen
    have hrest := ih (fun y hy ↦ hnumbers y (List.mem_cons_of_mem x hy)) (hopen.observe x)
    rw [hopen.count_observe (hnumbers x List.mem_cons_self)] at hrest
    rw [List.length_cons, observeAll, List.foldl_cons]
    exact hrest.trans (by omega)

theorem observeAll_append (h : Histogram τ) (first rest : List τ) :
    h.observeAll (first ++ rest) = (h.observeAll first).observeAll rest :=
  List.foldl_append

end Histogram

/-- **Whatever is observed between, a request that begins and ends leaves as many in flight as
before, and one observation more.** -/
theorem Meter.finish_of_start [Add τ] [Sub τ] [LE τ] [DecidableLE τ] (m m' : Meter τ)
    (between : List τ) (hinFlight : m'.ledger.inFlight = m.start.ledger.inFlight)
    (hlatency : m'.ledger.latency = m.start.ledger.latency.observeAll between) :
    (m'.finish m.now).2.ledger.inFlight = m.ledger.inFlight ∧
      (m'.finish m.now).2.ledger.latency =
        m.ledger.latency.observeAll (between ++ [(m'.finish m.now).1.elapsed]) := by
  have hlatency : m'.ledger.latency = m.ledger.latency.observeAll between := hlatency
  refine ⟨(congrArg (· - 1) hinFlight).trans (Int.add_sub_cancel _ 1), ?_⟩
  rw [Histogram.observeAll_append, ← hlatency]
  rfl

/-! ## The parts of a call -/

namespace Call

/-- The call serves a request. -/
def served : Call τ ε → Bool
  | .node served _ _ _ => served

/-- The time that passes in the call before it makes further calls. -/
def time : Call τ ε → τ
  | .node _ time _ _ => time

/-- The calls that the call makes. -/
def calls : Call τ ε → List (Call τ ε)
  | .node _ _ calls _ => calls

/-- The fault with which the call ends of itself. -/
def ownFault? : Call τ ε → Option ε
  | .node _ _ _ fault => fault

/-- What holds of a call if it holds of all calls that it makes holds of every call. -/
theorem induction {P : Call τ ε → Prop}
    (node : ∀ served time calls fault, (∀ c ∈ calls, P c) → P (.node served time calls fault)) :
    ∀ c, P c
  | .node served time calls fault => node served time calls fault fun c _ ↦ induction node c

/-- The meter while the call runs: one request more is in flight, if the call serves one. -/
def enter (c : Call τ ε) (m : Meter τ) : Meter τ := if c.served then m.start else m

theorem enter_inFlight (c : Call τ ε) (m : Meter τ) :
    (c.enter m).ledger.inFlight = m.ledger.inFlight + c.served.toNat := by
  rw [enter]
  cases c.served
  · exact (Int.add_zero _).symm
  · rfl

variable [Add τ] [Sub τ] [LE τ] [DecidableLE τ]

/-- What the calls do that a call makes. -/
def inner (c : Call τ ε) (m : Meter τ) : CallResult τ ε :=
  runAll c.calls ((c.enter m).advance c.time)

section Run

variable (c : Call τ ε) (m : Meter τ)

/-- The call sees what is in flight when it has begun, and then so do the calls that it makes. -/
theorem run_seen : (c.run m).seen = (c.enter m).ledger.inFlight :: (c.inner m).seen := by
  obtain ⟨served, time, calls, fault⟩ := c
  cases served <;> rw [run] <;> rfl

/-- The fault of a call that it makes comes out of the call, and else its own. -/
theorem run_raised : (c.run m).raised = (c.inner m).raised.or c.ownFault? := by
  obtain ⟨served, time, calls, fault⟩ := c
  cases served <;> rw [run] <;> rfl

/-- A request is measured in the end, whether there is a fault or not. -/
theorem run_of_served {c : Call τ ε} (h : c.served = true) :
    (c.run m).notes = (c.inner m).notes ++ [((c.inner m).meter.finish m.now).1] ∧
      (c.run m).meter = ((c.inner m).meter.finish m.now).2 := by
  obtain ⟨served, time, calls, fault⟩ := c
  obtain rfl : served = true := h
  rw [run]
  exact ⟨rfl, rfl⟩

/-- A call that serves no request measures nothing: the calls that it makes run on the meter as it
was, and what they leave is left. -/
theorem run_of_not_served {c : Call τ ε} (h : c.served = false) :
    c.inner m = runAll c.calls (m.advance c.time) ∧ (c.run m).notes = (c.inner m).notes ∧
      (c.run m).meter = (c.inner m).meter := by
  obtain ⟨served, time, calls, fault⟩ := c
  obtain rfl : served = false := h
  rw [run]
  exact ⟨rfl, rfl, rfl⟩

end Run

end Call

/-! ## The calls that are made -/

/-- A call that is made: the number of requests around it, and the meter with which it begins. -/
structure Visit (τ ε : Type) where
  call : Call τ ε
  below : Nat
  meter : Meter τ

variable [Add τ] [Sub τ] [LE τ] [DecidableLE τ]

namespace Call

mutual

/-- The calls that are made while a call runs, itself first. -/
def visits : Call τ ε → Nat → Meter τ → List (Visit τ ε)
  | .node served time calls fault, below, m =>
    ⟨.node served time calls fault, below, m⟩ ::
      visitsAll calls (below + served.toNat)
        (((Call.node served time calls fault).enter m).advance time)

/-- The calls that are made while calls run in turn, up to the first that fails. -/
def visitsAll : List (Call τ ε) → Nat → Meter τ → List (Visit τ ε)
  | [], _, _ => []
  | c :: rest, below, m =>
    c.visits below m ++
      if (c.run m).raised.isSome then [] else visitsAll rest below (c.run m).meter

end

end Call

namespace Visit

/-- How many requests are around the call, its own included. -/
def depth (v : Visit τ ε) : Nat := v.below + v.call.served.toNat

/-- The call fails of itself, after the calls that it makes have returned. -/
def Raises (v : Visit τ ε) (e : ε) : Prop :=
  (v.call.inner v.meter).raised = none ∧ v.call.ownFault? = some e

end Visit

/-- What is true of the result of calls below some requests, by the calls that were made: the
requests in flight are as before, and there is one observation for each request. -/
structure CallResult.Balances (r : CallResult τ ε) (visits : List (Visit τ ε)) (below : Nat)
    (m : Meter τ) : Prop where
  inFlight : r.meter.ledger.inFlight = m.ledger.inFlight
  totals : r.meter.ledger.totals = m.ledger.totals
  latency : r.meter.ledger.latency = m.ledger.latency.observeAll (r.notes.map Note.elapsed)
  observations : r.notes.length = visits.countP fun v ↦ v.call.served
  entries : ∀ v ∈ visits, v.meter.ledger.inFlight + below = m.ledger.inFlight + v.below
  seen : r.seen = visits.map fun v ↦ (v.call.enter v.meter).ledger.inFlight
  raised : ∀ v ∈ visits, ∀ e, (v.call.run v.meter).raised = some e → r.raised = some e
  origin : ∀ e, r.raised = some e → ∃ v ∈ visits, v.Raises e

namespace CallResult.Balances

variable {vs vs' : List (Visit τ ε)} {below : Nat} {m : Meter τ}

theorem nil (below : Nat) (m : Meter τ) :
    Balances (⟨[], none, [], m⟩ : CallResult τ ε) [] below m where
  inFlight := rfl
  totals := rfl
  latency := rfl
  observations := rfl
  entries := fun _ h ↦ absurd h List.not_mem_nil
  seen := rfl
  raised := fun _ h ↦ absurd h List.not_mem_nil
  origin := fun _ h ↦ absurd h.symm (Option.some_ne_none _)

/-- After calls that have returned, more calls are in balance. -/
theorem append {r r' : CallResult τ ε} (h : r.Balances vs below m) (hreturned : r.raised = none)
    (h' : r'.Balances vs' below r.meter) :
    Balances ⟨r.seen ++ r'.seen, r'.raised, r.notes ++ r'.notes, r'.meter⟩ (vs ++ vs') below m where
  inFlight := h'.inFlight.trans h.inFlight
  totals := h'.totals.trans h.totals
  latency := by
    rw [List.map_append, Histogram.observeAll_append, ← h.latency]
    exact h'.latency
  observations := by
    rw [List.length_append, List.countP_append, h.observations, h'.observations]
  entries := by
    intro v hv
    rcases List.mem_append.1 hv with hv | hv
    · exact h.entries v hv
    · rw [← h.inFlight]
      exact h'.entries v hv
  seen := by rw [List.map_append, ← h.seen, ← h'.seen]
  raised := by
    intro v hv e he
    rcases List.mem_append.1 hv with hv | hv
    · cases hreturned.symm.trans (h.raised v hv e he)
    · exact h'.raised v hv e he
  origin := by
    intro e he
    obtain ⟨v, hv, hraises⟩ := h'.origin e he
    exact ⟨v, List.mem_append_right vs hv, hraises⟩

/-- If the calls that a call makes are in balance, then so is the call: what is added on entry is
taken away in the end, whatever comes out. -/
theorem around {c : Call τ ε}
    (h : (c.inner m).Balances vs (below + c.served.toNat) ((c.enter m).advance c.time)) :
    (c.run m).Balances (⟨c, below, m⟩ :: vs) below m := by
  have hentries : ∀ v ∈ (⟨c, below, m⟩ : Visit τ ε) :: vs,
      v.meter.ledger.inFlight + below = m.ledger.inFlight + v.below := by
    intro v hv
    rcases List.mem_cons.1 hv with rfl | hv
    · rfl
    · -- what the call adds to the requests in flight, it adds to those around its inner calls
      have hinner : v.meter.ledger.inFlight + ↑(below + c.served.toNat) =
          (c.enter m).ledger.inFlight + v.below := h.entries v hv
      rw [c.enter_inFlight] at hinner
      omega
  have hseen : (c.run m).seen = ((⟨c, below, m⟩ : Visit τ ε) :: vs).map fun v ↦
      (v.call.enter v.meter).ledger.inFlight := by
    rw [c.run_seen, List.map_cons, ← h.seen]
  have hraised : ∀ v ∈ (⟨c, below, m⟩ : Visit τ ε) :: vs, ∀ e,
      (v.call.run v.meter).raised = some e → (c.run m).raised = some e := by
    intro v hv e he
    rcases List.mem_cons.1 hv with rfl | hv
    · exact he
    · rw [c.run_raised]
      exact Option.or_eq_some_iff.2 (.inl (h.raised v hv e he))
  have horigin : ∀ e, (c.run m).raised = some e →
      ∃ v ∈ (⟨c, below, m⟩ : Visit τ ε) :: vs, v.Raises e := by
    intro e he
    rw [c.run_raised] at he
    rcases Option.or_eq_some_iff.1 he with hinner | ⟨hinner, hown⟩
    · obtain ⟨v, hv, hraises⟩ := h.origin e hinner
      exact ⟨v, List.mem_cons_of_mem _ hv, hraises⟩
    · exact ⟨_, List.mem_cons_self, hinner, hown⟩
  cases hserved : c.served with
  | false =>
    obtain ⟨-, hnotes, hmeter⟩ := Call.run_of_not_served m hserved
    rw [Call.enter, hserved, if_neg Bool.false_ne_true] at h
    refine ⟨?_, ?_, ?_, ?_, hentries, hseen, hraised, horigin⟩
    · rw [hmeter]
      exact h.inFlight
    · rw [hmeter]
      exact h.totals
    · rw [hmeter, hnotes]
      exact h.latency
    · rw [hnotes, List.countP_cons_of_neg (by simp [hserved])]
      exact h.observations
  | true =>
    obtain ⟨hnotes, hmeter⟩ := Call.run_of_served m hserved
    rw [Call.enter, hserved, if_pos rfl] at h
    obtain ⟨hinFlight, hlatency⟩ := Meter.finish_of_start m _ _ h.inFlight h.latency
    refine ⟨?_, ?_, ?_, ?_, hentries, hseen, hraised, horigin⟩
    · rw [hmeter]
      exact hinFlight
    · rw [hmeter]
      exact h.totals
    · rw [hmeter, hnotes, List.map_append]
      exact hlatency
    · rw [hnotes, List.length_append, List.countP_cons_of_pos (by simp [hserved]), h.observations]
      rfl

end CallResult.Balances

/-! ## The balance -/

namespace Call

/-- What is true of each of some calls is true of these calls in turn. -/
theorem runAll_balances {calls : List (Call τ ε)}
    (h : ∀ c ∈ calls, ∀ below m, (c.run m).Balances (c.visits below m) below m) :
    ∀ (below : Nat) (m : Meter τ),
      (runAll calls m).Balances (visitsAll calls below m) below m := by
  induction calls with
  | nil =>
    intro below m
    rw [runAll, visitsAll]
    exact .nil below m
  | cons c rest ih =>
    intro below m
    have hfirst := h c List.mem_cons_self below m
    rw [runAll, visitsAll]
    cases hraised : (c.run m).raised with
    | some e =>
      simp only [Option.isSome_some, if_true, List.append_nil]
      rw [← hraised]
      exact hfirst
    | none =>
      exact hfirst.append hraised
        (ih (fun c hc ↦ h c (List.mem_cons_of_mem _ hc)) below (c.run m).meter)

/-- **Every call is in balance**, whatever calls it makes, and whichever of them fail. -/
theorem run_balances (c : Call τ ε) :
    ∀ (below : Nat) (m : Meter τ), (c.run m).Balances (c.visits below m) below m := by
  induction c using Call.induction with
  | node served time calls fault ih =>
    intro below m
    rw [visits]
    exact .around (runAll_balances ih _ _)

end Call

end InjectingProxy
