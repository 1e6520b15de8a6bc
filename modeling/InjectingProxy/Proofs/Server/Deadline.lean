import InjectingProxy.Proofs.Server
import Mathlib.Algebra.Order.Floor.Semiring
import Mathlib.Data.Rat.Floor
import Mathlib.Tactic.Linarith
import Mathlib.Tactic.NormNum

/-!
# A start ends

A start polls until the server is up, its thread has ended, or the deadline has passed
(`Server.IsDecided`).  Each sleep brings the deadline nearer by a twentieth of a second at least, so
there is a first poll of this kind (`Server.exists_first_decided`), and waiting ends there, with the
server up if it was up at that poll and failing if not (`Server.wait_of_first_decided`).

`Server.start_ends` says when that is and what the start leaves.  It is about exact numbers and
about any behaviour of the thread; the clock may go on faster than it has to
(`Course.GoesForward`).
-/

set_option autoImplicit false

namespace InjectingProxy

variable {τ : Type}

/-- The clock never goes back, and goes on by a twentieth of a second at least during a sleep. -/
structure Course.GoesForward [Field τ] [LinearOrder τ] (course : Course τ) : Prop where
  firstPoll : ∀ t, t ≤ course.firstPoll t
  elapse : ∀ n t, t + 1 / 20 ≤ course.elapse n t

namespace Server

/-- The server at the poll after some sleeps. -/
def polled (course : Course τ) (s : Server τ) (sleeps : Nat) : Server τ :=
  (sleep course)^[sleeps] (s.launch course)

/-- A poll that ends waiting. -/
def IsDecided [LT τ] (deadline : τ) (s : Server τ) : Prop :=
  s.up = true ∨ s.isAlive = false ∨ deadline < s.now

instance [LT τ] [DecidableLT τ] (deadline : τ) (s : Server τ) : Decidable (s.IsDecided deadline) :=
  inferInstanceAs (Decidable (_ ∨ _ ∨ _))

variable (course : Course τ)

/-! ## Waiting ends at the first poll that decides -/

section Wait

variable [LT τ] [DecidableLT τ] {deadline : τ} {s : Server τ}

theorem fails_iff : (!s.isAlive || decide (deadline < s.now)) = true ↔
    s.isAlive = false ∨ deadline < s.now := by
  rw [Bool.or_eq_true, Bool.not_eq_true', decide_eq_true_iff]

theorem wait_of_decided (h : s.IsDecided deadline) (polls : Nat) :
    s.wait course deadline (polls + 1) = if s.up then .up s else .failed s := by
  rw [wait]
  by_cases hup : s.up = true
  · rw [if_pos hup, if_pos hup]
  · rw [if_neg hup, if_neg hup, if_pos (fails_iff.2 (h.resolve_left hup))]

theorem wait_of_not_decided (h : ¬ s.IsDecided deadline) (polls : Nat) :
    s.wait course deadline (polls + 1) = (s.sleep course).wait course deadline polls := by
  obtain ⟨hup, hgoesOn⟩ := not_or.1 h
  rw [wait, if_neg hup, if_neg (hgoesOn ∘ fails_iff.1)]

/-- **Waiting ends at the first poll that decides**, however many more polls are allowed. -/
theorem wait_of_first_decided (sleeps : Nat) : ∀ (s : Server τ) (polls : Nat), sleeps < polls →
    (∀ k < sleeps, ¬ ((sleep course)^[k] s).IsDecided deadline) →
    ((sleep course)^[sleeps] s).IsDecided deadline →
    s.wait course deadline polls =
      if ((sleep course)^[sleeps] s).up then .up ((sleep course)^[sleeps] s)
      else .failed ((sleep course)^[sleeps] s) := by
  induction sleeps with
  | zero =>
    intro s polls hpolls _ hdecided
    obtain ⟨polls, rfl⟩ := Nat.exists_eq_succ_of_ne_zero (Nat.ne_of_gt hpolls)
    exact wait_of_decided course hdecided polls
  | succ sleeps ih =>
    intro s polls hpolls hearlier hdecided
    obtain ⟨polls, rfl⟩ := Nat.exists_eq_succ_of_ne_zero (Nat.ne_of_gt (Nat.zero_lt_of_lt hpolls))
    have hfirst : ¬ s.IsDecided deadline := hearlier 0 (Nat.succ_pos sleeps)
    rw [wait_of_not_decided course hfirst]
    exact ih (s.sleep course) polls (Nat.lt_of_succ_lt_succ hpolls)
      (fun k hk ↦ hearlier (k + 1) (Nat.succ_lt_succ hk)) hdecided

end Wait

/-! ## The server at a poll -/

theorem launches_polled (s : Server τ) (sleeps : Nat) : Launches s (s.polled course sleeps) := by
  induction sleeps with
  | zero => exact launches_launch course s
  | succ sleeps ih =>
    rw [polled, Function.iterate_succ_apply']
    exact ih.sleep course

/-- A server that is up listens on the first socket of the first of its places that has one. -/
theorem listeningPort_of_up {s : Server τ} (h : s.up = true) :
    s.listeningPort course = (course.sockets.findSome? List.head?).getD s.settings.port := by
  rw [listeningPort, if_pos h, List.head?_flatten]

section Stop

variable {settings : ServerSettings} {s : Server τ}

/-- A server that has been stopped does not run. -/
theorem IsLaunched.not_runs_stop (h : s.IsLaunched settings) :
    true ∉ (s.stop course).1.threads := by
  intro hruns
  obtain ⟨place, hplace⟩ := List.mem_iff_getElem?.1 hruns
  obtain ⟨hcurrent, hran, -⟩ := (runs_stop_iff course).1 hplace
  have hlt : place < 1 := h.threads ▸ (List.getElem?_eq_some_iff.1 hran).1
  rw [h.current, Nat.lt_one_iff.1 hlt] at hcurrent
  exact hcurrent rfl

/-- There is nothing left to be waited for. -/
theorem IsStopped.joins_stop (h : s.IsStopped settings) : (s.stop course).1.joins = s.joins := by
  rw [stop, h.current]
  rfl

end Stop

/-! ## The deadline passes -/

variable [Field τ] [LinearOrder τ] [IsStrictOrderedRing τ] {course}

theorem now_polled (hclock : course.GoesForward) (s : Server τ) (sleeps : Nat) :
    s.now + sleeps / 20 ≤ (s.polled course sleeps).now := by
  induction sleeps with
  | zero =>
    rw [Nat.cast_zero, zero_div, add_zero]
    exact hclock.firstPoll s.now
  | succ sleeps ih =>
    have helapse := hclock.elapse (s.polled course sleeps).sleeps (s.polled course sleeps).now
    have hnow : (s.polled course (sleeps + 1)).now =
        course.elapse (s.polled course sleeps).sleeps (s.polled course sleeps).now := by
      rw [polled, Function.iterate_succ_apply']
      rfl
    rw [hnow, Nat.cast_succ, add_div]
    linarith

variable [FloorSemiring τ]

/-- One poll after the last that the timeout leaves room for decides. -/
theorem exists_decided (hclock : course.GoesForward) (s : Server τ) (timeout : τ) :
    (s.polled course (⌊timeout / (1 / 20)⌋₊ + 1)).IsDecided (s.now + timeout) := by
  refine .inr (.inr (lt_of_lt_of_le ?_ (now_polled hclock s _)))
  have hfloor := Nat.lt_floor_add_one (timeout / (1 / 20))
  rw [div_lt_iff₀ (by norm_num)] at hfloor
  push_cast
  linarith

/-- There is a first poll that decides. -/
theorem exists_first_decided (hclock : course.GoesForward) (s : Server τ) (timeout : τ) :
    ∃ sleeps ≤ ⌊timeout / (1 / 20)⌋₊ + 1,
      (∀ k < sleeps, ¬ (s.polled course k).IsDecided (s.now + timeout)) ∧
      (s.polled course sleeps).IsDecided (s.now + timeout) := by
  have hexists : ∃ sleeps : Nat, (s.polled course sleeps).IsDecided (s.now + timeout) :=
    ⟨_, exists_decided hclock s timeout⟩
  exact ⟨Nat.find hexists, Nat.find_min' hexists (exists_decided hclock s timeout),
    fun k hk ↦ Nat.find_min hexists hk, Nat.find_spec hexists⟩

/-- **A start ends.**  There is a first poll that decides, within as many polls as the timeout has
twentieths of a second and two more.  If the server is up then, the start returns normally and
leaves it alone; if not, it fails, and the server has been stopped once. -/
theorem start_ends (hclock : course.GoesForward) (settings : ServerSettings) (now timeout : τ) :
    ∃ sleeps : Nat, sleeps + 1 ≤ ⌊timeout / (1 / 20)⌋₊ + 2 ∧
      (∀ k < sleeps, ¬ ((fresh settings now).polled course k).IsDecided (now + timeout)) ∧
      let last := (fresh settings now).polled course sleeps
      let stopped := (last.stop course).1
      (last.up = true ∧ last.IsLaunched settings ∧
          ∀ polls > sleeps, (fresh settings now).start course timeout polls =
            ⟨.up, last, [.started settings.backendHost
              ((course.sockets.findSome? List.head?).getD settings.port)]⟩) ∨
        (last.up = false ∧ (last.isAlive = false ∨ now + timeout < last.now) ∧
          stopped.IsStopped settings ∧ true ∉ stopped.threads ∧
          (∀ course' : Course τ, (stopped.stop course').1.joins = stopped.joins) ∧
          ∀ polls > sleeps, (fresh settings now).start course timeout polls =
            ⟨.failed ⟨settings.host, settings.port⟩, stopped, [.stopped]⟩) := by
  obtain ⟨sleeps, hbound, hearlier, hdecided⟩ :=
    exists_first_decided hclock (fresh settings now) timeout
  refine ⟨sleeps, Nat.succ_le_succ hbound, hearlier, ?_⟩
  intro last stopped
  have hlaunches : Launches (fresh settings now) last := launches_polled course _ sleeps
  have hlaunched : last.IsLaunched settings := hlaunches.isLaunched
  have hwait (polls : Nat) (hpolls : sleeps < polls) :
      ((fresh settings now).launch course).wait course (now + timeout) polls =
        if last.up then .up last else .failed last :=
    wait_of_first_decided course sleeps _ polls hpolls hearlier hdecided
  by_cases hup : last.up = true
  · refine .inl ⟨hup, hlaunched, fun polls hpolls ↦ ?_⟩
    rw [start_of_up course timeout polls ((hwait polls hpolls).trans (if_pos hup)),
      listeningPort_of_up course hup, hlaunched.settings]
  · have hstopped : stopped.IsStopped settings := hlaunched.stop course
    refine .inr ⟨Bool.eq_false_iff.2 hup, hdecided.resolve_left hup, hstopped,
      hlaunched.not_runs_stop course, fun course' ↦ hstopped.joins_stop course',
      fun polls hpolls ↦ ?_⟩
    rw [start_of_failed course timeout polls ((hwait polls hpolls).trans (if_neg hup)),
      hstopped.settings]

/-- A server that is up at the poll after the deadline has passed is not given up. -/
theorem up_after_deadline :
    let settings : ServerSettings := ⟨"127.0.0.1", 0, "backend.test"⟩
    let course : Course ℚ :=
      ⟨(3 ≤ ·), fun _ _ ↦ false, fun _ _ ↦ false, [[], [4321]], id, fun _ t ↦ t + 1 / 20⟩
    let started := (fresh settings 0).start course (1 / 10) 4
    started.ending = .up ∧ started.events = [.started "backend.test" 4321] ∧
      1 / 10 < started.server.now := by
  intro settings course started
  have hclock : course.GoesForward := ⟨fun _ ↦ le_rfl, fun _ _ ↦ le_rfl⟩
  have hfloor : ⌊(1 / 10 : ℚ) / (1 / 20)⌋₊ = 2 := by norm_num
  obtain ⟨sleeps, hbound, -, hends⟩ := start_ends hclock settings 0 (1 / 10)
  rw [hfloor] at hbound
  have hcases : sleeps = 0 ∨ sleeps = 1 ∨ sleeps = 2 ∨ sleeps = 3 := by omega
  rcases hends with ⟨hup, -, hstart⟩ | ⟨hup, hends, -⟩
  · have hstarted : started = _ := hstart 4 hbound
    rw [hstarted]
    refine ⟨rfl, rfl, ?_⟩
    rcases hcases with rfl | rfl | rfl | rfl
    · cases hup
    · cases hup
    · cases hup
    · show (1 / 10 : ℚ) < 0 + 1 / 20 + 1 / 20 + 1 / 20
      norm_num
  · rcases hcases with rfl | rfl | rfl | rfl
    · have hpassed : (0 + 1 / 10 : ℚ) < 0 := hends.resolve_left (by decide)
      norm_num at hpassed
    · have hpassed : (0 + 1 / 10 : ℚ) < 0 + 1 / 20 := hends.resolve_left (by decide)
      norm_num at hpassed
    · have hpassed : (0 + 1 / 10 : ℚ) < 0 + 1 / 20 + 1 / 20 := hends.resolve_left (by decide)
      norm_num at hpassed
    · cases hup

end Server
end InjectingProxy
