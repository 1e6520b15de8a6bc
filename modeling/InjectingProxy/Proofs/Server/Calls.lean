import InjectingProxy.Proofs.Server

/-!
# What starts and stops promise, in any order

A start that returns normally promises that the thread it has launched runs and has not been asked
to exit.  A stop, also that of a start that fails, promises that no thread runs any more.

A server may be started and stopped any number of times (`Server.Runs`).  Neither promise survives
that: a request to exit is never taken back, a server that has come up counts as up ever after, and
a start forgets the thread that was launched before.  What the calls so far leave is
`Server.Tracks`; `Server.promises_kept_iff` says after which calls the next one keeps its promise.
-/

set_option autoImplicit false

namespace InjectingProxy
namespace Server

variable {τ : Type}

/-- How a call returns. -/
inductive Returned where
  /-- A start, normally. -/
  | up
  /-- A start, with a fault. -/
  | failed
  /-- A stop. -/
  | stopped
  deriving DecidableEq, Repr

/-- How many threads have been launched by calls: every start launches one. -/
def launched (history : List Returned) : Nat := history.countP (· ≠ .stopped)

/-- The thread that a stop waits for, after calls of which the latest is the first in the list. -/
def joinable : List Returned → Option Nat
  | .up :: earlier => some (launched earlier)
  | _ => none

/-- The thread at a place has been launched by a start that returned normally, and the next call was
a start again. -/
def IsLeftBehind (history : List Returned) (place : Nat) : Prop :=
  ∃ later r earlier, history = later ++ r :: .up :: earlier ∧ r ≠ .stopped ∧
    launched earlier = place

/-- What the calls so far leave. -/
structure Tracks (history : List Returned) (s : Server τ) : Prop where
  length : s.threads.length = launched history
  shouldExit : s.shouldExit = false ↔ ∀ r ∈ history, r = .up
  current : s.current = joinable history
  /-- What still runs is waited for by the next stop, or by none. -/
  others : ∀ place, s.threads[place]? = some true →
    joinable history = some place ∨ IsLeftBehind history place

section

variable [Add τ] [LT τ] [DecidableLT τ]

/-- One call, on a course of its own. -/
inductive Called (timeout : τ) (s : Server τ) : Returned → Server τ → Prop
  | up (course : Course τ) (polls : Nat) {s' : Server τ} {events : List Event}
      (h : s.start course timeout polls = ⟨.up, s', events⟩) : Called timeout s .up s'
  | failed (course : Course τ) (polls : Nat) {fault : StartFault} {s' : Server τ}
      {events : List Event}
      (h : s.start course timeout polls = ⟨.failed fault, s', events⟩) : Called timeout s .failed s'
  | stopped (course : Course τ) : Called timeout s .stopped (s.stop course).1

/-- What a server can become by calls, of which the latest is the first in the list.  Between two
calls any time passes. -/
inductive Runs (settings : ServerSettings) (now timeout : τ) : List Returned → Server τ → Prop
  | fresh : Runs settings now timeout [] (fresh settings now)
  | idle {history : List Returned} {s : Server τ} (later : τ)
      (h : Runs settings now timeout history s) :
      Runs settings now timeout history { s with now := later }
  | call {history : List Returned} {s s' : Server τ} {r : Returned}
      (h : Runs settings now timeout history s) (hcall : Called timeout s r s') :
      Runs settings now timeout (r :: history) s'

end

variable {history earlier : List Returned} {r : Returned} {s s' : Server τ} {place : Nat}

/-! ## Histories -/

theorem launched_cons (hr : r ≠ .stopped) : launched (r :: history) = launched history + 1 :=
  List.countP_cons_of_pos (by simpa using hr)

theorem launched_stopped : launched (.stopped :: history) = launched history :=
  List.countP_cons_of_neg (by simp)

theorem eq_cons_of_joinable (h : joinable history = some place) :
    ∃ earlier, history = .up :: earlier ∧ launched earlier = place := by
  match history, h with
  | .up :: earlier, h => exact ⟨earlier, rfl, Option.some.inj h⟩

theorem IsLeftBehind.cons (h : IsLeftBehind history place) (r : Returned) :
    IsLeftBehind (r :: history) place := by
  obtain ⟨later, r', earlier, rfl, hr', hplace⟩ := h
  exact ⟨r :: later, r', earlier, rfl, hr', hplace⟩

theorem IsLeftBehind.lt (h : IsLeftBehind history place) : place + 1 < launched history := by
  obtain ⟨later, r, earlier, rfl, hr, rfl⟩ := h
  have hlaunched : launched (r :: .up :: earlier) = launched earlier + 1 + 1 := by
    rw [launched_cons hr, launched_cons (by decide)]
  have happend : launched (later ++ r :: .up :: earlier) =
      launched later + launched (r :: .up :: earlier) := List.countP_append
  omega

/-- A stop does not wait for a thread that is left behind. -/
theorem IsLeftBehind.joinable_ne (h : IsLeftBehind history place) :
    joinable history ≠ some place := by
  intro hjoinable
  have hlt := h.lt
  obtain ⟨earlier, rfl, rfl⟩ := eq_cons_of_joinable hjoinable
  rw [launched_cons (by decide)] at hlt
  exact Nat.lt_irrefl _ hlt

/-- The thread that a stop would have waited for is left behind by a start. -/
theorem isLeftBehind_of_joinable (h : joinable history = some place) (hr : r ≠ .stopped) :
    IsLeftBehind (r :: history) place := by
  obtain ⟨earlier, rfl, hplace⟩ := eq_cons_of_joinable h
  exact ⟨[], r, earlier, rfl, hr, hplace⟩

/-! ## What one call does -/

theorem tracks_fresh (settings : ServerSettings) (now : τ) : Tracks [] (fresh settings now) where
  length := rfl
  shouldExit := ⟨fun _ r hr ↦ (by cases hr), fun _ ↦ rfl⟩
  current := rfl
  others := fun place hruns ↦ (by cases hruns)

/-- A start makes every thread that runs one that is left behind, but the one it launches. -/
theorem Tracks.runs_of_launches (h : Tracks history s) (hlaunches : Launches s s')
    (hruns : s'.threads[place]? = some true) (hr : r ≠ .stopped) :
    place = launched history ∨ IsLeftBehind (r :: history) place := by
  rcases hlaunches.others place hruns with hplace | hbefore
  · exact .inl (hplace.trans h.length)
  · rcases h.others place hbefore with hjoinable | hleft
    · exact .inr (isLeftBehind_of_joinable hjoinable hr)
    · exact .inr (hleft.cons r)

theorem Tracks.up (h : Tracks history s) (hlaunches : Launches s s') :
    Tracks (.up :: history) s' where
  length := by rw [hlaunches.length, h.length, launched_cons (by decide)]
  shouldExit := by
    rw [hlaunches.shouldExit, h.shouldExit, List.forall_mem_cons]
    exact (and_iff_right rfl).symm
  current := by rw [hlaunches.current, h.length, joinable]
  others := by
    intro place hruns
    rcases h.runs_of_launches (r := .up) hlaunches hruns (by decide) with rfl | hleft
    · exact .inl rfl
    · exact .inr hleft

/-- A request to exit is there from the first stop on. -/
theorem shouldExit_stop_iff (course : Course τ) (s : Server τ) (hr : r ≠ .up) :
    (s.stop course).1.shouldExit = false ↔ ∀ r' ∈ r :: history, r' = .up := by
  rw [stop_shouldExit, List.forall_mem_cons]
  exact ⟨fun h ↦ (by cases h), fun h ↦ absurd h.1 hr⟩

/-- A failed start stops the server, with the thread it has launched. -/
theorem Tracks.failed (h : Tracks history s) (hlaunches : Launches s s') (course : Course τ) :
    Tracks (.failed :: history) (s'.stop course).1 where
  length := by
    rw [length_threads_stop, hlaunches.length, h.length, launched_cons (by decide)]
  shouldExit := shouldExit_stop_iff course s' (by decide)
  current := stop_current course s'
  others := by
    intro place hruns
    obtain ⟨hcurrent, hruns, -⟩ := (runs_stop_iff course).1 hruns
    refine (h.runs_of_launches hlaunches hruns (by decide)).imp_left fun hplace ↦ absurd ?_ hcurrent
    rw [hlaunches.current, h.length, hplace]

theorem Tracks.stopped (h : Tracks history s) (course : Course τ) :
    Tracks (.stopped :: history) (s.stop course).1 where
  length := by rw [length_threads_stop, h.length, launched_stopped]
  shouldExit := shouldExit_stop_iff course s (by decide)
  current := stop_current course s
  others := by
    intro place hruns
    obtain ⟨hcurrent, hruns, -⟩ := (runs_stop_iff course).1 hruns
    rw [h.current] at hcurrent
    exact .inr (((h.others place hruns).resolve_left hcurrent).cons _)

theorem Tracks.runs_stop_iff (h : Tracks history s) (course : Course τ) :
    (s.stop course).1.threads[place]? = some true ↔
      IsLeftBehind history place ∧ s.threads[place]? = some true ∧
        course.hasEnded place s.sleeps = false ∧ course.lingers place s.sleeps = true := by
  rw [Server.runs_stop_iff, h.current]
  constructor
  · rintro ⟨hjoinable, hruns, hgoesOn⟩
    exact ⟨(h.others place hruns).resolve_left hjoinable, hruns, hgoesOn⟩
  · rintro ⟨hleft, hruns, hgoesOn⟩
    exact ⟨hleft.joinable_ne, hruns, hgoesOn⟩

section

variable [Add τ] [LT τ] [DecidableLT τ] {settings : ServerSettings} {now timeout : τ}

theorem Tracks.called (h : Tracks history s) (hcall : Called timeout s r s') :
    Tracks (r :: history) s' := by
  cases hcall with
  | up course polls hstart => exact h.up (launches_of_up course timeout hstart)
  | failed course polls hstart =>
    obtain ⟨last, hlaunches, rfl⟩ := launches_of_failed course timeout hstart
    exact h.failed hlaunches course
  | stopped course => exact h.stopped course

/-- **What calls leave**, however many there were and in whatever order. -/
theorem Runs.tracks (h : Runs settings now timeout history s) : Tracks history s := by
  induction h with
  | fresh => exact tracks_fresh settings now
  | idle later _ ih => exact ⟨ih.length, ih.shouldExit, ih.current, ih.others⟩
  | call _ hcall ih => exact ih.called hcall

/-- The thread that a start has launched runs, and has not been asked to exit, if it has not ended
of itself and nothing has ever been asked to. -/
theorem Tracks.start_serves_iff (h : Tracks history s) {course : Course τ} {polls : Nat}
    {events : List Event} (hstart : s.start course timeout polls = ⟨.up, s', events⟩) :
    s'.threads[s.threads.length]? = some true ∧ s'.shouldExit = false ↔
      (∀ r ∈ history, r = .up) ∧ course.hasEnded s.threads.length s'.sleeps = false := by
  have hruns := getElem?_threads_wait course (s.now + timeout) s polls
  rw [wait_of_start course timeout hstart] at hruns
  have hruns : s'.threads[s.threads.length]? = some (s'.goesOn course s.threads.length) := hruns
  rw [hruns, ← h.shouldExit, ← (launches_of_up course timeout hstart).shouldExit, goesOn,
    Option.some_inj]
  cases s'.shouldExit <;> simp

/-- **When starts and stops keep their promises**, after any calls.

A start that returns normally keeps its own just if no call before it was a stop or failed, and its
thread has not ended of itself.  After a stop, or a start that fails, only threads run that a start
has left behind by launching another; and a stop leaves each of these that takes its time to
exit. -/
theorem promises_kept_iff (h : Runs settings now timeout history s) :
    (∀ course polls s' events, s.start course timeout polls = ⟨.up, s', events⟩ →
      s'.current = some s.threads.length ∧
      (s'.threads[s.threads.length]? = some true ∧ s'.shouldExit = false ↔
        (∀ r ∈ history, r = .up) ∧ course.hasEnded s.threads.length s'.sleeps = false)) ∧
    (∀ r s', Called timeout s r s' → r ≠ .up →
      ∀ place : Nat, s'.threads[place]? = some true → IsLeftBehind (r :: history) place) ∧
    ∀ (course : Course τ) (place : Nat), (s.stop course).1.threads[place]? = some true ↔
      IsLeftBehind history place ∧ s.threads[place]? = some true ∧
        course.hasEnded place s.sleeps = false ∧ course.lingers place s.sleeps = true := by
  refine ⟨fun course polls s' events hstart ↦ ?_, fun r s' hcall hr place hruns ↦ ?_,
    fun course place ↦ h.tracks.runs_stop_iff course⟩
  · exact ⟨(launches_of_up course timeout hstart).current, h.tracks.start_serves_iff hstart⟩
  · refine ((h.tracks.called hcall).others place hruns).resolve_left fun hjoinable ↦ hr ?_
    obtain ⟨earlier, hhistory, -⟩ := eq_cons_of_joinable hjoinable
    exact (List.cons.inj hhistory).1

end

/-- Two starts in a row: the thread of the second one runs, and when the server is stopped, that of
the first one, which is still on its way out, is not waited for. -/
theorem restarted_leaves_thread :
    let settings : ServerSettings := ⟨"127.0.0.1", 8812, "backend.test"⟩
    let course : Course Nat := ⟨(1 ≤ ·), fun _ _ ↦ false, fun _ ↦ (· < 2), [], id, fun _ ↦ (· + 1)⟩
    let first := (fresh settings 0).start course 10 5
    let second := first.server.start course 10 5
    first.ending = .up ∧ second.ending = .up ∧
      (second.server.threads[first.server.threads.length]? = some true ∧
        second.server.shouldExit = false) ∧
      (second.server.stop course).1.threads[0]? = some true := by
  intro settings course first second
  have hfirst : Runs settings 0 10 [.up] first.server := .call .fresh (.up course 5 rfl)
  have hsecond : Runs settings 0 10 [.up, .up] second.server := .call hfirst (.up course 5 rfl)
  refine ⟨rfl, rfl, ?_, ?_⟩
  · exact ((promises_kept_iff hfirst).1 course 5 _ _ rfl).2.2 ⟨by decide, rfl⟩
  · exact ((promises_kept_iff hsecond).2.2 course 0).2
      ⟨⟨[], .up, [], rfl, by decide, rfl⟩, rfl, rfl, rfl⟩

/-- **A server that is started again after a stop has been asked to exit already**: the start
returns normally, with no thread running. -/
theorem restarted_asked_to_exit :
    let course := Course.prescribed (some 0) none [[4321]]
    ∃ s s' : Server Float,
      (fresh ⟨"127.0.0.1", 0, "backend.test"⟩ 0).start course defaultTimeout 1 =
        ⟨.up, s, [.started "backend.test" 4321]⟩ ∧
      (s.stop course).1.start course defaultTimeout 1 =
        ⟨.up, s', [.started "backend.test" 4321]⟩ ∧
      s'.shouldExit = true ∧ s'.threads = [false, false] :=
  ⟨_, _, rfl, rfl, rfl, rfl⟩

end Server
end InjectingProxy
