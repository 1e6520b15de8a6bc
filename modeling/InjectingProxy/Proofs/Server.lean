import InjectingProxy.Server

/-!
# What starting and stopping a server do

Starting a server launches one thread.  While it is waited for, nothing is asked to exit and nothing
is joined (`Server.wait_launches`), so in the end the server is up and left alone, or it is stopped
(`Server.start_cases`).  Stopping waits for the thread launched last, and leaves any other that is
still on its way out (`Server.runs_stop_iff`).
-/

set_option autoImplicit false

namespace InjectingProxy
namespace Server

variable {τ : Type}

/-- The server that waiting ends with. -/
def Waited.server : Waited τ → Server τ
  | .up s | .failed s | .undecided s => s

/-- One thread has been launched, and the server has not been asked to exit. -/
structure IsLaunched (settings : ServerSettings) (s : Server τ) : Prop where
  settings : s.settings = settings
  threads : s.threads.length = 1
  current : s.current = some 0
  shouldExit : s.shouldExit = false
  joins : s.joins = 0

/-- One thread has been launched, and the server has been stopped once. -/
structure IsStopped (settings : ServerSettings) (s : Server τ) : Prop where
  settings : s.settings = settings
  threads : s.threads.length = 1
  current : s.current = none
  shouldExit : s.shouldExit = true
  joins : s.joins = 1

/-- From one server to another, a thread has been launched and nothing has been asked to exit. -/
structure Launches (s s' : Server τ) : Prop where
  settings : s'.settings = s.settings
  length : s'.threads.length = s.threads.length + 1
  current : s'.current = some s.threads.length
  shouldExit : s'.shouldExit = s.shouldExit
  joins : s'.joins = s.joins
  /-- Threads that have ended do not run again. -/
  others : ∀ place, s'.threads[place]? = some true →
    place = s.threads.length ∨ s.threads[place]? = some true

variable (course : Course τ) {settings : ServerSettings} {s s' : Server τ} {place : Nat}

/-! ## Which threads run -/

theorem length_threads_reap (s : Server τ) :
    (s.reap course).threads.length = s.threads.length :=
  List.length_mapIdx

theorem getElem?_threads_reap (s : Server τ) (place : Nat) :
    (s.reap course).threads[place]? =
      s.threads[place]?.map fun runs ↦ runs && s.goesOn course place :=
  List.getElem?_mapIdx

theorem runs_reap_iff :
    (s.reap course).threads[place]? = some true ↔
      s.threads[place]? = some true ∧ s.goesOn course place = true := by
  rw [getElem?_threads_reap, Option.map_eq_some_iff]
  constructor
  · rintro ⟨runs, hruns, h⟩
    obtain ⟨rfl, hgoesOn⟩ := Bool.and_eq_true_iff.1 h
    exact ⟨hruns, hgoesOn⟩
  · rintro ⟨hruns, hgoesOn⟩
    exact ⟨true, hruns, hgoesOn⟩

/-- A thread that ran goes on running just if it has no end by now. -/
theorem getElem?_threads_observe (h : s.threads[place]? = some true) :
    (s.observe course).threads[place]? = some ((s.observe course).goesOn course place) := by
  show (s.reap course).threads[place]? = _
  rw [getElem?_threads_reap, h]
  rfl

/-- **What stopping leaves.**  Only the thread launched last is waited for. -/
theorem runs_stop_iff :
    (s.stop course).1.threads[place]? = some true ↔
      s.current ≠ some place ∧ s.threads[place]? = some true ∧
        course.hasEnded place s.sleeps = false ∧ course.lingers place s.sleeps = true := by
  have hasked : (reap course { s with shouldExit := true }).threads[place]? = some true ↔
      s.threads[place]? = some true ∧ course.hasEnded place s.sleeps = false ∧
        course.lingers place s.sleeps = true := by
    rw [runs_reap_iff, goesOn, Bool.and_eq_true, Bool.not_eq_true']
    rfl
  rw [← hasked, stop]
  cases hcurrent : s.current with
  | none => exact ⟨fun h ↦ ⟨(Option.some_ne_none place).symm, h⟩, fun h ↦ h.2⟩
  | some last =>
    show (List.set _ last false)[place]? = some true ↔ _
    rw [Ne, Option.some_inj]
    by_cases hlast : last = place
    · subst hlast
      refine ⟨fun h ↦ ?_, fun h ↦ absurd rfl h.1⟩
      rw [List.getElem?_set_self', Option.map_eq_map, Option.map_eq_some_iff] at h
      obtain ⟨_, -, ⟨⟩⟩ := h
    · rw [List.getElem?_set_ne hlast]
      exact ⟨fun h ↦ ⟨hlast, h⟩, fun h ↦ h.2⟩

/-- The thread launched last is alive if it runs. -/
theorem isAlive_iff (hcurrent : s.current = some place) :
    s.isAlive = true ↔ s.threads[place]? = some true := by
  rw [isAlive, hcurrent, Option.bind_some]
  cases s.threads[place]? with
  | none => exact ⟨fun h ↦ (by cases h), fun h ↦ (by cases h)⟩
  | some runs => exact ⟨congrArg some, Option.some.inj⟩

/-! ## Launching and waiting -/

theorem Launches.observe (h : Launches s s') : Launches s (s'.observe course) where
  settings := h.settings
  length := (length_threads_reap course s').trans h.length
  current := h.current
  shouldExit := h.shouldExit
  joins := h.joins
  others := fun place hruns ↦ h.others place ((runs_reap_iff course).1 hruns).1

theorem launches_launch (s : Server τ) : Launches s (s.launch course) := by
  refine Launches.observe course
    { settings := rfl, length := List.length_append, current := rfl, shouldExit := rfl, joins := rfl
      others := fun place hruns ↦ ?_ }
  rcases Nat.lt_or_ge place s.threads.length with hlt | hge
  · exact .inr (by rwa [List.getElem?_append_left hlt] at hruns)
  · have hbound := (List.getElem?_eq_some_iff.1 hruns).1
    rw [List.length_append, List.length_singleton] at hbound
    exact .inl (Nat.le_antisymm (Nat.le_of_lt_succ hbound) hge)

theorem Launches.sleep (h : Launches s s') : Launches s (s'.sleep course) :=
  Launches.observe course
    ⟨h.settings, h.length, h.current, h.shouldExit, h.joins, h.others⟩

theorem stop_settings (s : Server τ) : (s.stop course).1.settings = s.settings := by
  rw [stop]
  cases s.current <;> rfl

theorem length_threads_stop (s : Server τ) :
    (s.stop course).1.threads.length = s.threads.length := by
  have hasked := length_threads_reap course { s with shouldExit := true }
  rw [stop]
  cases s.current with
  | none => exact hasked
  | some place => exact List.length_set.trans hasked

theorem stop_shouldExit (s : Server τ) : (s.stop course).1.shouldExit = true := by
  rw [stop]
  cases s.current <;> rfl

theorem stop_current (s : Server τ) : (s.stop course).1.current = none := by
  rw [stop]
  cases s.current <;> rfl

theorem Launches.isLaunched {now : τ} (h : Launches (fresh settings now) s') :
    s'.IsLaunched settings :=
  ⟨h.settings, h.length, h.current, h.shouldExit, h.joins⟩

theorem IsLaunched.stop (h : s.IsLaunched settings) : (s.stop course).1.IsStopped settings where
  settings := (stop_settings course s).trans h.settings
  threads := (length_threads_stop course s).trans h.threads
  current := stop_current course s
  shouldExit := stop_shouldExit course s
  joins := by
    rw [Server.stop, h.current]
    exact congrArg (· + 1) h.joins

section Wait

variable [LT τ] [DecidableLT τ] (deadline : τ)

/-- What every sleep keeps while the thread runs and the server is not up, waiting keeps. -/
theorem wait_keeps {P : Server τ → Prop}
    (hsleep : ∀ s, P s → s.up = false → s.isAlive = true → P (s.sleep course)) (polls : Nat) :
    ∀ s : Server τ, P s → P (s.wait course deadline polls).server := by
  induction polls with
  | zero => exact fun _ h ↦ h
  | succ polls ih =>
    intro s h
    rw [wait]
    split
    · exact h
    · rename_i hup
      split
      · exact h
      · rename_i hfails
        refine ih _ (hsleep s h (Bool.eq_false_iff.2 hup) ?_)
        rw [Bool.or_eq_true, not_or, Bool.not_eq_true', Bool.not_eq_false] at hfails
        exact hfails.1

theorem wait_launches (s : Server τ) (polls : Nat) :
    Launches s ((s.launch course).wait course deadline polls).server :=
  wait_keeps course deadline (fun _ h _ _ ↦ h.sleep course) polls _ (launches_launch course s)

/-- Until waiting ends, the thread that has been launched runs, and it may have come to its end
just then. -/
theorem getElem?_threads_wait (s : Server τ) (polls : Nat) :
    let last := ((s.launch course).wait course deadline polls).server
    last.threads[s.threads.length]? = some (last.goesOn course s.threads.length) := by
  refine (wait_keeps course deadline (P := fun s' ↦ s'.current = some s.threads.length ∧
    s'.threads[s.threads.length]? = some (s'.goesOn course s.threads.length)) ?_ polls _ ?_).2
  · rintro s' ⟨hcurrent, -⟩ - halive
    exact ⟨hcurrent, getElem?_threads_observe course ((isAlive_iff hcurrent).1 halive)⟩
  · exact ⟨rfl, getElem?_threads_observe course List.getElem?_concat_length⟩

/-- Waiting succeeds only once the server is up. -/
theorem up_of_wait (polls : Nat) : ∀ {s s' : Server τ},
    s.wait course deadline polls = .up s' → s'.up = true := by
  induction polls with
  | zero => exact fun h ↦ by cases h
  | succ polls ih =>
    intro s s' h
    rw [wait] at h
    split at h
    · rename_i hup
      cases h
      exact hup
    · split at h
      · cases h
      · exact ih h

end Wait

section Start

variable [Add τ] [LT τ] [DecidableLT τ] (timeout : τ) (polls : Nat)

/-- A server that has come up is left alone. -/
theorem start_of_up {s' : Server τ}
    (h : wait course (s.now + timeout) polls (s.launch course) = .up s') :
    s.start course timeout polls =
      ⟨.up, s', [.started s'.settings.backendHost (s'.listeningPort course)]⟩ := by
  rw [start, h]

/-- A server that has failed to come up is stopped. -/
theorem start_of_failed {s' : Server τ}
    (h : wait course (s.now + timeout) polls (s.launch course) = .failed s') :
    s.start course timeout polls =
      ⟨.failed ⟨(s'.stop course).1.settings.host, (s'.stop course).1.settings.port⟩,
        (s'.stop course).1, [.stopped]⟩ := by
  rw [start, h]
  rfl

/-- **A start leaves a server that is up alone, and stops one that has failed to come up.**  If too
few polls were allowed to tell, the server is still waited for. -/
theorem start_cases (s : Server τ) : ∃ s' : Server τ, Launches s s' ∧
    (s'.up = true ∧ wait course (s.now + timeout) polls (s.launch course) = .up s' ∧
        s.start course timeout polls =
          ⟨.up, s', [.started s.settings.backendHost (s'.listeningPort course)]⟩ ∨
      s.start course timeout polls =
        ⟨.failed ⟨s.settings.host, s.settings.port⟩, (s'.stop course).1, [.stopped]⟩ ∨
      s.start course timeout polls = ⟨.undecided, s', []⟩) := by
  have hlaunches := wait_launches course (s.now + timeout) s polls
  cases hwait : wait course (s.now + timeout) polls (s.launch course) with
  | up s' =>
    rw [hwait] at hlaunches
    have hlaunches : Launches s s' := hlaunches
    refine ⟨s', hlaunches, .inl ⟨up_of_wait course _ polls hwait, rfl, ?_⟩⟩
    rw [start_of_up course timeout polls hwait, hlaunches.settings]
  | failed s' =>
    rw [hwait] at hlaunches
    have hlaunches : Launches s s' := hlaunches
    refine ⟨s', hlaunches, .inr (.inl ?_)⟩
    rw [start_of_failed course timeout polls hwait, stop_settings, hlaunches.settings]
  | undecided s' =>
    rw [hwait] at hlaunches
    exact ⟨s', hlaunches, .inr (.inr (by rw [start, hwait]))⟩

theorem wait_of_start {polls : Nat} {events : List Event}
    (h : s.start course timeout polls = ⟨.up, s', events⟩) :
    wait course (s.now + timeout) polls (s.launch course) = .up s' := by
  obtain ⟨last, -, ⟨-, hwait, hstart⟩ | hstart | hstart⟩ := start_cases course timeout polls s
  · have hlast : last = s' := congrArg Started.server (hstart.symm.trans h)
    rw [← hlast]
    exact hwait
  · cases hstart.symm.trans h
  · cases hstart.symm.trans h

/-- A start that returns normally has launched a thread and asked nothing to exit. -/
theorem launches_of_up {polls : Nat} {events : List Event}
    (h : s.start course timeout polls = ⟨.up, s', events⟩) : Launches s s' := by
  have hlaunches := wait_launches course (s.now + timeout) s polls
  rw [wait_of_start course timeout h] at hlaunches
  exact hlaunches

/-- A start that fails has launched a thread, and then stopped the server. -/
theorem launches_of_failed {polls : Nat} {fault : StartFault} {events : List Event}
    (h : s.start course timeout polls = ⟨.failed fault, s', events⟩) :
    ∃ last, Launches s last ∧ (last.stop course).1 = s' := by
  obtain ⟨last, hlaunches, ⟨-, -, hstart⟩ | hstart | hstart⟩ := start_cases course timeout polls s
  · cases hstart.symm.trans h
  · exact ⟨last, hlaunches, congrArg Started.server (hstart.symm.trans h)⟩
  · cases hstart.symm.trans h

/-- **A fresh server that is started is up and left alone, or it has been stopped once**, unless it
is still waited for. -/
theorem start_fresh (settings : ServerSettings) (now : τ) :
    ∃ s : Server τ,
      ((fresh settings now).start course timeout polls =
          ⟨.up, s, [.started settings.backendHost (s.listeningPort course)]⟩ ∧
        s.IsLaunched settings ∧ s.up = true) ∨
      ((fresh settings now).start course timeout polls =
          ⟨.failed ⟨settings.host, settings.port⟩, s, [.stopped]⟩ ∧ s.IsStopped settings) ∨
      ((fresh settings now).start course timeout polls = ⟨.undecided, s, []⟩ ∧
        s.IsLaunched settings) := by
  obtain ⟨s, hlaunches, ⟨hup, -, hstart⟩ | hstart | hstart⟩ :=
    start_cases course timeout polls (fresh settings now)
  · exact ⟨s, .inl ⟨hstart, hlaunches.isLaunched, hup⟩⟩
  · exact ⟨_, .inr (.inl ⟨hstart, hlaunches.isLaunched.stop course⟩)⟩
  · exact ⟨s, .inr (.inr ⟨hstart, hlaunches.isLaunched⟩)⟩

end Start

end Server
end InjectingProxy
