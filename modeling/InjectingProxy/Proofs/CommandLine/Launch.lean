import InjectingProxy.CommandLine.Run
import InjectingProxy.Proofs.Check
import InjectingProxy.Proofs.CommandLine.Arguments
import InjectingProxy.Proofs.Config
import InjectingProxy.Proofs.Server
import InjectingProxy.Proofs.Settings

/-!
# Nothing is started unless everything is right

A run of the program reads its command line, settles the error to inject, and checks the
configuration, in this order.  What is refused on the way ends the run, with an exit status and a
message, before anything has been started (`Launch.IsIdle`).  With a valid configuration the metrics
are served first, if this is asked for; if they cannot be, the run ends there.  Then one server is
started, which is left running or stopped once (`Launch.Serves`).

`Launch.started_only_if_valid` puts this together.  There is one more end: an error option with the
bare mark for its value has no code that could be refused, and the program breaks off without a
message of its own (`Launch.bare_mark_breaks_off`).
-/

set_option autoImplicit false

namespace InjectingProxy

namespace Arguments

variable {a : Arguments} {c : Config}

/-- The arguments make a configuration: the code of the error to inject is accepted, and then the
record. -/
def IsValid (a : Arguments) (c : Config) : Prop :=
  ∃ code status, a.error = .whole code ∧ Status.resolve code = .ok status ∧
    Config.ofValue (a.record status) = .ok c

theorem config_eq_ok_iff : a.config = .ok c ↔ a.IsValid c := by
  constructor
  · intro h
    rw [config] at h
    split at h
    · rename_i code herror
      split at h
      · cases h
      · rename_i status hresolve
        exact ⟨code, status, herror, hresolve, mapError_eq_ok.1 h⟩
    · cases h
  · rintro ⟨code, status, herror, hresolve, hrecord⟩
    simp only [config, herror, hresolve]
    exact mapError_eq_ok.2 hrecord

/-- The server is left running if this was asked for. -/
theorem IsValid.embedded (h : a.IsValid c) : c.embedded = a.embedded := by
  obtain ⟨code, status, -, -, hrecord⟩ := h
  obtain ⟨-, -, -, -, -, -, -, hembedded⟩ := Config.ofValue_eq_ok_iff.1 hrecord
  exact (Except.ok.inj hembedded).symm

end Arguments

namespace Launch

/-- Nothing has been started. -/
structure IsIdle (l : Launch) : Prop where
  config : l.config = none
  metricsPort : l.metricsPort = none
  server : l.server = none
  sleeps : l.sleeps = []
  events : l.events = []

theorem ended_isIdle (output errors : String) (finish : Finish) :
    (ended output errors finish).IsIdle :=
  ⟨rfl, rfl, rfl, rfl, rfl⟩

/-- What is told before the server is started: that the metrics are ready, and on which port they
are served, if they are. -/
def opening (port : Value) : List Event :=
  .metricsReady :: ((servedPort port).map fun v ↦ Event.servingMetrics (Report.shown v)).toList

section Start

variable (listener : Listener) (course : Course Float) (polls interruptAfter : Nat) (c : Config)
  (port : Value)

/-- What becomes of the one server of a run. -/
def startedServer : Server.Started Float :=
  (Server.fresh (ServerSettings.ofConfig c) 0).start course Server.defaultTimeout polls

/-- A run with a configuration.  If the metrics are to be served and cannot be, it ends before there
is a server.  Otherwise it has one server, which has been started after the metrics: it has failed
to come up and been stopped once, or it is left running, or it has been stopped once after an
interruption, at whichever of the sleeps that came.  It may also be still waited for, if too few
polls were allowed. -/
inductive Serves : Launch → Prop
  | unheard (f : ListenerFault) (hlistener : (servedPort port).bind listener = some f) :
    Serves ⟨"", "", some c, none, [], none, [.metricsReady], .unheard f⟩
  | failed (server : Server Float) (hlistener : (servedPort port).bind listener = none)
    (hstart : startedServer course polls c = ⟨.failed ⟨c.host, c.port⟩, server, [.stopped]⟩)
    (hstopped : server.IsStopped (ServerSettings.ofConfig c)) :
    Serves ⟨"", "", some c, servedPort port, [], some server, opening port ++ [.stopped],
      .startFailed ⟨c.host, c.port⟩⟩
  | waiting (server : Server Float) (hlistener : (servedPort port).bind listener = none)
    (hstart : startedServer course polls c = ⟨.undecided, server, []⟩)
    (hlaunched : server.IsLaunched (ServerSettings.ofConfig c)) :
    Serves ⟨"", "", some c, servedPort port, [], some server, opening port, .starting⟩
  | left (server : Server Float) (hlistener : (servedPort port).bind listener = none)
    (hstart : startedServer course polls c =
      ⟨.up, server, [.started c.backendHost (server.listeningPort course)]⟩)
    (hlaunched : server.IsLaunched (ServerSettings.ofConfig c)) (hup : server.up = true)
    (hembedded : c.embedded = true) :
    Serves ⟨"", "", some c, servedPort port, [], some server,
      opening port ++ [.started c.backendHost (server.listeningPort course)], .running⟩
  | interrupted (server : Server Float) (hlistener : (servedPort port).bind listener = none)
    (hstart : startedServer course polls c =
      ⟨.up, server, [.started c.backendHost (server.listeningPort course)]⟩)
    (hlaunched : server.IsLaunched (ServerSettings.ofConfig c)) (hup : server.up = true)
    (hembedded : c.embedded = false)
    (hstopped : (server.stop course).1.IsStopped (ServerSettings.ofConfig c)) :
    Serves ⟨"", "", some c, servedPort port, List.replicate (interruptAfter + 1) 60,
      some (server.stop course).1,
      opening port ++ [.started c.backendHost (server.listeningPort course)] ++ [.interrupted] ++
        [.stopped], .interrupted⟩

theorem start_of_unheard {f : ListenerFault} (h : (servedPort port).bind listener = some f) :
    start c port listener course polls interruptAfter =
      ⟨"", "", some c, none, [], none, [.metricsReady], .unheard f⟩ := by
  simp only [start, h]

theorem start_of_heard (h : (servedPort port).bind listener = none) :
    start c port listener course polls interruptAfter =
      let started := startedServer course polls c
      let launch : Launch := ⟨"", "", some c, servedPort port, [], some started.server,
        opening port ++ started.events, .running⟩
      match started.ending with
      | .failed f => { launch with finish := .startFailed f }
      | .undecided => { launch with finish := .starting }
      | .up =>
        if c.embedded then launch
        else { launch with
          sleeps := List.replicate (interruptAfter + 1) 60
          server := some (started.server.stop course).1
          events := launch.events ++ [.interrupted] ++ [.stopped]
          finish := .interrupted } := by
  simp only [start, h]
  rfl

/-- **A configuration starts one server**, once the metrics are served. -/
theorem start_serves : Serves listener course polls interruptAfter c port
    (start c port listener course polls interruptAfter) := by
  cases hlistener : (servedPort port).bind listener with
  | some f =>
    rw [start_of_unheard listener course polls interruptAfter c port hlistener]
    exact .unheard f hlistener
  | none =>
    rw [start_of_heard listener course polls interruptAfter c port hlistener]
    obtain ⟨server, ⟨hstart, hlaunched, hup⟩ | ⟨hstart, hstopped⟩ | ⟨hstart, hlaunched⟩⟩ :=
      Server.start_fresh course Server.defaultTimeout polls (ServerSettings.ofConfig c) 0
    · rw [startedServer, hstart]
      cases hembedded : c.embedded with
      | true => exact .left server hlistener hstart hlaunched hup hembedded
      | false =>
        exact .interrupted server hlistener hstart hlaunched hup hembedded (hlaunched.stop course)
    · rw [startedServer, hstart]
      exact .failed server hlistener hstart hstopped
    · rw [startedServer, hstart]
      simp only [List.append_nil]
      exact .waiting server hlistener hstart hlaunched

end Start

/-! ## Main statement -/

/-- A run that starts nothing unless everything is right, and ends otherwise with the status and
the message for what is not. -/
structure IsOrderly (l : Launch) (s : Settings) (argv : List Text) (listener : Listener)
    (course : Course Float) (polls interruptAfter : Nat) : Prop where
  /-- Something has been started only if the command line is read and makes a configuration. -/
  idle : l.IsIdle ∨ ∃ a c, Arguments.read s argv = .ok (.run a) ∧ a.IsValid c
  /-- A command line that cannot be read ends the run with status 2. -/
  misread : ∀ f, Arguments.read s argv = .error f →
    l = ended "" (Usage.usage (Arguments.isRequired s) ++ Usage.program ++ ": error: " ++
      f.message ++ "\n") (.exit 2)
  /-- So does a modulus below one that is given, -/
  given : ∀ tokens t n, Token.ofArguments argv = .ok tokens → Token.Gives .errorMod t tokens →
    Whole.read t = .ok n → n < 1 → l.finish = .exit 2
  /-- and one of the settings, if none is given. -/
  missing : s.errorMod < 1 → (∀ tokens t, Token.ofArguments argv = .ok tokens →
    ¬ Token.Gives .errorMod t tokens) → l.finish = .exit 2
  /-- A code that is not accepted ends the run with status 1, whatever else is wrong. -/
  unfit : ∀ a code u, Arguments.read s argv = .ok (.run a) → a.error = .whole code →
    Status.resolve code = .error u → l = ended "" (u.message ++ "\n") (.exit 1)
  /-- So does a record that is no configuration. -/
  invalid : ∀ a code status es, Arguments.read s argv = .ok (.run a) → a.error = .whole code →
    Status.resolve code = .ok status → Config.ofValue (a.record status) = .error es →
      l = ended "" (Report.ofErrors es ++ "\n") (.exit 1)
  /-- A configuration starts one server, which is left running if this was asked for. -/
  serves : ∀ a c, Arguments.read s argv = .ok (.run a) → a.IsValid c →
    Serves listener course polls interruptAfter c a.metricsPort l ∧ c.embedded = a.embedded
  /-- There is a code, unless the bare mark is given for it, and then the program breaks off. -/
  codeless : ∀ a, Arguments.read s argv = .ok (.run a) →
    (∃ code, a.error = .whole code) ∨ a.error = .list [] ∧ l = ended "" "" (.crashed .noCode) ∧
      ∃ tokens, Token.ofArguments argv = .ok tokens ∧ Token.Gives .error Token.mark tokens

section Main

variable (s : Settings) (argv : List Text) (listener : Listener) (course : Course Float)
  (polls interruptAfter : Nat)

theorem run_of_error {f : ArgumentFault} (hread : Arguments.read s argv = .error f) :
    run s argv listener course polls interruptAfter =
      ended "" (Usage.usage (Arguments.isRequired s) ++ Usage.program ++ ": error: " ++
        f.message ++ "\n") (.exit 2) := by
  rw [run, hread]

variable {a : Arguments}

/-- The end of a run for which there is no configuration. -/
def refused : ConfigFault → Launch
  | .noCode => ended "" "" (.crashed .noCode)
  | f => ended "" (f.message ++ "\n") (.exit 1)

theorem refused_isIdle (f : ConfigFault) : (refused f).IsIdle := by
  cases f <;> exact ended_isIdle _ _ _

theorem run_of_refused (hread : Arguments.read s argv = .ok (.run a)) {f : ConfigFault}
    (hconfig : a.config = .error f) :
    run s argv listener course polls interruptAfter = refused f := by
  rw [run, hread]
  simp only [hconfig]
  cases f <;> rfl

theorem run_of_config (hread : Arguments.read s argv = .ok (.run a)) {c : Config}
    (hconfig : a.config = .ok c) :
    run s argv listener course polls interruptAfter =
      start c a.metricsPort listener course polls interruptAfter := by
  rw [run, hread]
  simp only [hconfig]

/-- A command line that cannot be read and does not ask for help ends the run with status 2. -/
theorem finish_of_not_read (hhelp : Arguments.read s argv ≠ .ok .help)
    (h : ∀ a, Arguments.read s argv ≠ .ok (.run a)) :
    (run s argv listener course polls interruptAfter).finish = .exit 2 := by
  rcases hread : Arguments.read s argv with f | _ | a
  · rw [run_of_error s argv listener course polls interruptAfter hread]
    rfl
  · exact absurd hread hhelp
  · exact absurd hread (h a)

/-- **Nothing is started unless everything is right.**  A run that does not ask for help starts the
metrics and its server only with a command line that is read, a code that is accepted, and a record
that is a configuration; what is refused first decides how it ends. -/
theorem started_only_if_valid (hhelp : Arguments.read s argv ≠ .ok .help) :
    (run s argv listener course polls interruptAfter).IsOrderly s argv listener course polls
      interruptAfter where
  idle := by
    rcases hread : Arguments.read s argv with f | _ | a
    · rw [run_of_error s argv listener course polls interruptAfter hread]
      exact .inl (ended_isIdle _ _ _)
    · exact absurd hread hhelp
    · cases hconfig : a.config with
      | error f =>
        rw [run_of_refused s argv listener course polls interruptAfter hread hconfig]
        exact .inl (refused_isIdle f)
      | ok c => exact .inr ⟨a, c, rfl, Arguments.config_eq_ok_iff.1 hconfig⟩
  misread := fun f hread ↦ run_of_error s argv listener course polls interruptAfter hread
  given := by
    intro tokens t n htokens hgives hn hone
    refine finish_of_not_read s argv listener course polls interruptAfter hhelp fun a hread ↦ ?_
    exact Int.not_lt.2 ((Arguments.modulus_of_read hread htokens).1 t n hgives hn) hone
  missing := by
    intro hone hnone
    refine finish_of_not_read s argv listener course polls interruptAfter hhelp fun a hread ↦ ?_
    obtain ⟨tokens, g, htokens, -⟩ := Arguments.read_eq_run_iff.1 hread
    exact Int.not_lt.2 ((Arguments.modulus_of_read hread htokens).2
      fun t ↦ hnone tokens t htokens) hone
  unfit := by
    intro a code u hread herror hresolve
    refine run_of_refused s argv listener course polls interruptAfter hread (f := .unfit u) ?_
    simp only [Arguments.config, herror, hresolve]
  invalid := by
    intro a code status es hread herror hresolve hrecord
    refine run_of_refused s argv listener course polls interruptAfter hread (f := .invalid es) ?_
    simp only [Arguments.config, herror, hresolve, hrecord]
    rfl
  serves := by
    intro a c hread hvalid
    rw [run_of_config s argv listener course polls interruptAfter hread
      (Arguments.config_eq_ok_iff.2 hvalid)]
    exact ⟨start_serves listener course polls interruptAfter c a.metricsPort, hvalid.embedded⟩
  codeless := by
    intro a hread
    rcases Arguments.error_of_read hread with hcode | ⟨herror, hgives⟩
    · exact .inl hcode
    · refine .inr ⟨herror, ?_, hgives⟩
      refine run_of_refused s argv listener course polls interruptAfter hread (f := .noCode) ?_
      simp only [Arguments.config, herror]

end Main

/-- A listener where all ports are free. -/
def freeListener : Listener
  | .whole n =>
    if 0 ≤ n ∧ n ≤ 65535 then none else some ⟨"OverflowError", "bind(): port must be 0-65535."⟩
  | _ => none

/-- A modulus of the settings that is below one does no harm if another one is given, and a server
that has come up is stopped once, after the fourth sleep. -/
theorem interrupted_run_serves :
    let s : Settings := ⟨"0.0.0.0", 8812, "https", some "backend.test", 5.0, 503, 0, none⟩
    let argv := ["-m", "3", "--metrics-port=9100"].map String.toList
    let course := Course.prescribed (some 0) none []
    ∃ a c, Arguments.read s argv = .ok (.run a) ∧ a.IsValid c ∧
      Serves freeListener course 2 3 c (.whole 9100) (run s argv freeListener course 2 3) ∧
      (run s argv freeListener course 2 3).finish = .interrupted ∧
      (run s argv freeListener course 2 3).sleeps = [60, 60, 60, 60] := by
  intro s argv course
  have hthree : Arguments.readValue .errorMod .positive ['3'] = .ok (.whole 3) :=
    Arguments.readValue_positive_iff.2
      (.inr ⟨3, toOption_eq_some_iff.1 (by decide +kernel), by decide, rfl⟩)
  have hmetrics : Arguments.readValue .metricsPort .whole "9100".toList = .ok (.whole 9100) :=
    Arguments.readValue_whole_iff.2
      (.inr ⟨9100, toOption_eq_some_iff.1 (by decide +kernel), rfl⟩)
  obtain ⟨a, c, hread, hvalid, hport, hembedded⟩ : ∃ a c,
      Arguments.read s argv = .ok (.run a) ∧ a.IsValid c ∧ a.metricsPort = .whole 9100 ∧
        c.embedded = false :=
    ⟨_, _, Arguments.read_eq_run_iff.2 ⟨_, _, rfl,
      .next false rfl hthree (.together true rfl hmetrics .nil), rfl⟩,
      ⟨503, _, rfl, rfl, rfl⟩, rfl, rfl⟩
  have hserves := ((started_only_if_valid s argv freeListener course 2 3 fun h ↦ by
    cases hread.symm.trans h).serves a c hread hvalid).1
  rw [hport] at hserves
  refine ⟨a, c, hread, hvalid, hserves, ?_⟩
  generalize run s argv freeListener course 2 3 = l at hserves ⊢
  have hup : (startedServer course 2 c).ending = .up := rfl
  cases hserves with
  | unheard f hlistener => cases hlistener
  | failed server _ hstart => cases (congrArg Server.Started.ending hstart).symm.trans hup
  | waiting server _ hstart => cases (congrArg Server.Started.ending hstart).symm.trans hup
  | left server _ hstart hlaunched hup hleft => cases hleft.symm.trans hembedded
  | interrupted => exact ⟨rfl, rfl⟩

/-- **An error that is given by the bare mark is not refused**: the command line is read, and the
program breaks off without a status and a message of its own. -/
theorem bare_mark_breaks_off :
    let argv := ["--backend-host", "h", "--error=--"].map String.toList
    ∃ s a, Settings.load [] = .ok s ∧ Arguments.read s argv = .ok (.run a) ∧
      a.error = .list [] ∧
      (run s argv freeListener (Course.prescribed (some 0) none []) 2 0).finish =
        .crashed .noCode ∧
      (run s argv freeListener (Course.prescribed (some 0) none []) 2 0).errors = "" := by
  intro argv
  obtain ⟨timeout, hload⟩ := Settings.load_of_unset [] rfl rfl rfl rfl rfl
  exact ⟨_, _, hload, rfl, rfl, rfl, rfl⟩

end Launch
end InjectingProxy
