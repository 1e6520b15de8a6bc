import InjectingProxy.App.Basic
import InjectingProxy.CommandLine.Arguments
import InjectingProxy.CommandLine.Report
import InjectingProxy.CommandLine.Usage
import InjectingProxy.Server

/-!
# Running the program

The program reads its command line and its settings, makes a configuration of them, and runs the
proxy until it is interrupted.  Nothing is started unless the whole configuration is right.

## What is here

* `Arguments.config`: the configuration for arguments.
* `Launch`: all that a run of the program does.
* `Launch.run`: a run, given what becomes of serving the metrics, how the server behaves, and how
  long it takes to an interruption.
-/

set_option autoImplicit false

namespace InjectingProxy

/-- Why there is no configuration for arguments. -/
inductive ConfigFault where
  /-- The error to inject was given without a code. -/
  | noCode
  | unfit (u : Status.Unfit)
  | invalid (es : List FieldError)

/-- The text of a fault. -/
def ConfigFault.message : ConfigFault → String
  | .noCode => "unhashable type: 'list'"
  | .unfit u => u.message
  | .invalid es => Report.ofErrors es

/-- The record of a configuration for arguments. -/
def Arguments.record (a : Arguments) (status : Status) : Value :=
  .record [("port", a.port), ("host", a.host), ("backend_scheme", a.backendScheme),
    ("backend_host", a.backendHost), ("error_status", status.toValue), ("error_mod", a.errorMod),
    ("backend_timeout", a.backendTimeout), ("embedded", .bool a.embedded)]

/-- The configuration for arguments.  The error to inject is settled first. -/
def Arguments.config (a : Arguments) : Except ConfigFault Config :=
  match a.error with
  | .whole code =>
    match Status.resolve code with
    | .error u => .error (.unfit u)
    | .ok status => (Config.ofValue (a.record status)).mapError .invalid
  | _ => .error .noCode

/-- Why the metrics cannot be served: the name of what has gone wrong, such as a port that is out of
range or in use, and its message. -/
structure ListenerFault where
  name : String
  message : String
  deriving DecidableEq, Repr

/-- What becomes of opening a port to serve the metrics on it. -/
abbrev Listener := Value → Option ListenerFault

/-- How a run of the program ends. -/
inductive Finish where
  /-- The program exits with a status. -/
  | exit (status : Nat)
  /-- The server is left running. -/
  | running
  /-- The server has been stopped after an interruption. -/
  | interrupted
  | startFailed (f : Server.StartFault)
  /-- The server is still waited for after the polls that were allowed. -/
  | starting
  /-- The metrics cannot be served. -/
  | unheard (f : ListenerFault)
  | crashed (f : ConfigFault)

/-- All that a run of the program does. -/
structure Launch where
  output : String
  errors : String
  config : Option Config
  /-- The port on which the metrics are served. -/
  metricsPort : Option Value
  /-- The seconds of each sleep of the program. -/
  sleeps : List Nat
  server : Option (Server Float)
  events : List Event
  finish : Finish

namespace Launch

/-- Seconds that the program sleeps at a time. -/
def sleepSeconds : Nat := 60

/-- A run that ends before anything is started. -/
def ended (output errors : String) (finish : Finish) : Launch where
  output := output
  errors := errors
  config := none
  metricsPort := none
  sleeps := []
  server := none
  events := []
  finish := finish

/-- The port on which the metrics are to be served, if one is asked for. -/
def servedPort : Value → Option Value
  | .null => none
  | port => some port

/-- Start the proxy with a configuration: first the metrics are served, if this is asked for. -/
def start (c : Config) (metricsPort : Value) (listener : Listener) (course : Course Float)
    (polls interruptAfter : Nat) : Launch :=
  let serving := servedPort metricsPort
  let launch : Launch := {
    output := "", errors := "", config := some c, metricsPort := serving, sleeps := []
    server := none, events := [.metricsReady], finish := .running }
  match serving.bind listener with
  | some f => { launch with metricsPort := none, finish := .unheard f }
  | none =>
    let opening := launch.events ++
      (serving.map fun v => Event.servingMetrics (Report.shown v)).toList
    let started :=
      (Server.fresh (ServerSettings.ofConfig c) 0).start course Server.defaultTimeout polls
    let launch := { launch with
      server := some started.server, events := opening ++ started.events }
    match started.ending with
    | .failed f => { launch with finish := .startFailed f }
    | .undecided => { launch with finish := .starting }
    | .up =>
      if c.embedded then launch
      else
        let (server, stopEvents) := started.server.stop course
        { launch with
          sleeps := List.replicate (interruptAfter + 1) sleepSeconds
          server := some server
          events := launch.events ++ [.interrupted] ++ stopEvents
          finish := .interrupted }

/-- A run of the program. -/
def run (s : Settings) (argv : List Text) (listener : Listener) (course : Course Float)
    (polls interruptAfter : Nat) : Launch :=
  let required := Arguments.isRequired s
  match Arguments.read s argv with
  | .error f =>
    ended "" (Usage.usage required ++ Usage.program ++ ": error: " ++ f.message ++ "\n") (.exit 2)
  | .ok .help => ended (Usage.help required) "" (.exit 0)
  | .ok (.run a) =>
    match a.config with
    | .error .noCode => ended "" "" (.crashed .noCode)
    | .error f => ended "" (f.message ++ "\n") (.exit 1)
    | .ok c => start c a.metricsPort listener course polls interruptAfter

end Launch
end InjectingProxy
