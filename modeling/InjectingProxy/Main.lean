import InjectingProxy.CommandLine.Run
import InjectingProxy.LogSetup

/-!
# The command line

The program reads its settings from the environment, its options from the command line, and tells
on the error output what a run with them logs, where the metrics can be served, and on a server that
comes up at once and is interrupted at the first occasion.  Its exit status is that of the run.
-/

set_option autoImplicit false

namespace InjectingProxy

/-- The variables that hold settings. -/
def settingNames : List String :=
  ["PROXY_HOST", "PROXY_PORT", "BACKEND_SCHEME", "BACKEND_HOST", "BACKEND_TIMEOUT",
    "PROXY_ERROR_CODE", "PROXY_ERROR_MOD", "METRICS_PORT", "LOG_LEVEL", "LOG_FILE"]

/-- The settings in the environment of the program. -/
def readEnvironment : IO Environment := do
  let found ← settingNames.mapM fun name => do pure ((← IO.getEnv name).map fun v => (name, v))
  pure (found.filterMap id)

/-- The line of an event in the log. -/
def logLine (e : Event) : String :=
  "[" ++ e.severity.name ++ "] " ++ e.source ++ ": " ++ e.message

/-- The exit status at the end of a run. -/
def Finish.status : Finish → UInt32
  | .exit n => UInt32.ofNat n
  | .running | .starting | .interrupted => 0
  | .startFailed _ | .unheard _ | .crashed _ => 1

end InjectingProxy

open InjectingProxy in
/-- Run the program. -/
def main (args : List String) : IO UInt32 := do
  match Settings.load (← readEnvironment) with
  | .error f =>
    IO.eprintln f.message
    pure 1
  | .ok settings =>
    let launch := Launch.run settings (args.map String.toList) (fun _ => none)
      (Course.prescribed (some 0) none []) 2 0
    IO.print launch.output
    IO.eprint launch.errors
    for e in launch.events do
      IO.eprintln (logLine e)
    match launch.finish with
    | .startFailed f => IO.eprintln f.message
    | .unheard f => IO.eprintln f.message
    | .crashed f => IO.eprintln f.message
    | _ => pure ()
    pure launch.finish.status
