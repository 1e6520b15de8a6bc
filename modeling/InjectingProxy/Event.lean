import InjectingProxy.Status
import InjectingProxy.Number.Places

/-!
# Events

What the proxy does is told as a list of events.  An event knows its severity, the part of the
proxy that it comes from, and its wording, so that a log line is made in one place only.
-/

set_option autoImplicit false

namespace InjectingProxy

/-- How severe an event is. -/
inductive Severity where
  | debug | info | warning | error
  deriving DecidableEq, Repr

/-- The name of a severity in a log. -/
def Severity.name : Severity → String
  | .debug => "DEBUG"
  | .info => "INFO"
  | .warning => "WARNING"
  | .error => "ERROR"

/-- Something that is told in the log. -/
inductive Event where
  /-- A request has arrived. -/
  | serving (method : String) (path : Text)
  /-- The gate has decided on the request with this ordinal. -/
  | decided (ordinal : Int) (inject : Bool)
  /-- The configured error is returned. -/
  | injecting (status : Status)
  /-- A request goes to this address. -/
  | forwarding (address : Text)
  /-- No address can be made for a request. -/
  | addressRefused (method : String) (path : Text) (reason : String)
  /-- The method of a request is not forwarded. -/
  | methodRefused (method : String) (path : Text) (reason : String)
  /-- The backend has given no answer. -/
  | backendFailed
  /-- The backend has answered. -/
  | answered (status : Status) (address : Text)
  /-- The answer of the backend has been released. -/
  | released
  /-- The metrics are ready. -/
  | metricsReady
  /-- A request is over after so many seconds, and so many others are in flight. -/
  | processed (seconds : Float) (inFlight : Int)
  /-- The server listens on this port. -/
  | started (backendHost : String) (port : Int)
  /-- The server has been stopped. -/
  | stopped
  /-- The metrics are served on this port. -/
  | servingMetrics (port : String)
  /-- The user has interrupted the program. -/
  | interrupted

namespace Event

/-- How severe the event is. -/
def severity : Event → Severity
  | .addressRefused .. | .methodRefused .. => .warning
  | .backendFailed => .error
  | .metricsReady | .started .. | .stopped | .servingMetrics _ | .interrupted => .info
  | _ => .debug

/-- The part of the proxy that tells the event. -/
def source : Event → String
  | .serving .. | .injecting _ => "proxy"
  | .decided .. => "algorithms.modulus_error_gate"
  | .forwarding _ | .addressRefused .. | .methodRefused .. | .backendFailed | .answered ..
  | .released => "core.forwarding_relay"
  | .metricsReady | .processed .. => "core.metrics_manager"
  | .started .. | .stopped => "core.proxy_server"
  | .servingMetrics _ | .interrupted => "main"

/-- The wording of the event. -/
def message : Event → String
  | .serving method path => "Serving " ++ method ++ " " ++ path.string
  | .decided ordinal inject =>
    "Request #" ++ toString ordinal ++ ": inject_error=" ++ (if inject then "True" else "False")
  | .injecting status => "Returning an " ++ status.text
  | .forwarding address => "Proxying to " ++ address.string
  | .addressRefused method path reason =>
    "Invalid URI for " ++ method ++ " " ++ path.string ++ ": " ++ reason
  | .methodRefused method path reason =>
    "Rejecting " ++ method ++ " " ++ path.string ++ ": " ++ reason
  | .backendFailed => "Error communicating with backend"
  | .answered status address => "Backend answered " ++ status.text ++ " for " ++ address.string
  | .released => "Released backend response."
  | .metricsReady => "MetricsManager initialized."
  | .processed seconds inFlight =>
    "Request processed in " ++ fixedPlaces 4 seconds ++ "s. In-flight: " ++ toString inFlight ++
      ".0"
  | .started backendHost port =>
    "Started proxy to " ++ backendHost ++ " on " ++ toString port
  | .stopped => "Proxy stopped."
  | .servingMetrics port => "Serving metrics on " ++ port
  | .interrupted => "Interrupted, shutting down."

end Event
end InjectingProxy
