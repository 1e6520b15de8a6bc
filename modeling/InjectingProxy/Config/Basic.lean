import InjectingProxy.Config.Field
import InjectingProxy.Gate
import InjectingProxy.Status

/-!
# The configuration of a proxy

A configuration says where the proxy listens, where its backend is, which error it injects and how
often.  It is read once, from a record of values, and does not change afterwards.

## What is here

* `Config`, with its invariant: the modulus of the gate is positive.
* `Config.ofValue`: the configuration of a record, or everything that is wrong with the record.
* `Config.backendRoot`: the address below which requests are forwarded.
* `Config.assign`: an attempt to assign a field.
-/

set_option autoImplicit false

namespace InjectingProxy

/-- The status that a record describes. -/
def Status.ofValue (v : Value) : Checked Status :=
  match Checked.both (Field.required v "code" Field.whole)
      (Field.required v "description" Field.text) with
  | .ok (code, description) => .ok ⟨code, description⟩
  | .error es => .error es

/-- The fields of a status. -/
def Status.fields (s : Status) : List (String × Value) :=
  [("code", .whole s.code), ("description", .text s.description)]

/-- A status as a value. -/
def Status.toValue (s : Status) : Value := .record s.fields

/-- What is set for statuses: they are frozen. -/
def Status.settings : RecordSettings := { frozen := true }

/-- The outcome of an attempt to assign a field of a status. -/
def Status.assign (s : Status) (name : String) (v : Value) :
    List (String × Value) × Option FieldError :=
  Field.assign Status.settings s.fields name v

/-- The configuration of a proxy. -/
structure Config where
  port : Int
  host : String
  backendScheme : String
  backendHost : String
  errorStatus : Status
  gate : Gate
  backendTimeout : Option Float
  embedded : Bool

namespace Config

/-- The interface to listen on when none is given: all of them. -/
def defaultHost : String := "0.0.0.0"

/-- The scheme of the backend when none is given. -/
def defaultScheme : String := "https"

/-- The seconds to wait for the backend when nothing is said about it. -/
def defaultTimeout : Float := 5.0

/-- The highest port. -/
def maxPort : Int := 65535

/-- A host for the backend: not empty, and without a path. -/
def readBackendHost : Field.Reader String := fun v =>
  match Field.text v with
  | .error e => .error e
  | .ok s =>
    if s.toList.isEmpty || s.toList.contains '/' then .error (.hostWithPath s) else .ok s

/-- A positive modulus, as a gate. -/
def readGate : Field.Reader Gate := fun v =>
  match Field.whole v with
  | .error e => .error e
  | .ok n => if h : 1 ≤ n then .ok ⟨n, h⟩ else .error (.below 1)

/-- The error to inject. -/
def readStatus (record : Value) : Checked Status :=
  match record.field? "error_status" with
  | none => .error [⟨["error_status"], .missing, record⟩]
  | some (.record fields) => Field.inside "error_status" (Status.ofValue (.record fields))
  | some v => .error [⟨["error_status"], .notStatus, v⟩]

/-- The configuration that a record describes.  Fields that the record has besides are passed
over. -/
def ofValue (record : Value) : Checked Config :=
  let port := Field.required record "port" (Field.wholeWithin (some 0) (some maxPort))
  let host := Field.withDefault record "host" Field.text defaultHost
  let scheme := Field.withDefault record "backend_scheme" Field.text defaultScheme
  let backendHost := Field.required record "backend_host" readBackendHost
  let status := readStatus record
  let gate := Field.required record "error_mod" readGate
  let timeout :=
    Field.withDefault record "backend_timeout" (Field.orNull Field.real) (some defaultTimeout)
  let embedded := Field.withDefault record "embedded" Field.bool false
  match port.both (host.both (scheme.both (backendHost.both (status.both (gate.both
      (timeout.both embedded)))))) with
  | .error es => .error es
  | .ok (port, host, backendScheme, backendHost, errorStatus, gate, backendTimeout, embedded) =>
    .ok { port, host, backendScheme, backendHost, errorStatus, gate, backendTimeout, embedded }

/-- The fields of a configuration. -/
def fields (c : Config) : List (String × Value) :=
  [("port", .whole c.port), ("host", .text c.host),
    ("backend_scheme", .text c.backendScheme), ("backend_host", .text c.backendHost),
    ("error_status", c.errorStatus.toValue), ("error_mod", .whole c.gate.modulus),
    ("backend_timeout", (c.backendTimeout.map Value.real).getD .null),
    ("embedded", .bool c.embedded)]

/-- A configuration as a value. -/
def toValue (c : Config) : Value := .record c.fields

/-- The address below which requests are forwarded. -/
def backendRoot (c : Config) : String := c.backendScheme ++ "://" ++ c.backendHost

/-- The seconds to wait for the backend: to connect, to read, to write, and for a connection. -/
def timeouts (c : Config) : List (Option Float) := List.replicate 4 c.backendTimeout

/-- What is set for configurations: they are frozen. -/
def settings : RecordSettings := { frozen := true }

/-- The outcome of an attempt to assign a field of a configuration. -/
def assign (c : Config) (name : String) (v : Value) : List (String × Value) × Option FieldError :=
  Field.assign settings c.fields name v

end Config
end InjectingProxy
