import InjectingProxy.Text.Basic

/-!
# Options of the command line

An option has one or more spellings, and most take a value.

## What is here

* `Opt`: the options, with their spellings, what they take and what they are for.
* `Opt.bySpelling`: all spellings, in the order in which they are tried.
-/

set_option autoImplicit false

namespace InjectingProxy

/-- The options of the command line. -/
inductive Opt where
  | help | port | host | error | errorMod | backendScheme | backendHost | backendTimeout
  | metricsPort | embedded
  deriving DecidableEq, Repr

/-- What the value of an option has to be. -/
inductive ValueKind where
  | text | whole | positive | decimal
  deriving DecidableEq, Repr

/-- The name of a kind of values in messages. -/
def ValueKind.name : ValueKind → String
  | .text => "str"
  | .whole => "int"
  | .positive => "positive_int"
  | .decimal => "float"

namespace Opt

/-- All options, in the order in which they are listed. -/
def all : List Opt :=
  [.help, .port, .host, .error, .errorMod, .backendScheme, .backendHost, .backendTimeout,
    .metricsPort, .embedded]

/-- The spellings of an option, the shortest first. -/
def spellings : Opt → List String
  | .help => ["-h", "--help"]
  | .port => ["-p", "--port"]
  | .host => ["--host"]
  | .error => ["-e", "--error"]
  | .errorMod => ["-m", "--error-mod"]
  | .backendScheme => ["--backend-scheme"]
  | .backendHost => ["--backend-host"]
  | .backendTimeout => ["--backend-timeout"]
  | .metricsPort => ["--metrics-port"]
  | .embedded => ["--embedded"]

/-- The name of the value of an option and its kind, for options that take one. -/
def value? : Opt → Option (String × ValueKind)
  | .help | .embedded => none
  | .port => some ("PORT", .whole)
  | .host => some ("HOST", .text)
  | .error => some ("ERROR", .whole)
  | .errorMod => some ("ERROR_MOD", .positive)
  | .backendScheme => some ("BACKEND_SCHEME", .text)
  | .backendHost => some ("BACKEND_HOST", .text)
  | .backendTimeout => some ("BACKEND_TIMEOUT", .decimal)
  | .metricsPort => some ("METRICS_PORT", .whole)

/-- What an option is for. -/
def purpose : Opt → String
  | .help => "show this help message and exit"
  | .port => "Port"
  | .host => "Interface to listen on"
  | .error => "Error"
  | .errorMod => "Error thrown every m requests"
  | .backendScheme => "Backend url scheme"
  | .backendHost => "Backend host, optionally with a port"
  | .backendTimeout => "Timeout in seconds for backend calls"
  | .metricsPort => "Serve prometheus metrics on this port"
  | .embedded => "Immediately return and leave the server running in a thread"

/-- All spellings with their options, in the order in which they are tried. -/
def bySpelling : List (Text × Opt) :=
  all.flatMap fun o => o.spellings.map fun s => (s.toList, o)

/-- The option with a given spelling. -/
def ofSpelling? (s : Text) : Option Opt := bySpelling.lookup s

/-- The spellings of an option as messages show them. -/
def shown (o : Opt) : String := "/".intercalate o.spellings

end Opt
end InjectingProxy
