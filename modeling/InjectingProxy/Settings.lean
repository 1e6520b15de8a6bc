import InjectingProxy.Number.Reading
import InjectingProxy.Text.Quoted

/-!
# Settings of the environment

Settings are read from environment variables; each has a value of its own where its variable is
not set.  A number that cannot be read is reported for the first such variable.

## What is here

* `Environment`: variables and their values.
* `Settings`, `Settings.load`: the settings of an environment.
-/

set_option autoImplicit false

namespace InjectingProxy

/-- Variables with their values. -/
abbrev Environment := List (String × String)

/-- The settings of an environment. -/
structure Settings where
  proxyHost : String
  proxyPort : Int
  backendScheme : String
  backendHost : Option String
  backendTimeout : Float
  errorCode : Int
  errorMod : Int
  metricsPort : Option Int

namespace Settings

/-- A value that cannot be read as a number. -/
inductive Fault where
  | whole (text : String) (f : Whole.Fault)
  | decimal (text : String)
  deriving DecidableEq, Repr

/-- So much of a value is shown in a message about a whole number. -/
def shownLength : Nat := 200

/-- The wording for a text that is read as no whole number. -/
def wholeMessage (text : String) : Whole.Fault → String
  | .malformed =>
    "invalid literal for int() with base 10: " ++
      String.ofList ((Quoted.encode text.toList).take shownLength)
  | .tooLong digits =>
    "Exceeds the limit (4300 digits) for integer string conversion: value has " ++
      toString digits ++
      " digits; use sys.set_int_max_str_digits() to increase the limit"

/-- The text of a fault. -/
def Fault.message : Fault → String
  | .whole text f => wholeMessage text f
  | .decimal text => "could not convert string to float: " ++ quoted text

/-- The value of a variable, or another one where it is not set. -/
def valueOr (env : Environment) (name other : String) : String := (env.lookup name).getD other

/-- A whole number. -/
def readWhole (text : String) : Except Fault Int := (Whole.read text.toList).mapError (.whole text)

/-- A floating-point number. -/
def readDecimal (text : String) : Except Fault Float :=
  match Decimal.read? text.toList with
  | some x => .ok x
  | none => .error (.decimal text)

/-- A whole number that may be missing or empty. -/
def readPort? : Option String → Except Fault (Option Int)
  | none => .ok none
  | some text => if text.isEmpty then .ok none else (readWhole text).map some

/-- The settings of an environment. -/
def load (env : Environment) : Except Fault Settings := do
  let proxyPort ← readWhole (valueOr env "PROXY_PORT" "8812")
  let backendTimeout ← readDecimal (valueOr env "BACKEND_TIMEOUT" "5.0")
  let errorCode ← readWhole (valueOr env "PROXY_ERROR_CODE" "503")
  let errorMod ← readWhole (valueOr env "PROXY_ERROR_MOD" "10")
  let metricsPort ← readPort? (env.lookup "METRICS_PORT")
  pure {
    proxyHost := valueOr env "PROXY_HOST" "0.0.0.0"
    backendScheme := valueOr env "BACKEND_SCHEME" "https"
    backendHost := env.lookup "BACKEND_HOST"
    proxyPort, backendTimeout, errorCode, errorMod, metricsPort }

end Settings
end InjectingProxy
