import InjectingProxy.Text.Quoted

/-!
# Outcomes

Every request that reaches the proxy gets the injected error, is answered by the backend, or could
not be forwarded.
-/

set_option autoImplicit false

namespace InjectingProxy

/-- What became of a request. -/
inductive Outcome where
  | errorInjected | forwardedOk | forwardFailed
  deriving DecidableEq, Repr

/-- The word for an outcome. -/
def Outcome.name : Outcome → String
  | .errorInjected => "error_injected"
  | .forwardedOk => "forwarded_ok"
  | .forwardFailed => "forward_failed"

/-- The outcomes, in the order in which they are listed. -/
def Outcome.all : List Outcome := [.errorInjected, .forwardedOk, .forwardFailed]

/-- The outcome that a word stands for. -/
def Outcome.ofName? (name : String) : Option Outcome :=
  Outcome.all.find? fun o => o.name == name

/-- The wording for a word that stands for no outcome. -/
def Outcome.refusal (name : String) : String := quoted name ++ " is not a valid RequestOutcome"

end InjectingProxy
