/-!
# The error gate

A gate counts requests and picks those that get the injected error: the first one and then every
`modulus`-th.  The count is an integer that any number of gates may share.

## What is here

* `Gate`, with a positive modulus, and `Gate.ofModulus`, which refuses any other.
* `Gate.injects`: the decision for a request by its ordinal alone.
* `Gate.consult`: count a request and decide.
* `Counting.run`: what several gates, and whoever else counts, do with a common count.
* `Decider`: a gate, or a list of decisions that are given in turn.
-/

set_option autoImplicit false

namespace InjectingProxy

/-- A gate with its modulus. -/
structure Gate where
  modulus : Int
  one_le_modulus : 1 ≤ modulus

namespace Gate

/-- Why a number is no modulus. -/
inductive Fault where
  | modulusBelowOne (modulus : Int)
  deriving DecidableEq, Repr

/-- The text of a refusal. -/
def Fault.message : Fault → String
  | .modulusBelowOne m => "error_mod must be >= 1, got " ++ toString m

/-- The gate with a given modulus. -/
def ofModulus (m : Int) : Except Fault Gate :=
  if h : 1 ≤ m then .ok ⟨m, h⟩ else .error (.modulusBelowOne m)

/-- The request with this ordinal gets the injected error.  For the modulus 1 both remainders are
0, so that every request does. -/
def injects (g : Gate) (ordinal : Int) : Bool := ordinal % g.modulus == 1 % g.modulus

/-- Count a request: the decision and the new count, which is the ordinal of the request. -/
def consult (g : Gate) (count : Int) : Bool × Int := (g.injects (count + 1), count + 1)

/-- The gate whose modulus is one greater. -/
def successor (g : Gate) : Gate := ⟨g.modulus + 1, by have := g.one_le_modulus; omega⟩

end Gate

/-- Something that is done with a count that gates share. -/
inductive Counting where
  /-- A gate counts a request and decides. -/
  | consult (g : Gate)
  /-- One is counted without a gate. -/
  | increment

/-- What comes of it: the new count, which is the ordinal of what was counted, and the decision if a
gate was consulted. -/
structure Counted where
  ordinal : Int
  decision : Option Bool
  deriving DecidableEq, Repr

namespace Counting

/-- Do something with a count. -/
def perform (count : Int) : Counting → Counted
  | .consult g =>
    let (decision, ordinal) := g.consult count
    ⟨ordinal, some decision⟩
  | .increment => ⟨count + 1, none⟩

/-- Do several things with a count, one after the other. -/
def run (count : Int) : List Counting → List Counted
  | [] => []
  | c :: rest =>
    let counted := c.perform count
    counted :: run counted.ordinal rest

end Counting

/-- What decides which requests get the injected error. -/
inductive Decider where
  /-- A gate on a count of its own. -/
  | gate (g : Gate)
  /-- Decisions that are given in turn, over and over. -/
  | script (answers : List Bool)

/-- The decision for a request when `asked` have been counted before it. -/
def Decider.decision : Decider → (asked : Int) → Bool
  | .gate g, asked => (g.consult asked).1
  | .script answers, asked => answers.getD (asked.toNat % answers.length) false

end InjectingProxy
