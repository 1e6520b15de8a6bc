/-!
# Values of settings

Settings arrive as values of a few kinds.  Whole numbers and floating-point numbers are different
kinds, even where they are equal.
-/

set_option autoImplicit false

namespace InjectingProxy

/-- A value of a setting.  The fields of a record have an order. -/
inductive Value where
  | null
  | bool (b : Bool)
  | whole (n : Int)
  | real (x : Float)
  | text (s : String)
  | list (items : List Value)
  | record (fields : List (String × Value))

namespace Value

/-- The field of a record; the last one counts if there are several of that name. -/
def field? (v : Value) (name : String) : Option Value :=
  match v with
  | .record fields => fields.reverse.lookup name
  | _ => none

end Value
end InjectingProxy
