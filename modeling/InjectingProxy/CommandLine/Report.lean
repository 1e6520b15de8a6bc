import InjectingProxy.Config.Basic
import InjectingProxy.Number.Shortest

/-!
# Reports of refused configurations

A configuration that is refused is reported with each flaw, where it is, and the value that was
given, which is cut in its middle if it is long.
-/

set_option autoImplicit false

namespace InjectingProxy
namespace Report

/-- A value as it is shown. -/
def shown : Value → String
  | .null => "None"
  | .bool b => if b then "True" else "False"
  | .whole n => toString n
  | .real x => shortest x
  | .text s => quoted s
  | .list _ => "[]"
  | .record _ => "\x7b\x7d"

/-- The kind of a value. -/
def kind : Value → String
  | .null => "NoneType"
  | .bool _ => "bool"
  | .whole _ => "int"
  | .real _ => "float"
  | .text _ => "str"
  | .list _ => "list"
  | .record _ => "dict"

/-- The first characters of a text, of at most so many bytes. -/
def takeBytes (limit : Nat) : Text → Text
  | [] => []
  | c :: rest => if c.utf8Size ≤ limit then c :: takeBytes (limit - c.utf8Size) rest else []

/-- A text of more than fifty bytes is cut to its first and last characters. -/
def shorten (s : String) : String :=
  if s.utf8ByteSize ≤ 50 then s
  else
    String.ofList (takeBytes 25 s.toList) ++ "..." ++
      String.ofList (takeBytes 24 s.toList.reverse).reverse

/-- The lines about one flaw. -/
def ofError (e : FieldError) : String :=
  ".".intercalate e.place ++ "\n  " ++ e.flaw.message ++ " [type=" ++ e.flaw.name ++
    ", input_value=" ++ shorten (shown e.given) ++ ", input_type=" ++ kind e.given ++
    "]\n    For further information visit https://errors.pydantic.dev/2.14/v/" ++ e.flaw.name

/-- The report of all flaws. -/
def ofErrors (es : List FieldError) : String :=
  toString es.length ++ " validation error" ++ (if es.length = 1 then "" else "s") ++
    " for ProxyConfig\n" ++ "\n".intercalate (es.map ofError)

end Report
end InjectingProxy
