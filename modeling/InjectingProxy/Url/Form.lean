import InjectingProxy.Url.Percent

/-!
# Query parameters

A query is a row of parameters `key=value` between ampersands, in which a plus sign stands for a
blank and other characters are percent-encoded.

## What is here

* `Form.encode`: the query of a list of parameters.
* `Form.decode`: the parameters of a query.
* `Form.group`: the parameters with equal keys brought together.
-/

set_option autoImplicit false

namespace InjectingProxy
namespace Form

/-- A parameter: its key and its value. -/
abbrev Parameter := Text × Text

/-- A key or a value inside a query. -/
def encodePart (t : Text) : Text :=
  t.flatMap fun c =>
    if Percent.isUnreserved c then [c] else if c = ' ' then ['+'] else Percent.escapeChar c

/-- A parameter inside a query. -/
def encodeParameter (p : Parameter) : Text := encodePart p.1 ++ '=' :: encodePart p.2

/-- The query of a list of parameters. -/
def encode (ps : List Parameter) : Text := Text.join ['&'] (ps.map encodeParameter)

/-- The keys of a list of parameters, each once, in the order of their first occurrence. -/
def keys (ps : List Parameter) : List Text := (ps.map Prod.fst).eraseDups

/-- The parameters with equal keys brought together: keys in the order of their first occurrence,
and for each key its values in their order. -/
def group (ps : List Parameter) : List Parameter :=
  (keys ps).flatMap fun k => ps.filter fun p => p.1 == k

/-- A blank for each plus sign. -/
def blanksForPluses (t : Text) : Text := t.map fun c => if c = '+' then ' ' else c

/-- The text of a key or value inside a query. -/
def decodePart (t : Text) : Text := Percent.decode (blanksForPluses t)

/-- The parameters of a query.  Empty pieces are passed over, and a piece without an equals sign
is a key with an empty value. -/
def decode (t : Text) : List Parameter :=
  (Text.pieces (· == '&') t).filterMap fun piece =>
    if piece.isEmpty then none
    else
      let (key, value) := Text.cut (· == '=') piece
      some (decodePart key, decodePart (value.getD []))

end Form
end InjectingProxy
