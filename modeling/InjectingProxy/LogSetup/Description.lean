import InjectingProxy.Text.Quoted

/-!
# The description of a log while it is set up

The log is set up from a description, a record of records.  What has been made of a part of it
takes the place of the part, so that later parts can refer to it.

## What is here

* `Part`: a part of the description, or what has been made of it.
* `Step`, `Part.follow`: one step from a part to a part inside it.
* `Cause`: why a part is not what it has to be, with its wording.
-/

set_option autoImplicit false

namespace InjectingProxy
namespace LogSetup

/-- A part of the description of a log. -/
inductive Part where
  | whole (n : Int)
  | text (s : String)
  | list (items : List String)
  | record (fields : List (String × Part))
  /-- Something that was made, of which only the kind is known. -/
  | made (kind : String)

namespace Part

/-- The name of the kind of a part. -/
def kind : Part → String
  | .whole _ => "int"
  | .text _ => "str"
  | .list _ => "ConvertingList"
  | .record _ => "ConvertingDict"
  | .made kind => kind

mutual

/-- A part as it is shown. -/
def shown : Part → String
  | .whole n => toString n
  | .text s => quoted s
  | .list items => "[" ++ ", ".intercalate (items.map quoted) ++ "]"
  | .record fields => "\x7b" ++ ", ".intercalate (shownFields fields) ++ "\x7d"
  | .made kind => "<" ++ kind ++ ">"

/-- The fields of a record as they are shown. -/
def shownFields : List (String × Part) → List String
  | [] => []
  | (name, p) :: rest => (quoted name ++ ": " ++ shown p) :: shownFields rest

end

end Part

/-- Why a part of the description is not what it has to be. -/
inductive Cause where
  | unknownLevel (name : String)
  | noLevel (p : Part)
  | noPath (p : Part)
  /-- A name that leads nowhere, from `missing` on. -/
  | unknownName (name missing : Text)
  | emptyName
  | noField (name : String)
  | noNumberedField (n : Nat)
  | noItem (kind : String)
  | notNumbered (kind : String)
  | noParts (kind : String)
  /-- A way that does not begin with a word. -/
  | noWay (way : Text)
  /-- A way that cannot be read from `rest` on. -/
  | brokenWay (way rest : Text)
  | endless

/-- The text of a cause. -/
def Cause.message : Cause → String
  | .unknownLevel name => "Unknown level: " ++ quoted name
  | .noLevel p => "Level not an integer or a valid string: " ++ p.shown
  | .noPath p => "expected str, bytes or os.PathLike object, not " ++ p.kind
  | .unknownName name missing =>
    "Cannot resolve " ++ Text.quoted name ++ ": No module named " ++ Text.quoted missing
  | .emptyName => "Empty module name"
  | .noField name => quoted name
  | .noNumberedField n => toString n
  | .noItem kind => kind ++ " index out of range"
  | .notNumbered "list" => "list indices must be integers or slices, not str"
  | .notNumbered _ => "string indices must be integers, not 'str'"
  | .noParts kind => "'" ++ kind ++ "' object is not subscriptable"
  | .noWay way => "Unable to convert " ++ Text.quoted way
  | .brokenWay way rest => "Unable to convert " ++ Text.quoted way ++ " at " ++ Text.quoted rest
  | .endless => "maximum recursion depth exceeded"

/-- A step into a part: to a field, or to the item at a place. -/
inductive Step where
  | field (name : String)
  | item (place : Nat)
  deriving DecidableEq, Repr

/-- The part that a step leads to. -/
def Part.follow : Step → Part → Except Cause Part
  | .field name, .record fields =>
    match fields.lookup name with
    | some p => .ok p
    | none => .error (.noField name)
  | .item n, .record _ => .error (.noNumberedField n)
  | .field _, .list _ => .error (.notNumbered "list")
  | .item n, .list items =>
    match items[n]? with
    | some s => .ok (.text s)
    | none => .error (.noItem "list")
  | .field _, .text _ => .error (.notNumbered "string")
  | .item n, .text s =>
    match s.toList[n]? with
    | some c => .ok (.text (String.ofList [c]))
    | none => .error (.noItem "string")
  | _, p => .error (.noParts p.kind)

end LogSetup
end InjectingProxy
