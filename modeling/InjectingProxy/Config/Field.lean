import InjectingProxy.Config.Value
import InjectingProxy.Number.Binary
import InjectingProxy.Number.Reading
import InjectingProxy.Text.Quoted

/-!
# Fields of a configuration

A field asks for a kind of value and accepts some others that clearly stand for one, such as a
number given as text.  What it refuses, it refuses with a flaw; all flaws of a configuration are
reported together, field by field.

## What is here

* `Flaw`: why a value is refused, with its name and its wording.
* `Field.whole`, `Field.real`, `Field.bool`, `Field.text`: what each kind of field accepts.
* `FieldError`, `Checked`: flaws with their places, and readings that gather them.
-/

set_option autoImplicit false

namespace InjectingProxy

/-- Why the value of a field is refused. -/
inductive Flaw where
  | missing
  | frozen
  | notWhole
  | unreadableWhole
  | wholeTooLong
  | fractional
  | notFinite
  | notReal
  | unreadableReal
  | notBool
  | unreadableBool
  | notText
  | notStatus
  | above (limit : Int)
  | below (limit : Int)
  | hostWithPath (host : String)
  deriving DecidableEq, Repr

namespace Flaw

/-- The name of the kind of flaw. -/
def name : Flaw → String
  | .missing => "missing"
  | .frozen => "frozen_instance"
  | .notWhole => "int_type"
  | .unreadableWhole => "int_parsing"
  | .wholeTooLong => "int_parsing_size"
  | .fractional => "int_from_float"
  | .notFinite => "finite_number"
  | .notReal => "float_type"
  | .unreadableReal => "float_parsing"
  | .notBool => "bool_type"
  | .unreadableBool => "bool_parsing"
  | .notText => "string_type"
  | .notStatus => "model_type"
  | .above _ => "less_than_equal"
  | .below _ => "greater_than_equal"
  | .hostWithPath _ => "value_error"

/-- The wording of the flaw. -/
def message : Flaw → String
  | .missing => "Field required"
  | .frozen => "Instance is frozen"
  | .notWhole => "Input should be a valid integer"
  | .unreadableWhole =>
    "Input should be a valid integer, unable to parse string as an integer"
  | .wholeTooLong => "Unable to parse input string as an integer, exceeded maximum size"
  | .fractional => "Input should be a valid integer, got a number with a fractional part"
  | .notFinite => "Input should be a finite number"
  | .notReal => "Input should be a valid number"
  | .unreadableReal => "Input should be a valid number, unable to parse string as a number"
  | .notBool => "Input should be a valid boolean"
  | .unreadableBool => "Input should be a valid boolean, unable to interpret input"
  | .notText => "Input should be a valid string"
  | .notStatus => "Input should be a valid dictionary or instance of HttpStatus"
  | .above limit => "Input should be less than or equal to " ++ toString limit
  | .below limit => "Input should be greater than or equal to " ++ toString limit
  | .hostWithPath host =>
    "Value error, backend host must be host[:port] without a path: " ++ quoted host

end Flaw

/-- A flaw with its place and the value that was given. -/
structure FieldError where
  place : List String
  flaw : Flaw
  given : Value

/-- A reading that gathers all flaws. -/
abbrev Checked (α : Type) := Except (List FieldError) α

/-- What is set for all records of a class. -/
structure RecordSettings where
  /-- The fields of a record stay as they are once it has been made. -/
  frozen : Bool

namespace Checked

/-- Two readings together; the flaws of the first come first. -/
def both {α β : Type} (a : Checked α) (b : Checked β) : Checked (α × β) :=
  match a, b with
  | .ok x, .ok y => .ok (x, y)
  | .ok _, .error fs => .error fs
  | .error es, .ok _ => .error es
  | .error es, .error fs => .error (es ++ fs)

end Checked

namespace Field

/-- What a field makes of a value. -/
abbrev Reader (α : Type) := Value → Except Flaw α

/-- The text without zeros at its front, of which one stays if nothing else or a point follows.
Underscores between them go with them, and a minus sign may follow them. -/
def dropZeros : Text → Option Text
  | '0' :: rest => afterZero '0' rest
  | c :: rest => if c.isDigit || c == '-' then some (c :: rest) else none
  | [] => none
where
  /-- What remains after a character that was left out. -/
  afterZero (last : Char) : Text → Option Text
    | [] => some [last]
    | c :: rest =>
      if c == '0' || c == '_' then afterZero c rest
      else if c.isDigit || c == '-' then some (c :: rest)
      else if c == '.' then some (last :: c :: rest)
      else none

/-- The text without a fraction of zeros; a fraction has at least one. -/
def dropZeroFraction (t : Text) : Text :=
  match Text.cut (· == '.') t with
  | (whole, some fraction) =>
    if !fraction.isEmpty && fraction.all (· == '0') then whole else t
  | (_, none) => t

/-- The text without underscores, each of which stands alone and not at an end. -/
def dropSingleUnderscores (t : Text) : Option Text :=
  if (Text.pieces (· == '_') t).any List.isEmpty then none else some (t.filter (· != '_'))

/-- A whole number in its plain form: a minus sign perhaps, and digits. -/
def plainWhole? (t : Text) : Option (Bool × List Nat) :=
  let (negative, digits) :=
    match t with
    | '-' :: rest => (true, rest)
    | _ => (false, t)
  if digits.isEmpty || !digits.all Char.isDigit then none
  else some (negative, digits.map fun c => c.toNat - 48)

/-- The whole number that a text stands for.  White space around it, a plus sign, zeros at the front
and a fraction of zeros are passed over, and single underscores are left out; only then is a minus
sign looked for.  So `-_1` and `0-01` are read as -1, and `-0__1` is not read.  Only the digits that
are left count against the longest number. -/
def wholeOfText (s : String) : Except Flaw Int :=
  let trimmed := Text.trim isWhite s.toList
  let unsigned :=
    match trimmed with
    | '+' :: '-' :: _ => none
    | '+' :: rest => some rest
    | _ => some trimmed
  let plain :=
    ((unsigned.bind dropZeros).bind fun t => dropSingleUnderscores (dropZeroFraction t)).bind
      plainWhole?
  match plain with
  | none => .error .unreadableWhole
  | some (negative, digits) =>
    if Whole.maxDigits < digits.length then .error .wholeTooLong
    else
      let n : Int := decimalNumber digits
      .ok (if negative then -n else n)

/-- The whole number fits into 64 bits. -/
def fits64 (n : Int) : Bool := n.natAbs < 9223372036854775808

/-- A whole number: given as such, as text, as a truth value, or as a floating-point number that
has no fraction and lies within 64 bits. -/
def whole : Reader Int
  | .whole n => .ok n
  | .bool b => .ok (if b then 1 else 0)
  | .text s => wholeOfText s
  | .real x =>
    if x.isNaN || x.isInf then .error .notFinite
    else
      match intOfFloat? x with
      | none => .error .fractional
      | some n => if fits64 n then .ok n else .error .wholeTooLong
  | _ => .error .notWhole

/-- A whole number between two limits, either of which may be missing. -/
def wholeWithin (least most : Option Int) : Reader Int := fun v =>
  match whole v with
  | .error e => .error e
  | .ok n =>
    match least, most with
    | some low, some high =>
      if high < n then .error (.above high) else if n < low then .error (.below low) else .ok n
    | some low, none => if n < low then .error (.below low) else .ok n
    | none, some high => if high < n then .error (.above high) else .ok n
    | none, none => .ok n

/-- The floating-point number that a text stands for; if it is none as it stands, single
underscores are left out. -/
def realOfText (s : String) : Except Flaw Float :=
  match Decimal.plain? (Text.trim isWhite s.toList) with
  | some x => .ok x
  | none =>
    match (dropSingleUnderscores s.toList).bind Decimal.plain? with
    | some x => .ok x
    | none => .error .unreadableReal

/-- A floating-point number: given as such, as text, as a truth value or as a whole number. -/
def real : Reader Float
  | .real x => .ok x
  | .bool b => .ok (if b then 1 else 0)
  | .text s => realOfText s
  | .whole n =>
    match floatOfInt? n with
    | some x => .ok x
    | none => .error .notReal
  | _ => .error .notReal

/-- A field that may be null. -/
def orNull {α : Type} (read : Reader α) : Reader (Option α)
  | .null => .ok none
  | v =>
    match read v with
    | .ok x => .ok (some x)
    | .error e => .error e

/-- The words for true. -/
def trueWords : List String := ["1", "t", "true", "y", "yes", "on"]

/-- The words for false. -/
def falseWords : List String := ["0", "f", "false", "n", "no", "off"]

/-- The truth value of a number: 0 or 1. -/
def boolOfWhole (n : Int) : Except Flaw Bool :=
  if n = 0 then .ok false else if n = 1 then .ok true else .error .unreadableBool

/-- A truth value: given as such, as one of some words in any case, or as 0 or 1.  A number beyond
64 bits is not even looked at as one. -/
def bool : Reader Bool
  | .bool b => .ok b
  | .text s =>
    let small := String.ofList (Text.lowerAscii s.toList)
    if trueWords.contains small then .ok true
    else if falseWords.contains small then .ok false
    else .error .unreadableBool
  | .whole n =>
    if fits64 n || n = -9223372036854775808 then boolOfWhole n else .error .notBool
  | .real x =>
    match intOfFloat? x with
    | some n => if fits64 n then boolOfWhole n else .error .notBool
    | none => .error .notBool
  | _ => .error .notBool

/-- A text. -/
def text : Reader String
  | .text s => .ok s
  | _ => .error .notText

/-- The field of a record that must be there. -/
def required {α : Type} (record : Value) (name : String) (read : Reader α) : Checked α :=
  match record.field? name with
  | none => .error [⟨[name], .missing, record⟩]
  | some v =>
    match read v with
    | .ok x => .ok x
    | .error e => .error [⟨[name], e, v⟩]

/-- The field of a record that may be missing. -/
def withDefault {α : Type} (record : Value) (name : String) (read : Reader α) (other : α) :
    Checked α :=
  match record.field? name with
  | none => .ok other
  | some v =>
    match read v with
    | .ok x => .ok x
    | .error e => .error [⟨[name], e, v⟩]

/-- The outcome of an attempt to assign a value to a name of a record: its fields afterwards, and
why it was refused, if it was.  A name that begins with an underscore is no field: what is written
there is a note, which changes no field.  A value that is assigned is not read. -/
def assign (settings : RecordSettings) (fields : List (String × Value)) (name : String)
    (v : Value) : List (String × Value) × Option FieldError :=
  if name.toList.head? == some '_' then (fields, none)
  else if settings.frozen then (fields, some ⟨[name], .frozen, v⟩)
  else (fields.map fun f => if f.1 = name then (name, v) else f, none)

/-- A reading of a part of a record, whose errors get the name of the part. -/
def inside {α : Type} (name : String) (c : Checked α) : Checked α :=
  match c with
  | .ok x => .ok x
  | .error es => .error (es.map fun e => { e with place := name :: e.place })

end Field
end InjectingProxy
