import InjectingProxy.LogSetup.Description
import InjectingProxy.Text.Digit

/-!
# References in the description of a log

A text in the description can stand for something else.  After `ext://` comes a name from outside,
such as that of a level; after `cfg://` comes the way to another part of the description.

## What is here

* `levels`, `named`: the levels, and what the names from outside stand for.
* `Reference`, `Reference.ofText?`: the two kinds of references, and how they are written.
* `Part.resolve`: what a part stands for in a description.
-/

set_option autoImplicit false

namespace InjectingProxy
namespace LogSetup

/-- The levels by their names. -/
def levels : List (String × Int) :=
  [("CRITICAL", 50), ("FATAL", 50), ("ERROR", 40), ("WARN", 30), ("WARNING", 30), ("INFO", 20),
    ("DEBUG", 10), ("NOTSET", 0)]

/-- The module that names the levels. -/
def levelModule : Text := "logging".toList

/-- What a name from outside stands for.  Only the levels have names, each after the module that
names them. -/
def named (name : Text) : Except Cause Part :=
  match Text.pieces (· == '.') name with
  | [] => .error .emptyName
  | first :: others =>
    if first.isEmpty then .error .emptyName
    else if first ≠ levelModule then .error (.unknownName name first)
    else
      match others with
      | [] => .ok (.made "module")
      | level :: more =>
        match more, levels.lookup (String.ofList level) with
        | [], some n => .ok (.whole n)
        | _, _ => .error (.unknownName name (first ++ '.' :: level))

/-- A text that stands for something else. -/
inductive Reference where
  /-- A name from outside. -/
  | outside (name : Text)
  /-- The way to another part of the description. -/
  | inside (way : Text)
  deriving DecidableEq, Repr

/-- The reference that a text is, if it is one.  It holds no line break, unless at its end, where it
does not count. -/
def Reference.ofText? (t : Text) : Option Reference :=
  let t := if t.getLast? == some '\n' then t.dropLast else t
  if t.contains '\n' then none
  else
    match Text.dropStart? "ext://".toList t, Text.dropStart? "cfg://".toList t with
    | some name, _ => some (.outside name)
    | none, some way => some (.inside way)
    | none, none => none

/-- The character may stand in a word of a way: a letter, a figure or an underscore. -/
def isWordChar (c : Char) : Bool := c.isAlphanum || c == '_'

/-- A word with blanks around it, and what follows. -/
def word? (t : Text) : Option (Text × Text) :=
  let t := t.dropWhile isBlank
  let name := t.takeWhile isWordChar
  if name.isEmpty then none else some (name, (t.dropWhile isWordChar).dropWhile isBlank)

/-- The step to a field. -/
def Step.to (name : Text) : Step := .field (String.ofList name)

/-- The first step of a way, a word after a point or between brackets, and what follows.  Between
brackets a word of figures is a place. -/
def Step.first? : Text → Option (Step × Text)
  | '.' :: rest => (word? rest).map fun (name, rest) => (.to name, rest)
  | '[' :: rest =>
    match word? rest with
    | some (name, ']' :: rest) =>
      let step :=
        if name.all Char.isDigit then
          .item (decimalNumber (name.map fun c => c.toNat - 48))
        else .to name
      some (step, rest.dropWhile isBlank)
    | _ => none
  | _ => none

/-- The part at the end of a way of which `rest` is still to go; `mean` says what the parts on the
way stand for.  Each step is longer than nothing. -/
def Part.walk (mean : Part → Except Cause Part) (way : Text) :
    (fuel : Nat) → (rest : Text) → Part → Except Cause Part
  | 0, _, p => .ok p
  | fuel + 1, rest, p =>
    if rest.isEmpty then .ok p
    else
      match Step.first? rest with
      | none => .error (.brokenWay way rest)
      | some (step, rest) => do walk mean way fuel rest (← mean (← p.follow step))

/-- What a part stands for in the description `whole`.  References that lead from one to the next
more than `fuel` times lead nowhere. -/
def Part.resolve (whole : Part) : (fuel : Nat) → Part → Except Cause Part
  | fuel, .text s =>
    match Reference.ofText? s.toList with
    | none => .ok (.text s)
    | some (.outside name) => named name
    | some (.inside way) =>
      match fuel with
      | 0 => .error .endless
      | fuel + 1 =>
        match word? way with
        | none => .error (.noWay way)
        | some (name, rest) => do
          let mean := resolve whole fuel
          walk mean way rest.length rest (← mean (← whole.follow (.to name)))
  | _, p => .ok p

end LogSetup
end InjectingProxy
