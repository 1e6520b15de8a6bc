import InjectingProxy.CommandLine.Opt

/-!
# Usage and help

The usage lists the options on lines of at most 78 characters; the help says what each is for, in a
second column.  An option that has to be given stands without brackets.

## What is here

* `Usage.fill`: words on lines of a given width.
* `Usage.usage`, `Usage.help`: the two texts.
-/

set_option autoImplicit false

namespace InjectingProxy
namespace Usage

/-- The name of the program. -/
def program : String := "faultproxy"

/-- What the program is for. -/
def summary : String := "HTTP proxy that returns a preprogrammed error every few requests."

/-- Words on lines of at most `width` characters, where `line` is the line begun so far. -/
def fillFrom (width : Nat) (line : String) : List String → List String
  | [] => [line]
  | w :: rest =>
    if line.length + 1 + w.length ≤ width then fillFrom width (line ++ " " ++ w) rest
    else line :: fillFrom width w rest

/-- Words on lines of at most `width` characters. -/
def fill (width : Nat) : List String → List String
  | [] => []
  | w :: rest => fillFrom width w rest

/-- The widest line. -/
def width : Nat := 78

/-- The column in which the help says what an option is for. -/
def column : Nat := 24

/-- The parts of the usage for an option; brackets keep its spelling and its value together. -/
def usageParts (required : Opt → Bool) (o : Opt) : List String :=
  let spelling := o.spellings.headD ""
  match o.value? with
  | none => ["[" ++ spelling ++ "]"]
  | some (name, _) =>
    if required o then [spelling, name] else ["[" ++ spelling ++ " " ++ name ++ "]"]

/-- The usage. -/
def usage (required : Opt → Bool) : String :=
  let start := "usage: " ++ program
  let indent := String.ofList (List.replicate (start.length + 1) ' ')
  let lines := fill (width - indent.length) (Opt.all.flatMap (usageParts required))
  start ++ " " ++ ("\n" ++ indent).intercalate lines ++ "\n"

/-- An option with its spellings and its value. -/
def heading (o : Opt) : String :=
  ", ".intercalate (o.spellings.map fun s =>
    match o.value? with
    | none => s
    | some (name, _) => s ++ " " ++ name)

/-- The lines of the help for an option. -/
def helpLines (o : Opt) : List String :=
  let blanks (n : Nat) : String := String.ofList (List.replicate n ' ')
  let purpose := fill (width - column) (o.purpose.splitOn " ")
  let start := "  " ++ heading o
  if start.length + 2 ≤ column then
    match purpose with
    | [] => [start]
    | first :: rest =>
      (start ++ blanks (column - start.length) ++ first) :: rest.map (blanks column ++ ·)
  else start :: purpose.map (blanks column ++ ·)

/-- The help. -/
def help (required : Opt → Bool) : String :=
  usage required ++ "\n" ++ summary ++ "\n\noptions:\n" ++
    String.join ((Opt.all.flatMap helpLines).map (· ++ "\n"))

end Usage
end InjectingProxy
