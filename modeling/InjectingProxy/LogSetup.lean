import InjectingProxy.Config.Value
import InjectingProxy.LogSetup.Reference
import InjectingProxy.Settings

/-!
# Where the log goes

The log goes to the console and, if one is named, to a file.  One level applies to both.  The level
and the file can be given by references, which are followed while the log is set up.

## What is here

* `LogSetup`, `LogSetup.toValue`: the setup, and its description as a record.
* `LogSetup.ofEnvironment`: the setup that an environment asks for.
* `LogSetup.install`: the handlers that write the log, or why there are none.
* `Folders`: the directories and files that setting up the log leaves.
-/

set_option autoImplicit false

namespace InjectingProxy

/-- The value says something: it is not null, false, zero or empty. -/
def Value.isSet : Value → Bool
  | .null => false
  | .bool b => b
  | .whole n => n != 0
  | .real x => !(x == 0)
  | .text s => !s.isEmpty
  | .list items => !items.isEmpty
  | .record fields => !fields.isEmpty

/-- The level of the log, and the file that it goes to, if any. -/
structure LogSetup where
  level : Value
  file : Option Value

namespace LogSetup

/-- The level when none is given. -/
def defaultLevel : String := "INFO"

/-- The form of a line in the log. -/
def lineFormat : String := "%(asctime)s [%(levelname)s] %(name)s: %(message)s"

/-- The setup for a level and a file; a file that says nothing is none. -/
def make (level file : Value) : LogSetup := ⟨level, if file.isSet then some file else none⟩

/-- The description of what writes to the console. -/
def consoleHandler (s : LogSetup) : Value :=
  .record [("class", .text "logging.StreamHandler"), ("formatter", .text "default"),
    ("level", s.level)]

/-- The description of what writes to a file. -/
def fileHandler (s : LogSetup) (file : Value) : Value :=
  .record [("class", .text "logging.FileHandler"), ("filename", file),
    ("formatter", .text "default"), ("level", s.level)]

/-- The descriptions of all that writes the log. -/
def handlers (s : LogSetup) : List (String × Value) :=
  ("console", s.consoleHandler) :: (s.file.map fun f => ("file", s.fileHandler f)).toList

/-- The setup as a record. -/
def toValue (s : LogSetup) : Value :=
  .record [("version", .whole 1), ("disable_existing_loggers", .bool false),
    ("formatters", .record [("default", .record [("format", .text lineFormat)])]),
    ("handlers", .record s.handlers),
    ("root", .record [("handlers", .list (s.handlers.map fun h => .text h.1)),
      ("level", s.level)])]

/-- The setup that an environment asks for. -/
def ofEnvironment (env : Environment) : LogSetup :=
  make (.text (Settings.valueOr env "LOG_LEVEL" defaultLevel))
    (((env.lookup "LOG_FILE").map Value.text).getD .null)

/-- The text of a setting, empty if it is none. -/
def textOf : Value → String
  | .text s => s
  | _ => ""

/-- The file as text, if there is one. -/
def filePath? (s : LogSetup) : Option String := s.file.map textOf

/-- The description, with the handlers as far as they have been set up. -/
def description (s : LogSetup) (handlers : List (String × Part)) : Part :=
  .record [("version", .whole 1),
    ("formatters", .record [("default", .made "Formatter")]),
    ("handlers", .record handlers),
    ("root", .record [("handlers", .list (s.handlers.map Prod.fst)),
      ("level", .text (textOf s.level))])]

/-- What a text of the setup stands for, with the handlers as far as they have been set up.  There
are two texts to refer to, so that no way needs more than two references. -/
def meaning (s : LogSetup) (handlers : List (String × Part)) (t : String) : Except Cause Part :=
  (s.description handlers).resolve 3 (.text t)

/-- The number of a level. -/
def levelOf : Part → Except Cause Int
  | .whole n => .ok n
  | .text name =>
    match levels.lookup name with
    | some n => .ok n
    | none => .error (.unknownLevel name)
  | p => .error (.noLevel p)

/-- The path that names a file. -/
def pathOf : Part → Except Cause Text
  | .text path => .ok path.toList
  | p => .error (.noPath p)

/-- What is set up. -/
inductive Place where
  | handler (name : String)
  | root
  deriving DecidableEq, Repr

/-- Why the log is not set up: at which place, and for which cause. -/
structure Fault where
  place : Place
  cause : Cause

/-- The text of a fault. -/
def Fault.message (f : Fault) : String :=
  match f.place with
  | .handler name => "Unable to configure handler " ++ quoted name
  | .root => "Unable to configure root logger"

/-- Something that writes the log: its kind, its level, and the form of its lines. -/
structure Handler where
  kind : String
  level : Int
  format : String
  deriving DecidableEq, Repr

/-- The kind of what writes to the console. -/
def consoleKind : String := "StreamHandler"

/-- The kind of what writes to a file. -/
def fileKind : String := "FileHandler"

/-- The part of the description that says of which kind a handler is. -/
def kindField (kind : String) : String × Part := ("class", .text ("logging." ++ kind))

/-- The part of the description that names a file. -/
def fileField (path : String) : String × Part := ("filename", .text path)

/-- The level of a handler.  It is looked up while the description still says of which kind the
handler is, and used when it no longer does. -/
def handlerLevel (s : LogSetup) (before after : List (String × Part)) : Except Cause Int := do
  match ← s.meaning before (textOf s.level) with
  | .list _ | .record _ => levelOf (← s.meaning after (textOf s.level))
  | p => levelOf p

/-- The description of what writes to a file before it is looked at. -/
def fileUntouched (s : LogSetup) : List (String × Part) :=
  s.filePath?.toList.map fun path =>
    ("file", .record [kindField fileKind, fileField path, ("formatter", .text "default"),
      ("level", .text (textOf s.level))])

/-- What writes to the console, as long as it is set up. -/
def console (s : LogSetup) : Except Fault Handler :=
  let handlers (own : List (String × Part)) := ("console", Part.record own) :: s.fileUntouched
  match s.handlerLevel (handlers [kindField consoleKind]) (handlers []) with
  | .ok n => .ok ⟨consoleKind, n, lineFormat⟩
  | .error cause => .error ⟨.handler "console", cause⟩

/-- The handlers while the one for a file is set up, of whose description `own` is left. -/
def whileFile (own : List (String × Part)) : List (String × Part) :=
  [("console", .made consoleKind), ("file", .record own)]

/-- The path of the file that is opened, once the console is set up. -/
def opened (s : LogSetup) (path : String) : Except Cause Text := do
  discard (s.meaning (whileFile [kindField fileKind, fileField path]) (textOf s.level))
  pathOf (← s.meaning (whileFile [fileField path]) path)

/-- What writes to a file. -/
def fileHandler? (s : LogSetup) (path : String) : Except Fault Handler :=
  let own := fileField path
  match s.opened path, s.handlerLevel (whileFile [kindField fileKind, own]) (whileFile [own]) with
  | .ok _, .ok n => .ok ⟨fileKind, n, lineFormat⟩
  | .error cause, _ | .ok _, .error cause => .error ⟨.handler "file", cause⟩

/-- The level of the log as a whole, when all that writes it is set up. -/
def rootLevel (s : LogSetup) : Except Fault Int :=
  let made := ("console", Part.made consoleKind) ::
    s.filePath?.toList.map fun _ => ("file", .made fileKind)
  match s.meaning made (textOf s.level) >>= levelOf with
  | .ok n => .ok n
  | .error cause => .error ⟨.root, cause⟩

/-- The level of the log and what writes it, or why it is not set up. -/
def install (s : LogSetup) : Except Fault (Int × List Handler) := do
  let console ← s.console
  let file ← s.filePath?.toList.mapM s.fileHandler?
  pure (← s.rootLevel, console :: file)

/-- The file that setting up the log opens.  It stays if something fails after that. -/
def openedFile? (s : LogSetup) : Option Text :=
  match s.console, s.filePath? with
  | .ok _, some path => (s.opened path).toOption
  | _, _ => none

end LogSetup

/-- The directories and files below some place, as their segments. -/
structure Folders where
  directories : List (List Text)
  files : List (List Text)

namespace Folders

/-- The directories on the way along some segments, the nearest first, and where the way ends.  A
way that leaves the place does not come back. -/
def along : Option (List Text) → List Text → List (List Text) × Option (List Text)
  | none, _ => ([], none)
  | some here, [] => ([], some here)
  | some here, s :: rest =>
    if s.isEmpty || s = ['.'] then along (some here) rest
    else if s = ['.', '.'] then along (if here.isEmpty then none else some here.dropLast) rest
    else
      let next := here ++ [s]
      let (made, last) := along (some next) rest
      (next :: made, last)

/-- The segments of a path. -/
def segments (path : Text) : List Text := Text.pieces (· == '/') path

/-- Where a path begins: here, or outside if it begins with a slash. -/
def start (path : Text) : Option (List Text) := if path.head? == some '/' then none else some []

/-- Make a directory with all that lead to it. -/
def makeDirectory (f : Folders) (path : Text) : Folders :=
  { f with directories := f.directories ++ (along (start path) (segments path)).1 }

/-- Make the directories that lead to a file. -/
def makeWay (f : Folders) (path : Text) : Folders :=
  { f with directories := f.directories ++ (along (start path) (segments path).dropLast).1 }

/-- Make a file. -/
def makeFile (f : Folders) (path : Text) : Folders :=
  { f with files := f.files ++ (along (start path) (segments path)).2.toList }

/-- The paths of all directories, with a slash at their ends, and files, sorted. -/
def paths (f : Folders) : List String :=
  let shown := f.directories.map (fun d => String.ofList (Text.join ['/'] d ++ ['/'])) ++
    f.files.map fun d => String.ofList (Text.join ['/'] d)
  shown.eraseDups.mergeSort fun a b => decide (a ≤ b)

/-- What setting up the log leaves: the directories that lead to its file as it is named, and the
file that is opened. -/
def afterSetup (existing : List String) (s : LogSetup) : Folders :=
  let before := existing.foldl (fun f d => f.makeDirectory d.toList) ⟨[], []⟩
  let withWay :=
    match s.filePath? with
    | some path => before.makeWay path.toList
    | none => before
  match s.openedFile? with
  | some path => withWay.makeFile path
  | none => withWay

end Folders
end InjectingProxy
