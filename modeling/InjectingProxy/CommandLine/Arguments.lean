import InjectingProxy.CommandLine.Opt
import InjectingProxy.Config.Basic
import InjectingProxy.Number.Reading
import InjectingProxy.Settings

/-!
# Arguments

The arguments of a command line are options, their values, and words that belong to no option.  An
option may be shortened as long as only one can be meant, and its value may follow an equals sign.
What each argument is, is settled for all of them before any is acted upon.

## What is here

* `Token`, `Token.ofArgument`: what an argument is.
* `Arguments.gather`: the options given, with their values, and the words left over.
* `Arguments.read`: the arguments of a command line, checked against the settings.
-/

set_option autoImplicit false

namespace InjectingProxy

/-- What is wrong with a command line. -/
inductive ArgumentFault where
  | ambiguous (argument : Text) (spellings : List Text)
  | valueMissing (o : Opt)
  | valueIgnored (o : Opt) (value : Text)
  | unreadable (o : Opt) (kind : ValueKind) (value : Text)
  | belowOne (o : Opt) (n : Int)
  | optionMissing (o : Opt)
  | unrecognized (words : List Text)
  deriving DecidableEq, Repr

/-- The text of a fault. -/
def ArgumentFault.message : ArgumentFault → String
  | .ambiguous argument spellings =>
    "ambiguous option: " ++ argument.string ++ " could match " ++
      ", ".intercalate (spellings.map String.ofList)
  | .valueMissing o => "argument " ++ o.shown ++ ": expected one argument"
  | .valueIgnored o value =>
    "argument " ++ o.shown ++ ": ignored explicit argument " ++ Text.quoted value
  | .unreadable o kind value =>
    "argument " ++ o.shown ++ ": invalid " ++ kind.name ++ " value: " ++ Text.quoted value
  | .belowOne o n => "argument " ++ o.shown ++ ": must be >= 1, got " ++ toString n
  | .optionMissing o =>
    "the following arguments are required: " ++ o.shown
  | .unrecognized words =>
    "unrecognized arguments: " ++ " ".intercalate (words.map String.ofList)

/-- What an argument is. -/
inductive Token where
  /-- A value, or a word that belongs to no option. -/
  | plain (word : Text)
  /-- The mark after which there are no options. -/
  | separator
  /-- An option, with the value that was given together with it. -/
  | option (o : Opt) (long : Bool) (value : Option Text)
  /-- Something like an option that is none. -/
  | unknown (word : Text)
  deriving DecidableEq, Repr

namespace Token

/-- The mark after which there are no options. -/
def mark : Text := ['-', '-']

/-- A number below zero, which is a value and no option. -/
def isNegativeNumber (t : Text) : Bool :=
  match t with
  | '-' :: rest =>
    let isDigit (c : Char) : Bool := (digitValue? c).isSome
    let rest := if rest.getLast? == some '\n' then rest.dropLast else rest
    match Text.cut (· == '.') rest with
    | (whole, none) => !whole.isEmpty && whole.all isDigit
    | (whole, some fraction) => whole.all isDigit && !fraction.isEmpty && fraction.all isDigit
  | _ => false

/-- The options that a long spelling can be short for, with their full spellings. -/
def completions (start : Text) : List (Text × Opt) :=
  Opt.bySpelling.filter fun (s, _) => start.isPrefixOf s

/-- What an argument is that begins with a hyphen and is no full spelling of an option. -/
def ofPart (argument : Text) : Except ArgumentFault Token :=
  let other : Token :=
    if isNegativeNumber argument || argument.contains ' ' then .plain argument
    else .unknown argument
  if mark.isPrefixOf argument then
    let (start, value) := Text.cut (· == '=') argument
    match completions start with
    | [] => .ok other
    | [(_, o)] => .ok (.option o true value)
    | several => .error (.ambiguous argument (several.map Prod.fst))
  else
    match Opt.ofSpelling? (argument.take 2) with
    | some o => .ok (.option o false (some (argument.drop 2)))
    | none => .ok other

/-- What an argument is before the mark. -/
def ofArgument (argument : Text) : Except ArgumentFault Token :=
  match argument with
  | '-' :: _ :: _ =>
    let isLong (s : Text) : Bool := mark.isPrefixOf s
    match Opt.ofSpelling? argument with
    | some o => .ok (.option o (isLong argument) none)
    | none =>
      match Text.cut (· == '=') argument with
      | (spelling, some value) =>
        match Opt.ofSpelling? spelling with
        | some o => .ok (.option o (isLong spelling) (some value))
        | none => ofPart argument
      | (_, none) => ofPart argument
  | _ => .ok (.plain argument)

/-- What all arguments are. -/
def ofArguments : List Text → Except ArgumentFault (List Token)
  | [] => .ok []
  | a :: rest =>
    if a = mark then .ok (.separator :: rest.map .plain)
    else
      match ofArgument a with
      | .error f => .error f
      | .ok t => (ofArguments rest).map (t :: ·)

end Token

/-- The options given, each with its value, in their order, and the words that belong to none. -/
structure Gathered where
  given : List (Opt × Value)
  words : List Text

/-- What the command line asks for. -/
inductive Asked (α : Type) where
  | help
  | run (a : α)

namespace Arguments

/-- The value of an option; the mark stands for no value at all. -/
def readValue (o : Opt) (kind : ValueKind) (t : Text) : Except ArgumentFault Value :=
  if t = Token.mark then .ok (.list [])
  else
    match kind with
    | .text => .ok (.text t.string)
    | .whole =>
      match Whole.read t with
      | .ok n => .ok (.whole n)
      | .error _ => .error (.unreadable o kind t)
    | .positive =>
      match Whole.read t with
      | .ok n => if n < 1 then .error (.belowOne o n) else .ok (.whole n)
      | .error _ => .error (.unreadable o kind t)
    | .decimal =>
      match Decimal.read? t with
      | some x => .ok (.real x)
      | none => .error (.unreadable o kind t)

/-- Letters that follow the short spelling of an option without a value stand for further options;
whether they can, given what follows them.  Such a row asks for help in any case. -/
def checkRow (o : Opt) (next : List Token) : Text → Except ArgumentFault Unit
  | [] => .ok ()
  | c :: rest =>
    match Opt.ofSpelling? ['-', c] with
    | none => .error (.valueIgnored o (c :: rest))
    | some p =>
      match p.value?, rest, next with
      | none, _, _ => checkRow p next rest
      | some _, _ :: _, _ => .ok ()
      | some _, [], .plain _ :: _ => .ok ()
      | some _, [], _ => .error (.valueMissing p)

/-- Put an option in front of what has been gathered after it. -/
def put (o : Opt) (v : Value) : Asked Gathered → Asked Gathered
  | .help => .help
  | .run g => .run { g with given := (o, v) :: g.given }

/-- Put a word in front of what has been gathered after it. -/
def putWord (w : Text) : Asked Gathered → Asked Gathered
  | .help => .help
  | .run g => .run { g with words := w :: g.words }

/-- The options given with their values, up to the first that asks for help. -/
def gather : List Token → Except ArgumentFault (Asked Gathered)
  | [] => .ok (.run ⟨[], []⟩)
  | .plain w :: rest | .unknown w :: rest => (gather rest).map (putWord w)
  | .separator :: rest => (gather rest).map (putWord Token.mark)
  | .option o long value :: rest =>
    match o.value? with
    | none =>
      match value with
      | some text =>
        if long || text.isEmpty then .error (.valueIgnored o text)
        else (checkRow o rest text).map fun _ => .help
      | none => if o = .help then .ok .help else (gather rest).map (put o (.bool true))
    | some (_, kind) =>
      match value with
      | some text =>
        match readValue o kind text with
        | .error f => .error f
        | .ok v => (gather rest).map (put o v)
      | none =>
        match rest with
        | .plain text :: more =>
          match readValue o kind text with
          | .error f => .error f
          | .ok v => (gather more).map (put o v)
        | _ => .error (.valueMissing o)

end Arguments

/-- The arguments of a command line, with the settings for options that were not given. -/
structure Arguments where
  port : Value
  host : Value
  error : Value
  errorMod : Value
  backendScheme : Value
  backendHost : Value
  backendTimeout : Value
  metricsPort : Value
  embedded : Bool

namespace Arguments

/-- The option has to be given under these settings. -/
def isRequired (s : Settings) (o : Opt) : Bool := o = .backendHost && s.backendHost.isNone

/-- The value that was given for an option; the last one counts. -/
def given? (g : Gathered) (o : Opt) : Option Value := g.given.reverse.lookup o

/-- The value for an option: the one given, or the one that the settings have. -/
def valueFor (s : Settings) (g : Gathered) (o : Opt) : Value :=
  (given? g o).getD
    (match o with
      | .help => .null
      | .port => .whole s.proxyPort
      | .host => .text s.proxyHost
      | .error => .whole s.errorCode
      | .errorMod => .whole s.errorMod
      | .backendScheme => .text s.backendScheme
      | .backendHost => (s.backendHost.map Value.text).getD .null
      | .backendTimeout => .real s.backendTimeout
      | .metricsPort => (s.metricsPort.map Value.whole).getD .null
      | .embedded => .bool false)

/-- The arguments for what was given, if nothing is missing and nothing left over.  The modulus of
the settings is looked at only if none was given. -/
def complete (s : Settings) (g : Gathered) : Except ArgumentFault Arguments :=
  if (given? g .errorMod).isNone && s.errorMod < 1 then .error (.belowOne .errorMod s.errorMod)
  else if (given? g .backendHost).isNone && isRequired s .backendHost then
    .error (.optionMissing .backendHost)
  else if !g.words.isEmpty then .error (.unrecognized g.words)
  else
    let v := valueFor s g
    .ok {
      port := v .port
      host := v .host
      error := v .error
      errorMod := v .errorMod
      backendScheme := v .backendScheme
      backendHost := v .backendHost
      backendTimeout := v .backendTimeout
      metricsPort := v .metricsPort
      embedded := (given? g .embedded).isSome }

/-- The arguments of a command line. -/
def read (s : Settings) (argv : List Text) : Except ArgumentFault (Asked Arguments) :=
  match Token.ofArguments argv with
  | .error f => .error f
  | .ok tokens =>
    match gather tokens with
    | .error f => .error f
    | .ok .help => .ok .help
    | .ok (.run g) => (complete s g).map .run

end Arguments
end InjectingProxy
