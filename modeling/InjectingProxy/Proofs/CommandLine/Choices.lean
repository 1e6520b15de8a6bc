import InjectingProxy.Proofs.CommandLine.Launch
import InjectingProxy.Proofs.Config.Validation
import InjectingProxy.Proofs.InjectedError
import InjectingProxy.Proofs.Number.Reading

/-!
# From choices to a configuration

A choice sets one thing, with an argument that consists of the long spelling of an option and, after
an equals sign, of a text for its value (`Choice.IsWritten`).  Choices can be given in any order and
more than once.  The last one for an option counts, and the one of the settings where there is none
(`Choice.Counts`).

Each argument is read as the choice that it was written for (`Choice.gathers_of_written`), and
nothing is refused of the record that they make (`Choice.AreConfigurable.errors_ofValue`).  So a
command line makes the configuration in which every choice that counts holds
(`Choice.configured_as_chosen`).  There is one exception: a text that is the mark after which there
are no options is taken for no text at all, and it is refused where it counts
(`Choice.mark_for_host_refused`).
-/

set_option autoImplicit false

namespace InjectingProxy

/-- The long spelling of an option. -/
def Opt.long (o : Opt) : Text := (o.spellings.getLastD "").toList

/-- A value that is chosen for an option. -/
inductive Choice where
  | port (n : Int)
  | host (s : String)
  | error (code : Int)
  | errorMod (m : Int)
  | backendScheme (s : String)
  | backendHost (s : String)
  | backendTimeout (seconds : Float)
  | metricsPort (n : Int)
  | embedded

/-- What the settings choose. -/
def Settings.choices (s : Settings) : List Choice :=
  [.port s.proxyPort, .host s.proxyHost, .error s.errorCode, .errorMod s.errorMod,
      .backendScheme s.backendScheme, .backendTimeout s.backendTimeout] ++
    (s.backendHost.map Choice.backendHost).toList ++ (s.metricsPort.map Choice.metricsPort).toList

theorem Settings.forall_mem_choices {s : Settings} {p : Choice → Prop} :
    (∀ x ∈ s.choices, p x) ↔ p (.port s.proxyPort) ∧ p (.host s.proxyHost) ∧
      p (.error s.errorCode) ∧ p (.errorMod s.errorMod) ∧ p (.backendScheme s.backendScheme) ∧
      p (.backendTimeout s.backendTimeout) ∧ (∀ h, s.backendHost = some h → p (.backendHost h)) ∧
      ∀ n, s.metricsPort = some n → p (.metricsPort n) := by
  obtain ⟨_, _, _, host, _, _, _, port⟩ := s
  cases host <;> cases port <;> simp [choices]

namespace Choice

/-- The option that a choice is for. -/
def option : Choice → Opt
  | port _ => .port
  | host _ => .host
  | error _ => .error
  | errorMod _ => .errorMod
  | backendScheme _ => .backendScheme
  | backendHost _ => .backendHost
  | backendTimeout _ => .backendTimeout
  | metricsPort _ => .metricsPort
  | embedded => .embedded

/-- The value that is chosen. -/
def value : Choice → Value
  | port n | error n | errorMod n | metricsPort n => .whole n
  | host s | backendScheme s | backendHost s => .text s
  | backendTimeout x => .real x
  | embedded => .bool true

/-- The value is one that can be configured. -/
def IsValid : Choice → Prop
  | port n => 0 ≤ n ∧ n ≤ Config.maxPort
  | error code => ∃ status, Status.resolve code = .ok status
  | errorMod m => 1 ≤ m
  | backendHost s => s.toList ≠ [] ∧ '/' ∉ s.toList
  | host _ | backendScheme _ | backendTimeout _ | metricsPort _ | embedded => True

/-- A text for the value.  A whole number has its digits, which are not too many to be read; a
decimal has any text that stands for it. -/
def HasText : Choice → Text → Prop
  | port n, t | error n, t => t = (toString n).toList
  | errorMod n, t | metricsPort n, t => t = (toString n).toList ∧ Whole.IsSmall n
  | host s, t | backendScheme s, t | backendHost s, t => t = s.toList
  | backendTimeout x, t => Decimal.read? t = some x
  | embedded, _ => False

/-- An argument for the choice. -/
inductive IsWritten (x : Choice) : Text → Prop
  | valued {t : Text} (h : x.HasText t) : IsWritten x (x.option.long ++ '=' :: t)
  | flag (h : x = embedded) : IsWritten x x.option.long

/-- The choice is a text that is the mark. -/
def isMark : Choice → Bool
  | host s | backendScheme s | backendHost s => s == "--"
  | _ => false

/-- The value that is read of an argument for the choice. -/
def reading (x : Choice) : Value := if x.isMark then .list [] else x.value

/-- The last choice for an option. -/
def last (given : List Choice) (o : Opt) : Option Choice := given.reverse.find? (·.option = o)

/-- The choice counts: it is the last one given, or the one of the settings where none is given. -/
def Counts (s : Settings) (given : List Choice) (x : Choice) : Prop :=
  last given x.option = some x ∨ last given x.option = none ∧ x ∈ s.choices

/-! ## Reading an argument -/

section Written

variable {x : Choice} {o : Opt} {t : Text}

theorem isSmall_of_resolve {code : Int} {status : Status} (h : Status.resolve code = .ok status) :
    Whole.IsSmall code := by
  rcases Status.resolve_cases h with ⟨rfl, -⟩ | ⟨phrase, hphrase, -⟩
  · exact Whole.isSmall_of_lt (by decide)
  · obtain ⟨before, after, hl, -⟩ := List.lookup_eq_some_iff.1 hphrase
    have hall : Status.standardPhrases.all (fun p ↦ p.1.natAbs < 100000) = true := by decide
    exact Whole.isSmall_of_lt (of_decide_eq_true
      (List.all_eq_true.1 hall (code, phrase) (by rw [hl]; simp)))

theorem decimal_mark : Decimal.read? Token.mark = none :=
  Option.isNone_iff_eq_none.1 (by decide +kernel)

theorem readValue_text (s : String) :
    Arguments.readValue o .text s.toList = .ok (if s == "--" then .list [] else .text s) := by
  have hinj : s.toList = "--".toList ↔ s = "--" := String.toList_inj
  have hmark : s.toList = Token.mark ↔ s = "--" := hinj
  rw [Arguments.readValue]
  -- the mark is looked for first, in the value of an option as well
  by_cases h : s = "--"
  · rw [if_pos (hmark.2 h), if_pos (beq_iff_eq.2 h)]
  · rw [if_neg (mt hmark.1 h), if_neg (mt beq_iff_eq.1 h), Text.string, String.ofList_toList]

/-- **The text of a choice is read as its value**, unless it is the mark. -/
theorem readValue_of_hasText (hvalid : x.IsValid) (ht : x.HasText t) :
    ∃ name kind, x.option.value? = some (name, kind) ∧
      Arguments.readValue x.option kind t = .ok x.reading := by
  have hwhole {n : Int} {o : Opt} (hsmall : Whole.IsSmall n) :
      Arguments.readValue o .whole (toString n).toList = .ok (.whole n) :=
    Arguments.readValue_whole_iff.2 (.inr ⟨n, Whole.read_toString hsmall, rfl⟩)
  cases x with
  | port n =>
    cases ht
    have hport : 0 ≤ n ∧ n ≤ 65535 := hvalid
    exact ⟨_, _, rfl, hwhole (Whole.isSmall_of_lt (by omega))⟩
  | error code =>
    cases ht
    obtain ⟨status, hstatus⟩ := hvalid
    exact ⟨_, _, rfl, hwhole (isSmall_of_resolve hstatus)⟩
  | errorMod m =>
    obtain ⟨rfl, hsmall⟩ := ht
    exact ⟨_, _, rfl, Arguments.readValue_positive_iff.2
      (.inr ⟨m, Whole.read_toString hsmall, hvalid, rfl⟩)⟩
  | metricsPort n =>
    obtain ⟨rfl, hsmall⟩ := ht
    exact ⟨_, _, rfl, hwhole hsmall⟩
  | host s | backendScheme s | backendHost s =>
    cases ht
    exact ⟨_, _, rfl, readValue_text s⟩
  | backendTimeout seconds =>
    have hread : Decimal.read? t = some seconds := ht
    have hmark : t ≠ Token.mark := by
      rintro rfl
      cases decimal_mark.symm.trans hread
    refine ⟨_, _, rfl, ?_⟩
    simp only [Arguments.readValue, if_neg hmark, hread]
    rfl
  | embedded => exact ht.elim

/-- No spelling has an equals sign. -/
theorem ofSpelling?_of_equals (h : '=' ∈ t) : Opt.ofSpelling? t = none := by
  refine List.lookup_eq_none_iff.2 fun p hp ↦ bne_iff_ne.2 ?_
  rintro rfl
  have hnone : Opt.bySpelling.all (fun p ↦ !p.1.contains '=') = true := by decide
  have := List.all_eq_true.1 hnone p hp
  simp [h] at this

theorem ofArgument_valued (o : Opt) (t : Text) :
    Token.ofArgument (o.long ++ '=' :: t) = .ok (.option o true (some t)) := by
  have hnone : Opt.ofSpelling? (o.long ++ '=' :: t) = none := ofSpelling?_of_equals (by simp)
  have hplain : ∀ c ∈ o.long, (c == '=') = false := forall_of_all (by cases o <;> decide)
  have hcut : Text.cut (· == '=') (o.long ++ '=' :: t) = (o.long, some t) :=
    Text.cut_append hplain rfl t
  have hlong : Token.mark.isPrefixOf o.long = true := by cases o <;> decide
  have hspelling : Opt.ofSpelling? o.long = some o := by cases o <;> decide
  obtain ⟨c, rest, heq⟩ : ∃ c rest, o.long = '-' :: c :: rest := by cases o <;> exact ⟨_, _, rfl⟩
  rw [heq] at hnone hcut hlong hspelling ⊢
  simp only [List.cons_append] at hnone hcut ⊢
  simp only [Token.ofArgument, hnone, hcut, hlong, hspelling]

end Written

/-! ## Reading all arguments -/

/-- What is gathered of choices. -/
def gathered (given : List Choice) : Gathered := ⟨given.map fun x ↦ (x.option, x.reading), []⟩

/-- An argument for a choice is an option of its own. -/
theorem exists_token {x : Choice} (hvalid : x.IsValid) {argument : Text}
    (h : x.IsWritten argument) : argument ≠ Token.mark ∧
      ∃ token, Token.ofArgument argument = .ok token ∧ ∀ {rest g}, Arguments.Gathers rest g →
        Arguments.Gathers (token :: rest) { g with given := (x.option, x.reading) :: g.given } := by
  cases h with
  | @valued t ht =>
    obtain ⟨name, kind, hkind, hread⟩ := readValue_of_hasText hvalid ht
    refine ⟨fun hmark ↦ ?_, _, ofArgument_valued x.option t, .together true hkind hread⟩
    have hequals : '=' ∈ x.option.long ++ '=' :: t := by simp
    rw [hmark] at hequals
    exact absurd hequals (by decide)
  | flag hx =>
    cases hx
    exact ⟨by decide, .option .embedded true none, rfl, .flag true rfl (by decide)⟩

/-- **Arguments for choices are gathered as these choices.** -/
theorem gathers_of_written {given : List Choice} {argv : List Text}
    (h : List.Forall₂ IsWritten given argv) (hvalid : ∀ x ∈ given, x.IsValid) :
    ∃ tokens, Token.ofArguments argv = .ok tokens ∧ Arguments.Gathers tokens (gathered given) := by
  -- no argument is the mark itself, so what each of them is does not depend on those before it
  induction h with
  | nil => exact ⟨[], rfl, .nil⟩
  | @cons x argument given argv hx h ih =>
    obtain ⟨hx', hgiven⟩ := List.forall_mem_cons.1 hvalid
    obtain ⟨tokens, htokens, hgathers⟩ := ih hgiven
    obtain ⟨hne, token, htoken, hgather⟩ := exists_token hx' hx
    refine ⟨token :: tokens, ?_, hgather hgathers⟩
    rw [Token.ofArguments, if_neg hne, htoken, htokens]
    rfl

/-! ## The choice that counts -/

section Counts

variable {s : Settings} {given : List Choice} {x : Choice} {o : Opt}

theorem lookup_map (o : Opt) : ∀ l : List Choice,
    (l.map fun x ↦ (x.option, x.reading)).lookup o = (l.find? (·.option = o)).map reading
  | [] => rfl
  | x :: l => by
    rw [List.map_cons, List.lookup_cons, List.find?_cons]
    by_cases h : x.option = o
    · rw [h, beq_self_eq_true, decide_eq_true rfl, Option.map_some]
    · rw [beq_false_of_ne (Ne.symm h), decide_eq_false h]
      exact lookup_map o l

theorem given?_gathered (given : List Choice) (o : Opt) :
    Arguments.given? (gathered given) o = (last given o).map reading := by
  rw [Arguments.given?, gathered, ← List.map_reverse, lookup_map, last]

theorem option_of_last (h : last given o = some x) : x.option = o := by
  rw [last] at h
  simpa using List.find?_some h

theorem last_eq_none_iff : last given o = none ↔ ∀ y ∈ given, y.option ≠ o := by
  simp [last]

theorem mem_of_last (h : last given o = some x) : x ∈ given := by
  rw [last] at h
  exact List.mem_reverse.1 (List.mem_of_find?_eq_some h)

/-- A choice without another one for its option is the last one. -/
theorem last_of_alone (hx : x ∈ given) (halone : ∀ y ∈ given, y.option = x.option → y = x) :
    last given x.option = some x := by
  cases hlast : last given x.option with
  | none => exact absurd rfl (last_eq_none_iff.1 hlast x hx)
  | some y => rw [halone y (mem_of_last hlast) (option_of_last hlast)]

theorem exists_counts (h : ∃ x ∈ s.choices ++ given, x.option = o) :
    ∃ x, x.option = o ∧ Counts s given x := by
  obtain ⟨x, hx, rfl⟩ := h
  cases hlast : last given x.option with
  | none =>
    have hnot : x ∉ given := fun hmem ↦ last_eq_none_iff.1 hlast x hmem rfl
    exact ⟨x, rfl, .inr ⟨hlast, (List.mem_append.1 hx).resolve_right hnot⟩⟩
  | some y =>
    have hy : y.option = x.option := option_of_last hlast
    exact ⟨y, hy, .inl (hy ▸ hlast)⟩

/-- The options that are texts of a configuration, with their fields. -/
def textFields : List (Opt × String) :=
  [(.host, "host"), (.backendScheme, "backend_scheme"), (.backendHost, "backend_host")]

/-- The last choice for an option is the mark. -/
def marked (given : List Choice) (o : Opt) : Bool := (last given o).any isMark

theorem option_of_isMark (h : x.isMark = true) : x.option ∈ textFields.map Prod.fst := by
  cases x with
  | host | backendScheme | backendHost => simp [option, textFields]
  | _ => cases h

/-- Only a text is the mark. -/
theorem marked_eq_false (h : o ∉ textFields.map Prod.fst) : marked given o = false := by
  rw [marked]
  cases hlast : last given o with
  | none => rfl
  | some x =>
    refine Bool.eq_false_iff.2 fun hmark ↦ h ?_
    rw [← option_of_last hlast]
    exact option_of_isMark hmark

/-- Where nothing is given, the value is the one of the settings. -/
theorem valueFor_of_omitted {g : Gathered} : ∀ x ∈ s.choices,
    Arguments.given? g x.option = none → Arguments.valueFor s g x.option = x.value := by
  have hother {o : Opt} {v : Value} (h : Arguments.given? g o = none) :
      (Arguments.given? g o).getD v = v := by
    rw [h, Option.getD_none]
  simp only [Arguments.valueFor.eq_def]
  refine Settings.forall_mem_choices.2 ⟨hother, hother, hother, hother, hother, hother,
    fun host hhost h ↦ (hother h).trans ?_, fun port hport h ↦ (hother h).trans ?_⟩
  · simp [option, value, hhost]
  · simp [option, value, hport]

/-- **The value for an option is the one of the choice that counts**, unless that is the mark. -/
theorem valueFor_of_counts (h : Counts s given x) :
    Arguments.valueFor s (gathered given) x.option =
      if marked given x.option then .list [] else x.value := by
  rw [marked]
  rcases h with hlast | ⟨hlast, hmem⟩
  · rw [Arguments.valueFor.eq_def, given?_gathered, hlast]
    rfl
  · rw [hlast]
    exact valueFor_of_omitted x hmem (by rw [given?_gathered, hlast, Option.map_none])

end Counts

/-! ## The configuration -/

/-- The choice holds: it is the one of the arguments and of their configuration. -/
def HoldsIn (a : Arguments) (c : Config) : Choice → Prop
  | port n => c.port = n
  | host s => c.host = s
  | error code => Status.resolve code = .ok c.errorStatus
  | errorMod m => c.gate.modulus = m
  | backendScheme s => c.backendScheme = s
  | backendHost s => c.backendHost = s
  | backendTimeout x => c.backendTimeout = some x
  | metricsPort n => a.metricsPort = .whole n
  | embedded => c.embedded = true

/-- What is refused of choices: the mark where it counts. -/
def refusals (given : List Choice) : List FieldError :=
  textFields.flatMap fun f ↦ if marked given f.1 then [⟨[f.2], .notText, .list []⟩] else []

/-- The arguments for choices. -/
def arguments (s : Settings) (given : List Choice) : Arguments :=
  let v := Arguments.valueFor s (gathered given)
  { port := v .port
    host := v .host
    error := v .error
    errorMod := v .errorMod
    backendScheme := v .backendScheme
    backendHost := v .backendHost
    backendTimeout := v .backendTimeout
    metricsPort := v .metricsPort
    embedded := (last given .embedded).isSome }

section Configured

variable {s : Settings} {given : List Choice}

theorem complete_gathered (hmod : last given .errorMod = none → 1 ≤ s.errorMod)
    (hhost : last given .backendHost = none → s.backendHost ≠ none) :
    Arguments.complete s (gathered given) = .ok (arguments s given) := by
  have hmodulus : ¬((Arguments.given? (gathered given) .errorMod).isNone && s.errorMod < 1) := by
    rw [given?_gathered]
    cases hlast : last given .errorMod with
    | none => simpa using hmod hlast
    | some x => simp
  have hrequired : ¬((Arguments.given? (gathered given) .backendHost).isNone &&
      Arguments.isRequired s .backendHost) := by
    rw [given?_gathered]
    cases hlast : last given .backendHost with
    | none => simp [Arguments.isRequired, hhost hlast]
    | some x => simp
  rw [Arguments.complete, if_neg hmodulus, if_neg hrequired, if_neg (by simp [gathered])]
  simp only [given?_gathered, Option.isSome_map]
  rfl

/-- The choices that are given can be configured, those of the settings can where they count, and
there is one for the host of the backend. -/
structure AreConfigurable (s : Settings) (given : List Choice) : Prop where
  valid : ∀ x ∈ given, x.IsValid
  omitted : ∀ x ∈ s.choices, (∀ y ∈ given, y.option ≠ x.option) → x.IsValid
  backendHost : ∃ x ∈ s.choices ++ given, x.option = .backendHost

namespace AreConfigurable

variable {x : Choice}

theorem isValid (h : AreConfigurable s given) (hx : Counts s given x) : x.IsValid := by
  rcases hx with hlast | ⟨hlast, hmem⟩
  · exact h.valid x (mem_of_last hlast)
  · exact h.omitted x hmem (last_eq_none_iff.1 hlast)

theorem complete (h : AreConfigurable s given) :
    Arguments.complete s (gathered given) = .ok (arguments s given) := by
  refine complete_gathered (fun hlast ↦ ?_) fun hlast hnone ↦ ?_
  · exact h.omitted (.errorMod s.errorMod) (by simp [Settings.choices]) (last_eq_none_iff.1 hlast)
  · obtain ⟨x, hx, hoption⟩ := h.backendHost
    rcases List.mem_append.1 hx with hx | hx
    · simp only [Settings.choices, hnone] at hx
      cases x <;> simp [option] at hx hoption
    · exact last_eq_none_iff.1 hlast x hx hoption

/-! ### What each field reports -/

variable {o : Opt} {status : Status}

theorem errors_text {record : Value} {name text : String} {isMark : Bool}
    (h : record.field? name = some (if isMark then .list [] else .text text)) (other : String) :
    (Field.withDefault record name Field.text other).errors =
      if isMark then [⟨[name], .notText, .list []⟩] else [] := by
  rw [Field.withDefault, h]
  cases isMark <;> rfl

theorem exists_value (h : AreConfigurable s given) (ho : ∃ x ∈ s.choices ++ given, x.option = o) :
    ∃ x : Choice, x.option = o ∧ x.IsValid ∧ Arguments.valueFor s (gathered given) o =
      if marked given o then .list [] else x.value := by
  obtain ⟨x, rfl, hx⟩ := exists_counts ho
  exact ⟨x, rfl, h.isValid hx, valueFor_of_counts hx⟩

theorem exists_plain (h : AreConfigurable s given) {y : Choice} (hy : y ∈ s.choices)
    (hplain : y.option ∉ textFields.map Prod.fst) : ∃ x : Choice, x.option = y.option ∧ x.IsValid ∧
      Arguments.valueFor s (gathered given) y.option = x.value := by
  obtain ⟨x, hoption, hvalid, hvalue⟩ := h.exists_value ⟨y, List.mem_append_left given hy, rfl⟩
  rw [marked_eq_false hplain, if_neg Bool.false_ne_true] at hvalue
  exact ⟨x, hoption, hvalid, hvalue⟩

theorem exists_error (h : AreConfigurable s given) : ∃ code status,
    (arguments s given).error = .whole code ∧ Status.resolve code = .ok status := by
  obtain ⟨x, hoption, hvalid, hvalue⟩ := h.exists_plain (y := .error s.errorCode)
    (by simp [Settings.choices]) (by simp [option, textFields])
  cases x with
  | error code =>
    obtain ⟨status, hstatus⟩ := hvalid
    exact ⟨code, status, hvalue, hstatus⟩
  | _ => cases hoption

theorem errors_port (h : AreConfigurable s given) :
    (Field.required ((arguments s given).record status) "port"
      (Field.wholeWithin (some 0) (some Config.maxPort))).errors = [] := by
  obtain ⟨x, hoption, hvalid, hvalue⟩ := h.exists_plain (y := .port s.proxyPort)
    (by simp [Settings.choices]) (by simp [option, textFields])
  cases x with
  | port n =>
    have hfield : ((arguments s given).record status).field? "port" = some (.whole n) :=
      congrArg some hvalue
    rw [(Field.required_of_field? hfield).2 (Field.wholeWithin_eq_ok_iff.2 ⟨rfl, hvalid⟩)]
    rfl
  | _ => cases hoption

theorem errors_host (h : AreConfigurable s given) :
    (Field.withDefault ((arguments s given).record status) "host" Field.text
      Config.defaultHost).errors =
        if marked given .host then [⟨["host"], .notText, .list []⟩] else [] := by
  obtain ⟨x, hoption, -, hvalue⟩ := h.exists_value
    ⟨.host s.proxyHost, by simp [Settings.choices], rfl⟩
  cases x with
  | host host =>
    have hfield : ((arguments s given).record status).field? "host" =
        some (if marked given .host then .list [] else .text host) := congrArg some hvalue
    exact errors_text hfield _
  | _ => cases hoption

theorem errors_backendScheme (h : AreConfigurable s given) :
    (Field.withDefault ((arguments s given).record status) "backend_scheme" Field.text
      Config.defaultScheme).errors =
        if marked given .backendScheme then [⟨["backend_scheme"], .notText, .list []⟩] else [] := by
  obtain ⟨x, hoption, -, hvalue⟩ := h.exists_value
    ⟨.backendScheme s.backendScheme, by simp [Settings.choices], rfl⟩
  cases x with
  | backendScheme scheme =>
    have hfield : ((arguments s given).record status).field? "backend_scheme" =
        some (if marked given .backendScheme then .list [] else .text scheme) :=
      congrArg some hvalue
    exact errors_text hfield _
  | _ => cases hoption

theorem errors_backendHost (h : AreConfigurable s given) :
    (Field.required ((arguments s given).record status) "backend_host"
      Config.readBackendHost).errors =
        if marked given .backendHost then [⟨["backend_host"], .notText, .list []⟩] else [] := by
  obtain ⟨x, hoption, hvalid, hvalue⟩ := h.exists_value h.backendHost
  cases x with
  | backendHost host =>
    have hfield : ((arguments s given).record status).field? "backend_host" =
        some (if marked given .backendHost then .list [] else .text host) := congrArg some hvalue
    cases hmarked : marked given .backendHost with
    | true =>
      rw [hmarked] at hfield
      rw [Field.required, hfield]
      rfl
    | false =>
      rw [hmarked] at hfield
      rw [(Field.required_of_field? hfield).2 (Config.readBackendHost_eq_ok_iff.2 ⟨rfl, hvalid⟩)]
      rfl
  | _ => cases hoption

theorem errors_errorMod (h : AreConfigurable s given) :
    (Field.required ((arguments s given).record status) "error_mod" Config.readGate).errors =
      [] := by
  obtain ⟨x, hoption, hvalid, hvalue⟩ := h.exists_plain (y := .errorMod s.errorMod)
    (by simp [Settings.choices]) (by simp [option, textFields])
  cases x with
  | errorMod m =>
    have hfield : ((arguments s given).record status).field? "error_mod" = some (.whole m) :=
      congrArg some hvalue
    have hgate : Config.readGate (.whole m) = .ok ⟨m, hvalid⟩ := Config.readGate_eq_ok_iff.2 rfl
    rw [(Field.required_of_field? hfield).2 hgate]
    rfl
  | _ => cases hoption

theorem errors_backendTimeout (h : AreConfigurable s given) :
    (Field.withDefault ((arguments s given).record status) "backend_timeout"
      (Field.orNull Field.real) (some Config.defaultTimeout)).errors = [] := by
  obtain ⟨x, hoption, -, hvalue⟩ := h.exists_plain (y := .backendTimeout s.backendTimeout)
    (by simp [Settings.choices]) (by simp [option, textFields])
  cases x with
  | backendTimeout seconds =>
    have hfield : ((arguments s given).record status).field? "backend_timeout" =
        some (.real seconds) := congrArg some hvalue
    have hread : Field.orNull Field.real (.real seconds) = .ok (some seconds) := rfl
    rw [(Field.withDefault_of_field? hfield).2 hread]
    rfl
  | _ => cases hoption

/-- **Nothing else is refused** of the record for choices. -/
theorem errors_ofValue (h : AreConfigurable s given) (status : Status) :
    (Config.ofValue ((arguments s given).record status)).errors = refusals given := by
  simp only [Config.errors_ofValue, Config.fieldErrors, List.flatMap_cons, List.flatMap_nil,
    refusals, textFields, h.errors_port, h.errors_host, h.errors_backendScheme,
    h.errors_backendHost, h.errors_errorMod, h.errors_backendTimeout]
  rfl

end AreConfigurable

/-! ## What holds of the configuration -/

variable {x : Choice} {c : Config}

theorem marked_of_refusals (h : refusals given = []) (o : Opt) : marked given o = false := by
  simp only [refusals, textFields, List.flatMap_cons, List.flatMap_nil, List.append_nil,
    List.append_eq_nil_iff] at h
  obtain ⟨hhost, hscheme, hbackend⟩ := h
  cases o with
  | host => simpa using hhost
  | backendScheme => simpa using hscheme
  | backendHost => simpa using hbackend
  | _ => exact marked_eq_false (by simp [textFields])

/-- **A choice that counts holds.** -/
theorem holdsIn_of_counts (hconfig : (arguments s given).IsValid c) (hnone : refusals given = [])
    (hx : Counts s given x) : x.HoldsIn (arguments s given) c := by
  have hvalue : Arguments.valueFor s (gathered given) x.option = x.value := by
    rw [valueFor_of_counts hx, marked_of_refusals hnone, if_neg Bool.false_ne_true]
  have hembedded := hconfig.embedded
  obtain ⟨_, status, herror, hresolve, hrecord⟩ := hconfig
  obtain ⟨hport, hhost, hscheme, hbackend, hstatus, hmod, htimeout, -⟩ :=
    Config.ofValue_eq_ok_iff.1 hrecord
  have hfield {name : String} (h : ((arguments s given).record status).field? name =
      some (Arguments.valueFor s (gathered given) x.option)) :
      ((arguments s given).record status).field? name = some x.value :=
    h.trans (congrArg some hvalue)
  cases x with
  | port n =>
    have hread := (Field.required_of_field? (hfield rfl)).1 hport
    exact (Except.ok.inj (Field.wholeWithin_eq_ok_iff.1 hread).1).symm
  | host s =>
    have hread := (Field.withDefault_of_field? (hfield rfl)).1 hhost
    exact (Except.ok.inj hread).symm
  | error code =>
    cases herror.symm.trans hvalue
    have heq : status = c.errorStatus := Except.ok.inj hstatus
    rw [HoldsIn, ← heq]
    exact hresolve
  | errorMod m =>
    have hread := (Field.required_of_field? (hfield rfl)).1 hmod
    exact (Except.ok.inj (Config.readGate_eq_ok_iff.1 hread)).symm
  | backendScheme s =>
    have hread := (Field.withDefault_of_field? (hfield rfl)).1 hscheme
    exact (Except.ok.inj hread).symm
  | backendHost s =>
    have hread := (Field.required_of_field? (hfield rfl)).1 hbackend
    cases (Config.readBackendHost_eq_ok_iff.1 hread).1
    rfl
  | backendTimeout seconds =>
    have hread := (Field.withDefault_of_field? (hfield rfl)).1 htimeout
    exact (Except.ok.inj hread).symm
  | metricsPort n => exact hvalue
  | embedded =>
    rcases hx with hlast | ⟨-, hmem⟩
    · have hlast : last given .embedded = some embedded := hlast
      rw [HoldsIn, hembedded, arguments, hlast]
      rfl
    · simp [Settings.choices] at hmem

/-- The arguments and their configuration are as they were chosen. -/
structure IsAsChosen (s : Settings) (given : List Choice) (a : Arguments) (c : Config) : Prop where
  /-- The last choice for an option holds, -/
  last : ∀ x, last given x.option = some x → x.HoldsIn a c
  /-- so each choice does if there is no other one for its option, -/
  alone : ∀ x ∈ given, (∀ y ∈ given, y.option = x.option → y = x) → x.HoldsIn a c
  /-- and what the settings choose does where there is none. -/
  omitted : ∀ x ∈ s.choices, (∀ y ∈ given, y.option ≠ x.option) → x.HoldsIn a c
  unserved : (∀ x ∈ s.choices ++ given, x.option ≠ .metricsPort) → a.metricsPort = .null
  attached : (∀ x ∈ given, x.option ≠ .embedded) → c.embedded = false

theorem isAsChosen (hconfig : (arguments s given).IsValid c) (hnone : refusals given = []) :
    IsAsChosen s given (arguments s given) c where
  last := fun _ hlast ↦ holdsIn_of_counts hconfig hnone (.inl hlast)
  alone := fun _ hx halone ↦ holdsIn_of_counts hconfig hnone (.inl (last_of_alone hx halone))
  omitted := fun x hx hgiven ↦
    holdsIn_of_counts hconfig hnone (.inr ⟨last_eq_none_iff.2 hgiven, hx⟩)
  unserved := by
    intro hunserved
    have hlast : Choice.last given .metricsPort = none :=
      last_eq_none_iff.2 fun y hy ↦ hunserved y (List.mem_append_right _ hy)
    have hsettings : s.metricsPort = none := by
      refine Option.eq_none_iff_forall_ne_some.2 fun n hn ↦ ?_
      exact hunserved (.metricsPort n) (by simp [Settings.choices, hn]) rfl
    simp [arguments, Arguments.valueFor, given?_gathered, hlast, hsettings]
  attached := by
    intro hattached
    rw [hconfig.embedded, arguments, last_eq_none_iff.2 hattached]
    rfl

theorem config_of_marked (h : AreConfigurable s given) (hmarked : refusals given ≠ []) :
    (arguments s given).config = .error (.invalid (refusals given)) := by
  obtain ⟨code, status, herror, hresolve⟩ := h.exists_error
  have herrors := h.errors_ofValue status
  simp only [Arguments.config, herror, hresolve]
  cases hrecord : Config.ofValue ((arguments s given).record status) with
  | ok c =>
    rw [hrecord] at herrors
    exact absurd herrors.symm hmarked
  | error es =>
    rw [hrecord] at herrors
    cases herrors
    rfl

theorem exists_config (h : AreConfigurable s given) (hnone : refusals given = []) :
    ∃ c, (arguments s given).IsValid c := by
  obtain ⟨code, status, herror, hresolve⟩ := h.exists_error
  obtain ⟨c, hc⟩ := Config.saysWhy_ofValue _ ((h.errors_ofValue status).trans hnone)
  exact ⟨c, code, status, herror, hresolve, hc⟩

theorem read_of_written {argv : List Text} (hwritten : List.Forall₂ IsWritten given argv)
    (h : AreConfigurable s given) :
    Arguments.read s argv = .ok (.run (arguments s given)) := by
  obtain ⟨tokens, htokens, hgathers⟩ := gathers_of_written hwritten h.valid
  exact Arguments.read_eq_run_iff.2 ⟨tokens, gathered given, htokens, hgathers, h.complete⟩

/-- **A command line makes the configuration that it was written for.** -/
theorem configured_as_chosen {env : Environment} {argv : List Text}
    (hload : Settings.load env = .ok s) (hwritten : List.Forall₂ IsWritten given argv)
    (hchoices : AreConfigurable s given) :
    s.Reflects env ∧ ∃ a, Arguments.read s argv = .ok (.run a) ∧
      (refusals given = [] → ∃ c, a.config = .ok c ∧ IsAsChosen s given a c) ∧
      (refusals given ≠ [] → a.config = .error (.invalid (refusals given))) := by
  refine ⟨Settings.reflects_of_load hload, arguments s given, read_of_written hwritten hchoices,
    fun hnone ↦ ?_, config_of_marked hchoices⟩
  obtain ⟨c, hc⟩ := exists_config hchoices hnone
  exact ⟨c, Arguments.config_eq_ok_iff.2 hc, isAsChosen hc hnone⟩

end Configured

/-- Choices with repetitions, an empty text and one with hyphens, a blank and an equals sign, and a
modulus of the environment that does no harm. -/
theorem odd_choices_configured :
    let env : Environment := [("PROXY_ERROR_MOD", "0"), ("PROXY_HOST", "--")]
    let given : List Choice := [errorMod 5, host "--", embedded, backendScheme "--x =y",
      errorMod 3, backendTimeout 5.0, host "", backendHost "backend.test"]
    let argv := ["--error-mod=5", "--host=--", "--embedded", "--backend-scheme=--x =y",
      "--error-mod=3", "--backend-timeout=5.0", "--host=",
      "--backend-host=backend.test"].map String.toList
    ∃ s a c, Settings.load env = .ok s ∧ List.Forall₂ IsWritten given argv ∧
      AreConfigurable s given ∧ Arguments.read s argv = .ok (.run a) ∧ a.config = .ok c ∧
      c.gate.modulus = 3 ∧ c.host = "" ∧ c.backendScheme = "--x =y" ∧ c.embedded = true ∧
      c.port = 8812 := by
  intro env given argv
  have hload : Settings.load env = .ok ⟨"--", 8812, "https", none, 5.0, 503, 0, none⟩ :=
    Settings.load_eq_ok_iff.2 ⟨Settings.readWhole_port, Settings.readDecimal_default,
      Settings.readWhole_code, Settings.readWhole_of_toOption (by decide +kernel), rfl, rfl, rfl,
      rfl⟩
  have hfive : IsWritten (errorMod 5) "--error-mod=5".toList :=
    .valued ⟨rfl, Whole.isSmall_of_lt (by decide)⟩
  have hmark : IsWritten (host "--") "--host=--".toList := .valued rfl
  have hscheme : IsWritten (backendScheme "--x =y") "--backend-scheme=--x =y".toList := .valued rfl
  have hthree : IsWritten (errorMod 3) "--error-mod=3".toList :=
    .valued ⟨rfl, Whole.isSmall_of_lt (by decide)⟩
  have hdecimal : HasText (backendTimeout 5.0) "5.0".toList :=
    Settings.readDecimal_eq_ok_iff.1 Settings.readDecimal_default
  have htimeout : IsWritten (backendTimeout 5.0) "--backend-timeout=5.0".toList := .valued hdecimal
  have hhost : IsWritten (host "") "--host=".toList := .valued rfl
  have hbackend : IsWritten (backendHost "backend.test") "--backend-host=backend.test".toList :=
    .valued rfl
  have hwritten : List.Forall₂ IsWritten given argv :=
    .cons hfive <| .cons hmark <| .cons (.flag rfl) <| .cons hscheme <| .cons hthree <|
    .cons htimeout <| .cons hhost <| .cons hbackend .nil
  have hmodulus : errorMod 3 ∈ given := by simp [given]
  have hchoices : AreConfigurable ⟨"--", 8812, "https", none, 5.0, 503, 0, none⟩ given := {
    valid := by simp [given, IsValid]
    omitted := Settings.forall_mem_choices.2 ⟨fun _ ↦ ⟨by decide, by decide⟩, fun _ ↦ trivial,
      fun _ ↦ ⟨_, rfl⟩, fun hnone ↦ absurd rfl (hnone (errorMod 3) hmodulus), fun _ ↦ trivial,
      fun _ ↦ trivial, nofun, nofun⟩
    backendHost := ⟨backendHost "backend.test", by simp [given], rfl⟩ }
  obtain ⟨-, a, hread, hconfig, -⟩ := configured_as_chosen hload hwritten hchoices
  obtain ⟨c, hc, hchosen⟩ := hconfig rfl
  exact ⟨_, a, c, hload, hwritten, hchoices, hread, hc, hchosen.last (errorMod 3) rfl,
    hchosen.last (host "") rfl, hchosen.last (backendScheme "--x =y") rfl,
    hchosen.last embedded rfl,
    hchosen.omitted (port 8812) (by simp [Settings.choices]) (by simp [given, option])⟩

/-- **A host that is the mark is refused**, although it can be configured. -/
theorem mark_for_host_refused :
    let given : List Choice := [backendHost "h", host "--"]
    let argv := ["--backend-host=h", "--host=--"].map String.toList
    ∃ s a, Settings.load [] = .ok s ∧ List.Forall₂ IsWritten given argv ∧ AreConfigurable s given ∧
      Arguments.read s argv = .ok (.run a) ∧
      a.config = .error (.invalid [⟨["host"], .notText, .list []⟩]) := by
  intro given argv
  have hload : Settings.load [] = .ok ⟨"0.0.0.0", 8812, "https", none, 5.0, 503, 10, none⟩ :=
    Settings.load_eq_ok_iff.2 ⟨Settings.readWhole_port, Settings.readDecimal_default,
      Settings.readWhole_code, Settings.readWhole_modulus, rfl, rfl, rfl, rfl⟩
  have hwritten : List.Forall₂ IsWritten given argv :=
    .cons (.valued rfl) (.cons (.valued rfl) .nil)
  have hmodulus : (1 : Int) ≤ 10 := by decide
  have hchoices : AreConfigurable ⟨"0.0.0.0", 8812, "https", none, 5.0, 503, 10, none⟩ given := {
    valid := by simp [given, IsValid]
    omitted := Settings.forall_mem_choices.2 ⟨fun _ ↦ ⟨by decide, by decide⟩, fun _ ↦ trivial,
      fun _ ↦ ⟨_, rfl⟩, fun _ ↦ hmodulus, fun _ ↦ trivial, fun _ ↦ trivial, nofun, nofun⟩
    backendHost := ⟨backendHost "h", by simp [given], rfl⟩ }
  have hrefusals : refusals given = [⟨["host"], .notText, .list []⟩] := rfl
  have hconfig := config_of_marked hchoices (hrefusals ▸ List.cons_ne_nil _ _)
  rw [hrefusals] at hconfig
  exact ⟨_, _, hload, hwritten, hchoices, read_of_written hwritten hchoices, hconfig⟩

end Choice
end InjectingProxy
