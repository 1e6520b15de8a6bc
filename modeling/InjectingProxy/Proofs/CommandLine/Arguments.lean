import InjectingProxy.CommandLine.Arguments
import InjectingProxy.Proofs.Check

/-!
# What is read of a command line

An option that takes a value is given a text: together with it, or as the argument after it
(`Token.Gives`).  When a command line is read and does not ask for help, what is gathered is what
the rules of `Gathers` say (`gather_eq_run_iff`).  So every text that is given can be read, and
every value that has been gathered is the reading of a text that is given (`Gathers.reads`,
`Gathers.gives`).

What is left is what the readings of numbers are (`readValue_whole_iff`,
`readValue_positive_iff`), and that the
modulus of the settings counts only if the command line gives none (`modulus_of_read`).
-/

set_option autoImplicit false

namespace InjectingProxy

/-- The word that a token is, if it is no option. -/
def Token.word? : Token → Option Text
  | .plain w | .unknown w => some w
  | .separator => some mark
  | .option _ _ _ => none

/-- A text is given to an option somewhere: together with it, or as the next argument. -/
inductive Token.Gives (o : Opt) (t : Text) : List Token → Prop
  | together (long : Bool) (rest : List Token) : Gives o t (.option o long (some t) :: rest)
  | next (long : Bool) (rest : List Token) : Gives o t (.option o long none :: .plain t :: rest)
  | later (token : Token) {rest : List Token} (h : Gives o t rest) : Gives o t (token :: rest)

namespace Arguments

/-! ## Gathering -/

/-- The options and words that are gathered from tokens, if all of them can be read and none asks
for help. -/
inductive Gathers : List Token → Gathered → Prop
  | nil : Gathers [] ⟨[], []⟩
  | word {token : Token} {w : Text} {rest : List Token} {g : Gathered}
    (hword : token.word? = some w) (h : Gathers rest g) :
    Gathers (token :: rest) { g with words := w :: g.words }
  | flag {o : Opt} (long : Bool) {rest : List Token} {g : Gathered} (hflag : o.value? = none)
    (hhelp : o ≠ .help) (h : Gathers rest g) :
    Gathers (.option o long none :: rest) { g with given := (o, .bool true) :: g.given }
  | together {o : Opt} {name : String} {kind : ValueKind} {t : Text} {v : Value} (long : Bool)
    {rest : List Token} {g : Gathered} (hkind : o.value? = some (name, kind))
    (hread : readValue o kind t = .ok v) (h : Gathers rest g) :
    Gathers (.option o long (some t) :: rest) { g with given := (o, v) :: g.given }
  | next {o : Opt} {name : String} {kind : ValueKind} {t : Text} {v : Value} (long : Bool)
    {rest : List Token} {g : Gathered} (hkind : o.value? = some (name, kind))
    (hread : readValue o kind t = .ok v) (h : Gathers rest g) :
    Gathers (.option o long none :: .plain t :: rest) { g with given := (o, v) :: g.given }

/-- What is put in front leaves a command line that asks for no help as one. -/
theorem map_eq_run {x : Except ArgumentFault (Asked Gathered)} {f : Asked Gathered → Asked Gathered}
    (hhelp : f .help = .help) {g : Gathered} (h : x.map f = .ok (.run g)) :
    ∃ g', x = .ok (.run g') ∧ f (.run g') = .run g := by
  rcases x with e | _ | g'
  · cases h
  · cases hhelp.symm.trans (Except.ok.inj h)
  · exact ⟨g', rfl, Except.ok.inj h⟩

theorem gathers_of_gather {tokens : List Token} : ∀ {g : Gathered},
    gather tokens = .ok (.run g) → Gathers tokens g := by
  induction tokens using gather.induct with
  | case1 =>
    intro g h
    cases h
    exact .nil
  | case2 w rest ih | case3 w rest ih | case4 rest ih =>
    intro g h
    rw [gather] at h
    obtain ⟨g', hg', heq⟩ := map_eq_run rfl h
    cases heq
    exact .word rfl (ih hg')
  | case5 o long rest hflag text hlong =>
    intro g h
    simp only [gather, hflag, hlong, if_true] at h
    cases h
  | case6 o long rest hflag text hlong =>
    intro g h
    -- letters that follow the short spelling of a flag can only be a request for help
    simp only [gather, hflag, if_neg hlong] at h
    cases hrow : checkRow o rest text <;> rw [hrow] at h <;> cases h
  | case7 long rest hflag =>
    intro g h
    cases h
  | case8 o long rest hflag hhelp ih =>
    intro g h
    simp only [gather, hflag, if_neg hhelp] at h
    obtain ⟨g', hg', heq⟩ := map_eq_run rfl h
    cases heq
    exact .flag long hflag hhelp (ih hg')
  | case9 o long rest name kind hkind text f hread =>
    intro g h
    simp only [gather, hkind, hread] at h
    cases h
  | case10 o long rest name kind hkind text v hread ih =>
    intro g h
    simp only [gather, hkind, hread] at h
    obtain ⟨g', hg', heq⟩ := map_eq_run rfl h
    cases heq
    exact .together long hkind hread (ih hg')
  | case11 o long name kind hkind text more f hread =>
    intro g h
    simp only [gather, hkind, hread] at h
    cases h
  | case12 o long name kind hkind text more v hread ih =>
    intro g h
    simp only [gather, hkind, hread] at h
    obtain ⟨g', hg', heq⟩ := map_eq_run rfl h
    cases heq
    exact .next long hkind hread (ih hg')
  | case13 o long rest name kind hkind hnone =>
    intro g h
    simp only [gather, hkind] at h
    cases h

/-- **What is gathered is what the rules say.** -/
theorem gather_eq_run_iff {tokens : List Token} {g : Gathered} :
    gather tokens = .ok (.run g) ↔ Gathers tokens g := by
  refine ⟨gathers_of_gather, fun h ↦ ?_⟩
  induction h with
  | nil => rfl
  | @word token w rest g hword h ih =>
    cases token with
    | option => cases hword
    | _ =>
      cases hword
      rw [gather, ih]
      rfl
  | flag long hflag hhelp h ih =>
    simp only [gather, hflag, if_neg hhelp, ih]
    rfl
  | together long hkind hread h ih =>
    simp only [gather, hkind, hread, ih]
    rfl
  | next long hkind hread h ih =>
    simp only [gather, hkind, hread, ih]
    rfl

section Given

variable {tokens : List Token} {g : Gathered} {o : Opt} {name : String} {kind : ValueKind}

/-- **Every text that is given to an option can be read**, and its reading is gathered. -/
theorem Gathers.reads (h : Gathers tokens g) (hkind : o.value? = some (name, kind)) {t : Text}
    (ht : Token.Gives o t tokens) : ∃ v, readValue o kind t = .ok v ∧ (o, v) ∈ g.given := by
  induction h with
  | nil => cases ht
  | word hword h ih =>
    cases ht with
    | later _ ht => exact ih ht
    | _ => cases hword
  | flag long hflag hhelp h ih =>
    cases ht with
    | next => cases hflag.symm.trans hkind
    | later _ ht =>
      obtain ⟨v, hread, hmem⟩ := ih ht
      exact ⟨v, hread, List.mem_cons_of_mem _ hmem⟩
  | together long hkind' hread h ih =>
    cases ht with
    | together =>
      cases hkind'.symm.trans hkind
      exact ⟨_, hread, List.mem_cons_self⟩
    | later _ ht =>
      obtain ⟨v, hread, hmem⟩ := ih ht
      exact ⟨v, hread, List.mem_cons_of_mem _ hmem⟩
  | next long hkind' hread h ih =>
    cases ht with
    | next =>
      cases hkind'.symm.trans hkind
      exact ⟨_, hread, List.mem_cons_self⟩
    | later _ ht =>
      -- the text has been taken as a value and is no option itself
      cases ht with
      | later _ ht =>
        obtain ⟨v, hread, hmem⟩ := ih ht
        exact ⟨v, hread, List.mem_cons_of_mem _ hmem⟩

/-- **Every value that has been gathered is the reading of a text that is given.** -/
theorem Gathers.gives (h : Gathers tokens g) (hkind : o.value? = some (name, kind)) {v : Value}
    (hv : (o, v) ∈ g.given) : ∃ t, Token.Gives o t tokens ∧ readValue o kind t = .ok v := by
  induction h with
  | nil => cases hv
  | word hword h ih =>
    obtain ⟨t, ht, hread⟩ := ih hv
    exact ⟨t, .later _ ht, hread⟩
  | flag long hflag hhelp h ih =>
    rcases List.mem_cons.1 hv with heq | hv
    · cases heq
      cases hflag.symm.trans hkind
    · obtain ⟨t, ht, hread⟩ := ih hv
      exact ⟨t, .later _ ht, hread⟩
  | together long hkind' hread h ih =>
    rcases List.mem_cons.1 hv with heq | hv
    · cases heq
      cases hkind'.symm.trans hkind
      exact ⟨_, .together _ _, hread⟩
    · obtain ⟨t, ht, hread⟩ := ih hv
      exact ⟨t, .later _ ht, hread⟩
  | next long hkind' hread h ih =>
    rcases List.mem_cons.1 hv with heq | hv
    · cases heq
      cases hkind'.symm.trans hkind
      exact ⟨_, .next _ _, hread⟩
    · obtain ⟨t, ht, hread⟩ := ih hv
      exact ⟨t, .later _ (.later _ ht), hread⟩

end Given

/-! ## Values -/

section Values

variable {o : Opt} {t : Text} {v : Value} {n : Int}

/-- The mark is no number. -/
theorem read_mark_ne (n : Int) : Whole.read Token.mark ≠ .ok n := by
  have hnone : (Whole.read Token.mark).toOption = none := by decide +kernel
  intro h
  rw [h] at hnone
  cases hnone

theorem ne_mark_of_read (h : Whole.read t = .ok n) : t ≠ Token.mark := by
  rintro rfl
  exact read_mark_ne n h

/-- **A whole number is given by its text**, or there is no value at all. -/
theorem readValue_whole_iff : readValue o .whole t = .ok v ↔
    (t = Token.mark ∧ v = .list []) ∨ ∃ n, Whole.read t = .ok n ∧ v = .whole n := by
  rw [readValue]
  split
  · rename_i hmark
    rw [Except.ok.injEq, eq_comm]
    exact ⟨fun h ↦ .inl ⟨hmark, h⟩, fun h ↦ h.elim And.right
      fun ⟨n, hn, _⟩ ↦ absurd hmark (ne_mark_of_read hn)⟩
  · rename_i hmark
    cases Whole.read t with
    | error f => simp [hmark]
    | ok n => simp [hmark, eq_comm]

/-- **So is a positive number**, which is at least one. -/
theorem readValue_positive_iff : readValue o .positive t = .ok v ↔
    (t = Token.mark ∧ v = .list []) ∨ ∃ n, Whole.read t = .ok n ∧ 1 ≤ n ∧ v = .whole n := by
  rw [readValue]
  split
  · rename_i hmark
    rw [Except.ok.injEq, eq_comm]
    exact ⟨fun h ↦ .inl ⟨hmark, h⟩, fun h ↦ h.elim And.right
      fun ⟨n, hn, _⟩ ↦ absurd hmark (ne_mark_of_read hn)⟩
  · rename_i hmark
    cases Whole.read t with
    | error f => simp [hmark]
    | ok n =>
      by_cases hone : n < 1
      · simp [hmark, hone, Int.not_le.2 hone]
      · simp [hmark, hone, Int.not_lt.1 hone, eq_comm]

end Values

/-! ## Completing -/

section Complete

variable {s : Settings} {g : Gathered} {a : Arguments} {o : Opt}

theorem mem_of_given? {v : Value} (h : given? g o = some v) : (o, v) ∈ g.given := by
  obtain ⟨before, after, hsplit, -⟩ := List.lookup_eq_some_iff.1 h
  rw [← List.mem_reverse, hsplit]
  exact List.mem_append_right _ List.mem_cons_self

/-- The modulus of the settings is looked at if the command line gives none. -/
theorem modulus_of_complete (h : complete s g = .ok a) (hnone : given? g .errorMod = none) :
    1 ≤ s.errorMod := by
  rw [complete] at h
  split at h
  · cases h
  · rename_i hmodulus
    simpa [hnone] using hmodulus

theorem error_of_complete (h : complete s g = .ok a) : a.error = valueFor s g .error := by
  rw [complete] at h
  split at h
  · cases h
  · split at h
    · cases h
    · split at h
      · cases h
      · cases h
        rfl

end Complete

/-! ## Reading -/

section Read

variable {s : Settings} {argv : List Text} {a : Arguments}

theorem read_eq_run_iff : read s argv = .ok (.run a) ↔ ∃ tokens g,
    Token.ofArguments argv = .ok tokens ∧ Gathers tokens g ∧ complete s g = .ok a := by
  simp only [← gather_eq_run_iff]
  rw [read]
  constructor
  · intro h
    split at h
    · cases h
    · rename_i tokens htokens
      split at h
      · cases h
      · cases h
      · rename_i g hgather
        refine ⟨tokens, g, htokens, hgather, ?_⟩
        cases hcomplete : complete s g with
        | error f =>
          rw [hcomplete] at h
          cases h
        | ok a' =>
          rw [hcomplete] at h
          cases h
          rfl
  · rintro ⟨tokens, g, htokens, hgather, hcomplete⟩
    simp only [htokens, hgather, hcomplete]
    rfl

variable {tokens : List Token}

/-- **A modulus below one is not read**, whether it is given or the one of the settings. -/
theorem modulus_of_read (h : read s argv = .ok (.run a))
    (htokens : Token.ofArguments argv = .ok tokens) :
    (∀ t n, Token.Gives .errorMod t tokens → Whole.read t = .ok n → 1 ≤ n) ∧
      ((∀ t, ¬ Token.Gives .errorMod t tokens) → 1 ≤ s.errorMod) := by
  obtain ⟨_, g, htokens', hgathers, hcomplete⟩ := read_eq_run_iff.1 h
  cases htokens'.symm.trans htokens
  refine ⟨fun t n ht hn ↦ ?_, fun hnone ↦ modulus_of_complete hcomplete ?_⟩
  · obtain ⟨v, hread, -⟩ := hgathers.reads (o := .errorMod) rfl ht
    rcases readValue_positive_iff.1 hread with ⟨hmark, -⟩ | ⟨n', hn', hone, -⟩
    · exact absurd hmark (ne_mark_of_read hn)
    · cases hn'.symm.trans hn
      exact hone
  · refine Option.eq_none_iff_forall_ne_some.2 fun v hv ↦ ?_
    obtain ⟨t, ht, -⟩ := hgathers.gives (o := .errorMod) rfl (mem_of_given? hv)
    exact hnone t ht

/-- **The error is a code, unless it is given by the mark.** -/
theorem error_of_read (h : read s argv = .ok (.run a)) :
    (∃ code, a.error = .whole code) ∨
      a.error = .list [] ∧ ∃ tokens, Token.ofArguments argv = .ok tokens ∧
        Token.Gives .error Token.mark tokens := by
  obtain ⟨tokens, g, htokens, hgathers, hcomplete⟩ := read_eq_run_iff.1 h
  rw [error_of_complete hcomplete, valueFor]
  cases hgiven : given? g .error with
  | none => exact .inl ⟨s.errorCode, rfl⟩
  | some v =>
    obtain ⟨t, ht, hread⟩ := hgathers.gives (o := .error) rfl (mem_of_given? hgiven)
    rcases readValue_whole_iff.1 hread with ⟨rfl, rfl⟩ | ⟨n, -, rfl⟩
    · exact .inr ⟨rfl, tokens, htokens, ht⟩
    · exact .inl ⟨n, rfl⟩

end Read

end Arguments
end InjectingProxy
