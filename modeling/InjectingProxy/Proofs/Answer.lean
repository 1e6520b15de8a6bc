import InjectingProxy.Delivery
import InjectingProxy.Proofs.Text.Utf8

/-!
# The response that an answer makes

The transcript of an answer is the response that a client should receive of it: its status with
description and content type, its chunks that are not empty, and the end of the body
(`Answer.transcript`).  It is said without the machinery that streams an answer, of answers whose
headers name no coding that can be undone (`Answer.IsUncoded`).

The script of such an answer has just these messages, as far as the backend gives occasion to them
(`Answer.script_messages`).  It is lazy: when a message is sent, no chunk behind it has been taken
(`Answer.script_lazy`), and the end of the body is told after all of them (`Answer.script_final`).
Each of these is an induction on the chunks, since the body of an answer is a script for each rest
of them.
-/

set_option autoImplicit false

namespace InjectingProxy

/-! ## Answers without codings -/

/-- The names of the codings that can be undone. -/
def Coding.Decoder.names : List Text :=
  ["identity".toList, "gzip".toList, "deflate".toList]

theorem Coding.Decoder.ofName?_eq_none_iff {name : Text} :
    ofName? name = none ↔ name ∉ names := by
  simp only [ofName?, names, List.mem_cons, List.not_mem_nil, or_false, not_or]
  split_ifs with hidentity hgzip hdeflate
  · exact ⟨nofun, fun h ↦ absurd hidentity h.1⟩
  · exact ⟨nofun, fun h ↦ absurd hgzip h.2.1⟩
  · exact ⟨nofun, fun h ↦ absurd hdeflate h.2.2⟩
  · exact ⟨fun _ ↦ ⟨hidentity, hgzip, hdeflate⟩, fun _ ↦ rfl⟩

namespace Answer

/-- The names of codings in the headers of an answer, in small letters. -/
def codingNames (a : Answer) : List Text :=
  ((a.headerValues (word "content-encoding")).flatMap (Text.pieces (· == ','))).map fun name ↦
    Text.lowerAscii (Text.trim isBlank name)

/-- No header names a coding that can be undone. -/
def IsUncoded (a : Answer) : Prop := ∀ name ∈ a.codingNames, name ∉ Coding.Decoder.names

theorem codings_eq_nil_iff {a : Answer} : a.codings = [] ↔ a.IsUncoded := by
  rw [codings, Coding.Stack.ofHeaders, List.reverse_eq_nil_iff, List.filterMap_eq_nil_iff,
    IsUncoded, codingNames, List.forall_mem_map]
  simp only [Coding.Decoder.ofName?_eq_none_iff]

end Answer

/-- How the way in which a body ends shows in the response. -/
def BodyEnd.ending : BodyEnd → Ending
  | .complete => .complete
  | .silent => .stalled
  | .broken f => .failed (.backend f)

/-! ## The transcript of an answer -/

namespace Answer

/-- The chunks that are not empty. -/
def filled (chunks : List Bytes) : List Bytes := chunks.filter fun chunk ↦ !chunk.isEmpty

/-- The bytes of the description of the status: those of the phrase below 128, or the known phrase
of the code. -/
def description (a : Answer) : Bytes :=
  match a.phrase with
  | some phrase => phrase.filter (· < 128)
  | none => word (Status.linePhrase a.code)

/-- The values of the headers that say what kind of content the body is. -/
def contentTypes (a : Answer) : List Bytes :=
  (a.headers.filter fun h ↦ lowerName h.1 == word "content-type").map Prod.snd

/-- The message that starts a response with the answer: its headers are the description and the
first content type, if there is one. -/
def opening (a : Answer) : Message :=
  .start a.code ((word "x-status-description", a.description) ::
    (a.contentTypes.take 1).map fun value ↦ (word "content-type", value))

/-- The messages with the chunks of the body, empty ones left out. -/
def pieces (a : Answer) : List Message := (filled a.chunks).map fun chunk ↦ .body chunk true

/-- All messages of a response with the answer. -/
def transcript (a : Answer) : List Message := a.opening :: a.pieces ++ [.body [] false]

/-- The messages to which the backend gives occasion: the last one only if the body ends. -/
def offered (a : Answer) : List Message :=
  match a.bodyEnd with
  | .complete => a.transcript
  | _ => a.opening :: a.pieces

/-! ## The script of an answer without codings -/

theorem word_description (a : Answer) : word a.status.description = a.description := by
  cases hphrase : a.phrase with
  | none => simp only [status, Status.ofLine, description, hphrase]
  | some phrase =>
    have hascii : ∀ b ∈ phrase.filter (· < 128), b.toNat < 0x80 := fun b hb ↦
      UInt8.lt_iff_toNat_lt.1 (of_decide_eq_true (List.mem_filter.1 hb).2)
    simp only [word, status, Status.ofLine, description, hphrase, String.toList_ofList,
      Latin.decodeAscii, Latin.decode]
    exact Utf8.encode_charOfNat_of_ascii hascii

theorem contentType?_eq (a : Answer) : a.contentType? = a.contentTypes.head? := by
  rw [contentType?, contentTypes, List.head?_map, List.head?_filter]

theorem opening_eq (a : Answer) : .start a.code a.relayedHeaders = a.opening := by
  rw [opening, relayedHeaders, word_description, contentType?_eq]
  cases a.contentTypes <;> rfl

theorem bodyScript_cons (bodyEnd : BodyEnd) (taken : Nat) (chunk : Bytes) (rest : List Bytes) :
    bodyScript bodyEnd [] ⟨taken, 0⟩ (chunk :: rest) =
      { bodyScript bodyEnd [] ⟨taken + 1, 0⟩ rest with
        emissions := pieceOf chunk ⟨taken + 1, 0⟩ ++
          (bodyScript bodyEnd [] ⟨taken + 1, 0⟩ rest).emissions } := by
  cases chunk <;> rfl

theorem bodyScript_end (bodyEnd : BodyEnd) (chunks : List Bytes) : ∀ taken,
    (bodyScript bodyEnd [] ⟨taken, 0⟩ chunks).ending = bodyEnd.ending ∧
      (bodyScript bodyEnd [] ⟨taken, 0⟩ chunks).use =
        ⟨taken + chunks.length, if bodyEnd = .complete then 1 else 0⟩ := by
  induction chunks with
  | nil => cases bodyEnd <;> exact fun taken ↦ ⟨rfl, rfl⟩
  | cons chunk rest ih =>
    intro taken
    rw [bodyScript_cons, List.length_cons, Nat.add_comm rest.length 1, ← Nat.add_assoc]
    exact ih (taken + 1)

theorem bodyScript_messages (bodyEnd : BodyEnd) (chunks : List Bytes) : ∀ taken,
    (bodyScript bodyEnd [] ⟨taken, 0⟩ chunks).messages =
      (filled chunks).map (.body · true) ++
        if bodyEnd = .complete then [.body [] false] else [] := by
  induction chunks with
  | nil => cases bodyEnd <;> exact fun taken ↦ rfl
  | cons chunk rest ih =>
    intro taken
    have hrest := ih (taken + 1)
    rw [Script.messages] at hrest ⊢
    rw [bodyScript_cons, List.map_append, hrest]
    cases chunk <;> rfl

/-- When a message is sent, no more chunks have been taken than are in it and the messages before
it, empty ones apart. -/
theorem bodyScript_lazy (bodyEnd : BodyEnd) (chunks : List Bytes) :
    ∀ taken i e, (bodyScript bodyEnd [] ⟨taken, 0⟩ chunks).emissions[i]? = some e →
      ∃ more, e.use.taken = taken + more ∧ (filled (chunks.take more)).length ≤ i + 1 := by
  induction chunks with
  | nil =>
    intro taken i e h
    cases bodyEnd with
    | complete =>
      obtain rfl := List.mem_singleton.1 (List.mem_of_getElem? h)
      exact ⟨0, rfl, Nat.zero_le _⟩
    | silent => cases h
    | broken f => cases h
  | cons chunk rest ih =>
    intro taken i e h
    rw [bodyScript_cons] at h
    cases chunk with
    | nil =>
      obtain ⟨more, htaken, hle⟩ := ih (taken + 1) i e h
      exact ⟨more + 1, by omega, hle⟩
    | cons b bs =>
      cases i with
      | zero =>
        cases h
        exact ⟨1, rfl, Nat.le_refl 1⟩
      | succ i =>
        obtain ⟨more, htaken, hle⟩ := ih (taken + 1) i e h
        exact ⟨more + 1, by omega, Nat.succ_le_succ hle⟩

/-- The message that ends a body is sent after all chunks have been taken. -/
theorem bodyScript_final (bodyEnd : BodyEnd) (chunks : List Bytes) : ∀ taken,
    ∀ e ∈ (bodyScript bodyEnd [] ⟨taken, 0⟩ chunks).emissions, e.message = .body [] false →
      e.use.taken = taken + chunks.length := by
  induction chunks with
  | nil =>
    intro taken e he hfinal
    cases bodyEnd with
    | complete =>
      obtain rfl := List.mem_singleton.1 he
      rfl
    | silent => cases he
    | broken f => cases he
  | cons chunk rest ih =>
    intro taken e he hfinal
    rw [bodyScript_cons] at he
    rcases List.mem_append.1 he with hpiece | hrest
    · cases chunk with
      | nil => cases hpiece
      | cons b bs =>
        obtain rfl := List.mem_singleton.1 hpiece
        cases hfinal
    · rw [ih (taken + 1) e hrest hfinal, List.length_cons]
      omega

variable {a : Answer}

theorem script_of_isUncoded (h : a.IsUncoded) :
    a.script = (bodyScript a.bodyEnd [] .untouched a.chunks).cons ⟨a.opening, .untouched⟩ := by
  rw [script, codings_eq_nil_iff.2 h, opening_eq]

theorem emissions_of_isUncoded (h : a.IsUncoded) :
    a.script.emissions = ⟨a.opening, .untouched⟩ ::
      (bodyScript a.bodyEnd [] .untouched a.chunks).emissions := by
  rw [script_of_isUncoded h, Script.cons]

theorem script_messages (h : a.IsUncoded) : a.script.messages = a.offered := by
  have hbody := bodyScript_messages a.bodyEnd a.chunks 0
  rw [Script.messages] at hbody
  rw [script_of_isUncoded h, Script.messages, Script.cons, List.map_cons, BodyUse.untouched, hbody,
    offered, transcript, pieces]
  cases a.bodyEnd <;> simp

theorem script_ending (h : a.IsUncoded) : a.script.ending = a.bodyEnd.ending := by
  rw [script_of_isUncoded h]
  exact (bodyScript_end a.bodyEnd a.chunks 0).1

theorem script_use (h : a.IsUncoded) :
    a.script.use = ⟨a.chunks.length, if a.bodyEnd = .complete then 1 else 0⟩ := by
  have := (bodyScript_end a.bodyEnd a.chunks 0).2
  rw [Nat.zero_add] at this
  rw [script_of_isUncoded h]
  exact this

theorem script_lazy (h : a.IsUncoded) {before after : List Emission} {e : Emission}
    (hs : a.script.emissions = before ++ e :: after) :
    (filled (a.chunks.take e.use.taken)).length ≤ before.length := by
  rw [emissions_of_isUncoded h] at hs
  cases before with
  | nil =>
    cases hs
    exact Nat.le_refl 0
  | cons first before =>
    have hplace : (bodyScript a.bodyEnd [] .untouched a.chunks).emissions[before.length]? =
        some e := by
      rw [(List.cons.inj hs).2]
      simp
    obtain ⟨more, htaken, hle⟩ := bodyScript_lazy a.bodyEnd a.chunks 0 _ e hplace
    rw [htaken, Nat.zero_add]
    exact hle

theorem script_final (h : a.IsUncoded) {e : Emission} (he : e ∈ a.script.emissions)
    (hfinal : e.message = .body [] false) : e.use.taken = a.chunks.length := by
  rw [emissions_of_isUncoded h] at he
  rcases List.mem_cons.1 he with rfl | he
  · cases hfinal
  · rw [bodyScript_final a.bodyEnd a.chunks 0 e he hfinal, Nat.zero_add]

/-! ## First parts of a transcript -/

theorem offered_prefix (a : Answer) : a.offered <+: a.transcript := by
  rw [offered]
  split
  · exact List.prefix_rfl
  · exact List.prefix_append _ _

theorem offered_eq_transcript_iff : a.offered = a.transcript ↔ a.bodyEnd = .complete := by
  have hne : a.opening :: a.pieces ≠ a.transcript := fun h ↦ by
    simpa [transcript] using congrArg List.length h
  rw [offered]
  cases a.bodyEnd with
  | complete => exact ⟨fun _ ↦ rfl, fun _ ↦ rfl⟩
  | silent => exact ⟨fun h ↦ absurd h hne, nofun⟩
  | broken f => exact ⟨fun h ↦ absurd h hne, nofun⟩

theorem isBody_of_mem_pieces {m : Message} (h : m ∈ a.pieces) :
    m.isBody = true ∧ m ≠ .body [] false := by
  obtain ⟨chunk, -, rfl⟩ := List.mem_map.1 h
  exact ⟨rfl, nofun⟩

theorem countP_isBody_pieces (a : Answer) :
    (a.opening :: a.pieces).countP Message.isBody = a.pieces.length := by
  rw [List.countP_cons, List.countP_eq_length.2 fun m hm ↦ (isBody_of_mem_pieces hm).1]
  rfl

/-- All messages but the first are pieces of the body. -/
theorem length_le_of_prefix {ms : List Message} (h : ms <+: a.transcript) :
    ms.length ≤ ms.countP Message.isBody + 1 := by
  cases ms with
  | nil => exact Nat.zero_le _
  | cons m ms =>
    have hrest : ms <+: a.pieces ++ [.body [] false] := (List.cons_prefix_cons.1 h).2
    have hbodies : ∀ m ∈ ms, m.isBody = true := by
      intro m hm
      rcases List.mem_append.1 (hrest.subset hm) with hm | hm
      · exact (isBody_of_mem_pieces hm).1
      · rw [List.mem_singleton.1 hm]
        rfl
    rw [List.countP_cons, List.countP_eq_length.2 hbodies, List.length_cons]
    omega

/-- Only the whole transcript has the message that ends the body. -/
theorem eq_transcript_of_prefix {ms : List Message} (h : ms <+: a.transcript)
    (hfinal : .body [] false ∈ ms) : ms = a.transcript := by
  rcases List.prefix_concat_iff.1 h with h | h
  · exact h
  · rcases List.mem_cons.1 (h.subset hfinal) with h | h
    · cases h
    · exact absurd rfl (isBody_of_mem_pieces h).2

end Answer

end InjectingProxy
