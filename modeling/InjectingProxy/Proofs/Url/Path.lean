import InjectingProxy.Proofs.Url.Percent
import InjectingProxy.Url.Path

/-!
# Paths without dot segments

A path in which no segment is a dot segment is its own normal form (`Path.normalise_of_isNormal`),
and normal forms are such paths (`Path.isNormal_normalise`).  The normal form of a path that begins
with a slash does so, too, unless nothing of it is left (`Path.normalise_rooted`).

Escaping characters of a path makes no dot segments (`Path.IsNormal.flatMap`).  A segment in which
something was escaped holds a percent sign, so it is none of the two, and any other segment is the
one it was before.
-/

set_option autoImplicit false

namespace InjectingProxy

namespace Path

/-! ## The normal form -/

theorem foldl_visit {parts : List Text} (h : ∀ s ∈ parts, s ≠ here ∧ s ≠ above) : ∀ kept,
    parts.foldl visit kept = parts.reverse ++ kept := by
  induction parts with
  | nil => exact fun kept ↦ rfl
  | cons s parts ih =>
    intro kept
    obtain ⟨hhere, habove⟩ := h s List.mem_cons_self
    have hvisit : visit kept s = s :: kept := by rw [visit, if_neg hhere, if_neg habove]
    rw [List.foldl_cons, hvisit, ih fun s' hs' ↦ h s' (List.mem_cons_of_mem s hs'),
      List.reverse_cons, List.append_assoc, List.singleton_append]

/-- **A path without dot segments is left as it is.** -/
theorem normalise_of_isNormal {path : Text} (h : IsNormal path) : normalise path = path := by
  rw [normalise, removeDots, foldl_visit h, List.append_nil, List.reverse_reverse, segments,
    Text.join_pieces]

/-- If each step adds a segment that is no dot segment or none, then only such segments remain. -/
theorem mem_foldl {s : Text} {step : List Text → Text → List Text}
    (hstep : ∀ kept segment, s ∈ step kept segment →
      s ∈ kept ∨ s = segment ∧ s ≠ here ∧ s ≠ above) {parts : List Text} : ∀ {kept : List Text},
    s ∈ parts.foldl step kept → s ∈ kept ∨ s ∈ parts ∧ s ≠ here ∧ s ≠ above := by
  induction parts with
  | nil => exact fun h ↦ .inl h
  | cons segment parts ih =>
    intro kept h
    rcases ih h with h | ⟨hmem, hdots⟩
    · refine (hstep kept segment h).imp_right fun ⟨heq, hdots⟩ ↦ ⟨?_, hdots⟩
      rw [heq]
      exact List.mem_cons_self
    · exact .inr ⟨List.mem_cons_of_mem segment hmem, hdots⟩

theorem mem_visit {s segment : Text} {kept : List Text} (h : s ∈ visit kept segment) :
    s ∈ kept ∨ s = segment ∧ s ≠ here ∧ s ≠ above := by
  rw [visit] at h
  split at h
  · exact .inl h
  rename_i hhere
  split at h
  · split at h
    · exact .inl h
    · exact .inl (List.mem_of_mem_tail h)
  rename_i habove
  rcases List.mem_cons.1 h with rfl | h
  · exact .inr ⟨rfl, hhere, habove⟩
  · exact .inl h

theorem mem_removeDots {s : Text} {parts : List Text} (h : s ∈ removeDots parts) :
    s ∈ parts ∧ s ≠ here ∧ s ≠ above :=
  (mem_foldl (fun _ _ ↦ mem_visit) (List.mem_reverse.1 h)).resolve_left List.not_mem_nil

/-- A path that is made of segments which are no dot segments. -/
theorem isNormal_join {parts : List Text} (hpieces : ∀ s ∈ parts, ∀ c ∈ s, (c == '/') = false)
    (h : ∀ s ∈ parts, s ≠ here ∧ s ≠ above) : IsNormal (Text.join ['/'] parts) := by
  intro s hs
  rw [segments] at hs
  by_cases hnil : parts = []
  · rw [hnil] at hs
    rw [List.mem_singleton.1 hs]
    exact ⟨nofun, nofun⟩
  · rw [Text.pieces_join hnil hpieces] at hs
    exact h s hs

/-- **A normal form has no dot segments.** -/
theorem isNormal_normalise (path : Text) : IsNormal (normalise path) :=
  isNormal_join (fun _ hs ↦ Text.not_separator_of_mem_pieces (mem_removeDots hs).1)
    fun _ hs ↦ (mem_removeDots hs).2

/-- A slash in front adds an empty segment. -/
theorem IsNormal.cons_slash {path : Text} (h : IsNormal path) : IsNormal ('/' :: path) :=
  List.forall_mem_cons.2 ⟨⟨nofun, nofun⟩, h⟩

/-! ## Paths that begin with a slash -/

/-- The empty segment before the first slash is never left. -/
theorem getLast?_visit {kept : List Text} (h : kept.getLast? = some []) (segment : Text) :
    (visit kept segment).getLast? = some [] := by
  rw [visit]
  split
  · exact h
  split
  · split
    · exact h
    · rename_i hne
      match kept with
      | [s] => exact absurd (congrArg (fun s ↦ [s]) (Option.some.inj h)) hne
      | s :: s' :: kept => exact h
  · match kept with
    | s :: kept => exact h

theorem getLast?_foldl_visit {parts : List Text} : ∀ kept : List Text,
    kept.getLast? = some [] → (parts.foldl visit kept).getLast? = some [] := by
  induction parts with
  | nil => exact fun _ h ↦ h
  | cons segment parts ih => exact fun _ h ↦ ih _ (getLast?_visit h segment)

/-- **A path that begins with a slash** is left as one or as nothing. -/
theorem normalise_rooted {path : Text} (h : path.head? = some '/') :
    normalise path = [] ∨ (normalise path).head? = some '/' := by
  obtain ⟨rest, rfl⟩ := List.head?_eq_some_iff.1 h
  have hsegments : segments ('/' :: rest) = [] :: segments rest := rfl
  have hhead : (removeDots (segments ('/' :: rest))).head? = some [] := by
    rw [removeDots, List.head?_reverse, hsegments]
    exact getLast?_foldl_visit [[]] rfl
  obtain ⟨others, hothers⟩ := List.head?_eq_some_iff.1 hhead
  rw [normalise, hothers]
  cases others with
  | nil => exact .inl rfl
  | cons s others => exact .inr rfl

/-! ## Escaping in paths -/

/-- If every character is kept or replaced by something with a percent sign, then a result without
percent signs is the text that it was made of. -/
theorem flatMap_eq_self {f : Char → Text} (hf : ∀ c, f c = [c] ∨ '%' ∈ f c) {t : Text}
    (h : '%' ∉ t.flatMap f) : t.flatMap f = t := by
  induction t with
  | nil => rfl
  | cons c t ih =>
    rw [List.flatMap_cons, List.mem_append, not_or] at h
    rw [List.flatMap_cons, (hf c).resolve_right h.1, ih h.2, List.singleton_append]

/-- If slashes are kept and no others appear, then each segment is replaced on its own. -/
theorem segments_flatMap {f : Char → Text}
    (hf : ∀ c, f c = [c] ∨ c ≠ '/' ∧ '%' ∈ f c ∧ '/' ∉ f c) (path : Text) :
    segments (path.flatMap f) = (segments path).map (·.flatMap f) := by
  have hkept : ∀ c, (c == '/') = true → f c = [c] := fun c hc ↦
    (hf c).resolve_right fun hne ↦ hne.1 (beq_iff_eq.1 hc)
  have hfew : ∀ c, (c == '/') = false → ∀ d ∈ f c, (d == '/') = false := by
    intro c hc d hd
    rcases hf c with heq | ⟨-, -, hnone⟩
    · rw [heq, List.mem_singleton] at hd
      exact hd ▸ hc
    · exact beq_eq_false_iff_ne.2 fun heq ↦ hnone (heq ▸ hd)
  exact Text.pieces_flatMap hkept hfew path

/-- A path without dot segments has none after characters other than slashes have been escaped. -/
theorem IsNormal.flatMap {f : Char → Text} {path : Text} (h : IsNormal path)
    (hf : ∀ c, f c = [c] ∨ c ≠ '/' ∧ '%' ∈ f c ∧ '/' ∉ f c) : IsNormal (path.flatMap f) := by
  intro s hs
  rw [segments_flatMap hf] at hs
  obtain ⟨t, ht, rfl⟩ := List.mem_map.1 hs
  obtain ⟨hhere, habove⟩ := h t ht
  have hescape : ∀ c, f c = [c] ∨ '%' ∈ f c := fun c ↦ (hf c).imp_right fun hc ↦ hc.2.1
  have hsame {dots : Text} (hdots : '%' ∉ dots) (heq : t.flatMap f = dots) : t = dots :=
    (flatMap_eq_self hescape (heq ▸ hdots)).symm.trans heq
  exact ⟨fun heq ↦ hhere (hsame (by decide) heq), fun heq ↦ habove (hsame (by decide) heq)⟩

section Encode

variable {safe : Char → Bool} (hslash : safe '/' = true)
include hslash

/-- A character of a path is kept, or it is no slash and becomes an escape, in which there is
none. -/
theorem escape_cases (c : Char) : (if safe c then [c] else Percent.escapeChar c) = [c] ∨
    c ≠ '/' ∧ '%' ∈ (if safe c then [c] else Percent.escapeChar c) ∧
      '/' ∉ (if safe c then [c] else Percent.escapeChar c) := by
  split
  · exact .inl rfl
  · rename_i hc
    obtain ⟨rest, hrest⟩ := Percent.escapeChar_eq_cons c
    refine .inr ⟨?_, hrest ▸ List.mem_cons_self, fun hmem ↦ ?_⟩
    · rintro rfl
      exact hc hslash
    · rcases Percent.mem_escapeChar hmem with h | h <;> exact absurd h (by decide)

/-- **Segments are encoded one by one.** -/
theorem segments_encode (path : Text) :
    segments (Percent.encode safe path) = (segments path).map (Percent.encode safe) :=
  segments_flatMap (escape_cases hslash) path

/-- So a path is normal in its encoded form. -/
theorem IsNormal.encode {path : Text} (h : IsNormal path) : IsNormal (Percent.encode safe path) :=
  h.flatMap (escape_cases hslash)

end Encode

end Path
end InjectingProxy
