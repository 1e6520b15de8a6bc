import InjectingProxy.Text.Basic

/-!
# Characters of a text

What holds of all characters of a given text can be found by looking at each of them
(`forall_of_all`), and a character of joined parts belongs to a part or to the separator
(`Text.mem_join`), so a character of a text belongs to one of its pieces or separates them
(`Text.mem_pieces`).  Parts without separators are the pieces of what they are joined to
(`Text.pieces_join`), and characters can be replaced piece by piece (`Text.pieces_flatMap`).  A text
that is cut has no separators, or is what was before the first one, this, and what was after it
(`Text.cut_cases`).
-/

set_option autoImplicit false

namespace InjectingProxy

theorem forall_of_all {α : Type} {p : α → Prop} [DecidablePred p] {l : List α}
    (h : l.all (fun x ↦ decide (p x)) = true) : ∀ x ∈ l, p x :=
  fun x hx ↦ of_decide_eq_true (List.all_eq_true.1 h x hx)

/-- What holds of all ASCII characters is found by looking at their numbers. -/
theorem forall_ascii {p : Char → Prop} (h : ∀ n < 0x80, p (Char.ofNat n)) {c : Char}
    (hc : c.toNat < 0x80) : p c := by
  have hsame := h c.toNat hc
  rw [Char.ofNat_toNat] at hsame
  exact hsame

namespace Text

/-- A character of joined parts is in the separator or in a part. -/
theorem mem_join {separator : Text} {c : Char} : ∀ {parts : List Text},
    c ∈ join separator parts → c ∈ separator ∨ ∃ part ∈ parts, c ∈ part
  | [], h => nomatch h
  | [part], h => by
    rw [join, List.intercalate_singleton] at h
    exact .inr ⟨part, List.mem_singleton_self part, h⟩
  | part :: next :: rest, h => by
    rw [join, List.intercalate_cons_cons, ← join, List.mem_append, List.mem_append] at h
    rcases h with (h | h) | h
    · exact .inr ⟨part, List.mem_cons_self, h⟩
    · exact .inl h
    · rcases mem_join h with h | ⟨part', hpart, h⟩
      · exact .inl h
      · exact .inr ⟨part', List.mem_cons_of_mem part hpart, h⟩

theorem join_ne_nil {separator part : Text} (h : part ≠ []) (rest : List Text) :
    join separator (part :: rest) ≠ [] := by
  cases rest with
  | nil => rwa [join, List.intercalate_singleton]
  | cons next rest =>
    rw [join, List.intercalate_cons_cons]
    exact List.append_ne_nil_of_left_ne_nil (List.append_ne_nil_of_left_ne_nil h _) _

/-- A character of a text separates its pieces or is in one of them. -/
theorem mem_pieces {s c : Char} {t : Text} (h : c ∈ t) :
    c = s ∨ ∃ piece ∈ pieces (· == s) t, c ∈ piece := by
  rw [← join_pieces s t] at h
  exact (mem_join h).imp_left List.mem_singleton.1

/-! ## Pieces -/

section Pieces

variable {p : Char → Bool}

/-- A text without separators is one piece. -/
theorem pieces_of_none {t : Text} (h : ∀ c ∈ t, p c = false) : pieces p t = [t] := by
  induction t with
  | nil => rfl
  | cons c t ih =>
    rw [pieces, h c List.mem_cons_self, ih fun d hd ↦ h d (List.mem_cons_of_mem c hd)]
    rfl

/-- A text without separators belongs to the first piece of what follows. -/
theorem pieces_append {t : Text} (h : ∀ c ∈ t, p c = false) {rest first : Text}
    {others : List Text} (hrest : pieces p rest = first :: others) :
    pieces p (t ++ rest) = (t ++ first) :: others := by
  induction t with
  | nil => exact hrest
  | cons c t ih =>
    rw [List.cons_append, pieces, h c List.mem_cons_self,
      ih fun d hd ↦ h d (List.mem_cons_of_mem c hd)]
    rfl

theorem pieces_ne_nil (t : Text) : pieces p t ≠ [] := by
  cases t with
  | nil => exact List.cons_ne_nil _ _
  | cons c t =>
    rw [pieces]
    cases p c with
    | true => exact List.cons_ne_nil _ _
    | false => cases pieces p t <;> exact List.cons_ne_nil _ _

/-- There is one piece more than separators. -/
theorem length_pieces (s : Char) (t : Text) : (pieces (· == s) t).length = t.count s + 1 := by
  induction t with
  | nil => rfl
  | cons c t ih =>
    obtain ⟨first, others, hpieces⟩ := List.exists_cons_of_ne_nil (pieces_ne_nil (p := (· == s)) t)
    rw [hpieces] at ih
    rw [pieces, hpieces]
    by_cases hc : c = s
    · rw [if_pos (beq_iff_eq.2 hc), hc, List.count_cons_self, ← ih, List.length_cons]
    · rw [if_neg (mt beq_iff_eq.1 hc), List.count_cons_of_ne hc, ← ih, List.length_cons,
        List.length_cons]

/-- There are no separators in pieces. -/
theorem not_separator_of_mem_pieces {piece : Text} : ∀ {t : Text}, piece ∈ pieces p t →
    ∀ c ∈ piece, p c = false
  | [], h => by
    rw [List.mem_singleton.1 h]
    exact nofun
  | d :: t, h => by
    obtain ⟨first, others, hpieces⟩ := List.exists_cons_of_ne_nil (pieces_ne_nil (p := p) t)
    have ih {piece : Text} (hmem : piece ∈ first :: others) : ∀ c ∈ piece, p c = false :=
      not_separator_of_mem_pieces (hpieces ▸ hmem)
    rw [pieces, hpieces] at h
    split at h
    · rcases List.mem_cons.1 h with rfl | h
      · exact nofun
      · exact ih h
    · rename_i hd
      rcases List.mem_cons.1 h with rfl | h
      · exact List.forall_mem_cons.2 ⟨Bool.eq_false_iff.2 hd, ih List.mem_cons_self⟩
      · exact ih (List.mem_cons_of_mem first h)

theorem mem_of_mem_pieces {piece : Text} : ∀ {t : Text}, piece ∈ pieces p t → ∀ c ∈ piece, c ∈ t
  | [], h => by
    rw [List.mem_singleton.1 h]
    exact nofun
  | d :: t, h => by
    obtain ⟨first, others, hpieces⟩ := List.exists_cons_of_ne_nil (pieces_ne_nil (p := p) t)
    have ih {piece : Text} (hmem : piece ∈ first :: others) : ∀ c ∈ piece, c ∈ t :=
      mem_of_mem_pieces (hpieces ▸ hmem)
    intro c hc
    rw [pieces, hpieces] at h
    split at h
    · rcases List.mem_cons.1 h with rfl | h
      · cases hc
      · exact List.mem_cons_of_mem d (ih h c hc)
    · rcases List.mem_cons.1 h with rfl | h
      · exact List.mem_cons.2 ((List.mem_cons.1 hc).imp_right (ih List.mem_cons_self c))
      · exact List.mem_cons_of_mem d (ih (List.mem_cons_of_mem first h) c hc)

/-- Joined parts without separators are the pieces of what they are joined to. -/
theorem pieces_join {s : Char} : ∀ {parts : List Text}, parts ≠ [] →
    (∀ part ∈ parts, ∀ c ∈ part, (c == s) = false) → pieces (· == s) (join [s] parts) = parts
  | [part], _, h => by
    rw [join, List.intercalate_singleton, pieces_of_none (h part List.mem_cons_self)]
  | part :: next :: rest, _, h => by
    have ih := pieces_join (List.cons_ne_nil next rest) fun part' hmem ↦
      h part' (List.mem_cons_of_mem part hmem)
    have hrest : pieces (· == s) (s :: join [s] (next :: rest)) = [] :: next :: rest := by
      rw [pieces, if_pos (beq_self_eq_true s), ih]
    rw [join, List.intercalate_cons_cons, ← join, List.append_assoc, List.singleton_append,
      pieces_append (h part List.mem_cons_self) hrest, List.append_nil]

/-- If separators are kept and no others appear, then each piece is replaced on its own. -/
theorem pieces_flatMap {f : Char → Text} (hkept : ∀ c, p c = true → f c = [c])
    (hfew : ∀ c, p c = false → ∀ d ∈ f c, p d = false) (t : Text) :
    pieces p (t.flatMap f) = (pieces p t).map (·.flatMap f) := by
  induction t with
  | nil => rfl
  | cons c t ih =>
    obtain ⟨first, others, hpieces⟩ := List.exists_cons_of_ne_nil (pieces_ne_nil (p := p) t)
    rw [hpieces] at ih
    cases hc : p c with
    | true =>
      rw [List.flatMap_cons, hkept c hc, List.singleton_append, pieces, pieces, hc, ih, hpieces]
      rfl
    | false =>
      rw [List.flatMap_cons, pieces_append (hfew c hc) ih, pieces, hc, hpieces]
      rfl

end Pieces

/-! ## Cutting -/

variable {p : Char → Bool} {t : Text}

/-- A text without separators is not cut. -/
theorem cut_of_none (h : ∀ c ∈ t, p c = false) : cut p t = (t, none) := by
  induction t with
  | nil => rfl
  | cons c t ih =>
    rw [cut, h c List.mem_cons_self, ih fun d hd ↦ h d (List.mem_cons_of_mem c hd)]
    rfl

/-- A text is cut at its first separator. -/
theorem cut_append (h : ∀ c ∈ t, p c = false) {s : Char} (hs : p s = true) (rest : Text) :
    cut p (t ++ s :: rest) = (t, some rest) := by
  induction t with
  | nil => rw [List.nil_append, cut, if_pos hs]
  | cons c t ih =>
    rw [List.cons_append, cut, h c List.mem_cons_self,
      ih fun d hd ↦ h d (List.mem_cons_of_mem c hd)]
    rfl

/-- A text has no separators and is not cut, or it is what was before the first one, this, and what
was after it. -/
theorem cut_cases (p : Char → Bool) (t : Text) :
    (cut p t = (t, none) ∧ ∀ c ∈ t, p c = false) ∨
      ∃ before s after, cut p t = (before, some after) ∧ t = before ++ s :: after ∧ p s = true ∧
        ∀ c ∈ before, p c = false := by
  induction t with
  | nil => exact .inl ⟨rfl, nofun⟩
  | cons c t ih =>
    cases hc : p c with
    | true => exact .inr ⟨[], c, t, by rw [cut, if_pos hc], rfl, hc, nofun⟩
    | false =>
      rcases ih with ⟨hcut, hnone⟩ | ⟨before, s, after, hcut, rfl, hs, hbefore⟩
      · exact .inl ⟨by rw [cut, hc, hcut]; rfl, List.forall_mem_cons.2 ⟨hc, hnone⟩⟩
      · exact .inr ⟨c :: before, s, after, by rw [cut, hc, hcut]; rfl, rfl, hs,
          List.forall_mem_cons.2 ⟨hc, hbefore⟩⟩

theorem mem_of_mem_cut {c : Char} (h : c ∈ (cut p t).1) : c ∈ t := by
  rcases cut_cases p t with ⟨hcut, -⟩ | ⟨before, s, after, hcut, rfl, -⟩
  · rwa [hcut] at h
  · rw [hcut] at h
    exact List.mem_append_left _ h

/-- What follows a separator is cut off, if there is one. -/
theorem cut_append_elim (h : ∀ c ∈ t, p c = false) {s : Char} (hs : p s = true)
    (after : Option Text) : cut p (t ++ after.elim [] (s :: ·)) = (t, after) := by
  cases after with
  | none => rw [Option.elim_none, List.append_nil, cut_of_none h]
  | some rest => exact cut_append h hs rest

/-! ## The ends of a text -/

/-- The characters before the first one that does not satisfy `p`. -/
theorem takeWhile_append (h : ∀ c ∈ t, p c = true) {rest : Text}
    (hrest : ∀ c ∈ rest.head?, p c = false) : (t ++ rest).takeWhile p = t := by
  rw [List.takeWhile_append_of_pos h]
  cases rest with
  | nil => rw [List.takeWhile_nil, List.append_nil]
  | cons c rest =>
    rw [List.takeWhile_cons_of_neg (by rw [hrest c rfl]; exact nofun), List.append_nil]

theorem dropWhile_append (h : ∀ c ∈ t, p c = true) {rest : Text}
    (hrest : ∀ c ∈ rest.head?, p c = false) : (t ++ rest).dropWhile p = rest := by
  rw [List.dropWhile_append_of_pos h]
  cases rest with
  | nil => rfl
  | cons c rest => rw [List.dropWhile_cons_of_neg (by rw [hrest c rfl]; exact nofun)]

theorem eq_append_of_dropStart? {start rest : Text} (h : dropStart? start t = some rest) :
    t = start ++ rest := by
  rw [dropStart?] at h
  split at h
  · rename_i hprefix
    obtain ⟨more, rfl⟩ := List.isPrefixOf_iff_prefix.1 hprefix
    cases h
    rw [List.drop_left]
  · cases h

theorem trimRight_append {s : Text} (h : ∀ c ∈ s, p c = true) (t : Text) :
    trimRight p (t ++ s) = trimRight p t := by
  rw [trimRight, List.reverse_append, List.dropWhile_append_of_pos fun c hc ↦
    h c (List.mem_reverse.1 hc), trimRight]

theorem trimRight_concat {c : Char} (h : p c = false) (t : Text) :
    trimRight p (t ++ [c]) = t ++ [c] := by
  rw [trimRight, List.reverse_append, List.reverse_singleton, List.singleton_append,
    List.dropWhile_cons_of_neg (by rw [h]; exact Bool.false_ne_true), List.reverse_cons,
    List.reverse_reverse]

/-- What is taken away stands at the end. -/
theorem exists_append_trimRight (p : Char → Bool) (t : Text) :
    ∃ s, t = trimRight p t ++ s ∧ ∀ c ∈ s, p c = true := by
  refine ⟨(t.reverse.takeWhile p).reverse, ?_, fun c hc ↦ ?_⟩
  · rw [trimRight, ← List.reverse_append, List.takeWhile_append_dropWhile, List.reverse_reverse]
  · exact List.all_eq_true.1 List.all_takeWhile c (List.mem_reverse.1 hc)

end Text
end InjectingProxy
