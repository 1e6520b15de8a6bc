import Mathlib.Data.List.Basic
import InjectingProxy.Proofs.Check
import InjectingProxy.Proofs.Url.Path
import InjectingProxy.Url.Idna.Name

/-!
# The characters of ASCII forms

The ASCII form of a host name consists of letters, digits, hyphens and points, so nothing in it is
ever escaped (`Idna.isUnreserved_of_encode`).  Its labels are those that were ASCII before, of which
the rules for labels leave no others, and those that begin with `xn--`.  The latter hold the ASCII
characters of what they stand for, and numbers, whose digits are letters and figures
(`Punycode.mem_encode`).

Neither the name that is shown for a host nor its ASCII form is empty (`Idna.ne_nil_of_decode`,
`Idna.ne_nil_of_encode`), since the rules leave no empty label.
-/

set_option autoImplicit false

namespace InjectingProxy

open Percent (isUnreserved)

namespace Punycode

/-! ## Writing numbers -/

theorem isUnreserved_digitChar : ∀ d < 36, isUnreserved (digitChar d) = true := by
  decide

theorem threshold_le (j bias : Nat) : threshold j bias ≤ 26 := Nat.min_le_left ..

theorem isUnreserved_of_mem_number {c : Char} : ∀ {fuel n j bias : Nat},
    c ∈ number fuel n j bias → isUnreserved c = true
  | 0, _, _, _, h => nomatch h
  | fuel + 1, n, j, bias, h => by
    have hle := threshold_le j bias
    rw [number] at h
    split at h
    · rw [List.mem_singleton] at h
      exact h ▸ isUnreserved_digitChar _ (by omega)
    · have hmod := Nat.mod_lt (n - threshold j bias) (show 0 < 36 - threshold j bias by omega)
      rcases List.mem_cons.1 h with rfl | h
      · exact isUnreserved_digitChar _ (by omega)
      · exact isUnreserved_of_mem_number h

theorem isUnreserved_of_mem_writePoint {c : Char} {point : Nat} : ∀ {t : Text} {p : Progress},
    c ∈ (writePoint point p t).1 → isUnreserved c = true
  | [], _, h => nomatch h
  | d :: t, p, h => by
    rw [writePoint] at h
    split at h
    · exact isUnreserved_of_mem_writePoint h
    split at h
    · rcases List.mem_append.1 h with h | h
      · exact isUnreserved_of_mem_number h
      · exact isUnreserved_of_mem_writePoint h
    · exact isUnreserved_of_mem_writePoint h

theorem isUnreserved_of_mem_writeFrom {c : Char} {t : Text} : ∀ {fuel least : Nat} {p : Progress},
    c ∈ writeFrom t fuel least p → isUnreserved c = true
  | 0, _, _, h => nomatch h
  | fuel + 1, least, p, h => by
    rw [writeFrom] at h
    split at h
    · cases h
    · rcases List.mem_append.1 h with h | h
      · exact isUnreserved_of_mem_writePoint h
      · exact isUnreserved_of_mem_writeFrom h

/-- **The ASCII form of a label has its ASCII characters**, and letters, digits and hyphens. -/
theorem mem_encode {c : Char} {t : Text} (h : c ∈ encode t) :
    (c ∈ t ∧ c.toNat < 0x80) ∨ isUnreserved c = true := by
  have hplain (hc : c ∈ t.filter fun c => c.toNat < 128) : c ∈ t ∧ c.toNat < 0x80 := by
    simpa using hc
  rw [encode] at h
  split at h
  · exact .inr (isUnreserved_of_mem_writeFrom h)
  · rcases List.mem_append.1 h with h | h
    · exact .inl (hplain h)
    · rcases List.mem_cons.1 h with rfl | h
      · exact .inr (by decide)
      · exact .inr (isUnreserved_of_mem_writeFrom h)

/-! ## Reading numbers -/

theorem isUnreserved_of_digitValue? {c : Char} {d : Nat} (h : digitValue? c = some d) :
    isUnreserved c = true := by
  rw [digitValue?] at h
  split at h
  · rename_i hdigit
    exact Percent.isUnreserved_of_isDigit hdigit
  have halpha : c.isAlpha = (c.isUpper || c.isLower) := rfl
  rw [isUnreserved, Char.isAlphanum, halpha]
  split at h
  · rename_i hlower
    have hlower : c.isLower = true := hlower
    rw [hlower, Bool.or_true, Bool.true_or, Bool.true_or]
  split at h
  · rename_i hupper
    obtain ⟨hleast, hgreatest⟩ := Bool.and_eq_true_iff.1 hupper
    have hupper : c.isUpper = true :=
      decide_eq_true ⟨of_decide_eq_true hleast, of_decide_eq_true hgreatest⟩
    rw [hupper, Bool.true_or, Bool.true_or, Bool.true_or]
  · cases h

theorem isUnreserved_of_mapM : ∀ {t : Text} {digits : List Nat},
    t.mapM digitValue? = some digits → ∀ c ∈ t, isUnreserved c = true
  | [], _, _ => nofun
  | c :: t, digits, h => by
    rw [List.mapM_cons] at h
    obtain ⟨d, hd, h⟩ := Option.bind_eq_some_iff.1 h
    obtain ⟨rest, hrest, -⟩ := Option.bind_eq_some_iff.1 h
    exact List.forall_mem_cons.2 ⟨isUnreserved_of_digitValue? hd, isUnreserved_of_mapM hrest⟩

/-- Code points are added only. -/
theorem mem_place {x : Nat} : ∀ {fuel : Nat} {digits : List Nat} {position point bias : Nat}
    {first : Bool} {t points : List Nat},
    place fuel digits position point bias first t = some points → x ∈ t → x ∈ points
  | 0, _, _, _, _, _, _, _, h, hx => Option.some.inj h ▸ hx
  | fuel + 1, digits, position, point, bias, first, t, points, h, hx => by
    rw [place] at h
    split at h
    · exact Option.some.inj h ▸ hx
    split at h
    · cases h
    · rename_i delta rest hread
      dsimp only at h
      split at h
      · refine mem_place h ?_
        rw [← List.take_append_drop ((position + delta) % (t.length + 1)) t, List.mem_append] at hx
        exact List.mem_append.2 (hx.imp_right (List.mem_cons_of_mem _))
      · cases h

/-- What is read as a label has letters, digits and hyphens, and characters of the label. -/
theorem mem_of_decode? {t : Text} {points : List Nat} (h : decode? t = some points) :
    ∀ c ∈ t, (c.toNat ∈ points ∧ c.toNat < 0x80) ∨ isUnreserved c = true := by
  have hread {plain numbers : Text} {digits : List Nat}
      (hdigits : numbers.mapM digitValue? = some digits)
      (hr : (if Text.isAscii plain then
        place digits.length digits 0 128 72 true (plain.map Char.toNat) else none) = some points) :
      (∀ c ∈ plain, c.toNat ∈ points ∧ c.toNat < 0x80) ∧ ∀ c ∈ numbers, isUnreserved c = true := by
    split at hr
    · rename_i hascii
      refine ⟨fun c hc ↦ ⟨mem_place hr (List.mem_map_of_mem hc), ?_⟩, isUnreserved_of_mapM hdigits⟩
      exact of_decide_eq_true (List.all_eq_true.1 hascii c hc)
    · cases hr
  intro c hc
  rw [decode?] at h
  rcases Text.cut_cases (· == '-') t.reverse with ⟨hcut, -⟩ | ⟨tail, s, before, hcut, ht, hs, -⟩
  · rw [hcut] at h
    dsimp only at h
    split at h
    · rename_i digits hdigits
      exact .inr ((hread hdigits h).2 c hc)
    · cases h
  · rw [hcut] at h
    dsimp only at h
    split at h
    swap
    · cases h
    rename_i digits hdigits
    obtain ⟨hplain, hnumbers⟩ := hread hdigits h
    rw [← List.mem_reverse, ht, List.mem_append, List.mem_cons] at hc
    rcases hc with hc | rfl | hc
    · exact .inr (hnumbers c (List.mem_reverse.2 hc))
    · rw [beq_iff_eq.1 hs]
      exact .inr (by decide)
    · exact .inl (hplain c (List.mem_reverse.2 hc))

end Punycode

namespace Idna

/-! ## Labels -/

/-- The ASCII characters that may stand in a label. -/
theorem isUnreserved_of_isValid {c : Char} (h : isValid c.toNat = true) (hc : c.toNat < 0x80) :
    isUnreserved c = true :=
  forall_ascii (p := fun c ↦ isValid c.toNat = true → isUnreserved c = true) (by decide) hc h

/-- Code points that pass the rules are valid if they are ASCII. -/
theorem isValid_of_checkPoints {label : List Nat} : ∀ {rest before : List Nat},
    checkPoints label before rest = .ok () → ∀ c ∈ rest, c < 0x80 → isValid c = true
  | [], _, _ => nofun
  | c :: rest, before, h => by
    rw [checkPoints] at h
    refine List.forall_mem_cons.2 ?_
    split at h
    · rename_i hvalid
      exact ⟨fun _ ↦ hvalid, isValid_of_checkPoints h⟩
    split at h
    · rename_i hjoiner
      have hc : ¬ c < 0x80 := by
        simp only [Bool.or_eq_true, decide_eq_true_eq] at hjoiner
        omega
      split at h
      · exact ⟨fun hlt ↦ absurd hlt hc, isValid_of_checkPoints h⟩
      · cases h
      · cases h
    split at h
    · rename_i hcontext
      have hc : ¬ c < 0x80 := by
        simp only [isContextual, Bool.or_eq_true, Bool.and_eq_true, decide_eq_true_eq] at hcontext
        omega
      split at h
      · exact ⟨fun hlt ↦ absurd hlt hc, isValid_of_checkPoints h⟩
      · cases h
    · cases h

theorem checkPoints_of_checkLabel {label : List Nat} (h : checkLabel label = .ok ()) :
    checkPoints label [] label = .ok () := by
  simp only [checkLabel, throw_unless_eq_ok] at h
  obtain ⟨-, -, -, -, -, -, h⟩ := h
  obtain ⟨⟨⟩, hpoints, -⟩ := bind_eq_ok.1 h
  exact hpoints

/-- **A label that passes the rules** has no ASCII characters but letters, digits and hyphens. -/
theorem isUnreserved_of_checkLabel {points : List Nat} (h : checkLabel points = .ok ()) {c : Char}
    (hmem : c.toNat ∈ points) (hc : c.toNat < 0x80) : isUnreserved c = true :=
  isUnreserved_of_isValid (isValid_of_checkPoints (checkPoints_of_checkLabel h) _ hmem hc) hc

theorem isUnreserved_of_toLower {c : Char} (h : isUnreserved c.toLower = true)
    (hc : c.toNat < 0x80) : isUnreserved c = true :=
  forall_ascii (p := fun c ↦ isUnreserved c.toLower = true → isUnreserved c = true) (by decide) hc h

theorem toNat_toLower {c : Char} (hc : c.toNat < 0x80) : c.toLower.toNat < 0x80 :=
  forall_ascii (p := fun c ↦ c.toLower.toNat < 0x80) (by decide) hc

/-- So has an ASCII label that is its own form. -/
theorem isUnreserved_of_toUnicode {label meant : Text} (h : toUnicode label = .ok meant)
    (hascii : ∀ c ∈ label, c.toNat < 0x80) : ∀ c ∈ label, isUnreserved c = true := by
  suffices hlower : ∀ c ∈ Text.lowerAscii label, isUnreserved c = true by
    exact fun c hc ↦ isUnreserved_of_toLower (hlower _ (List.mem_map_of_mem hc)) (hascii c hc)
  have hsmall : ∀ c ∈ Text.lowerAscii label, c.toNat < 0x80 := by
    intro c hc
    obtain ⟨d, hd, rfl⟩ := List.mem_map.1 hc
    exact toNat_toLower (hascii d hd)
  rw [toUnicode] at h
  dsimp only at h
  generalize Text.lowerAscii label = lower at h hsmall
  split at h
  · obtain ⟨⟨⟩, hcheck, -⟩ := bind_eq_ok.1 h
    exact fun c hc ↦ isUnreserved_of_checkLabel hcheck (List.mem_map_of_mem hc) (hsmall c hc)
  · rename_i body hbody
    simp only [throw_unless_eq_ok] at h
    obtain ⟨-, -, h⟩ := h
    split at h
    · cases h
    · rename_i points hpoints
      obtain ⟨⟨⟩, hcheck, -⟩ := bind_eq_ok.1 h
      rw [Text.eq_append_of_dropStart? hbody]
      refine List.forall_mem_append.2 ⟨forall_of_all (by decide), fun c hc ↦ ?_⟩
      rcases Punycode.mem_of_decode? hpoints c hc with ⟨hmem, hc⟩ | hc
      · exact isUnreserved_of_checkLabel hcheck hmem hc
      · exact hc

theorem isUnreserved_of_toAscii {label ascii : Text} (h : toAscii label = .ok ascii) :
    ∀ c ∈ ascii, isUnreserved c = true := by
  simp only [toAscii] at h
  split at h
  · rename_i hascii
    obtain ⟨⟨⟩, hform, h⟩ := bind_eq_ok.1 h
    obtain ⟨_, ⟨⟩, h⟩ := bind_eq_ok.1 h
    obtain ⟨-, h⟩ := throw_unless_eq_ok.1 h
    cases h
    cases hmeant : toUnicode label with
    | error f => rw [hmeant] at hform; cases hform
    | ok meant =>
      exact isUnreserved_of_toUnicode hmeant fun c hc ↦
        of_decide_eq_true (List.all_eq_true.1 hascii c hc)
  · obtain ⟨⟨⟩, hcheck, h⟩ := bind_eq_ok.1 h
    obtain ⟨_, ⟨⟩, h⟩ := bind_eq_ok.1 h
    obtain ⟨-, h⟩ := throw_unless_eq_ok.1 h
    cases h
    refine List.forall_mem_append.2 ⟨forall_of_all (by decide), fun c hc ↦ ?_⟩
    rcases Punycode.mem_encode hc with ⟨hmem, hc⟩ | hc
    · exact isUnreserved_of_checkLabel hcheck (List.mem_map_of_mem hmem) hc
    · exact hc

/-- **The ASCII form of a name** consists of letters, digits, hyphens and points. -/
theorem isUnreserved_of_encode {name ascii : Text} (h : encode name = .ok ascii) :
    ∀ c ∈ ascii, isUnreserved c = true := by
  rw [encode] at h
  obtain ⟨⟨parts, dotAtEnd⟩, -, h⟩ := bind_eq_ok.1 h
  obtain ⟨labels, hlabels, h⟩ := bind_eq_ok.1 h
  simp only [throw_unless_eq_ok] at h
  obtain ⟨-, h⟩ := h
  cases h
  intro c hc
  rcases Text.mem_join hc with hc | ⟨label, hlabel, hc⟩
  · rw [List.mem_singleton.1 hc]
    decide
  · have hmem : label ∈ labels ∨ label = [] := by
      split at hlabel
      · simpa using hlabel
      · exact .inl hlabel
    rcases hmem with hmem | rfl
    · obtain ⟨part, -, hpart⟩ := mem_of_mapM_eq_ok hlabels label hmem
      exact isUnreserved_of_toAscii hpart c hc
    · cases hc

/-! ## Names that are shown -/

theorem ne_nil_of_checkLabel {points : List Nat} (h : checkLabel points = .ok ()) :
    points ≠ [] := by
  simp only [checkLabel, throw_unless_eq_ok] at h
  exact fun hnil ↦ h.1 (List.isEmpty_iff.2 hnil)

theorem ne_nil_of_toUnicode {label meant : Text} (h : toUnicode label = .ok meant) :
    meant ≠ [] := by
  rw [toUnicode] at h
  dsimp only at h
  split at h
  · obtain ⟨⟨⟩, hcheck, h⟩ := bind_eq_ok.1 h
    cases h
    exact fun hnil ↦ ne_nil_of_checkLabel hcheck (by rw [hnil]; rfl)
  · simp only [throw_unless_eq_ok] at h
    obtain ⟨-, -, h⟩ := h
    split at h
    · cases h
    · obtain ⟨⟨⟩, hcheck, h⟩ := bind_eq_ok.1 h
      obtain ⟨-, h⟩ := throw_unless_eq_ok.1 h
      cases h
      exact fun hnil ↦ ne_nil_of_checkLabel hcheck (List.map_eq_nil_iff.1 hnil)

/-- A name has at least one label. -/
theorem ne_nil_of_labels {name : Text} {parts : List Text} {dotAtEnd : Bool}
    (h : labels name = .ok (parts, dotAtEnd)) : parts ≠ [] := by
  rw [labels] at h
  split at h
  · cases h
  split at h
  · cases h
  rename_i hone
  split at h
  · rename_i hlast
    cases h
    intro hnil
    refine hone ?_
    rw [← List.dropLast_append_getLast? [] (beq_iff_eq.1 hlast), hnil]
    rfl
  · cases h
    exact Text.pieces_ne_nil name

/-- A name is not empty if each of its labels has a form that is not empty. -/
theorem joinLabels_ne_nil {form : Text → Except Fault Text} {parts forms : List Text}
    (hne : parts ≠ []) (hforms : parts.mapM form = .ok forms)
    (hform : ∀ label meant, form label = .ok meant → meant ≠ []) (dotAtEnd : Bool) :
    joinLabels forms dotAtEnd ≠ [] := by
  obtain ⟨label, others, rfl⟩ := List.exists_cons_of_ne_nil hne
  rw [List.mapM_cons] at hforms
  obtain ⟨first, hfirst, hforms⟩ := bind_eq_ok.1 hforms
  obtain ⟨more, -, hforms⟩ := bind_eq_ok.1 hforms
  cases hforms
  rw [joinLabels]
  cases dotAtEnd with
  | true => exact Text.join_ne_nil (hform _ _ hfirst) (more ++ [[]])
  | false => exact Text.join_ne_nil (hform _ _ hfirst) more

/-- **A name that is shown is not empty.** -/
theorem ne_nil_of_decode {name shown : Text} (h : decode name = .ok shown) : shown ≠ [] := by
  rw [decode] at h
  obtain ⟨⟨parts, dotAtEnd⟩, hparts, h⟩ := bind_eq_ok.1 h
  obtain ⟨meant, hmeant, h⟩ := bind_eq_ok.1 h
  cases h
  exact joinLabels_ne_nil (ne_nil_of_labels hparts) hmeant (fun _ _ ↦ ne_nil_of_toUnicode) dotAtEnd

theorem ne_nil_of_toAscii {label ascii : Text} (h : toAscii label = .ok ascii) : ascii ≠ [] := by
  simp only [toAscii] at h
  split at h
  · obtain ⟨⟨⟩, hform, h⟩ := bind_eq_ok.1 h
    obtain ⟨_, ⟨⟩, h⟩ := bind_eq_ok.1 h
    obtain ⟨-, h⟩ := throw_unless_eq_ok.1 h
    cases h
    rintro rfl
    cases hform
  · obtain ⟨⟨⟩, -, h⟩ := bind_eq_ok.1 h
    obtain ⟨_, ⟨⟩, h⟩ := bind_eq_ok.1 h
    obtain ⟨-, h⟩ := throw_unless_eq_ok.1 h
    cases h
    exact List.append_ne_nil_of_left_ne_nil (by decide) _

/-- Nor is its ASCII form. -/
theorem ne_nil_of_encode {name ascii : Text} (h : encode name = .ok ascii) : ascii ≠ [] := by
  rw [encode] at h
  obtain ⟨⟨parts, dotAtEnd⟩, hparts, h⟩ := bind_eq_ok.1 h
  obtain ⟨labels, hlabels, h⟩ := bind_eq_ok.1 h
  simp only [throw_unless_eq_ok] at h
  obtain ⟨-, h⟩ := h
  cases h
  exact joinLabels_ne_nil (ne_nil_of_labels hparts) hlabels (fun _ _ ↦ ne_nil_of_toAscii) dotAtEnd

end Idna
end InjectingProxy
