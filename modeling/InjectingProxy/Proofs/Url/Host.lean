import Mathlib.Data.List.Basic
import InjectingProxy.Proofs.Url.Idna
import InjectingProxy.Url.Host

/-!
# The forms in which hosts are kept

An address of four numbers has digits and points (`Host.isIpv4_chars`), and one of eight words has
hexadecimal digits, points and colons up to its zone, at least one colon among them
(`Host.isIpv6_chars`).  Any other host is kept in safe characters (`Host.normalise_cases`).

A host that is kept can be read again.  An address of eight words comes out as it is
(`Host.normalise_bracketed`), and anything else in small letters, unless it is meant as an address
of four numbers and is none (`Host.normalise_of_safe`).  Such hosts are kept, since characters that
stand for a point become one.
-/

set_option autoImplicit false

namespace InjectingProxy
namespace Host

/-- Digits and points. -/
theorem isIpv4_chars {t : Text} (h : isIpv4 t = true) : ∀ c ∈ t, c = '.' ∨ c.isDigit = true := by
  intro c hc
  simp only [isIpv4, Bool.and_eq_true, List.all_eq_true, isOctet] at h
  rcases Text.mem_pieces (s := '.') hc with rfl | ⟨piece, hpiece, hc⟩
  · exact .inl rfl
  · exact .inr ((h.2 piece hpiece).1.1.2 c hc)

/-- A word is empty at a gap only. -/
theorem mem_of_areWords {parts : List Text} (h : areWords parts = true) :
    ∀ part ∈ parts, part = [] ∨ isHextet part = true := by
  intro part hpart
  rw [areWords] at h
  split at h
  · cases h
  split at h
  · exact .inr (List.all_eq_true.1 (Bool.and_eq_true_iff.1 h).2 part hpart)
  rename_i i hi
  have hside (side : List Text)
      (hall : (if side == [[]] then [] else side).all isHextet = true) (hmem : part ∈ side) :
      part = [] ∨ isHextet part = true := by
    split at hall
    · rename_i hgap
      rw [beq_iff_eq.1 hgap] at hmem
      exact .inl (List.mem_singleton.1 hmem)
    · exact .inr (List.all_eq_true.1 hall part hmem)
  obtain ⟨⟨-, hhigh⟩, hlow⟩ : (_ ∧ _) ∧ _ := by simpa only [Bool.and_eq_true] using h
  -- the words are those before the gap, the gap, and those after it
  rw [← List.take_append_drop (i + 1) parts, List.mem_append] at hpart
  rcases hpart with hpart | hpart
  · exact hside _ hhigh hpart
  · obtain ⟨hlt, hempty, -⟩ := List.findIdx?_eq_some_iff_getElem.1 hi
    simp only [List.length_dropLast, List.length_drop] at hlt
    have hi' : i + 1 < parts.length := by omega
    rw [List.drop_eq_getElem_cons hi', List.mem_cons] at hpart
    rcases hpart with rfl | hpart
    · simp only [List.getElem_dropLast, List.getElem_drop, List.isEmpty_iff] at hempty
      exact .inl (by rw [← hempty]; congr 1; omega)
    · exact hside _ hlow hpart

theorem hexValue?_of_isDigit {c : Char} (h : c.isDigit = true) : (hexValue? c).isSome = true := by
  have hrange : ('0' ≤ c && c ≤ '9') = true := h
  rw [hexValue?, if_pos hrange]
  rfl

theorem resemblesIpv4_chars {t : Text} (h : resemblesIpv4 t = true) :
    ∀ c ∈ t, c = '.' ∨ c.isDigit = true := by
  intro c hc
  simp only [resemblesIpv4, Bool.and_eq_true, List.all_eq_true] at h
  rcases Text.mem_pieces (s := '.') hc with rfl | ⟨piece, hpiece, hc⟩
  · exact .inl rfl
  · exact .inr ((h.2 piece hpiece).2 c hc)

/-- A character that stands before the zone in an address of eight words. -/
def IsAddressChar (c : Char) : Prop := c = ':' ∨ c = '.' ∨ (hexValue? c).isSome = true

theorem isAddressChar_of_isHextet {t : Text} (h : t = [] ∨ isHextet t = true) :
    ∀ c ∈ t, IsAddressChar c := by
  intro c hc
  rcases h with rfl | h
  · cases hc
  · exact .inr (.inr (List.all_eq_true.1 (Bool.and_eq_true_iff.1 h).2 c hc))

/-- The words of an address are found between colons. -/
theorem words?_chars {t : Text} {words : List Text} (h : words? t = some words)
    (hwords : areWords words = true) : ':' ∈ t ∧ ∀ c ∈ t, IsAddressChar c := by
  rw [words?] at h
  split at h
  · cases h
  rename_i hlength
  refine ⟨?_, fun c hc ↦ ?_⟩
  · -- a text without colons is one piece
    refine Classical.byContradiction fun hcolon ↦ hlength ?_
    have hnone : ∀ c ∈ t, (c == ':') = false := by
      rintro c hc
      exact beq_false_of_ne fun he ↦ hcolon (he ▸ hc)
    rw [Text.pieces_of_none hnone, List.length_singleton]
    decide
  · rcases Text.mem_pieces (s := ':') hc with rfl | ⟨piece, hpiece, hc⟩
    · exact .inl rfl
    generalize Text.pieces (· == ':') t = parts at h hpiece
    split at h
    · rename_i last hlast
      have hparts := List.dropLast_append_getLast? last hlast
      split at h
      · split at h
        · rename_i hipv4
          cases h
          rw [← hparts, List.mem_append, List.mem_singleton] at hpiece
          rcases hpiece with hpiece | rfl
          · exact isAddressChar_of_isHextet
              (mem_of_areWords hwords piece (List.mem_append_left _ hpiece)) c hc
          · exact .inr ((isIpv4_chars hipv4 c hc).imp_right hexValue?_of_isDigit)
        · cases h
      · cases h
        exact isAddressChar_of_isHextet (mem_of_areWords hwords piece hpiece) c hc
    · cases h

/-- **An address of eight words** has at least one colon, and hexadecimal digits, points and colons
up to its zone. -/
theorem isIpv6_chars {t : Text} (h : isIpv6 t = true) :
    '/' ∉ t ∧ ':' ∈ (Text.cut (· == '%') t).1 ∧
      ∀ c ∈ (Text.cut (· == '%') t).1, IsAddressChar c := by
  rw [isIpv6] at h
  split at h
  · cases h
  rename_i hslash
  obtain ⟨-, hwords⟩ := Bool.and_eq_true_iff.1 h
  refine ⟨fun hmem ↦ hslash (List.contains_iff_mem.2 hmem), ?_⟩
  cases hw : words? (Text.cut (· == '%') t).1 with
  | none =>
    rw [hw] at hwords
    cases hwords
  | some words =>
    rw [hw] at hwords
    exact words?_chars hw hwords

/-! ## Safe characters -/

open Percent (hostSafe)

theorem hostSafe_of_isUnreserved {c : Char} (h : Percent.isUnreserved c = true) :
    hostSafe c = true := by
  rw [hostSafe, h, Bool.true_or]

theorem hostSafe_of_digit {c : Char} (h : c = '.' ∨ c.isDigit = true) : hostSafe c = true := by
  rcases h with rfl | h
  · decide
  · exact hostSafe_of_isUnreserved (Percent.isUnreserved_of_isDigit h)

theorem keepsEscapes_hostSafe : Percent.KeepsEscapes hostSafe :=
  Percent.keepsEscapes_of_ascii (by decide)

theorem ascii_of_hostSafe {c : Char} (h : hostSafe c = true) : c.toNat < 0x80 := by
  rcases Bool.or_eq_true_iff.1 h with h | h
  · exact Nat.lt_of_le_of_lt (Percent.toNat_of_isUnreserved h).2 (by decide)
  · have hall : ∀ d ∈ "!$&'()*+,;=\"`\x7b\x7d%|\\".toList, d.toNat < 0x80 :=
      forall_of_all (by decide)
    exact hall c (List.contains_iff_mem.1 h)

theorem hostSafe_toLower {c : Char} (h : hostSafe c = true) : hostSafe c.toLower = true :=
  forall_ascii (p := fun c ↦ hostSafe c = true → hostSafe c.toLower = true) (by decide)
    (ascii_of_hostSafe h) h

/-! ## Keeping a host -/

/-- **The forms in which hosts are kept**: an address of eight words as it was between brackets, and
safe characters. -/
theorem normalise_cases {host kept : Text} (h : normalise host = .ok kept) :
    (∀ c ∈ kept, hostSafe c = true) ∨ isIpv6 kept = true ∧ ∀ c ∈ kept, c ∈ host := by
  rw [normalise] at h
  split at h
  · cases h
    exact .inl nofun
  split at h
  · rename_i hresembles
    split at h
    · cases h
      exact .inl fun c hc ↦ hostSafe_of_digit (resemblesIpv4_chars hresembles c hc)
    · cases h
  split at h
  · dsimp only at h
    split at h
    · rename_i hipv6
      cases h
      exact .inr ⟨hipv6, fun c hc ↦ List.mem_of_mem_drop (List.dropLast_subset _ hc)⟩
    · cases h
  split at h
  · cases h
    exact .inl (Percent.safe_of_mem_encode keepsEscapes_hostSafe)
  · split at h
    · rename_i name hname
      cases h
      exact .inl fun c hc ↦ hostSafe_of_isUnreserved (Idna.isUnreserved_of_encode hname c hc)
    · cases h

/-! ## Reading a host again -/

theorem lowerAscii_of_digits {t : Text} (h : ∀ c ∈ t, c = '.' ∨ c.isDigit = true) :
    Text.lowerAscii t = t := by
  refine (List.map_congr_left fun c hc ↦ ?_).trans t.map_id
  have hsafe := hostSafe_of_digit (h c hc)
  exact forall_ascii (p := fun c ↦ c = '.' ∨ c.isDigit = true → c.toLower = c) (by decide)
    (ascii_of_hostSafe hsafe) (h c hc)

theorem isBracketed_of_safe {host : Text} (hsafe : ∀ c ∈ host, hostSafe c = true) :
    isBracketed host = false := by
  cases host with
  | nil => rfl
  | cons c rest =>
    have hc : c ≠ '[' := by
      rintro rfl
      exact absurd (hsafe '[' List.mem_cons_self) (by decide)
    simp [isBracketed, hc]

/-- **Safe characters are read again in small letters**, unless they are meant as an address of four
numbers and are none. -/
theorem normalise_of_safe {host : Text} (hne : host ≠ [])
    (hsafe : ∀ c ∈ host, hostSafe c = true) :
    normalise host =
      if resemblesIpv4 host && !isIpv4 host then .error (.ipv4 host)
      else .ok (Text.lowerAscii host) := by
  have hascii : Text.isAscii host = true :=
    List.all_eq_true.2 fun c hc ↦ decide_eq_true (ascii_of_hostSafe (hsafe c hc))
  have hlower : ∀ c ∈ Text.lowerAscii host, hostSafe c = true := by
    intro c hc
    obtain ⟨d, hd, rfl⟩ := List.mem_map.1 hc
    exact hostSafe_toLower (hsafe d hd)
  rw [normalise, if_neg fun h ↦ hne (List.isEmpty_iff.1 h), isBracketed_of_safe hsafe, hascii,
    Percent.encode_of_safe hlower]
  cases hresembles : resemblesIpv4 host with
  | false => rfl
  | true =>
    rw [lowerAscii_of_digits (resemblesIpv4_chars hresembles)]
    cases isIpv4 host <;> rfl

/-- **An address of eight words is read again as it is**, between brackets. -/
theorem normalise_bracketed {host : Text} (h : isIpv6 host = true) :
    normalise ('[' :: host ++ [']']) = .ok host := by
  have hresembles : resemblesIpv4 ('[' :: host ++ [']']) = false := by
    refine Bool.eq_false_iff.2 fun hr ↦ ?_
    exact absurd (resemblesIpv4_chars hr '[' List.mem_cons_self) (by decide)
  have hbracketed : isBracketed ('[' :: host ++ [']']) = true := by
    rw [isBracketed, List.getLast?_concat]
    simp
  have hinner : (('[' :: host ++ [']']).drop 1).dropLast = host := by
    rw [List.cons_append, List.drop_one, List.tail_cons, List.dropLast_concat]
  rw [normalise, if_neg nofun, hresembles, hbracketed, hinner]
  exact if_pos h

end Host
end InjectingProxy
