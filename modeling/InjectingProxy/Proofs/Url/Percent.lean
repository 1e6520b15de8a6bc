import InjectingProxy.Proofs.Text.Basic
import InjectingProxy.Proofs.Text.Utf8
import InjectingProxy.Url.Percent

/-!
# What encoded parts stand for

Bytes stand for themselves unless there is an escape among them: a percent sign with two
hexadecimal digits after it (`hasEscape`, `unescape_eq_self_iff`).  So undoing escapes twice is the
same as undoing them once only for bytes without a second layer of them.

Encoding a text adds no meaning to it and takes none away (`unescape_encode`): what the encoded
text stands for is what the text has stood for before.  This is not to say that it stands for the
text itself.  Percent signs are kept, so an escape that was there is one afterwards.  The proof
follows the text, and takes the two digits of an escape together with its percent sign, since they
are kept, too.  An encoded part holds only safe characters, percent signs and digits (`mem_encode`).
-/

set_option autoImplicit false

namespace InjectingProxy
namespace Percent

/-! ## The characters of encoded parts -/

theorem isUnreserved_hexDigit : ∀ n < 16, isUnreserved (hexDigit n) = true := by
  decide

theorem hexValue?_hexDigit : ∀ n < 16, hexValue? (hexDigit n) = some n := by
  decide

/-- An escape consists of percent signs and digits. -/
theorem mem_escapeChar_cases {c d : Char} (h : d ∈ escapeChar c) :
    d = '%' ∨ ∃ n < 16, d = hexDigit n := by
  obtain ⟨b, -, hb⟩ := List.mem_flatMap.1 h
  have hlt : b.toNat < 256 := b.toNat_lt
  rw [escapeByte, List.mem_cons, List.mem_cons, List.mem_singleton] at hb
  rcases hb with rfl | rfl | rfl
  · exact .inl rfl
  · exact .inr ⟨_, by omega, rfl⟩
  · exact .inr ⟨_, by omega, rfl⟩

theorem mem_escapeChar {c d : Char} (h : d ∈ escapeChar c) : d = '%' ∨ isUnreserved d = true :=
  (mem_escapeChar_cases h).imp_right fun ⟨n, hn, hd⟩ ↦ hd ▸ isUnreserved_hexDigit n hn

/-- Unreserved characters are visible ASCII characters. -/
theorem toNat_of_isUnreserved {c : Char} (h : isUnreserved c = true) :
    0x2D ≤ c.toNat ∧ c.toNat ≤ 0x7E := by
  rw [isUnreserved, Bool.or_eq_true] at h
  rcases h with h | h
  · rcases Bool.or_eq_true_iff.1 h with h | h
    · rcases Bool.or_eq_true_iff.1 h with h | h
      · have hupper : 65 ≤ c.toNat ∧ c.toNat ≤ 90 := of_decide_eq_true h
        omega
      · obtain ⟨hleast, hgreatest⟩ := Bool.and_eq_true_iff.1 h
        have hlower : 97 ≤ c.toNat ∧ c.toNat ≤ 122 :=
          ⟨of_decide_eq_true hleast, of_decide_eq_true hgreatest⟩
        omega
    · obtain ⟨hleast, hgreatest⟩ := Bool.and_eq_true_iff.1 h
      have hdigit : 48 ≤ c.toNat ∧ c.toNat ≤ 57 :=
        ⟨of_decide_eq_true hleast, of_decide_eq_true hgreatest⟩
      omega
  · have hall : ∀ d ∈ "-._~".toList, 0x2D ≤ d.toNat ∧ d.toNat ≤ 0x7E :=
      forall_of_all (by decide)
    exact hall c (List.contains_iff_mem.1 h)

theorem isUnreserved_of_isDigit {c : Char} (h : c.isDigit = true) : isUnreserved c = true := by
  rw [isUnreserved, Char.isAlphanum, h, Bool.or_true, Bool.true_or]

theorem ascii_of_isPrintableAscii {c : Char} (h : isPrintableAscii c = true) : c.toNat < 0x80 := by
  have hrange : c.toNat ≤ 0x7E := of_decide_eq_true (Bool.and_eq_true_iff.1 h).2
  omega

theorem mem_encode {safe : Char → Bool} {t : Text} {d : Char} (h : d ∈ encode safe t) :
    safe d = true ∨ d = '%' ∨ isUnreserved d = true := by
  obtain ⟨c, -, hd⟩ := List.mem_flatMap.1 h
  split at hd
  · rename_i hc
    rw [List.mem_singleton] at hd
    exact .inl (hd ▸ hc)
  · exact .inr (mem_escapeChar hd)

theorem question_notMem_encode (t : Text) : '?' ∉ encode pathSafe t := by
  intro h
  rcases mem_encode h with h | h | h <;> exact absurd h (by decide)

/-! ## Escapes in bytes -/

/-- The value of the first byte as a hexadecimal digit. -/
def headValue? (bs : Bytes) : Option Nat := bs.head?.bind byteValue?

/-- The bytes begin with an escape. -/
def startsEscape : Bytes → Bool
  | b :: rest => b == mark && (headValue? rest).isSome && (headValue? rest.tail).isSome
  | [] => false

/-- There is an escape in the bytes. -/
def hasEscape : Bytes → Bool
  | b :: rest => startsEscape (b :: rest) || hasEscape rest
  | [] => false

theorem startsEscape_iff {bs : Bytes} : startsEscape bs = true ↔
    ∃ c d rest high low, bs = mark :: c :: d :: rest ∧ byteValue? c = some high ∧
      byteValue? d = some low := by
  constructor
  · intro h
    match bs, h with
    | b :: c :: d :: rest, h =>
      simp only [startsEscape, headValue?, List.head?_cons, List.tail_cons, Option.bind_some,
        Bool.and_eq_true, beq_iff_eq, Option.isSome_iff_exists] at h
      obtain ⟨⟨rfl, high, hhigh⟩, low, hlow⟩ := h
      exact ⟨c, d, rest, high, low, rfl, hhigh, hlow⟩
    | [b, c], h => simp [startsEscape, headValue?] at h
    | [b], h => simp [startsEscape, headValue?] at h
  · rintro ⟨c, d, rest, high, low, rfl, hhigh, hlow⟩
    simp [startsEscape, headValue?, hhigh, hlow]

/-- An escape at the front is undone. -/
theorem unescape_of_values {b c : UInt8} {high low : Nat} (hb : byteValue? b = some high)
    (hc : byteValue? c = some low) (rest : Bytes) :
    unescape (mark :: b :: c :: rest) = UInt8.ofNat (16 * high + low) :: unescape rest := by
  rw [unescape, hb, hc]
  rfl

/-- Anything else at the front stands for itself. -/
theorem unescape_of_not_startsEscape {b : UInt8} {bs : Bytes}
    (h : startsEscape (b :: bs) = false) : unescape (b :: bs) = b :: unescape bs := by
  match bs, h with
  | [], _ => rfl
  | [_], _ => rfl
  | c :: d :: rest, h =>
    rw [unescape]
    split
    · rename_i hmark hc hd
      simp [startsEscape, headValue?, hmark, hc, hd] at h
    · rfl

/-- A first byte that is no percent sign stands for itself. -/
theorem unescape_cons {b : UInt8} (h : b ≠ mark) (bs : Bytes) :
    unescape (b :: bs) = b :: unescape bs :=
  unescape_of_not_startsEscape (by simp [startsEscape, h])

theorem unescape_append {bs : Bytes} (h : mark ∉ bs) (rest : Bytes) :
    unescape (bs ++ rest) = bs ++ unescape rest := by
  induction bs with
  | nil => rfl
  | cons b bs ih =>
    rw [List.mem_cons, not_or] at h
    rw [List.cons_append, unescape_cons (Ne.symm h.1), ih h.2, List.cons_append]

theorem length_unescape_le (bs : Bytes) : (unescape bs).length ≤ bs.length := by
  fun_induction unescape bs with
  | case1 => exact Nat.le_refl 0
  | case2 => exact Nat.le_refl 1
  | case3 => exact Nat.le_refl 2
  | case4 => simp only [List.length_cons]; omega
  | case5 => simp only [List.length_cons] at *; omega

/-- **Bytes stand for themselves exactly if there is no escape in them.** -/
theorem unescape_eq_self_iff (bs : Bytes) : unescape bs = bs ↔ hasEscape bs = false := by
  induction bs with
  | nil => exact ⟨fun _ ↦ rfl, fun _ ↦ rfl⟩
  | cons b bs ih =>
    rw [hasEscape]
    cases hstarts : startsEscape (b :: bs) with
    | false =>
      rw [unescape_of_not_startsEscape hstarts, List.cons_inj_right, ih, Bool.false_or]
    | true =>
      -- an escape leaves one byte of three, and what follows never grows
      obtain ⟨c, d, rest, high, low, hbs, hhigh, hlow⟩ := startsEscape_iff.1 hstarts
      have hlength := congrArg List.length hbs
      refine ⟨fun h ↦ ?_, nofun⟩
      have hshort := congrArg List.length h
      rw [hbs, unescape_of_values hhigh hlow] at hshort
      have := length_unescape_le rest
      simp only [List.length_cons] at hshort
      omega

/-! ## What escapes of bytes and characters stand for -/

theorem byteValue?_hexDigit : ∀ n < 16, byteValue? (UInt8.ofNat (hexDigit n).toNat) = some n := by
  decide

theorem hexDigit_ascii : ∀ n < 16, (hexDigit n).toNat < 0x80 := by
  decide

theorem encode_escapeByte (b : UInt8) :
    Utf8.encode (escapeByte b) =
      [mark, UInt8.ofNat (hexDigit (b.toNat / 16)).toNat,
        UInt8.ofNat (hexDigit (b.toNat % 16)).toNat] := by
  have hb : b.toNat < 256 := b.toNat_lt
  have hhigh := hexDigit_ascii (b.toNat / 16) (by omega)
  have hlow := hexDigit_ascii (b.toNat % 16) (by omega)
  rw [Utf8.encode_of_ascii]
  · rfl
  · intro c hc
    rw [escapeByte, List.mem_cons, List.mem_cons, List.mem_singleton] at hc
    rcases hc with rfl | rfl | rfl
    · decide
    · exact hhigh
    · exact hlow

theorem unescape_escapeByte (b : UInt8) (rest : Bytes) :
    unescape (Utf8.encode (escapeByte b) ++ rest) = b :: unescape rest := by
  have hb : b.toNat < 256 := b.toNat_lt
  rw [encode_escapeByte]
  refine (unescape_of_values (byteValue?_hexDigit _ (by omega)) (byteValue?_hexDigit _ (by omega))
    rest).trans ?_
  rw [Nat.div_add_mod, UInt8.ofNat_toNat]

theorem unescape_escapeBytes (bs rest : Bytes) :
    unescape (Utf8.encode (bs.flatMap escapeByte) ++ rest) = bs ++ unescape rest := by
  induction bs with
  | nil => rfl
  | cons b bs ih =>
    rw [List.flatMap_cons, Utf8.encode_append, List.append_assoc, unescape_escapeByte, ih,
      List.cons_append]

/-! ## Characters -/

theorem hexValue?_of_ge {c : Char} (h : 0x80 ≤ c.toNat) : hexValue? c = none := by
  have hle {d : Char} (hd : d.toNat < 0x80) : ¬ c ≤ d := fun hcd ↦ by
    have : c.toNat ≤ d.toNat := hcd
    omega
  rw [hexValue?, if_neg, if_neg, if_neg]
  all_goals exact fun hrange ↦ hle (by decide) (of_decide_eq_true (Bool.and_eq_true_iff.1 hrange).2)

/-- The bytes of a character other than a percent sign hold none. -/
theorem mark_notMem_encodeChar {c : Char} (h : c ≠ '%') : mark ∉ Utf8.encodeChar c := by
  intro hmem
  by_cases hascii : c.toNat < 0x80
  · rw [Utf8.encodeChar_of_lt hascii, List.mem_singleton] at hmem
    have hnat := congrArg UInt8.toNat hmem
    rw [UInt8.toNat_ofNat', Nat.mod_eq_of_lt (by omega)] at hnat
    exact h (Char.toNat_inj.1 hnat.symm)
  · exact absurd (Utf8.toNat_of_mem_encodeChar (Nat.le_of_not_lt hascii) hmem) (by decide)

/-- A text without percent signs stands for its bytes. -/
theorem unescape_of_unmarked {t : Text} (h : '%' ∉ t) :
    unescape (Utf8.encode t) = Utf8.encode t := by
  have hmark : mark ∉ Utf8.encode t := by
    intro hmem
    obtain ⟨c, hc, hmem⟩ := List.mem_flatMap.1 hmem
    exact mark_notMem_encodeChar (ne_of_mem_of_not_mem hc h) hmem
  have happend := unescape_append hmark []
  rwa [List.append_nil, unescape, List.append_nil] at happend

/-- Bytes begin with the hexadecimal digit with which their text begins. -/
theorem headValue?_encode (c : Char) (t : Text) :
    headValue? (Utf8.encode (c :: t)) = hexValue? c := by
  by_cases hascii : c.toNat < 0x80
  · have hnat : (UInt8.ofNat c.toNat).toNat = c.toNat := by
      rw [UInt8.toNat_ofNat', Nat.mod_eq_of_lt (by omega)]
    rw [Utf8.encode_cons_of_ascii hascii]
    show hexValue? (Char.ofNat (UInt8.ofNat c.toNat).toNat) = hexValue? c
    rw [hnat, Char.ofNat_toNat]
  · have hc := Nat.le_of_not_lt hascii
    rw [hexValue?_of_ge hc]
    obtain ⟨b, more, hbytes, -⟩ := Utf8.head_encodeChar c []
    have hb := Utf8.toNat_of_mem_encodeChar hc (hbytes ▸ List.mem_cons_self)
    have hv : (b.toNat).isValidChar := Or.inl (Nat.lt_trans b.toNat_lt (by decide))
    rw [Utf8.encode, List.flatMap_cons, hbytes]
    show hexValue? (Char.ofNat b.toNat) = none
    exact hexValue?_of_ge (by rwa [Utf8.toNat_charOfNat hv])

theorem escapeChar_eq_cons (c : Char) : ∃ rest, escapeChar c = '%' :: rest := by
  obtain ⟨b, more, hbytes, -⟩ := Utf8.head_encodeChar c []
  exact ⟨_, by rw [escapeChar, hbytes, List.flatMap_cons, escapeByte, List.cons_append]⟩

theorem ascii_of_hexValue? {c : Char} {n : Nat} (h : hexValue? c = some n) : c.toNat < 0x80 := by
  refine Nat.lt_of_not_le fun hc ↦ ?_
  cases (hexValue?_of_ge hc).symm.trans h

theorem startsEscape_encode (t : Text) :
    startsEscape (Utf8.encode ('%' :: t)) =
      ((headValue? (Utf8.encode t)).isSome && (headValue? (Utf8.encode t).tail).isSome) := by
  rw [Utf8.encode_cons_of_ascii (by decide)]
  rfl

theorem eq_cons_of_headValue? {t : Text} (h : (headValue? (Utf8.encode t)).isSome = true) :
    ∃ c rest n, t = c :: rest ∧ hexValue? c = some n ∧
      (Utf8.encode t).tail = Utf8.encode rest := by
  cases t with
  | nil => cases h
  | cons c rest =>
    rw [headValue?_encode] at h
    obtain ⟨n, hn⟩ := Option.isSome_iff_exists.1 h
    exact ⟨c, rest, n, rfl, hn, by rw [Utf8.encode_cons_of_ascii (ascii_of_hexValue? hn)]; rfl⟩

/-- A text begins with an escape if two hexadecimal digits follow its percent sign. -/
theorem digits_of_startsEscape {t : Text} (h : startsEscape (Utf8.encode ('%' :: t)) = true) :
    ∃ c d rest high low, t = c :: d :: rest ∧ hexValue? c = some high ∧
      hexValue? d = some low := by
  rw [startsEscape_encode, Bool.and_eq_true] at h
  obtain ⟨c, t', high, rfl, hhigh, htail⟩ := eq_cons_of_headValue? h.1
  rw [htail] at h
  obtain ⟨d, rest, low, rfl, hlow, -⟩ := eq_cons_of_headValue? h.2
  exact ⟨c, d, rest, high, low, rfl, hhigh, hlow⟩

/-- Such an escape is undone. -/
theorem unescape_of_digits {c d : Char} {high low : Nat} (hc : hexValue? c = some high)
    (hd : hexValue? d = some low) (rest : Text) :
    unescape (Utf8.encode ('%' :: c :: d :: rest)) =
      UInt8.ofNat (16 * high + low) :: unescape (Utf8.encode rest) := by
  have hvalue {c : Char} {n : Nat} (h : hexValue? c = some n) :
      byteValue? (UInt8.ofNat c.toNat) = some n := by
    have := headValue?_encode c []
    rw [Utf8.encode_cons_of_ascii (ascii_of_hexValue? h), h] at this
    exact this
  rw [Utf8.encode_cons_of_ascii (by decide), Utf8.encode_cons_of_ascii (ascii_of_hexValue? hc),
    Utf8.encode_cons_of_ascii (ascii_of_hexValue? hd)]
  exact unescape_of_values (hvalue hc) (hvalue hd) _

/-- Any other percent sign stands for itself. -/
theorem unescape_of_lone_mark {t : Text} (h : startsEscape (Utf8.encode ('%' :: t)) = false) :
    unescape (Utf8.encode ('%' :: t)) = mark :: unescape (Utf8.encode t) := by
  rw [Utf8.encode_cons_of_ascii (by decide)] at h ⊢
  exact unescape_of_not_startsEscape h

theorem encode_cons_of_safe {safe : Char → Bool} {c : Char} (h : safe c = true) (t : Text) :
    encode safe (c :: t) = c :: encode safe t := by
  rw [encode, List.flatMap_cons, if_pos h]
  rfl

theorem encode_cons_of_not_safe {safe : Char → Bool} {c : Char} (h : safe c = false) (t : Text) :
    encode safe (c :: t) = escapeChar c ++ encode safe t := by
  rw [encode, List.flatMap_cons, h]
  rfl

theorem encode_ne_nil {safe : Char → Bool} {t : Text} (h : t ≠ []) : encode safe t ≠ [] := by
  obtain ⟨c, rest, rfl⟩ := List.exists_cons_of_ne_nil h
  cases hc : safe c with
  | true =>
    rw [encode_cons_of_safe hc]
    exact List.cons_ne_nil _ _
  | false =>
    obtain ⟨digits, hdigits⟩ := escapeChar_eq_cons c
    rw [encode_cons_of_not_safe hc, hdigits]
    exact List.cons_ne_nil _ _

/-- Safe characters in front are kept. -/
theorem encode_append_of_safe {safe : Char → Bool} {t : Text} (h : ∀ c ∈ t, safe c = true)
    (rest : Text) : encode safe (t ++ rest) = t ++ encode safe rest := by
  induction t with
  | nil => rfl
  | cons c t ih =>
    rw [List.cons_append, encode_cons_of_safe (h c List.mem_cons_self),
      ih fun d hd ↦ h d (List.mem_cons_of_mem c hd), List.cons_append]

/-- A text of safe characters is kept. -/
theorem encode_of_safe {safe : Char → Bool} {t : Text} (h : ∀ c ∈ t, safe c = true) :
    encode safe t = t := by
  have happend := encode_append_of_safe h []
  rw [List.append_nil] at happend
  rw [happend, encode, List.flatMap_nil, List.append_nil]

/-- Percent signs and hexadecimal digits are safe. -/
def KeepsEscapes (safe : Char → Bool) : Prop :=
  ∀ c, safe c = false → c ≠ '%' ∧ hexValue? c = none

/-- Of this, only ASCII characters need to be looked at. -/
theorem keepsEscapes_of_ascii {safe : Char → Bool}
    (h : ∀ n < 0x80, safe (Char.ofNat n) = false →
      Char.ofNat n ≠ '%' ∧ hexValue? (Char.ofNat n) = none) : KeepsEscapes safe := by
  intro c hc
  by_cases hascii : c.toNat < 0x80
  · exact forall_ascii (p := fun c ↦ safe c = false → c ≠ '%' ∧ hexValue? c = none) h hascii hc
  · refine ⟨?_, hexValue?_of_ge (Nat.le_of_not_lt hascii)⟩
    rintro rfl
    exact hascii (by decide)

theorem keepsEscapes_pathSafe : KeepsEscapes pathSafe := keepsEscapes_of_ascii (by decide)

section Encode

variable {safe : Char → Bool} (hsafe : KeepsEscapes safe)
include hsafe

theorem safe_of_hexValue? {c : Char} {n : Nat} (h : hexValue? c = some n) : safe c = true := by
  cases hc : safe c with
  | true => rfl
  | false => cases h.symm.trans (hsafe c hc).2

/-- **Encoded parts are safe**, so that encoding them again changes nothing. -/
theorem safe_of_mem_encode {t : Text} : ∀ d ∈ encode safe t, safe d = true := by
  intro d hd
  obtain ⟨c, -, hd⟩ := List.mem_flatMap.1 hd
  split at hd
  · rename_i hc
    exact List.mem_singleton.1 hd ▸ hc
  · rcases mem_escapeChar_cases hd with rfl | ⟨n, hn, rfl⟩
    · cases hc : safe '%' with
      | true => rfl
      | false => exact absurd rfl (hsafe _ hc).1
    · exact safe_of_hexValue? hsafe (hexValue?_hexDigit n hn)

theorem headValue?_encode_encode (t : Text) :
    headValue? (Utf8.encode (encode safe t)) = headValue? (Utf8.encode t) := by
  cases t with
  | nil => rfl
  | cons c t =>
    rw [headValue?_encode]
    cases hc : safe c with
    | true => rw [encode_cons_of_safe hc, headValue?_encode]
    | false =>
      obtain ⟨rest, hrest⟩ := escapeChar_eq_cons c
      rw [encode_cons_of_not_safe hc, hrest, List.cons_append, headValue?_encode, (hsafe c hc).2]
      rfl

theorem startsEscape_encode_encode (t : Text) :
    startsEscape (Utf8.encode ('%' :: encode safe t)) = startsEscape (Utf8.encode ('%' :: t)) := by
  rw [startsEscape_encode, startsEscape_encode, headValue?_encode_encode hsafe]
  cases hhead : (headValue? (Utf8.encode t)).isSome with
  | false => rfl
  | true =>
    obtain ⟨c, rest, n, rfl, hn, htail⟩ := eq_cons_of_headValue? hhead
    rw [htail, encode_cons_of_safe (safe_of_hexValue? hsafe hn),
      Utf8.encode_cons_of_ascii (ascii_of_hexValue? hn), List.tail_cons,
      headValue?_encode_encode hsafe]

/-- **Encoding changes nothing of what a text stands for**, if escapes are kept: an unsafe
character is written as an escape of the bytes that it stands for anyway. -/
theorem unescape_encode : ∀ t : Text,
    unescape (Utf8.encode (encode safe t)) = unescape (Utf8.encode t)
  | [] => rfl
  | c :: t => by
    have ih := unescape_encode t
    cases hc : safe c with
    | false =>
      have hbytes : Utf8.encode (c :: t) = Utf8.encodeChar c ++ Utf8.encode t := rfl
      rw [encode_cons_of_not_safe hc, Utf8.encode_append, escapeChar, unescape_escapeBytes, ih,
        hbytes, unescape_append (mark_notMem_encodeChar (hsafe c hc).1)]
    | true =>
      rw [encode_cons_of_safe hc]
      by_cases hmark : c = '%'
      · subst hmark
        cases hstarts : startsEscape (Utf8.encode ('%' :: t)) with
        | false =>
          rw [unescape_of_lone_mark hstarts, unescape_of_lone_mark
            ((startsEscape_encode_encode hsafe t).trans hstarts), ih]
        | true =>
          -- the escape is kept as it is, so that what follows it is encoded on its own
          obtain ⟨d, e, rest, high, low, rfl, hd, he⟩ := digits_of_startsEscape hstarts
          rw [encode_cons_of_safe (safe_of_hexValue? hsafe hd),
            encode_cons_of_safe (safe_of_hexValue? hsafe he), unescape_of_digits hd he,
            unescape_of_digits hd he, unescape_encode rest]
      · have hbytes (s : Text) : Utf8.encode (c :: s) = Utf8.encodeChar c ++ Utf8.encode s := rfl
        rw [hbytes, hbytes, unescape_append (mark_notMem_encodeChar hmark),
          unescape_append (mark_notMem_encodeChar hmark), ih]

end Encode

end Percent
end InjectingProxy
