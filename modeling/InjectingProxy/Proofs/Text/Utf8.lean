import InjectingProxy.Text.Utf8
import Mathlib.Tactic.SplitIfs

/-!
# Reading back what was written in UTF-8

`Utf8.encode` and `Utf8.decode` are inverse to each other: what is written is read back
(`decode_encode`), and bytes that can be read are the ones that would be written
(`encode_of_decode`).  So "these bytes are text" can be said without the reader
(`decode_eq_ok_iff`), which is how the theorems about requests say it.

Both directions rest on one fact for each width of a character.  `head_two` and its neighbours say
what the reader makes of bytes in the ranges of that width, and `encodeChar_two` and its neighbours
that the character it makes is written as these bytes.
-/

set_option autoImplicit false

namespace InjectingProxy
namespace Utf8

/-! ## Bytes by their numbers -/

theorem isTail_iff {b : UInt8} : isTail b = true ↔ 0x80 ≤ b.toNat ∧ b.toNat ≤ 0xBF := by
  simp [isTail, UInt8.le_iff_toNat_le]

/-- A second byte is a tail, further confined after the four first bytes at the ends of the
ranges. -/
theorem isSecond_iff {b next : UInt8} : isSecond b next = true ↔
    (0x80 ≤ next.toNat ∧ next.toNat ≤ 0xBF) ∧
      (b.toNat = 0xE0 → 0xA0 ≤ next.toNat) ∧ (b.toNat = 0xED → next.toNat ≤ 0x9F) ∧
      (b.toNat = 0xF0 → 0x90 ≤ next.toNat) ∧ (b.toNat = 0xF4 → next.toNat ≤ 0x8F) := by
  simp only [isSecond, isTail, ← UInt8.toNat_inj]
  split_ifs <;> simp_all [UInt8.le_iff_toNat_le] <;> omega

theorem ofNat_eq {b : UInt8} {n : Nat} (h : n = b.toNat) : UInt8.ofNat n = b := by
  rw [h, UInt8.ofNat_toNat]

theorem toNat_charOfNat {n : Nat} (h : n.isValidChar) : (Char.ofNat n).toNat = n := by
  rw [Char.ofNat, dif_pos h]
  rfl

/-! ## What the reader makes of the bytes of each width -/

theorem head_one {b : UInt8} (hb : b.toNat < 0x80) (rest : Bytes) :
    head b rest = .char (Char.ofNat b.toNat) 1 := by
  have h80 : b < 0x80 := hb
  unfold head
  rw [if_pos h80]

theorem head_two {b b₁ : UInt8} (hb : 0xC2 ≤ b.toNat ∧ b.toNat < 0xE0) (h₁ : isTail b₁ = true)
    (rest : Bytes) :
    head b (b₁ :: rest) = .char (Char.ofNat (b.toNat % 32 * 64 + low6 b₁)) 2 := by
  have h80 : ¬ b < 0x80 := fun h ↦ by have : b.toNat < 0x80 := h; omega
  have hC2 : ¬ b < 0xC2 := fun h ↦ by have : b.toNat < 0xC2 := h; omega
  have hE0 : b < 0xE0 := hb.2
  unfold head
  rw [if_neg h80, if_neg hC2, if_pos hE0]
  simp only [h₁, if_true]

theorem head_three {b b₁ b₂ : UInt8} (hb : 0xE0 ≤ b.toNat ∧ b.toNat < 0xF0)
    (h₁ : isSecond b b₁ = true) (h₂ : isTail b₂ = true) (rest : Bytes) :
    head b (b₁ :: b₂ :: rest) =
      .char (Char.ofNat (b.toNat % 16 * 4096 + low6 b₁ * 64 + low6 b₂)) 3 := by
  have h80 : ¬ b < 0x80 := fun h ↦ by have : b.toNat < 0x80 := h; omega
  have hC2 : ¬ b < 0xC2 := fun h ↦ by have : b.toNat < 0xC2 := h; omega
  have hE0 : ¬ b < 0xE0 := fun h ↦ by have : b.toNat < 0xE0 := h; omega
  have hF0 : b < 0xF0 := hb.2
  unfold head
  rw [if_neg h80, if_neg hC2, if_neg hE0, if_pos hF0]
  simp only [h₁, h₂, if_true]

theorem head_four {b b₁ b₂ b₃ : UInt8} (hb : 0xF0 ≤ b.toNat ∧ b.toNat < 0xF5)
    (h₁ : isSecond b b₁ = true) (h₂ : isTail b₂ = true) (h₃ : isTail b₃ = true) (rest : Bytes) :
    head b (b₁ :: b₂ :: b₃ :: rest) =
      .char (Char.ofNat
        (b.toNat % 8 * 262144 + low6 b₁ * 4096 + low6 b₂ * 64 + low6 b₃)) 4 := by
  have h80 : ¬ b < 0x80 := fun h ↦ by have : b.toNat < 0x80 := h; omega
  have hC2 : ¬ b < 0xC2 := fun h ↦ by have : b.toNat < 0xC2 := h; omega
  have hE0 : ¬ b < 0xE0 := fun h ↦ by have : b.toNat < 0xE0 := h; omega
  have hF0 : ¬ b < 0xF0 := fun h ↦ by have : b.toNat < 0xF0 := h; omega
  have hF5 : b < 0xF5 := hb.2
  unfold head
  rw [if_neg h80, if_neg hC2, if_neg hE0, if_neg hF0, if_pos hF5]
  simp only [h₁, h₂, h₃, if_true]

/-! ## How the character that was made is written -/

theorem encodeChar_one {b : UInt8} (hb : b.toNat < 0x80) :
    encodeChar (Char.ofNat b.toNat) = [b] := by
  rw [encodeChar, toNat_charOfNat (Or.inl (by omega)), if_pos hb, UInt8.ofNat_toNat]

theorem encodeChar_two {b b₁ : UInt8} (hb : 0xC2 ≤ b.toNat ∧ b.toNat < 0xE0)
    (h₁ : isTail b₁ = true) :
    encodeChar (Char.ofNat (b.toNat % 32 * 64 + low6 b₁)) = [b, b₁] := by
  rw [isTail_iff] at h₁
  have l₁ : low6 b₁ = b₁.toNat - 0x80 := by rw [low6]; omega
  rw [l₁, encodeChar, toNat_charOfNat (Or.inl (by omega)), if_neg (by omega), if_pos (by omega),
    ofNat_eq (b := b) (by omega), ofNat_eq (b := b₁) (by omega)]

theorem encodeChar_three {b b₁ b₂ : UInt8} (hb : 0xE0 ≤ b.toNat ∧ b.toNat < 0xF0)
    (h₁ : isSecond b b₁ = true) (h₂ : isTail b₂ = true) :
    encodeChar (Char.ofNat (b.toNat % 16 * 4096 + low6 b₁ * 64 + low6 b₂)) = [b, b₁, b₂] := by
  rw [isSecond_iff] at h₁
  rw [isTail_iff] at h₂
  have l₁ : low6 b₁ = b₁.toNat - 0x80 := by rw [low6]; omega
  have l₂ : low6 b₂ = b₂.toNat - 0x80 := by rw [low6]; omega
  rw [l₁, l₂, encodeChar, toNat_charOfNat (by rw [Nat.isValidChar]; omega), if_neg (by omega),
    if_neg (by omega), if_pos (by omega), ofNat_eq (b := b) (by omega),
    ofNat_eq (b := b₁) (by omega), ofNat_eq (b := b₂) (by omega)]

theorem encodeChar_four {b b₁ b₂ b₃ : UInt8} (hb : 0xF0 ≤ b.toNat ∧ b.toNat < 0xF5)
    (h₁ : isSecond b b₁ = true) (h₂ : isTail b₂ = true) (h₃ : isTail b₃ = true) :
    encodeChar (Char.ofNat
      (b.toNat % 8 * 262144 + low6 b₁ * 4096 + low6 b₂ * 64 + low6 b₃)) = [b, b₁, b₂, b₃] := by
  rw [isSecond_iff] at h₁
  rw [isTail_iff] at h₂ h₃
  have l₁ : low6 b₁ = b₁.toNat - 0x80 := by rw [low6]; omega
  have l₂ : low6 b₂ = b₂.toNat - 0x80 := by rw [low6]; omega
  have l₃ : low6 b₃ = b₃.toNat - 0x80 := by rw [low6]; omega
  rw [l₁, l₂, l₃, encodeChar, toNat_charOfNat (by rw [Nat.isValidChar]; omega),
    if_neg (by omega), if_neg (by omega), if_neg (by omega), ofNat_eq (b := b) (by omega),
    ofNat_eq (b := b₁) (by omega), ofNat_eq (b := b₂) (by omega), ofNat_eq (b := b₃) (by omega)]

/-! ## One character -/

/-- The reader takes the bytes of a character for that character, whatever follows. -/
theorem head_encodeChar (c : Char) (rest : Bytes) :
    ∃ b more, encodeChar c = b :: more ∧ head b (more ++ rest) = .char c (more.length + 1) := by
  have hv : c.toNat < 0xD800 ∨ (0xDFFF < c.toNat ∧ c.toNat < 0x110000) := c.valid
  have hc := Char.ofNat_toNat c
  rw [encodeChar]
  generalize c.toNat = n at hv hc
  have hlow {k : Nat} : (UInt8.ofNat (0x80 + k % 64)).toNat = 0x80 + k % 64 := by simp; omega
  have htail {k : Nat} : isTail (UInt8.ofNat (0x80 + k % 64)) = true :=
    isTail_iff.2 (by rw [hlow]; omega)
  split_ifs with h1 h2 h3 <;> refine ⟨_, _, rfl, ?_⟩
  · have hb : (UInt8.ofNat n).toNat = n := by simp; omega
    rw [head_one (by omega), hb, hc]
    rfl
  · have hb : (UInt8.ofNat (0xC0 + n / 64)).toNat = 0xC0 + n / 64 := by simp; omega
    rw [List.cons_append, head_two (by omega) htail, low6, hb, hlow, ← hc]
    exact congrArg (Piece.char · 2) (congrArg Char.ofNat (by omega))
  · have hb : (UInt8.ofNat (0xE0 + n / 4096)).toNat = 0xE0 + n / 4096 := by simp; omega
    rw [List.cons_append, List.cons_append,
      head_three (by omega) (isSecond_iff.2 (by rw [hb, hlow]; omega)) htail,
      low6, low6, hb, hlow, hlow, ← hc]
    exact congrArg (Piece.char · 3) (congrArg Char.ofNat (by omega))
  · have hb : (UInt8.ofNat (0xF0 + n / 262144)).toNat = 0xF0 + n / 262144 := by simp; omega
    rw [List.cons_append, List.cons_append, List.cons_append,
      head_four (by omega) (isSecond_iff.2 (by rw [hb, hlow]; omega)) htail htail,
      low6, low6, low6, hb, hlow, hlow, hlow, ← hc]
    exact congrArg (Piece.char · 4) (congrArg Char.ofNat (by omega))

/-- A character that the reader finds is written as the bytes it was found in. -/
theorem encodeChar_of_head {b : UInt8} {rest : Bytes} {c : Char} {w : Nat}
    (h : head b rest = .char c w) :
    ∃ more after, rest = more ++ after ∧ w = more.length + 1 ∧ encodeChar c = b :: more := by
  unfold head at h
  split_ifs at h with h80 hC2 hE0 hF0 hF5
  · obtain ⟨rfl, rfl⟩ := Piece.char.inj h
    exact ⟨[], rest, rfl, rfl, encodeChar_one h80⟩
  · have hb : 0xC2 ≤ b.toNat ∧ b.toNat < 0xE0 := ⟨Nat.le_of_not_lt hC2, hE0⟩
    match rest, h with
    | b₁ :: rest, h =>
      simp only at h
      split_ifs at h with t₁
      obtain ⟨rfl, rfl⟩ := Piece.char.inj h
      exact ⟨[b₁], rest, rfl, rfl, encodeChar_two hb t₁⟩
  · have hb : 0xE0 ≤ b.toNat ∧ b.toNat < 0xF0 := ⟨Nat.le_of_not_lt hE0, hF0⟩
    match rest, h with
    | [b₁], h => simp only at h; split_ifs at h
    | b₁ :: b₂ :: rest, h =>
      simp only at h
      split_ifs at h with t₁ t₂
      obtain ⟨rfl, rfl⟩ := Piece.char.inj h
      exact ⟨[b₁, b₂], rest, rfl, rfl, encodeChar_three hb t₁ t₂⟩
  · have hb : 0xF0 ≤ b.toNat ∧ b.toNat < 0xF5 := ⟨Nat.le_of_not_lt hF0, hF5⟩
    match rest, h with
    | [b₁], h => simp only at h; split_ifs at h
    | [b₁, b₂], h => simp only at h; split_ifs at h
    | b₁ :: b₂ :: b₃ :: rest, h =>
      simp only at h
      split_ifs at h with t₁ t₂ t₃
      obtain ⟨rfl, rfl⟩ := Piece.char.inj h
      exact ⟨[b₁, b₂, b₃], rest, rfl, rfl, encodeChar_four hb t₁ t₂ t₃⟩

/-- A character beyond ASCII has bytes beyond ASCII only. -/
theorem toNat_of_mem_encodeChar {c : Char} (h : 0x80 ≤ c.toNat) {b : UInt8}
    (hb : b ∈ encodeChar c) : 0x80 ≤ b.toNat := by
  have hv : c.toNat < 0xD800 ∨ (0xDFFF < c.toNat ∧ c.toNat < 0x110000) := c.valid
  rw [encodeChar, if_neg (by omega)] at hb
  split_ifs at hb <;> simp only [List.mem_cons, List.not_mem_nil, or_false] at hb
  · rcases hb with rfl | rfl <;> rw [UInt8.toNat_ofNat'] <;> omega
  · rcases hb with rfl | rfl | rfl <;> rw [UInt8.toNat_ofNat'] <;> omega
  · rcases hb with rfl | rfl | rfl | rfl <;> rw [UInt8.toNat_ofNat'] <;> omega

/-! ## Whole texts -/

theorem encode_append (s t : Text) : encode (s ++ t) = encode s ++ encode t :=
  List.flatMap_append

theorem scanAfter_append (more rest : Bytes) :
    scanAfter more.length (more ++ rest) = scan rest := by
  induction more with
  | nil => rfl
  | cons b more ih => exact ih

theorem scan_encodeChar_append (c : Char) (rest : Bytes) :
    scan (encodeChar c ++ rest) = .char c (encodeChar c).length :: scan rest := by
  obtain ⟨b, more, hc, hh⟩ := head_encodeChar c rest
  rw [hc, List.cons_append, scan, scanAfter, hh, List.length_cons]
  exact congrArg (_ :: ·) (scanAfter_append more rest)

theorem scan_encode (t : Text) :
    scan (encode t) = t.map fun c ↦ .char c (encodeChar c).length := by
  induction t with
  | nil => rfl
  | cons c t ih =>
    rw [encode, List.flatMap_cons, scan_encodeChar_append, List.map_cons, ← ih]
    rfl

theorem gather_chars (t : Text) : ∀ place,
    gather place (t.map fun c ↦ .char c (encodeChar c).length) = .ok t := by
  induction t with
  | nil => exact fun _ ↦ rfl
  | cons c t ih => exact fun place ↦ by rw [List.map_cons, gather, ih]

/-- **What is written is read back.** -/
theorem decode_encode (t : Text) : decode (encode t) = .ok t := by
  rw [decode, scan_encode, gather_chars]

theorem encode_injective {s t : Text} (h : encode s = encode t) : s = t := by
  have hdecode := congrArg decode h
  rw [decode_encode, decode_encode] at hdecode
  exact Except.ok.inj hdecode

theorem decodeLossy_encode (t : Text) : decodeLossy (encode t) = t := by
  rw [decodeLossy, scan_encode, List.map_map]
  exact List.map_id t

/-- Bytes that are read without a broken piece are what is written for their text.  The bytes that
`scanAfter` skips belong to the character before, so they stand beside the text here. -/
theorem encode_of_gather {bs : Bytes} : ∀ {skip place : Nat} {t : Text}, skip ≤ bs.length →
    gather place (scanAfter skip bs) = .ok t → bs.drop skip = encode t := by
  induction bs with
  | nil =>
    intro skip place t _ h
    rw [scanAfter, gather, Except.ok.injEq] at h
    rw [← h, List.drop_nil]
    rfl
  | cons b rest ih =>
    intro skip place t hs h
    cases skip with
    | succ skip => exact ih (Nat.le_of_succ_le_succ hs) h
    | zero =>
      rw [scanAfter] at h
      cases hh : head b rest with
      | broken flaw w => rw [hh, gather] at h; exact absurd h (by simp)
      | char c w =>
        obtain ⟨more, after, rfl, rfl, hc⟩ := encodeChar_of_head hh
        rw [hh, gather] at h
        split at h
        · rename_i u hu
          rw [Except.ok.injEq] at h
          have hrest := ih (by simp [Piece.width]) hu
          rw [Piece.width, Nat.add_sub_cancel, List.drop_left] at hrest
          rw [← h, encode, List.flatMap_cons, hc, List.drop_zero, List.cons_append, hrest]
          rfl
        · exact absurd h (by simp)

theorem encode_of_decode {bs : Bytes} {t : Text} (h : decode bs = .ok t) : encode t = bs :=
  (encode_of_gather (Nat.zero_le _) h).symm

/-- **Bytes are read as a text exactly if they are what is written for it.** -/
theorem decode_eq_ok_iff {bs : Bytes} {t : Text} : decode bs = .ok t ↔ encode t = bs :=
  ⟨encode_of_decode, fun h ↦ h ▸ decode_encode t⟩

/-! ## ASCII -/

theorem encodeChar_of_lt {c : Char} (h : c.toNat < 0x80) :
    encodeChar c = [UInt8.ofNat c.toNat] := by
  rw [encodeChar, if_pos h]

theorem encode_cons_of_ascii {c : Char} (h : c.toNat < 0x80) (t : Text) :
    encode (c :: t) = UInt8.ofNat c.toNat :: encode t := by
  rw [encode, List.flatMap_cons, encodeChar_of_lt h]
  rfl

/-- ASCII text has one byte for each character. -/
theorem encode_of_ascii {t : Text} (h : ∀ c ∈ t, c.toNat < 0x80) :
    encode t = t.map fun c ↦ UInt8.ofNat c.toNat := by
  induction t with
  | nil => rfl
  | cons c t ih =>
    rw [encode_cons_of_ascii (h c (by simp)), List.map_cons,
      ih fun d hd ↦ h d (List.mem_cons_of_mem _ hd)]

/-- Bytes below 128 are text, one character each. -/
theorem encode_charOfNat_of_ascii {bs : Bytes} (h : ∀ b ∈ bs, b.toNat < 0x80) :
    encode (bs.map fun b ↦ Char.ofNat b.toNat) = bs := by
  induction bs with
  | nil => rfl
  | cons b bs ih =>
    rw [List.map_cons, encode, List.flatMap_cons, encodeChar_one (h b (by simp))]
    exact congrArg (b :: ·) (ih fun d hd ↦ h d (List.mem_cons_of_mem _ hd))

end Utf8
end InjectingProxy
