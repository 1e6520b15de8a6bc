import InjectingProxy.Number.Reading
import InjectingProxy.Proofs.Text.Basic

/-!
# Reading whole numbers that were written

A whole number that has been read has at most as many digits as are read (`Whole.small_of_read`).
Such a number is read again from the digits that it is written with (`Whole.read_toString`).
-/

set_option autoImplicit false

namespace InjectingProxy

/-- A digit of any script stands for a number below ten. -/
theorem digitValue?_lt {c : Char} {d : Nat} (h : digitValue? c = some d) : d < 10 := by
  rw [digitValue?] at h
  split at h
  · rename_i hrange
    obtain ⟨hleast, hgreatest⟩ := Bool.and_eq_true_iff.1 hrange
    have hgreatest : c.toNat ≤ 57 := of_decide_eq_true hgreatest
    cases h
    omega
  split at h
  · cases h
  split at h
  · split at h
    · cases h
      exact Nat.mod_lt _ (by decide)
    · cases h
  · cases h

theorem digitValue?_of_isDigit {c : Char} (h : c.isDigit = true) :
    digitValue? c = some (c.toNat - 48) := by
  have hrange : ('0' ≤ c && c ≤ '9') = true := h
  rw [digitValue?, if_pos hrange]

/-- The number of some digits, after others. -/
theorem foldl_digits_lt {ds : List Nat} (h : ∀ d ∈ ds, d < 10) : ∀ {k n : Nat},
    n < Nat.pow 10 k → ds.foldl (fun n d => 10 * n + d) n < Nat.pow 10 (k + ds.length) := by
  induction ds with
  | nil => exact fun hn ↦ hn
  | cons d ds ih =>
    intro k n hn
    have hd : d < 10 := h d List.mem_cons_self
    have hpow : Nat.pow 10 (k + 1) = Nat.pow 10 k * 10 := rfl
    have hnext : 10 * n + d < Nat.pow 10 (k + 1) := by omega
    have := ih (fun e he ↦ h e (List.mem_cons_of_mem d he)) hnext
    rwa [List.length_cons, ← Nat.add_assoc, Nat.add_right_comm]

theorem decimalNumber_lt {ds : List Nat} (h : ∀ d ∈ ds, d < 10) :
    decimalNumber ds < Nat.pow 10 ds.length := by
  have := foldl_digits_lt h (k := 0) (n := 0) (by decide)
  rwa [Nat.zero_add] at this

/-- A number is written with no more digits than it was read from. -/
theorem length_toDigits_decimalNumber {ds : List Nat} {k : Nat} (h : ∀ d ∈ ds, d < 10) (hk : 0 < k)
    (hlength : ds.length ≤ k) : (Nat.toDigits 10 (decimalNumber ds)).length ≤ k :=
  (Nat.length_toDigits_le_iff (by decide) hk).2
    (Nat.lt_of_lt_of_le (decimalNumber_lt h) (Nat.pow_le_pow_right (by decide) hlength))

namespace Whole

/-! ## Numbers that have been read -/

theorem lt_of_mem_digitRun : ∀ {t : Text} {ds : List Nat} {rest : Text},
    digitRun t = some (ds, rest) → ∀ d ∈ ds, d < 10
  | [], _, _, h => by
    cases h
    exact nofun
  | c :: t, ds, rest, h => by
    rw [digitRun.eq_def] at h
    dsimp only at h
    split at h
    · rename_i d hd
      obtain ⟨⟨ds', rest'⟩, hrun, heq⟩ := Option.map_eq_some_iff.1 h
      cases heq
      exact List.forall_mem_cons.2 ⟨digitValue?_lt hd, lt_of_mem_digitRun hrun⟩
    split at h
    · split at h
      · split at h
        · exact lt_of_mem_digitRun h
        · cases h
      · cases h
    · cases h
      exact nofun

/-- The number has no more digits than are read. -/
def IsSmall (n : Int) : Prop := (Nat.toDigits 10 n.natAbs).length ≤ maxDigits

theorem isSmall_of_lt {n : Int} (h : n.natAbs < 100000) : IsSmall n := by
  have hfive : (Nat.toDigits 10 n.natAbs).length ≤ 5 :=
    (Nat.length_toDigits_le_iff (by decide) (by decide)).2 h
  exact Nat.le_trans hfive (by decide)

/-- **A number that has been read has at most as many digits as are read.** -/
theorem small_of_read {t : Text} {n : Int} (h : read t = .ok n) : IsSmall n := by
  rw [read] at h
  dsimp only at h
  split at h
  · cases h
  split at h
  · cases h
  · cases h
  rename_i ds rest _ hrun
  split at h
  · cases h
  rename_i hlength
  split at h
  · have hdigits : (Nat.toDigits 10 (decimalNumber ds)).length ≤ maxDigits :=
      length_toDigits_decimalNumber (lt_of_mem_digitRun hrun) (by decide) (Nat.not_lt.1 hlength)
    cases h
    rw [IsSmall]
    split
    · rwa [Int.natAbs_neg, Int.natAbs_natCast]
    · rwa [Int.natAbs_natCast]
  · cases h

/-! ## Digits -/

theorem digitRun_of_isDigit {t : Text} (h : ∀ c ∈ t, c.isDigit = true) :
    digitRun t = some (t.map fun c => c.toNat - 48, []) := by
  induction t with
  | nil => rfl
  | cons c t ih =>
    rw [digitRun.eq_def]
    dsimp only
    rw [digitValue?_of_isDigit (h c List.mem_cons_self),
      ih fun d hd ↦ h d (List.mem_cons_of_mem c hd)]
    rfl

theorem isWhite_of_isDigit {c : Char} (h : c.isDigit = true) : isWhite c = false := by
  have hrange : ('0' ≤ c && c ≤ '9') = true := h
  have hascii : c.toNat ≤ 57 := of_decide_eq_true (Bool.and_eq_true_iff.1 hrange).2
  exact forall_ascii (p := fun c ↦ c.isDigit = true → isWhite c = false) (by decide +kernel)
    (Nat.lt_of_le_of_lt hascii (by decide)) h

theorem decimalNumber_map (t : Text) :
    decimalNumber (t.map fun c => c.toNat - 48) = Nat.ofDigitChars 10 t 0 := by
  rw [decimalNumber, List.foldl_map]
  rfl

theorem sign_of_isDigit {c : Char} (h : c.isDigit = true) (t : Text) :
    sign (c :: t) = (false, c :: t) := by
  rw [sign.eq_def]
  split
  · rename_i heq
    cases heq
    exact absurd h (by decide)
  · rename_i heq
    cases heq
    exact absurd h (by decide)
  · rfl

/-- Digits are read as the number that they write, with a minus before them or without. -/
theorem read_of_sign {t digits : Text} {negative : Bool}
    (hsign : sign (t.dropWhile isWhite) = (negative, digits)) (hne : digits ≠ [])
    (h : ∀ c ∈ digits, c.isDigit = true) (hlength : digits.length ≤ maxDigits) :
    read t = .ok (if negative then -(Nat.ofDigitChars 10 digits 0 : Int)
      else Nat.ofDigitChars 10 digits 0) := by
  obtain ⟨c, more, rfl⟩ := List.exists_cons_of_ne_nil hne
  rw [read, hsign]
  dsimp only
  split
  · rename_i heq
    cases heq
    exact absurd (h '_' List.mem_cons_self) (by decide)
  · rw [digitRun_of_isDigit h, ← decimalNumber_map]
    rw [← List.length_map (fun c : Char => c.toNat - 48)] at hlength
    rw [List.map_cons] at hlength ⊢
    dsimp only
    rw [if_neg (Nat.not_lt.2 hlength)]
    rfl

/-! ## Numbers that have been written -/

theorem toList_toString_ofNat (m : Nat) : (toString (Int.ofNat m)).toList = Nat.toDigits 10 m :=
  String.toList_ofList

theorem toList_toString_negSucc (m : Nat) :
    (toString (Int.negSucc m)).toList = '-' :: Nat.toDigits 10 (m + 1) := by
  have hminus : (toString (Int.negSucc m)) = "-" ++ (m + 1).repr := rfl
  rw [hminus, String.toList_append]
  exact congrArg ('-' :: ·) String.toList_ofList

theorem isDigit_of_mem_toDigits {m : Nat} : ∀ c ∈ Nat.toDigits 10 m, c.isDigit = true :=
  fun _ hc ↦ Nat.isDigit_of_mem_toDigits (by decide) (by decide) hc

/-- The characters of a written number. -/
theorem toString_chars (n : Int) : ∀ c ∈ (toString n).toList, c = '-' ∨ c.isDigit = true := by
  cases n with
  | ofNat m =>
    rw [toList_toString_ofNat]
    exact fun c hc ↦ .inr (isDigit_of_mem_toDigits c hc)
  | negSucc m =>
    rw [toList_toString_negSucc]
    exact List.forall_mem_cons.2 ⟨.inl rfl, fun c hc ↦ .inr (isDigit_of_mem_toDigits c hc)⟩

theorem toString_ne_nil (n : Int) : (toString n).toList ≠ [] := by
  cases n with
  | ofNat m =>
    rw [toList_toString_ofNat]
    exact Nat.toDigits_ne_nil
  | negSucc m =>
    rw [toList_toString_negSucc]
    exact List.cons_ne_nil _ _

/-- **A whole number is read again from its digits**, if there are not too many. -/
theorem read_toString {n : Int} (h : IsSmall n) : read (toString n).toList = .ok n := by
  have hnumber (m : Nat) : Nat.ofDigitChars 10 (Nat.toDigits 10 m) 0 = m :=
    Nat.ofDigitChars_toDigits (by decide) (by decide)
  cases n with
  | ofNat m =>
    obtain ⟨c, more, hcons⟩ := List.exists_cons_of_ne_nil (Nat.toDigits_ne_nil (n := m) (b := 10))
    have hc : c.isDigit = true := isDigit_of_mem_toDigits c (hcons ▸ List.mem_cons_self)
    have hsign : sign ((toString (Int.ofNat m)).toList.dropWhile isWhite) =
        (false, Nat.toDigits 10 m) := by
      rw [toList_toString_ofNat, hcons,
        List.dropWhile_cons_of_neg (by rw [isWhite_of_isDigit hc]; exact nofun), sign_of_isDigit hc]
    rw [read_of_sign hsign Nat.toDigits_ne_nil isDigit_of_mem_toDigits h, hnumber]
    rfl
  | negSucc m =>
    have hsign : sign ((toString (Int.negSucc m)).toList.dropWhile isWhite) =
        (true, Nat.toDigits 10 (m + 1)) := by
      rw [toList_toString_negSucc, List.dropWhile_cons_of_neg (by decide +kernel)]
      rfl
    rw [read_of_sign hsign Nat.toDigits_ne_nil isDigit_of_mem_toDigits h, hnumber]
    rfl

end Whole
end InjectingProxy
