import InjectingProxy.Message
import InjectingProxy.Proofs.Text.Basic
import InjectingProxy.Proofs.Text.Utf8

/-!
# The injected error of a resolved status

A status that was resolved from a code is final, and its description is ASCII (`resolve_final`,
`resolve_ascii`).  So its injected error can always be made, and its messages are the ones that
`Status.injectedMessages` writes out: code and description, and the fixed body with its length and
its type, which are left out where a status has no body.
-/

set_option autoImplicit false

namespace InjectingProxy

namespace Status

theorem standardPhrases_ascii :
    standardPhrases.all (fun p ↦ p.2.toList.all fun c ↦ c.toNat < 128) = true := by
  decide +kernel

theorem standardPhrase?_ascii {code : Int} {phrase : String}
    (h : standardPhrase? code = some phrase) : ∀ c ∈ phrase.toList, c.toNat < 128 := by
  obtain ⟨before, after, hl, -⟩ := List.lookup_eq_some_iff.1 h
  have hall := List.all_eq_true.1 standardPhrases_ascii (code, phrase) (by rw [hl]; simp)
  simpa using hall

/-- The ways in which a code is resolved. -/
theorem resolve_cases {code : Int} {s : Status} (h : resolve code = .ok s) :
    (code = 503 ∧ s = ⟨503, "Internal server error"⟩) ∨
      ∃ phrase, standardPhrase? code = some phrase ∧ minFinal ≤ code ∧ s = ⟨code, phrase⟩ := by
  rw [resolve] at h
  split at h
  · rename_i h503
    exact .inl ⟨h503, (Except.ok.inj h).symm⟩
  · split at h
    · cases h
    · rename_i phrase hp
      split at h
      · cases h
      · rename_i hmin
        exact .inr ⟨phrase, hp, Int.not_lt.1 hmin, (Except.ok.inj h).symm⟩

theorem resolve_final {code : Int} {s : Status} (h : resolve code = .ok s) : 200 ≤ s.code := by
  rcases resolve_cases h with ⟨-, rfl⟩ | ⟨phrase, -, hmin, rfl⟩
  · decide
  · exact hmin

theorem resolve_ascii {code : Int} {s : Status} (h : resolve code = .ok s) :
    ∀ c ∈ s.description.toList, c.toNat < 128 := by
  rcases resolve_cases h with ⟨-, rfl⟩ | ⟨phrase, hp, -, rfl⟩
  · exact forall_of_all (by decide)
  · exact standardPhrase?_ascii hp

/-- The messages of the injected error of a status, written out. -/
def injectedMessages (s : Status) : List Message :=
  if s.code = 204 ∨ s.code = 304 then
    [.start s.code [(word "x-status-description", word s.description)], .body [] false]
  else
    [.start s.code
      [(word "x-status-description", word s.description), (word "content-length", word "11"),
        (word "content-type", word "text/plain; charset=utf-8")],
      .body (word "dummy error") false]

end Status

namespace Charset

/-- ASCII text has the same bytes in the larger character set as in UTF-8. -/
theorem encode_latin_of_ascii {t : Text} (h : ∀ c ∈ t, c.toNat < 128) :
    latin.encode t = .ok (Utf8.encode t) := by
  have hfits : t.all latin.fits = true := by
    refine List.all_eq_true.2 fun c hc ↦ ?_
    exact decide_eq_true (Nat.lt_trans (h c hc) (by decide))
  rw [encode, if_pos hfits, Utf8.encode_of_ascii h]

end Charset

namespace Reply

theorem isBodyless_iff {status : Int} :
    isBodyless status = true ↔ status = 204 ∨ status = 304 := by
  simp [isBodyless]

/-- **The injected error of a resolved status can be made.** -/
theorem injected_of_resolve {code : Int} {s : Status} (h : Status.resolve code = .ok s) :
    ∃ r, injected s = .ok r ∧ r.messages = s.injectedMessages := by
  have hfinal := Status.resolve_final h
  have hlatin := Charset.encode_latin_of_ascii (Status.resolve_ascii h)
  by_cases hb : s.code = 204 ∨ s.code = 304
  · refine ⟨_, by rw [injected, hlatin]; simp only [isBodyless_iff.2 hb]; rfl, ?_⟩
    rw [Status.injectedMessages, if_pos hb]
    rfl
  · have hnot : isBodyless s.code = false := Bool.eq_false_iff.2 fun h ↦ hb (isBodyless_iff.1 h)
    have hlength : lengthHeader s.code injectedBody = [(word "content-length", word "11")] := by
      rw [lengthHeader, if_neg (by omega)]
      decide
    refine ⟨_, by rw [injected, hlatin]; simp only [hnot]; rfl, ?_⟩
    rw [Status.injectedMessages, if_neg hb, messages, hlength]
    rfl

end Reply
end InjectingProxy
