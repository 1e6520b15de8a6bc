import InjectingProxy.Proofs.Url.Percent
import InjectingProxy.Url.Address

/-!
# The characters of an encoded query

A query that was encoded from parameters is made of unreserved characters, percent signs with two
hexadecimal digits, plus signs for blanks, and the two separators (`Form.encode_chars`).  None of
these is a control character or ends a query (`Form.encode_plain`).
-/

set_option autoImplicit false

namespace InjectingProxy

theorem Url.isControl_of_isUnreserved {c : Char} (h : Percent.isUnreserved c = true) :
    Url.isControl c = false := by
  have hrange := Percent.toNat_of_isUnreserved h
  rw [Url.isControl, Bool.or_eq_false_iff, decide_eq_false_iff_not, beq_eq_false_iff_ne]
  omega

namespace Form

theorem mem_encodePart {t : Text} {c : Char} (h : c ∈ encodePart t) :
    c = '+' ∨ c = '%' ∨ Percent.isUnreserved c = true := by
  obtain ⟨d, -, hc⟩ := List.mem_flatMap.1 h
  split at hc
  · rename_i hd
    rw [List.mem_singleton] at hc
    exact .inr (.inr (hc ▸ hd))
  · split at hc
    · exact .inl (List.mem_singleton.1 hc)
    · exact .inr (Percent.mem_escapeChar hc)

/-- The characters of an encoded query. -/
theorem encode_chars {ps : List Parameter} {c : Char} (h : c ∈ encode ps) :
    c = '&' ∨ c = '=' ∨ c = '+' ∨ c = '%' ∨ Percent.isUnreserved c = true := by
  rcases Text.mem_join h with h | ⟨part, hpart, h⟩
  · exact .inl (List.mem_singleton.1 h)
  · obtain ⟨p, -, rfl⟩ := List.mem_map.1 hpart
    rw [encodeParameter, List.mem_append, List.mem_cons] at h
    rcases h with h | h | h
    · exact .inr (.inr (mem_encodePart h))
    · exact .inr (.inl h)
    · exact .inr (.inr (mem_encodePart h))

/-- Nothing in an encoded query is out of place there. -/
theorem encode_plain {ps : List Parameter} {c : Char} (h : c ∈ encode ps) :
    Url.isControl c = false ∧ Url.endsPart .query c = false := by
  rcases encode_chars h with rfl | rfl | rfl | rfl | h
  · decide
  · decide
  · decide
  · decide
  · refine ⟨Url.isControl_of_isUnreserved h, ?_⟩
    rw [Url.endsPart, beq_eq_false_iff_ne]
    rintro rfl
    exact absurd (Percent.toNat_of_isUnreserved h).1 (by decide)

end Form
end InjectingProxy
