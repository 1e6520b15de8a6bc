import InjectingProxy.Proofs.App.Address
import InjectingProxy.Proofs.App.Counting

/-!
# Where a client is sent

A client is sent to another location if its path has a line break before slashes at its end
(`Route.leads_elsewhere_iff`).  The location begins with the host that the client has named.  Such a
host has no characters that a location would escape (`Route.locationSafe_of_isHostChar`), so it can
be read off the location, and clients that have named different hosts are sent to different places
(`Route.location_eq_iff`).
-/

set_option autoImplicit false

namespace InjectingProxy

namespace Route

/-! ## Paths that lead elsewhere -/

/-- The path to try instead leads to the proxy. -/
theorem other?_eq_some_iff {path other : Text} : other? path = some other ↔
    path ≠ ['/'] ∧ isServed other = true ∧
      other =
        if path.getLast? = some '/' then Text.trimRight (· == '/') path else path ++ ['/'] := by
  rw [other?]
  simp only [beq_iff_eq]
  generalize (if path.getLast? = some '/' then _ else _ : Text) = tried
  split
  · rename_i hpath
    exact ⟨nofun, fun h ↦ absurd hpath h.1⟩
  · rename_i hpath
    split
    · rename_i hserved
      exact ⟨fun h ↦ Option.some.inj h ▸ ⟨hpath, hserved, rfl⟩, fun h ↦ congrArg some h.2.2.symm⟩
    · rename_i hunserved
      exact ⟨nofun, fun h ↦ absurd (h.2.2 ▸ h.2.1) hunserved⟩

/-- **Of paths that begin with a slash, those lead elsewhere that have a line break before slashes
at their end**, and no other line break. -/
theorem leads_elsewhere_iff {path : Text} (h : path.head? = some '/') :
    (isServed path = false ∧ (other? path).isSome = true) ↔
      ∃ start slashes : Text, path = start ++ '\n' :: slashes ∧ '\n' ∉ start ∧ slashes ≠ [] ∧
        ∀ c ∈ slashes, c = '/' := by
  rw [← Bool.not_eq_true, isServed_iff h, Classical.not_not, Option.isSome_iff_exists]
  constructor
  · rintro ⟨hbroken, other, hother⟩
    obtain ⟨-, hserved, hdef⟩ := other?_eq_some_iff.1 hother
    have hunbroken := (isServed_iff (head?_of_isServed hserved)).1 hserved
    split at hdef
    · obtain ⟨slashes, hsplit, hslashes⟩ := Text.exists_append_trimRight (· == '/') path
      rw [← hdef] at hsplit
      have hslash : '\n' ∉ slashes := fun hmem ↦ absurd (hslashes '\n' hmem) (by decide)
      obtain ⟨start, last, rfl⟩ : ∃ start last, other = start ++ [last] :=
        (List.eq_nil_or_concat' other).resolve_left fun hnil ↦ by
          rw [hnil] at hserved
          cases hserved
      rw [List.dropLast_concat] at hunbroken
      -- a break in the part that is kept stands at the end of it
      have hlast : '\n' = last := by
        have hmem := List.dropLast_subset _ hbroken
        rw [hsplit, List.mem_append, List.mem_append, List.mem_singleton] at hmem
        exact (hmem.resolve_right hslash).resolve_left hunbroken
      refine ⟨start, slashes, by rw [hsplit, hlast, List.append_assoc]; rfl, hunbroken, ?_,
        fun c hc ↦ beq_iff_eq.1 (hslashes c hc)⟩
      rintro rfl
      rw [hsplit, List.append_nil, List.dropLast_concat] at hbroken
      exact hunbroken hbroken
    · rw [hdef, List.dropLast_concat] at hunbroken
      exact absurd (List.dropLast_subset _ hbroken) hunbroken
  · rintro ⟨start, slashes, rfl, hstart, hne, hslashes⟩
    obtain ⟨slashes, last, rfl⟩ : ∃ ss last, slashes = ss ++ [last] :=
      (List.eq_nil_or_concat' slashes).resolve_left hne
    obtain rfl : last = '/' := hslashes last (by simp)
    have htrim : Text.trimRight (· == '/') (start ++ '\n' :: (slashes ++ ['/'])) =
        start ++ ['\n'] := by
      rw [List.append_cons, Text.trimRight_append fun c hc ↦ beq_iff_eq.2 (hslashes c hc),
        Text.trimRight_concat (by decide)]
    have hhead : (start ++ ['\n']).head? = some '/' := by
      cases start with
      | nil => cases h
      | cons c start => exact h
    refine ⟨?_, start ++ ['\n'], other?_eq_some_iff.2 ⟨?_, ?_, ?_⟩⟩
    · rw [← List.cons_append, ← List.append_assoc, List.dropLast_concat]
      simp
    · intro hpath
      cases start <;> simp at hpath
    · rw [isServed_iff hhead, List.dropLast_concat]
      exact hstart
    · rw [htrim, if_pos]
      rw [← List.cons_append, ← List.append_assoc, List.getLast?_concat]

/-! ## Reading the host off a location -/

theorem locationSafe_of_isHostChar {c : Char} (h : isHostChar c = true) :
    locationSafe c = true := by
  rcases isHostChar_cases h with h | h | h
  · rw [locationSafe, h, Bool.true_or]
  · have hall : ∀ d ∈ "!$&'()*+,;=".toList, locationSafe d = true := forall_of_all (by decide)
    exact hall c (List.contains_iff_mem.1 h)
  · have hall : ∀ d ∈ ":%[]".toList, locationSafe d = true := forall_of_all (by decide)
    exact hall c (List.contains_iff_mem.1 h)


/-- A location begins with the named host as it is. -/
theorem location_eq (r : Request) (query other : Text) :
    location r query other = Utf8.encode ("http://".toList ++ (hostOf r.headers ++
      Percent.encode locationSafe
        (Request.escapePath other ++ if query.isEmpty then [] else '?' :: query))) := by
  have hstart : ∀ c ∈ "http://".toList, locationSafe c = true := forall_of_all (by decide)
  have hhost : ∀ c ∈ hostOf r.headers, locationSafe c = true := fun c hc ↦
    locationSafe_of_isHostChar (isHostChar_of_mem_hostOf r.headers c hc)
  rw [← Percent.encode_append_of_safe hhost, ← Percent.encode_append_of_safe hstart, location,
    wholeAddress]
  cases query with
  | nil => simp only [List.isEmpty_nil, if_true, List.append_nil, List.append_assoc]
  | cons c query => simp only [List.isEmpty_cons, Bool.false_eq_true, if_false, List.append_assoc]

/-- **Clients are sent to the same place exactly if they have named the same host**, on the same
path with the same query. -/
theorem location_eq_iff (r r' : Request) (query other : Text) :
    location r query other = location r' query other ↔ hostOf r.headers = hostOf r'.headers := by
  rw [location_eq, location_eq]
  constructor
  · intro h
    exact List.append_cancel_right (List.append_cancel_left (Utf8.encode_injective h))
  · intro h
    rw [h]

end Route
end InjectingProxy
