import InjectingProxy.App.Route
import InjectingProxy.Proofs.Url.Reading

/-!
# The address of a request

The address of a request is put together from the host that the client has named, its path and its
query, and the path that is forwarded is taken out of that address again.  Whatever host has been
named, it is the path that comes out (`Request.address_eq`): a named host has no character that ends
it (`Route.isHostChar_of_mem_hostOf`), and those characters of a path that would end it are escaped.
So the headers have no part in the path that is forwarded (`Request.address_headers`).
-/

set_option autoImplicit false

namespace InjectingProxy

namespace Route

/-! ## The characters of a named host -/

/-- The characters of the hosts that a client may name. -/
def isHostChar (c : Char) : Bool :=
  Percent.isUnreserved c || isDelimiter c || ":%[]".toList.contains c

theorem isHostChar_cases {c : Char} (h : isHostChar c = true) :
    Percent.isUnreserved c = true ∨ isDelimiter c = true ∨ ":%[]".toList.contains c = true := by
  rw [isHostChar, Bool.or_eq_true, Bool.or_eq_true] at h
  exact or_assoc.1 h

theorem isHostChar_of_isUnreserved {c : Char} (h : Percent.isUnreserved c = true) :
    isHostChar c = true := by
  rw [isHostChar, h, Bool.true_or, Bool.true_or]

theorem isHostChar_of_isDelimiter {c : Char} (h : isDelimiter c = true) :
    isHostChar c = true := by
  rw [isHostChar, h, Bool.or_true, Bool.true_or]

theorem keepsEscapes_isHostChar : Percent.KeepsEscapes isHostChar :=
  Percent.keepsEscapes_of_ascii (by decide)

theorem isHostChar_of_hexValue? {c : Char} (h : (hexValue? c).isSome = true) :
    isHostChar c = true := by
  obtain ⟨n, hn⟩ := Option.isSome_iff_exists.1 h
  exact Percent.safe_of_hexValue? keepsEscapes_isHostChar hn

theorem isHostChar_of_areNameChars : ∀ {t : Text}, areNameChars t = true →
    ∀ c ∈ t, isHostChar c = true
  | [], _ => nofun
  | c :: rest, h => by
    rw [areNameChars.eq_def] at h
    dsimp only at h
    split at h
    · rename_i hmark
      split at h
      · rename_i a b more
        simp only [Bool.and_eq_true] at h
        obtain ⟨⟨ha, hb⟩, hmore⟩ := h
        rw [beq_iff_eq.1 hmark]
        exact List.forall_mem_cons.2 ⟨by decide, List.forall_mem_cons.2
          ⟨isHostChar_of_hexValue? ha, List.forall_mem_cons.2
            ⟨isHostChar_of_hexValue? hb, isHostChar_of_areNameChars hmore⟩⟩⟩
      · cases h
    · obtain ⟨hc, hrest⟩ := Bool.and_eq_true_iff.1 h
      exact List.forall_mem_cons.2 ⟨(Bool.or_eq_true_iff.1 hc).elim isHostChar_of_isUnreserved
        isHostChar_of_isDelimiter, isHostChar_of_areNameChars hrest⟩

theorem isHostChar_of_isPort {digits : Text} (h : isPort (some digits) = true) :
    ∀ c ∈ digits, isHostChar c = true := by
  simp only [isPort, Bool.and_eq_true, List.all_eq_true] at h
  exact fun c hc ↦ isHostChar_of_isUnreserved (Percent.isUnreserved_of_isDigit (h.1.2 c hc))

theorem isHostChar_of_isLaterAddress {t : Text} (h : isLaterAddress t = true) :
    ∀ c ∈ t, isHostChar c = true := by
  match t with
  | [] => exact nofun
  | c :: rest =>
    rw [isLaterAddress] at h
    rcases Text.cut_cases (· == '.') rest with ⟨hcut, -⟩ | ⟨kind, s, address, hcut, rfl, hs, -⟩
    · simp only [hcut] at h
      cases h
    · simp only [hcut, Bool.and_eq_true, Bool.or_eq_true, beq_iff_eq, List.all_eq_true] at h
      obtain ⟨⟨⟨⟨hc, -⟩, hkind⟩, -⟩, haddress⟩ := h
      refine List.forall_mem_cons.2 ⟨?_, List.forall_mem_append.2
        ⟨fun d hd ↦ isHostChar_of_hexValue? (hkind d hd), List.forall_mem_cons.2 ⟨?_, ?_⟩⟩⟩
      · rcases hc with rfl | rfl <;> decide
      · rw [beq_iff_eq.1 hs]
        decide
      · intro d hd
        rcases haddress d hd with (hd | hd) | rfl
        · exact isHostChar_of_isUnreserved hd
        · exact isHostChar_of_isDelimiter hd
        · decide

theorem isHostChar_of_isLiteral {t : Text} (h : isLiteral t = true) :
    ∀ c ∈ t, isHostChar c = true := by
  rcases Bool.or_eq_true_iff.1 h with h | h
  · obtain ⟨hipv6, hzone⟩ := Bool.and_eq_true_iff.1 h
    have hmark : ∀ c ∈ t, (c == '%') = false := by
      rintro c hc
      refine beq_false_of_ne fun he ↦ ?_
      rw [List.contains_iff_mem.2 (he ▸ hc)] at hzone
      cases hzone
    obtain ⟨-, -, hchars⟩ := Host.isIpv6_chars hipv6
    rw [Text.cut_of_none hmark] at hchars
    intro c hc
    rcases hchars c hc with rfl | rfl | hhex
    · decide
    · decide
    · exact isHostChar_of_hexValue? hhex
  · exact isHostChar_of_isLaterAddress h

theorem isHostChar_of_isPlainHost {t : Text} (h : isPlainHost t = true) :
    ∀ c ∈ t, isHostChar c = true := by
  rw [isPlainHost.eq_def] at h
  split at h
  · rename_i rest
    rcases Text.cut_cases (· == ']') rest with ⟨hcut, -⟩ | ⟨inner, s, after, hcut, rfl, hs, -⟩
    · simp only [hcut] at h
      cases h
    · simp only [hcut] at h
      refine List.forall_mem_cons.2 ⟨by decide, List.forall_mem_append.2 ?_⟩
      rw [beq_iff_eq.1 hs]
      split at h
      · rename_i heq
        cases heq
        exact ⟨isHostChar_of_isLiteral h, List.forall_mem_cons.2 ⟨by decide, nofun⟩⟩
      · rename_i heq
        cases heq
        obtain ⟨hinner, hport⟩ := Bool.and_eq_true_iff.1 h
        exact ⟨isHostChar_of_isLiteral hinner, List.forall_mem_cons.2 ⟨by decide,
          List.forall_mem_cons.2 ⟨by decide, isHostChar_of_isPort hport⟩⟩⟩
      · cases h
  · rcases Text.cut_cases (· == ':') t with ⟨hcut, -⟩ | ⟨name, s, port, hcut, rfl, hs, -⟩
    · simp only [hcut, isHostName, Bool.and_eq_true] at h
      exact isHostChar_of_areNameChars h.1.2
    · simp only [hcut, isHostName, Bool.and_eq_true] at h
      refine List.forall_mem_append.2 ⟨isHostChar_of_areNameChars h.1.2, List.forall_mem_cons.2
        ⟨?_, isHostChar_of_isPort h.2⟩⟩
      rw [beq_iff_eq.1 hs]
      decide

/-- **The host that a client has named is made of characters of hosts.** -/
theorem isHostChar_of_mem_hostOf (headers : List Header) :
    ∀ c ∈ hostOf headers, isHostChar c = true := by
  have hown : ∀ c ∈ ownHost, isHostChar c = true := forall_of_all (by decide)
  rw [hostOf]
  split
  · split
    · rename_i hplain
      exact isHostChar_of_isPlainHost hplain
    · exact hown
  · exact hown

theorem isHostChar_plain {c : Char} (h : isHostChar c = true) :
    Url.endsPart .authority c = false ∧ Request.isLeftOut c = false := by
  have hne (d : Char) (hd : isHostChar d = false) : (c == d) = false := by
    refine beq_false_of_ne ?_
    rintro rfl
    exact Bool.noConfusion (h.symm.trans hd)
  rw [Url.endsPart, Request.isLeftOut, hne '/' (by decide), hne '?' (by decide),
    hne '#' (by decide), hne '\t' (by decide), hne '\r' (by decide), hne '\n' (by decide)]
  exact ⟨rfl, rfl⟩

end Route

namespace Request

/-! ## The path of an address -/

/-- A path inside an address has no character that ends it. -/
theorem mem_escapePath {path : Text} {c : Char} (h : c ∈ escapePath path) :
    c ≠ '?' ∧ c ≠ '#' := by
  obtain ⟨d, -, hc⟩ := List.mem_flatMap.1 h
  split at hc
  · rcases Percent.mem_escapeChar hc with rfl | hplain
    · decide
    · constructor
      · rintro rfl
        exact absurd hplain (by decide)
      · rintro rfl
        exact absurd hplain (by decide)
  · rename_i hd
    rw [List.mem_singleton] at hc
    subst hc
    exact ⟨fun h ↦ hd (by simp [h]), fun h ↦ hd (by simp [h])⟩

theorem endsPart_of_mem_escapePath {path : Text} :
    ∀ c ∈ escapePath path, Url.endsPart .path c = false := by
  intro c hc
  obtain ⟨hquestion, hnumber⟩ := mem_escapePath hc
  rw [Url.endsPart, beq_false_of_ne hquestion, beq_false_of_ne hnumber, Bool.or_false]

/-- What is left out of an address is not escaped, and no escape has such characters. -/
theorem filter_escapePath (path : Text) :
    (escapePath path).filter (fun c ↦ !isLeftOut c) =
      escapePath (path.filter fun c ↦ !isLeftOut c) := by
  induction path with
  | nil => rfl
  | cons c path ih =>
    have hcons (rest : Text) : escapePath (c :: rest) =
        (if c = '\\' || c = '?' || c = '#' then Percent.escapeChar c else [c]) ++
          escapePath rest := rfl
    rw [hcons, List.filter_append, ih]
    by_cases hescaped : (c = '\\' || c = '?' || c = '#' : Bool) = true
    · obtain ⟨hc, hescape⟩ : isLeftOut c = false ∧
          ∀ e ∈ Percent.escapeChar c, (!isLeftOut e) = true := by
        simp only [Bool.or_eq_true, decide_eq_true_eq] at hescaped
        rcases hescaped with (rfl | rfl) | rfl <;> exact ⟨rfl, forall_of_all (by decide)⟩
      rw [if_pos hescaped, List.filter_eq_self.2 hescape,
        List.filter_cons_of_pos (by rw [hc, Bool.not_false]), hcons, if_pos hescaped]
    · rw [if_neg hescaped]
      cases hc : isLeftOut c with
      | true => simp [hc]
      | false => simp [hc, hcons, hescaped]

/-- What stands after a question mark is a query and perhaps a fragment. -/
theorem exists_query_fragment (t : Text) : ∃ (query : Text) (fragment : Option Text),
    t = query ++ fragment.elim [] ('#' :: ·) ∧ ∀ c ∈ query, Url.endsPart .query c = false := by
  rcases Text.cut_cases (· == '#') t with ⟨-, hnone⟩ | ⟨query, s, fragment, -, rfl, hs, hquery⟩
  · exact ⟨t, none, (List.append_nil t).symm, hnone⟩
  · exact ⟨query, some fragment, by rw [beq_iff_eq.1 hs]; rfl, hquery⟩

/-- A whole address, without the characters that are left out, in its parts. -/
theorem filter_wholeAddress (headers : List Header) (path query : Text) :
    ∃ asked fragment : Option Text,
      (Route.wholeAddress headers path query).filter (fun c ↦ !isLeftOut c) =
          "http".toList ++ ':' :: '/' :: '/' :: (Route.hostOf headers ++
            Reference.tail (escapePath (path.filter fun c ↦ !isLeftOut c)) asked fragment) ∧
        ∀ q ∈ asked, ∀ c ∈ q, Url.endsPart .query c = false := by
  have hscheme : "http://".toList.filter (fun c ↦ !isLeftOut c) = "http://".toList := by decide
  have hhost : (Route.hostOf headers).filter (fun c ↦ !isLeftOut c) = Route.hostOf headers :=
    List.filter_eq_self.2 fun c hc ↦ by
      rw [(Route.isHostChar_plain (Route.isHostChar_of_mem_hostOf headers c hc)).2, Bool.not_false]
  rw [Route.wholeAddress]
  cases query with
  | nil =>
    refine ⟨none, none, ?_, nofun⟩
    rw [List.isEmpty_nil, if_pos rfl, List.filter_append, List.filter_append, filter_escapePath,
      hscheme, hhost, List.append_assoc, Reference.tail]
    simp
  | cons c query =>
    obtain ⟨asked, fragment, hasked, hplain⟩ :=
      exists_query_fragment ((c :: query).filter fun c ↦ !isLeftOut c)
    refine ⟨some asked, fragment, ?_, fun q hq ↦ Option.some.inj hq ▸ hplain⟩
    rw [if_neg (by simp), List.filter_append, List.filter_append, List.filter_append,
      filter_escapePath, hscheme, hhost, List.filter_cons_of_pos (by decide), hasked,
      Reference.tail]
    simp

/-- **The path of a request comes out of its whole address** as it stands there, whatever host the
client has named and whatever the query is. -/
theorem address_eq {r : Request} (h : r.path.head? = some '/') :
    r.address = escapePath (r.path.filter fun c ↦ !isLeftOut c) := by
  obtain ⟨rest, hrest⟩ := List.head?_eq_some_iff.1 h
  have hrooted : (escapePath (r.path.filter fun c ↦ !isLeftOut c)).head? = some '/' := by
    rw [hrest]
    rfl
  have hhost : ∀ c ∈ Route.hostOf r.headers, Url.endsPart .authority c = false := fun c hc ↦
    (Route.isHostChar_plain (Route.isHostChar_of_mem_hostOf r.headers c hc)).1
  obtain ⟨asked, fragment, hwhole, hasked⟩ := filter_wholeAddress r.headers r.path r.query
  rw [address, hwhole, Reference.ofText_eq fragment rfl (forall_of_all (by decide)) hhost
    (.inr hrooted) endsPart_of_mem_escapePath hasked]

/-- **Headers have no part in the path that is forwarded.** -/
theorem address_headers {r : Request} (h : r.path.head? = some '/') (headers : List Header) :
    ({ r with headers } : Request).address = r.address := by
  rw [address_eq h, address_eq (r := { r with headers }) h]
  rfl

end Request
end InjectingProxy
