import InjectingProxy.Proofs.Check
import InjectingProxy.Proofs.Url.Form

/-!
# Which addresses there are below a root

The address for a path and parameters below a root has the scheme and the authority of the root.
If the root is absolute, then there is such an address exactly if path and parameters are
acceptable (`Url.Acceptable`, `Url.build_eq_ok_iff`), and it is `Url.under`.

Nothing but its length can be wrong with an encoded query, since its characters are plain.
-/

set_option autoImplicit false

namespace InjectingProxy

/-! ## Checks of texts -/

namespace Url

theorem checkText_eq_ok_iff {part : Option UrlPart} {t : Text} :
    checkText part t = .ok () ↔ t.length ≤ maxLength ∧ ∀ c ∈ t, isControl c = false := by
  rw [checkText]
  split
  · rename_i hlong
    exact ⟨nofun, fun h ↦ absurd hlong (Nat.not_lt.2 h.1)⟩
  · rename_i hlong
    split
    · rename_i c hc
      refine ⟨nofun, fun h ↦ ?_⟩
      have := h.2 c (List.mem_of_find?_eq_some hc)
      rw [List.find?_some hc] at this
      cases this
    · rename_i hnone
      refine ⟨fun _ ↦ ⟨Nat.not_lt.1 hlong, fun c hc ↦ ?_⟩, fun _ ↦ rfl⟩
      exact Bool.eq_false_iff.2 (List.find?_eq_none.1 hnone c hc)

theorem checkPart_eq_ok_iff {part : UrlPart} {t : Text} :
    checkPart part t = .ok () ↔
      t.length ≤ maxLength ∧ ∀ c ∈ t, isControl c = false ∧ endsPart part c = false := by
  have hends : t.any (endsPart part) = false ↔ ∀ c ∈ t, endsPart part c = false := by
    simp
  rw [checkPart, bind_eq_ok]
  constructor
  · rintro ⟨⟨⟩, hText, h⟩
    obtain ⟨hlength, hcontrol⟩ := checkText_eq_ok_iff.1 hText
    refine ⟨hlength, fun c hc ↦ ⟨hcontrol c hc, ?_⟩⟩
    cases hany : t.any (endsPart part) with
    | false => exact hends.1 hany c hc
    | true =>
      rw [if_pos hany] at h
      cases h
  · rintro ⟨hlength, h⟩
    refine ⟨(), checkText_eq_ok_iff.2 ⟨hlength, fun c hc ↦ (h c hc).1⟩, ?_⟩
    rw [hends.2 fun c hc ↦ (h c hc).2]
    rfl

end Url

namespace Reference

/-- User information and path are there, or a host or a port. -/
def hasAuthority (r : Reference) (host : Text) (port : Option Int) : Bool :=
  !(Percent.encode Percent.userinfoSafe (authorityParts r.authority).1).isEmpty ||
    !host.isEmpty || port.isSome

/-- The address with the parts of a reference, whose host and port have been read. -/
def withSite (r : Reference) (host : Text) (port : Option Int) : Url where
  scheme := Text.lowerAscii r.scheme
  userinfo := Percent.encode Percent.userinfoSafe (authorityParts r.authority).1
  host := host
  port := port
  path := Percent.encode Percent.pathSafe
    (if !(Text.lowerAscii r.scheme).isEmpty || r.hasAuthority host port then Path.normalise r.path
      else r.path)
  query := r.query.map (Percent.encode Percent.querySafe)
  fragment := r.fragment.map (Percent.encode Percent.fragmentSafe)

/-- What has to be right for a reference to have a normal form. -/
theorem normalise_eq_ok_iff {r : Reference} {u : Url} :
    r.normalise = .ok u ↔
      ∃ host port, Host.normalise (authorityParts r.authority).2.1 = .ok host ∧
        portOf r.scheme (authorityParts r.authority).2.2 = .ok port ∧
        checkPath (!(Text.lowerAscii r.scheme).isEmpty) (r.hasAuthority host port) r.path
          = .ok () ∧
        u = r.withSite host port := by
  rw [normalise, normaliseWith]
  simp only [bind_eq_ok, mapError_eq_ok, Option.getD_none]
  constructor
  · rintro ⟨host, hhost, port, hport, ⟨⟩, hpath, h⟩
    exact ⟨host, port, hhost, hport, hpath, (Except.ok.inj h).symm⟩
  · rintro ⟨host, port, hhost, hport, hpath, rfl⟩
    exact ⟨host, hhost, port, hport, (), hpath, rfl⟩

theorem hasAuthority_of_host {r : Reference} {host : Text} (h : host.isEmpty = false)
    (port : Option Int) : r.hasAuthority host port = true := by
  rw [hasAuthority, h, Bool.not_false, Bool.or_true, Bool.true_or]

theorem checkPath_of_hasAuthority {hasScheme : Bool} {path : Text} (h : path ≠ []) :
    checkPath hasScheme true path = .ok () ↔ path.head? = some '/' := by
  cases path with
  | nil => exact absurd rfl h
  | cons c rest =>
    rw [List.head?_cons, Option.some_inj]
    by_cases hc : c = '/'
    · subst hc
      exact ⟨fun _ ↦ rfl, fun _ ↦ rfl⟩
    · simp [checkPath, hc]

/-- An absolute address keeps what stands before its path when path and query are replaced. -/
theorem normalise_replaced_iff {r : Reference} {u₀ u : Url} {path : Text} {query : Option Text}
    (h : r.normalise = .ok u₀) (habs : u₀.isAbsolute = true) (hpath : path ≠ []) :
    normalise { r with path, query } = .ok u ↔
      path.head? = some '/' ∧
        u = { u₀ with
          path := Percent.encode Percent.pathSafe (Path.normalise path)
          query := query.map (Percent.encode Percent.querySafe) } := by
  obtain ⟨host, port, hhost, hport, -, rfl⟩ := normalise_eq_ok_iff.1 h
  have hne : host.isEmpty = false := by
    simpa [withSite] using (Bool.and_eq_true_iff.1 habs).2
  have hauthority : hasAuthority { r with path, query } host port = true :=
    hasAuthority_of_host hne port
  have hsite : withSite { r with path, query } host port =
      { r.withSite host port with
        path := Percent.encode Percent.pathSafe (Path.normalise path)
        query := query.map (Percent.encode Percent.querySafe) } := by
    rw [withSite, hauthority, Bool.or_true, if_pos rfl]
    rfl
  rw [normalise_eq_ok_iff, ← hsite]
  constructor
  · rintro ⟨host', port', hhost', hport', hcheck, rfl⟩
    cases hhost.symm.trans hhost'
    cases hport.symm.trans hport'
    rw [hauthority] at hcheck
    exact ⟨(checkPath_of_hasAuthority hpath).1 hcheck, rfl⟩
  · rintro ⟨hhead, rfl⟩
    refine ⟨host, port, hhost, hport, ?_, rfl⟩
    rw [hauthority]
    exact (checkPath_of_hasAuthority hpath).2 hhead

end Reference

/-! ## Addresses below a root -/

namespace Url

variable {root path : Text} {params : List Form.Parameter} {u₀ u : Url}

theorem pathFor_ne_nil (path : Text) : pathFor path ≠ [] := by
  cases path <;> exact nofun

theorem checkPart_query_iff {p : Form.Parameter} {ps : List Form.Parameter} :
    checkPart .query (Form.encode (Form.group (p :: ps))) = .ok () ↔
      (Form.encode (Form.group (p :: ps))).length ≤ maxLength :=
  checkPart_eq_ok_iff.trans ⟨fun h ↦ h.1, fun h ↦ ⟨h, fun _ hc ↦ Form.encode_plain hc⟩⟩

/-- The checks before an address below a root is read. -/
theorem build_eq_ok_iff_normalise :
    build root path params = .ok u ↔
      checkText none root = .ok () ∧ checkPart .path (pathFor path) = .ok () ∧
        (Form.encode (Form.group params)).length ≤ maxLength ∧
        Reference.normalise
          { Reference.ofText root with path := pathFor path, query := queryFor params }
          = .ok u := by
  rw [build, bind_eq_ok]
  cases params with
  | nil =>
    simp only [bind_eq_ok]
    exact ⟨fun ⟨⟨⟩, hroot, ⟨⟩, hpath, h⟩ ↦ ⟨hroot, hpath, by decide, h⟩,
      fun ⟨hroot, hpath, _, h⟩ ↦ ⟨(), hroot, (), hpath, h⟩⟩
  | cons p ps =>
    rw [← checkPart_query_iff]
    simp only [bind_eq_ok]
    constructor
    · rintro ⟨⟨⟩, hroot, ⟨⟩, hpath, h⟩
      obtain ⟨⟨⟩, hquery, h⟩ := bind_eq_ok.1 h
      exact ⟨hroot, hpath, hquery, h⟩
    · rintro ⟨hroot, hpath, hquery, h⟩
      exact ⟨(), hroot, (), hpath, bind_eq_ok.2 ⟨(), hquery, h⟩⟩

/-- The address below another one. -/
def under (u₀ : Url) (path : Text) (params : List Form.Parameter) : Url :=
  { u₀ with
    path := Percent.encode Percent.pathSafe (Path.normalise (pathFor path))
    query := (queryFor params).map (Percent.encode Percent.querySafe) }

/-- There can be an address with the path and the parameters below an absolute root: the path is
empty or begins with a slash, and holds neither separators nor control characters; neither it nor
the query of the parameters is too long. -/
structure Acceptable (path : Text) (params : List Form.Parameter) : Prop where
  rooted : path = [] ∨ path.head? = some '/'
  path_short : path.length ≤ maxLength
  path_plain : ∀ c ∈ path, isControl c = false ∧ endsPart .path c = false
  query_short : (Form.encode (Form.group params)).length ≤ maxLength

theorem acceptable_iff :
    Acceptable path params ↔
      (pathFor path).head? = some '/' ∧ checkPart .path (pathFor path) = .ok () ∧
        (Form.encode (Form.group params)).length ≤ maxLength := by
  rw [checkPart_eq_ok_iff]
  cases path with
  | nil =>
    refine ⟨fun h ↦ ⟨rfl, ⟨by decide, forall_of_all (by decide)⟩, h.query_short⟩, fun h ↦ ?_⟩
    exact ⟨.inl rfl, Nat.zero_le _, nofun, h.2.2⟩
  | cons c rest =>
    constructor
    · rintro ⟨hroot, hshort, hplain, hquery⟩
      exact ⟨hroot.resolve_left nofun, ⟨hshort, hplain⟩, hquery⟩
    · rintro ⟨hroot, ⟨hshort, hplain⟩, hquery⟩
      exact ⟨.inr hroot, hshort, hplain, hquery⟩

/-- **There is an address below an absolute root exactly for acceptable paths and parameters.** -/
theorem build_eq_ok_iff (hroot : parse root = .ok u₀) (habs : u₀.isAbsolute = true) :
    build root path params = .ok u ↔ Acceptable path params ∧ u = u₀.under path params := by
  obtain ⟨⟨⟩, htext, hparse⟩ := bind_eq_ok.1 hroot
  rw [acceptable_iff, build_eq_ok_iff_normalise,
    Reference.normalise_replaced_iff hparse habs (pathFor_ne_nil path)]
  constructor
  · rintro ⟨-, hpath, hquery, hhead, hu⟩
    exact ⟨⟨hhead, hpath, hquery⟩, hu⟩
  · rintro ⟨⟨hhead, hpath, hquery⟩, hu⟩
    exact ⟨htext, hpath, hquery, hhead, hu⟩

end Url
end InjectingProxy
