import Mathlib.Data.List.Basic
import InjectingProxy.Proofs.Relay

/-!
# Requests for which there is no address

Below an absolute root, it is up to the path and the parameters of a request alone whether there is
an address for it.  There is none exactly if the path does not begin with a slash, holds a separator
or a control character, or is too long, or if the encoded query is too long (`Url.IsMalformed`).
Parameters may hold any character.

The checks are made one after the other, and the first one that is not passed decides what is told
(`Url.Flawed` for a part of an address, `Url.Refuses` for the whole).  Below whichever root, the
relay answers with what it is told and does nothing else (`Relay.IsRefused`).

`Url.build_refuses_malformed` puts this together.
-/

set_option autoImplicit false

namespace InjectingProxy

namespace Url

/-! ## What is wrong with a part of an address -/

variable {part : UrlPart} {t : Text} {f : Fault}

/-- What is wrong with a part that is given apart, by the first check that it does not pass. -/
inductive Flawed (part : UrlPart) (t : Text) : Fault → Prop
  | long (hlong : maxLength < t.length) : Flawed part t (.tooLong (some part))
  /-- A control character stands at a place before which there is none. -/
  | control (hshort : t.length ≤ maxLength) {before after : Text} {c : Char}
    (ht : t = before ++ c :: after) (hc : isControl c = true)
    (hbefore : ∀ d ∈ before, isControl d = false) :
    Flawed part t (.unprintable (some part) c before.length)
  | ended (hshort : t.length ≤ maxLength) (hplain : ∀ c ∈ t, isControl c = false) {c : Char}
    (hc : c ∈ t) (hends : endsPart part c = true) : Flawed part t (.malformed part)

theorem checkText_of_long {part : Option UrlPart} (h : maxLength < t.length) :
    checkText part t = .error (.tooLong part) := by
  rw [checkText, if_pos h]

/-- The first control character of a text is found, and its place. -/
theorem checkText_of_control {part : Option UrlPart} {before after : Text} {c : Char}
    (hshort : (before ++ c :: after).length ≤ maxLength) (hc : isControl c = true)
    (hbefore : ∀ d ∈ before, isControl d = false) :
    checkText part (before ++ c :: after) = .error (.unprintable part c before.length) := by
  have hfind : (before ++ c :: after).find? isControl = some c :=
    List.find?_eq_some_iff_append.2 ⟨hc, before, after, rfl, fun d hd ↦ by rw [hbefore d hd]; rfl⟩
  have htake : (before ++ c :: after).takeWhile (fun d ↦ !isControl d) = before :=
    Text.takeWhile_append (fun d hd ↦ by rw [hbefore d hd]; rfl) fun d hd ↦ by
      cases hd
      rw [hc]
      rfl
  rw [checkText, if_neg (Nat.not_lt.2 hshort), hfind]
  simp only [htake]

/-- **What a part is refused with.** -/
theorem checkPart_eq_error_iff : checkPart part t = .error f ↔ Flawed part t f := by
  constructor
  · intro h
    rcases Nat.lt_or_ge maxLength t.length with hlong | hshort
    · rw [checkPart, checkText_of_long hlong] at h
      cases h
      exact .long hlong
    cases hfind : t.find? isControl with
    | some c =>
      obtain ⟨hc, before, after, rfl, hbefore⟩ := List.find?_eq_some_iff_append.1 hfind
      have hbefore : ∀ d ∈ before, isControl d = false := fun d hd ↦ by simpa using hbefore d hd
      rw [checkPart, checkText_of_control hshort hc hbefore] at h
      cases h
      exact .control hshort rfl hc hbefore
    | none =>
      have hplain : ∀ c ∈ t, isControl c = false := fun c hc ↦
        Bool.eq_false_iff.2 (List.find?_eq_none.1 hfind c hc)
      cases hends : t.any (endsPart part) with
      | true =>
        rw [checkPart, checkText_eq_ok_iff.2 ⟨hshort, hplain⟩, hends] at h
        cases h
        obtain ⟨c, hc, hends⟩ := List.any_eq_true.1 hends
        exact .ended hshort hplain hc hends
      | false =>
        rw [checkPart_eq_ok_iff.2 ⟨hshort, fun c hc ↦ ⟨hplain c hc, ?_⟩⟩] at h
        · cases h
        · exact Bool.eq_false_iff.2 (List.any_eq_false.1 hends c hc)
  · intro h
    cases h with
    | long hlong =>
      rw [checkPart, checkText_of_long hlong]
      rfl
    | control hshort ht hc hbefore =>
      subst ht
      rw [checkPart, checkText_of_control hshort hc hbefore]
      rfl
    | ended hshort hplain hc hends =>
      rw [checkPart, checkText_eq_ok_iff.2 ⟨hshort, hplain⟩,
        List.any_eq_true.2 ⟨_, hc, hends⟩]
      rfl

/-! ## What is wrong with a request below a root -/

variable {root path : Text} {params : List Form.Parameter} {u₀ u : Url}

/-- Path or parameters are such that there is no address for them below an absolute root. -/
inductive IsMalformed (path : Text) (params : List Form.Parameter) : Prop
  | unrooted (hne : path ≠ []) (hhead : path.head? ≠ some '/')
  | ended (hends : '?' ∈ path ∨ '#' ∈ path)
  | control {c : Char} (hc : c ∈ path) (hcontrol : c.toNat < 0x20 ∨ c.toNat = 0x7F)
  | pathLong (hlong : maxLength < path.length)
  | queryLong (hlong : maxLength < (Form.encode (Form.group params)).length)

theorem isControl_iff {c : Char} : isControl c = true ↔ c.toNat < 0x20 ∨ c.toNat = 0x7F := by
  rw [isControl, Bool.or_eq_true, decide_eq_true_iff, beq_iff_eq]

theorem endsPart_path_iff {c : Char} : endsPart .path c = true ↔ c = '?' ∨ c = '#' := by
  rw [endsPart, Bool.or_eq_true, beq_iff_eq, beq_iff_eq]

/-- Everything else is acceptable. -/
theorem acceptable_iff_not_isMalformed : Acceptable path params ↔ ¬ IsMalformed path params := by
  constructor
  · intro h hbad
    cases hbad with
    | unrooted hne hhead => exact h.rooted.elim hne hhead
    | ended hends =>
      rcases hends with hmem | hmem
      · exact absurd (h.path_plain _ hmem).2 (by decide)
      · exact absurd (h.path_plain _ hmem).2 (by decide)
    | control hc hcontrol =>
      rw [← isControl_iff, (h.path_plain _ hc).1] at hcontrol
      cases hcontrol
    | pathLong hlong => exact Nat.not_lt.2 h.path_short hlong
    | queryLong hlong => exact Nat.not_lt.2 h.query_short hlong
  · intro h
    refine
      { rooted := ?_
        path_short := Nat.le_of_not_lt fun hlong ↦ h (.pathLong hlong)
        path_plain := fun c hc ↦ ⟨?_, ?_⟩
        query_short := Nat.le_of_not_lt fun hlong ↦ h (.queryLong hlong) }
    · exact Classical.byContradiction fun hroot ↦
        h (.unrooted (fun hnil ↦ hroot (.inl hnil)) fun hhead ↦ hroot (.inr hhead))
    · exact Bool.eq_false_iff.2 fun hcontrol ↦ h (.control hc (isControl_iff.1 hcontrol))
    · refine Bool.eq_false_iff.2 fun hends ↦ h (.ended ?_)
      rcases endsPart_path_iff.1 hends with rfl | rfl
      · exact .inl hc
      · exact .inr hc

/-- What a request below an absolute root is refused with.  The path is looked at first, then the
query, and last whether the path begins with a slash. -/
inductive Refuses (path : Text) (params : List Form.Parameter) : Fault → Prop
  | path {f : Fault} (hpath : Flawed .path (pathFor path) f) : Refuses path params f
  | query (hpath : checkPart .path (pathFor path) = .ok ())
    (hlong : maxLength < (Form.encode (Form.group params)).length) :
    Refuses path params (.tooLong (some .query))
  | unrooted (hpath : checkPart .path (pathFor path) = .ok ())
    (hquery : (Form.encode (Form.group params)).length ≤ maxLength)
    (hhead : (pathFor path).head? ≠ some '/') : Refuses path params .pathNotRooted

end Url

/-- An absolute address whose path and query are replaced is checked for nothing but its path. -/
theorem Reference.normalise_replaced {r : Reference} {u₀ : Url} (h : r.normalise = .ok u₀)
    (habs : u₀.isAbsolute = true) (path : Text) (query : Option Text) :
    normalise { r with path, query } = (do
      checkPath true true path
      pure { u₀ with
        path := Percent.encode Percent.pathSafe (Path.normalise path)
        query := query.map (Percent.encode Percent.querySafe) }) := by
  obtain ⟨host, port, hhost, hport, -, rfl⟩ := normalise_eq_ok_iff.1 h
  obtain ⟨hscheme, hhost_ne⟩ := Bool.and_eq_true_iff.1 habs
  have hscheme : (!(Text.lowerAscii r.scheme).isEmpty) = true := hscheme
  have hhost_ne : host.isEmpty = false := by simpa [withSite] using hhost_ne
  have hread : normalise { r with path, query } = (do
      checkPath true (hasAuthority { r with path, query } host port) path
      pure (withSite { r with path, query } host port)) := by
    rw [normalise, normaliseWith]
    simp only [Option.getD_none, hhost, hport, hscheme]
    rw [withSite, hscheme]
    rfl
  rw [hread, hasAuthority_of_host hhost_ne, withSite, hscheme]
  rfl

namespace Url

variable {root path : Text} {params : List Form.Parameter} {u₀ u : Url} {f : Fault}

/-- Below an absolute root, only the parts that are replaced are looked at. -/
theorem build_of_isAbsolute (hroot : parse root = .ok u₀) (habs : u₀.isAbsolute = true) :
    build root path params = (do
      checkPart .path (pathFor path)
      (queryFor params).forM (checkPart .query)
      Reference.checkPath true true (pathFor path)
      pure (u₀.under path params)) := by
  obtain ⟨⟨⟩, htext, hparse⟩ := bind_eq_ok.1 hroot
  rw [build, htext, Reference.normalise_replaced hparse habs, under]
  cases queryFor params <;> rfl

theorem checkPart_query_eq_error_iff :
    (queryFor params).forM (checkPart .query) = .error f ↔
      maxLength < (Form.encode (Form.group params)).length ∧ f = .tooLong (some .query) := by
  cases params with
  | nil => exact ⟨nofun, fun h ↦ absurd h.1 (by decide)⟩
  | cons p ps =>
    show checkPart .query (Form.encode (Form.group (p :: ps))) = .error f ↔ _
    rw [checkPart_eq_error_iff]
    constructor
    · intro h
      cases h with
      | long hlong => exact ⟨hlong, rfl⟩
      | control hshort ht hc =>
        have hmem := ht ▸ List.mem_append_right _ List.mem_cons_self
        rw [(Form.encode_plain hmem).1] at hc
        cases hc
      | ended hshort hplain hc hends =>
        rw [(Form.encode_plain hc).2] at hends
        cases hends
    · rintro ⟨hlong, rfl⟩
      exact .long hlong

theorem checkPath_eq_error_iff {path : Text} (hne : path ≠ []) :
    Reference.checkPath true true path = .error f ↔
      path.head? ≠ some '/' ∧ f = .pathNotRooted := by
  cases path with
  | nil => exact absurd rfl hne
  | cons c rest =>
    by_cases hc : c = '/'
    · subst hc
      exact ⟨nofun, fun h ↦ absurd rfl h.1⟩
    · simp [Reference.checkPath, hc, eq_comm]

/-- **What a request below an absolute root is refused with.** -/
theorem build_eq_error_iff (hroot : parse root = .ok u₀) (habs : u₀.isAbsolute = true) :
    build root path params = .error f ↔ Refuses path params f := by
  have hquery : (queryFor params).forM (checkPart .query) = .ok () ↔
      (Form.encode (Form.group params)).length ≤ maxLength := by
    cases hcheck : (queryFor params).forM (checkPart .query) with
    | error f =>
      exact ⟨nofun, fun h ↦ absurd (checkPart_query_eq_error_iff.1 hcheck).1 (Nat.not_lt.2 h)⟩
    | ok _ =>
      refine ⟨fun _ ↦ Nat.le_of_not_lt fun hlong ↦ ?_, fun _ ↦ rfl⟩
      cases hcheck.symm.trans (checkPart_query_eq_error_iff.2 ⟨hlong, rfl⟩)
  rw [build_of_isAbsolute hroot habs]
  simp only [bind_eq_error, checkPart_query_eq_error_iff,
    checkPath_eq_error_iff (pathFor_ne_nil path)]
  constructor
  · rintro (hpath | ⟨⟨⟩, hpath, ⟨hlong, rfl⟩ | ⟨⟨⟩, hshort, ⟨hhead, rfl⟩ | ⟨_, _, ⟨⟩⟩⟩⟩)
    · exact .path (checkPart_eq_error_iff.1 hpath)
    · exact .query hpath hlong
    · exact .unrooted hpath (hquery.1 hshort) hhead
  · intro h
    cases h with
    | path hpath => exact .inl (checkPart_eq_error_iff.2 hpath)
    | query hpath hlong => exact .inr ⟨(), hpath, .inl ⟨hlong, rfl⟩⟩
    | unrooted hpath hshort hhead =>
      exact .inr ⟨(), hpath, .inr ⟨(), hquery.2 hshort, .inl ⟨hhead, rfl⟩⟩⟩

end Url

/-! ## What the relay makes of it -/

namespace Relay

/-- There is no address for a request, and the relay says so: whatever its method is and whatever
the backend would do, it is answered with what is wrong, and nothing is asked of the backend. -/
structure IsRefused (root : Text) (method : String) (path : Text) (params : List Form.Parameter)
    (f : Url.Fault) : Prop where
  build : Url.build root path params = .error f
  prepare : prepare root method path params = .error (.address f)
  handle : ∀ backendOpen b, handle root backendOpen method path params b =
    { result := .ok (failure ("Invalid URI:  " ++ f.message)), outbound := [], dropped := none,
      recorded := [.forwardFailed], events := [.addressRefused method path f.message] }

theorem isRefused_of_build {root : Text} {path : Text} {params : List Form.Parameter}
    {f : Url.Fault} (method : String) (h : Url.build root path params = .error f) :
    IsRefused root method path params f where
  build := h
  prepare := by rw [Relay.prepare, h]
  handle := fun backendOpen b ↦ handle_of_address backendOpen h

end Relay

namespace Url

variable {root path : Text} {params : List Form.Parameter} {u₀ : Url}

/-- **There is an address for a request unless its path or its parameters are malformed.**  Below an
absolute root, a malformed request is refused, with what is wrong first, and any other has an
address; an empty path asks for the top.  Below whichever root, there is an address or the relay
answers why there is none, and nothing else comes out. -/
theorem build_refuses_malformed (hroot : parse root = .ok u₀) (habs : u₀.isAbsolute = true) :
    ((∃ f, build root path params = .error f) ↔ IsMalformed path params) ∧
      (¬ IsMalformed path params → build root path params = .ok (u₀.under path params)) ∧
      (∀ f, build root path params = .error f ↔ Refuses path params f) ∧
      build root [] params = build root ['/'] params ∧
      ∀ root' method path' params', (∃ u, build root' path' params' = .ok u) ∨
        ∃ f, Relay.IsRefused root' method path' params' f := by
  have hok : ¬ IsMalformed path params → build root path params = .ok (u₀.under path params) :=
    fun h ↦ (build_eq_ok_iff hroot habs).2 ⟨acceptable_iff_not_isMalformed.2 h, rfl⟩
  refine ⟨⟨?_, fun hbad ↦ ?_⟩, hok, fun f ↦ build_eq_error_iff hroot habs, rfl, ?_⟩
  · rintro ⟨f, hbuild⟩
    refine Classical.byContradiction fun h ↦ ?_
    cases hbuild.symm.trans (hok h)
  · cases hbuild : build root path params with
    | error f => exact ⟨f, rfl⟩
    | ok u =>
      have hacceptable := ((build_eq_ok_iff hroot habs).1 hbuild).1
      exact absurd hbad (acceptable_iff_not_isMalformed.1 hacceptable)
  · intro root' method path' params'
    cases hbuild : build root' path' params' with
    | error f => exact .inr ⟨f, Relay.isRefused_of_build method hbuild⟩
    | ok u => exact .inl ⟨u, rfl⟩

/-- A line break is refused in a path, with its place, and kept in a parameter. -/
theorem control_refused_in_path_only :
    let root := "http://backend.test".toList
    let params : List Form.Parameter := [("a\nb".toList, "#?".toList)]
    ∃ u₀, parse root = .ok u₀ ∧ u₀.isAbsolute = true ∧
      build root "/a\nb".toList params = .error (.unprintable (some .path) '\n' 2) ∧
      build root "/é ".toList params = .ok (u₀.under "/é ".toList params) := by
  intro root params
  obtain ⟨u₀, hroot, habs⟩ : ∃ u₀, parse root = .ok u₀ ∧ u₀.isAbsolute = true :=
    ⟨⟨"http".toList, [], "backend.test".toList, none, [], none, none⟩, by decide +kernel, rfl⟩
  have hflawed : Flawed .path ("/a".toList ++ '\n' :: ['b']) (.unprintable (some .path) '\n' 2) :=
    .control (by decide) rfl rfl (forall_of_all (by decide))
  have hfine : ¬ IsMalformed "/é ".toList params := acceptable_iff_not_isMalformed.1
    ⟨.inr rfl, by decide, forall_of_all (by decide), by decide +kernel⟩
  exact ⟨u₀, hroot, habs, ((build_refuses_malformed hroot habs).2.2.1 _).2 (.path hflawed),
    (build_refuses_malformed hroot habs).2.1 hfine⟩

end Url
end InjectingProxy
