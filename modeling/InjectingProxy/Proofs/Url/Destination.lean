import InjectingProxy.Proofs.Url.Reading

/-!
# Where requests below a root go

An absolute address that has been read is legible (`Url.isLegible_of_parse`), and so is an address
below it, whatever path and parameters are asked for (`Url.IsLegible.under`).  So no inbound request
can lead to another server: scheme, user information, host and port are those of the root, and the
text of the address is read as this address (`Url.build_keeps_destination`).

There are roots below which an address is not read again exactly as it is, but this has nothing to
do with the requests (`Url.IsReadBack`).  The port that belongs to a scheme is kept if the root
writes the scheme with capital letters, and the text with small letters means no port
(`Url.kept_port_left_out`).
-/

set_option autoImplicit false

namespace InjectingProxy

namespace Reference

/-! ## Characters of the parts of a text -/

theorem splitScheme_cases (t : Text) :
    ((splitScheme t).1 = [] ∨ (splitScheme t).1.head?.any Char.isAlpha = true ∧
      ∀ c ∈ (splitScheme t).1, isSchemeChar c = true) ∧ ∀ c ∈ (splitScheme t).2, c ∈ t := by
  rw [splitScheme]
  split
  · rename_i rest hrest
    have hmem : ∀ c ∈ rest, c ∈ t := fun c hc ↦
      List.dropWhile_subset _ (hrest ▸ List.mem_cons_of_mem _ hc)
    split
    · exact ⟨.inl rfl, hmem⟩
    · rename_i c name hname
      split
      · rename_i halpha
        refine ⟨.inr ⟨?_, fun d hd ↦ List.all_eq_true.1 List.all_takeWhile d hd⟩, hmem⟩
        rw [hname]
        exact halpha
      · exact ⟨.inl rfl, fun _ hc ↦ hc⟩
  · exact ⟨.inl rfl, fun _ hc ↦ hc⟩

/-- A scheme begins with a letter. -/
theorem scheme_ofText {t : Text} (h : (ofText t).scheme ≠ []) :
    (ofText t).scheme.head?.any Char.isAlpha = true ∧
      ∀ c ∈ (ofText t).scheme, isSchemeChar c = true :=
  (splitScheme_cases t).1.resolve_left h

theorem splitAuthority_chars (t : Text) :
    ∀ c ∈ (splitAuthority t).1, Url.endsPart .authority c = false ∧ c ∈ t := by
  rw [splitAuthority.eq_def]
  split
  · rename_i rest
    intro c hc
    refine ⟨?_, ?_⟩
    · have := List.all_eq_true.1 List.all_takeWhile c hc
      simpa using this
    · exact List.mem_cons_of_mem _ (List.mem_cons_of_mem _ (List.takeWhile_subset _ hc))
  · exact nofun

theorem authority_ofText (t : Text) :
    ∀ c ∈ (ofText t).authority, Url.endsPart .authority c = false ∧ c ∈ t := by
  intro c hc
  obtain ⟨hends, hmem⟩ := splitAuthority_chars _ c hc
  exact ⟨hends, (splitScheme_cases t).2 c hmem⟩

/-- There is no at sign in a host. -/
theorem host_authorityParts (authority : Text) :
    ∀ c ∈ (authorityParts authority).2.1, c ≠ '@' ∧ c ∈ authority := by
  have htail : ∀ c ∈ (Text.cut (· == '@') authority.reverse).1, c ≠ '@' ∧ c ∈ authority := by
    intro c hc
    refine ⟨?_, List.mem_reverse.1 (Text.mem_of_mem_cut hc)⟩
    rcases Text.cut_cases (· == '@') authority.reverse with
      ⟨hcut, hnone⟩ | ⟨before, s, after, hcut, -, -, hbefore⟩
    · rw [hcut] at hc
      exact beq_eq_false_iff_ne.1 (hnone c hc)
    · rw [hcut] at hc
      exact beq_eq_false_iff_ne.1 (hbefore c hc)
  intro c hc
  refine htail c ?_
  rw [authorityParts] at hc
  generalize Text.cut (· == '@') authority.reverse = parts at hc
  obtain ⟨tail, before⟩ := parts
  have hsite {c : Char} (h : c ∈ tail.reverse) : c ∈ tail := List.mem_reverse.1 h
  dsimp only at hc
  rcases Text.cut_cases (· == ']') tail with ⟨hcut, -⟩ | ⟨rest, s, inner, hcut, htail, hs, -⟩
  · rw [hcut] at hc
    split at hc
    · rename_i heq
      cases heq
    · exact hsite (List.takeWhile_subset _ hc)
  · rw [hcut] at hc
    split at hc
    · rename_i inner' heq hinner
      cases hinner
      rw [List.mem_reverse, ← beq_iff_eq.1 hs] at hc
      rw [htail]
      exact List.mem_append_right rest hc
    · exact hsite (List.takeWhile_subset _ hc)

/-- A port that has been read is not too long to be read again. -/
theorem small_of_portOf {scheme text : Text} {port : Option Int}
    (h : portOf scheme text = .ok port) : ∀ n ∈ port, Whole.IsSmall n := by
  rw [portOf] at h
  split at h
  · cases h
    intro n hn
    cases hn
  · split at h
    · cases h
    · rename_i m hread
      cases h
      intro n hn
      split at hn
      · cases hn
      · cases hn
        exact Whole.small_of_read hread

theorem rooted_of_checkPath {hasScheme : Bool} {path : Text}
    (h : checkPath hasScheme true path = .ok ()) : path = [] ∨ path.head? = some '/' := by
  cases path with
  | nil => exact .inl rfl
  | cons c rest => exact .inr ((checkPath_of_hasAuthority (List.cons_ne_nil c rest)).1 h)

end Reference

namespace Url

/-! ## Addresses that have been read -/

theorem isSchemeChar_toLower {c : Char} (h : Reference.isSchemeChar c = true) :
    Reference.isSchemeChar c.toLower = true ∧ c.toLower.toLower = c.toLower :=
  forall_ascii (p := fun c ↦ Reference.isSchemeChar c = true →
    Reference.isSchemeChar c.toLower = true ∧ c.toLower.toLower = c.toLower) (by decide)
    (ascii_of_isSchemeChar h) h

theorem isAlpha_toLower {c : Char} (h : c.isAlpha = true) : c.toLower.isAlpha = true := by
  have hscheme : Reference.isSchemeChar c = true := by
    rw [Reference.isSchemeChar, Char.isAlphanum, h, Bool.true_or, Bool.true_or, Bool.true_or,
      Bool.true_or]
  exact forall_ascii (p := fun c ↦ c.isAlpha = true → c.toLower.isAlpha = true) (by decide)
    (ascii_of_isSchemeChar hscheme) h

/-- The path of an address below a scheme. -/
theorem path_facts {path : Text} (h : path = [] ∨ path.head? = some '/') :
    let kept := Percent.encode Percent.pathSafe (Path.normalise path)
    (kept = [] ∨ kept.head? = some '/') ∧ Path.IsNormal kept ∧
      ∀ c ∈ kept, Percent.pathSafe c = true := by
  refine ⟨?_, (Path.isNormal_normalise path).encode (by decide),
    Percent.safe_of_mem_encode Percent.keepsEscapes_pathSafe⟩
  have hnormal : Path.normalise path = [] ∨ (Path.normalise path).head? = some '/' := by
    rcases h with rfl | h
    · exact .inl rfl
    · exact Path.normalise_rooted h
  rcases hnormal with hnil | hhead
  · rw [hnil]
    exact .inl rfl
  · obtain ⟨rest, hrest⟩ := List.head?_eq_some_iff.1 hhead
    rw [hrest, Percent.encode_cons_of_safe (by decide)]
    exact .inr rfl

theorem safe_of_mem_map {safe : Char → Bool} (hsafe : Percent.KeepsEscapes safe)
    {part : Option Text} : ∀ t ∈ part.map (Percent.encode safe), ∀ c ∈ t, safe c = true := by
  intro t ht
  obtain ⟨given, -, rfl⟩ := Option.map_eq_some_iff.1 ht
  exact Percent.safe_of_mem_encode hsafe

/-- The scheme of an address that has been read is lowercase and begins with a letter. -/
theorem scheme_of_parse {t : Text} {u : Url} (h : parse t = .ok u) (hscheme : u.scheme ≠ []) :
    u.scheme.head?.any Char.isAlpha = true ∧
      ∀ c ∈ u.scheme, Reference.isSchemeChar c = true ∧ c.toLower = c := by
  obtain ⟨⟨⟩, -, hparse⟩ := bind_eq_ok.1 h
  obtain ⟨host, port, -, -, -, rfl⟩ := Reference.normalise_eq_ok_iff.1 hparse
  have hlower : (Reference.withSite (Reference.ofText t) host port).scheme =
      Text.lowerAscii (Reference.ofText t).scheme := rfl
  rw [hlower] at hscheme ⊢
  obtain ⟨hhead, hchars⟩ :=
    Reference.scheme_ofText (t := t) fun hnil ↦ hscheme (congrArg Text.lowerAscii hnil)
  constructor
  · cases hname : (Reference.ofText t).scheme with
    | nil =>
      rw [hname] at hhead
      cases hhead
    | cons c name =>
      rw [hname] at hhead
      exact isAlpha_toLower hhead
  · intro c hc
    obtain ⟨d, hd, rfl⟩ := List.mem_map.1 hc
    exact isSchemeChar_toLower (hchars d hd)

/-- An address with a host that has been read is legible with any scheme in place of its own. -/
theorem isLegible_of_host {t scheme : Text} {u : Url} (h : parse t = .ok u) (hne : u.host ≠ [])
    (hhead : scheme.head?.any Char.isAlpha = true)
    (hchars : ∀ c ∈ scheme, Reference.isSchemeChar c = true ∧ c.toLower = c) :
    ({ u with scheme } : Url).IsLegible := by
  obtain ⟨⟨⟩, htext, hparse⟩ := bind_eq_ok.1 h
  obtain ⟨-, hcontrol⟩ := checkText_eq_ok_iff.1 htext
  obtain ⟨host, port, hhost, hport, hpath, rfl⟩ := Reference.normalise_eq_ok_iff.1 hparse
  have hhost_ne : host.isEmpty = false :=
    Bool.eq_false_iff.2 fun hnil ↦ hne (List.isEmpty_iff.1 hnil)
  rw [Reference.hasAuthority_of_host hhost_ne] at hpath
  obtain ⟨hrooted, hnormal, hsafe⟩ := path_facts (Reference.rooted_of_checkPath hpath)
  have hpathDef : (Reference.withSite (Reference.ofText t) host port).path =
      Percent.encode Percent.pathSafe (Path.normalise (Reference.ofText t).path) := by
    rw [Reference.withSite, Reference.hasAuthority_of_host hhost_ne, Bool.or_true, if_pos rfl]
  refine
    { scheme_head := hhead
      scheme_chars := hchars
      userinfo := Percent.safe_of_mem_encode (Percent.keepsEscapes_of_ascii (by decide))
      host_ne := hne
      host_chars := ?_
      port := Reference.small_of_portOf hport
      path_rooted := hpathDef ▸ hrooted
      path_normal := hpathDef ▸ hnormal
      path_chars := hpathDef ▸ hsafe
      query := safe_of_mem_map (Percent.keepsEscapes_of_ascii (by decide))
      fragment := safe_of_mem_map (Percent.keepsEscapes_of_ascii (by decide)) }
  rcases Host.normalise_cases hhost with hsafe | ⟨hipv6, hmem⟩
  · exact .inl hsafe
  · refine .inr ⟨hipv6, fun c hc ↦ ?_⟩
    obtain ⟨hat, hc⟩ := Reference.host_authorityParts _ c (hmem c hc)
    obtain ⟨hends, hc⟩ := Reference.authority_ofText t c hc
    exact ⟨hat, hends, hcontrol c hc⟩

theorem host_ne_of_isAbsolute {u : Url} (h : u.isAbsolute = true) : u.host ≠ [] := by
  rw [isAbsolute, Bool.and_eq_true_iff, Bool.not_eq_true'] at h
  exact fun hnil ↦ by simp [hnil] at h

/-- **An absolute address that has been read is legible.** -/
theorem isLegible_of_parse {t : Text} {u : Url} (h : parse t = .ok u) (habs : u.isAbsolute = true) :
    u.IsLegible := by
  obtain ⟨hscheme, -⟩ := Bool.and_eq_true_iff.1 habs
  obtain ⟨hhead, hchars⟩ := scheme_of_parse h fun hnil ↦ by rw [hnil] at hscheme; cases hscheme
  exact isLegible_of_host h (host_ne_of_isAbsolute habs) hhead hchars

/-! ## Addresses below a root -/

variable {root path : Text} {params : List Form.Parameter} {u₀ u : Url}

/-- So is an address below one. -/
theorem IsLegible.under (h : u₀.IsLegible) (hrooted : path = [] ∨ path.head? = some '/')
    (params : List Form.Parameter) : (u₀.under path params).IsLegible := by
  have hpathFor : (pathFor path).head? = some '/' := by
    rcases hrooted with rfl | hhead
    · rfl
    · obtain ⟨rest, rfl⟩ := List.head?_eq_some_iff.1 hhead
      rfl
  obtain ⟨hrooted, hnormal, hsafe⟩ := path_facts (.inr hpathFor)
  exact
    { h with
      path_rooted := hrooted
      path_normal := hnormal
      path_chars := hsafe
      query := safe_of_mem_map (Percent.keepsEscapes_of_ascii (by decide)) }

/-- **Inbound data leads to no other server.**  An address below an absolute root has the scheme,
the user information, the host, the port and the fragment of the root.  Its path is empty or begins
with a slash, and holds visible ASCII characters and none that would end it; nothing ends its query.
If its text is not too long, it is read as this address, with the capital letters of a host as small
ones and without the port that belongs to the scheme, or not at all if the host is meant as an
address of four numbers and is none.  For which roots nothing changes is up to the root alone. -/
theorem build_keeps_destination (hroot : parse root = .ok u₀) (habs : u₀.isAbsolute = true)
    (hbuild : build root path params = .ok u) :
    (u.scheme = u₀.scheme ∧ u.userinfo = u₀.userinfo ∧ u.host = u₀.host ∧ u.port = u₀.port ∧
        u.fragment = u₀.fragment) ∧
      ((u.path = [] ∨ u.path.head? = some '/') ∧
        ∀ c ∈ u.path, Percent.isPrintableAscii c = true ∧ c ≠ '?' ∧ c ≠ '#') ∧
      (∀ query ∈ u.query, '#' ∉ query) ∧
      (u.text.length ≤ maxLength →
        (parse u.text =
          if Host.resemblesIpv4 u.host && !Host.isIpv4 u.host then .error (.host (.ipv4 u.host))
          else .ok u.readBack) ∧
        (parse u.text = .ok u ↔ u₀.IsReadBack)) := by
  obtain ⟨hacceptable, rfl⟩ := (build_eq_ok_iff hroot habs).1 hbuild
  have hlegible := (isLegible_of_parse hroot habs).under hacceptable.rooted params
  refine ⟨⟨rfl, rfl, rfl, rfl, rfl⟩, ⟨hlegible.path_rooted, fun c hc ↦ ?_⟩,
    fun query hquery hmem ↦ ?_, fun hlength ↦ ?_⟩
  · have hsafe := hlegible.path_chars c hc
    refine ⟨(Bool.and_eq_true_iff.1 hsafe).1, ?_, ?_⟩ <;>
      (rintro rfl; exact absurd hsafe (by decide))
  · exact absurd (hlegible.query query hquery '#' hmem) (by decide)
  · exact ⟨hlegible.parse_text hlength, (hlegible.parse_text_eq_iff hlength).trans
      ⟨fun h ↦ ⟨h.host_small, h.host_fits, h.port⟩, fun h ↦ ⟨h.host_small, h.host_fits, h.port⟩⟩⟩

/-- Neither slashes nor an at sign, a backslash or dot segments of a path lead to another host, and
no parameter begins a fragment. -/
theorem odd_path_stays_below_root :
    let root := "http://me@backend.test:8080/x#f".toList
    let path := "//evil/../@\\é".toList
    let params : List Form.Parameter := [("a".toList, "b#c".toList)]
    let u₀ : Url := ⟨"http".toList, "me".toList, "backend.test".toList, some 8080, "/x".toList,
      none, some "f".toList⟩
    let u : Url := { u₀ with path := "//@\\%C3%A9".toList, query := some "a=b%23c".toList }
    parse root = .ok u₀ ∧ u₀.isAbsolute = true ∧ build root path params = .ok u ∧
      u.host = u₀.host ∧ parse u.text = .ok u := by
  intro root path params u₀ u
  have hroot : parse root = .ok u₀ := by decide +kernel
  have habs : u₀.isAbsolute = true := rfl
  have hbuild : build root path params = .ok u := by decide +kernel
  obtain ⟨⟨-, -, hhost, -⟩, -, -, hread⟩ := build_keeps_destination hroot habs hbuild
  have hlength : u.text.length ≤ maxLength := by decide +kernel
  have hreadBack : u₀.IsReadBack :=
    ⟨.inr (forall_of_all (by decide +kernel)), by decide +kernel, by decide +kernel⟩
  exact ⟨hroot, habs, hbuild, hhost, (hread hlength).2.2 hreadBack⟩

/-- **The port of an address can be lost when its text is read again.**  The root names the port
that belongs to its scheme, which is written with capital letters. -/
theorem kept_port_left_out :
    let root := "HTTP://h:80".toList
    let u₀ : Url := ⟨"http".toList, [], "h".toList, some 80, [], none, none⟩
    let u : Url := { u₀ with path := "/a".toList }
    parse root = .ok u₀ ∧ u₀.isAbsolute = true ∧ build root "/a".toList [] = .ok u ∧
      u.text.length ≤ maxLength ∧ parse u.text = .ok { u with port := none } := by
  decide +kernel

end Url
end InjectingProxy
