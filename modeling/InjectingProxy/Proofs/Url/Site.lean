import InjectingProxy.Proofs.Url.Reading

/-!
# Hosts with ports

A host and perhaps a port after a colon are a site.  `Site` is such a text together with what it
names: the host as it stands, in small letters or in its ASCII form (`Host.Names`), and the number
of the port.  No character of a site separates parts of an address (`Site.text_plain`), so after a
scheme it is read as what it names, and as nothing else (`Site.parse_root_iff`).  Conversely, a text
of characters that a host keeps is a site if it is read as an absolute address
(`Site.exists_of_parse_root`).

Other texts without a slash can be read after a scheme, too.  They never have a path, but they can
have all the other parts of an address, for which there are signs in them (`Url.parse_root`).
-/

set_option autoImplicit false

namespace InjectingProxy

open Url (IsSitePlain)

/-! ## Names of hosts -/

/-- The text is a host that is kept in this form, and nothing in it is escaped: a name in ASCII or an
address of four numbers, an address of eight words between brackets, or a name beyond ASCII. -/
inductive Host.Names : Text → Text → Prop
  | name {t : Text} (ne : t ≠ []) (safe : ∀ c ∈ t, Percent.hostSafe c = true)
      (fits : resemblesIpv4 t = true → isIpv4 t = true) : Names t (Text.lowerAscii t)
  | words {t : Text} (plain : ∀ c ∈ t, IsSitePlain c) (fits : isIpv6 t = true) :
      Names ('[' :: t ++ [']']) t
  | wide {t kept : Text} (beyond : Text.isAscii t = false)
      (plain : ∀ c ∈ t, IsSitePlain c ∧ c ≠ ':' ∧ c ≠ '[')
      (form : Idna.encode (Case.lower t) = .ok kept) : Names t kept

namespace Host

variable {t kept : Text}

/-- Only names are beyond ASCII. -/
theorem normalise_of_wide (beyond : Text.isAscii t = false) (hplain : ∀ c ∈ t, c ≠ '[') :
    normalise t = (Idna.encode (Case.lower t)).mapError fun _ ↦ .name t := by
  have hne : t.isEmpty = false := by
    cases t with
    | nil => cases beyond
    | cons c rest => rfl
  have hresembles : resemblesIpv4 t = false := by
    refine Bool.eq_false_iff.2 fun hr ↦ Bool.eq_false_iff.1 beyond (List.all_eq_true.2 fun c hc ↦ ?_)
    exact decide_eq_true (ascii_of_hostSafe (hostSafe_of_digit (resemblesIpv4_chars hr c hc)))
  have hbracketed : isBracketed t = false := by
    cases t with
    | nil => rfl
    | cons c rest => simp [isBracketed, hplain c List.mem_cons_self]
  rw [normalise, hne, hresembles, hbracketed, beyond]
  cases Idna.encode (Case.lower t) <;> rfl

namespace Names

theorem normalise (h : Names t kept) : Host.normalise t = .ok kept := by
  cases h with
  | name ne safe fits =>
    rw [normalise_of_safe ne safe]
    cases hresembles : resemblesIpv4 t with
    | false => rfl
    | true =>
      rw [fits hresembles]
      rfl
  | words plain fits => exact normalise_bracketed fits
  | wide beyond plain form =>
    rw [normalise_of_wide beyond fun c hc ↦ (plain c hc).2.2, form]
    rfl

theorem ne_nil (h : Names t kept) : kept ≠ [] := by
  cases h with
  | name ne safe fits => exact fun hnil ↦ ne (List.map_eq_nil_iff.1 hnil)
  | words plain fits =>
    rintro rfl
    cases fits
  | wide beyond plain form => exact Idna.ne_nil_of_encode form

theorem text_plain (h : Names t kept) : ∀ c ∈ t, IsSitePlain c := by
  cases h with
  | name ne safe fits => exact fun c hc ↦ Url.isSitePlain_of_hostSafe (safe c hc)
  | words plain fits =>
    exact List.forall_mem_append.2 ⟨List.forall_mem_cons.2 ⟨by decide, plain⟩,
      forall_of_all (by decide)⟩
  | wide beyond plain form => exact fun c hc ↦ (plain c hc).1

/-- With a port after it, the text is read as the host that it is. -/
theorem authorityParts (h : Names t kept) {port : Option Text}
    (hport : ∀ p ∈ port, '@' ∉ p ∧ ']' ∉ p) :
    Reference.authorityParts (t ++ port.elim [] (':' :: ·)) = ([], t, port.getD []) := by
  cases h with
  | name ne safe fits =>
    refine Reference.authorityParts_name (fun c hc ↦ ?_) fun p hp ↦ (hport p hp).1
    refine ⟨?_, ?_, ?_⟩ <;>
      (rintro rfl; exact absurd (safe _ hc) (by decide))
  | words plain fits =>
    rw [List.append_assoc, List.singleton_append]
    exact Reference.authorityParts_bracketed (fun hmem ↦ (plain _ hmem).1 rfl) hport
  | wide beyond plain form =>
    refine Reference.authorityParts_name (fun c hc ↦ ?_) fun p hp ↦ (hport p hp).1
    exact ⟨(plain c hc).1.1, (plain c hc).2⟩

end Names

/-- A character that a host keeps, or that stands before a port. -/
def IsKept (c : Char) : Prop := Percent.hostSafe c = true ∨ c = ':' ∨ 0x80 ≤ c.toNat

theorem IsKept.plain {c : Char} (h : IsKept c) : IsSitePlain c ∧ c ≠ '[' ∧ c ≠ ']' := by
  rcases h with hsafe | rfl | hwide
  · refine ⟨Url.isSitePlain_of_hostSafe hsafe, ?_, ?_⟩ <;>
      (rintro rfl; exact absurd hsafe (by decide))
  · decide
  · have hne (d : Char) (hd : d.toNat < 0x80) : c ≠ d := by
      rintro rfl
      exact absurd hd (Nat.not_lt.2 hwide)
    refine ⟨⟨hne '@' (by decide), ?_, ?_⟩, hne '[' (by decide), hne ']' (by decide)⟩
    · simp [Url.endsPart, hne '/' (by decide), hne '?' (by decide), hne '#' (by decide)]
    · rw [Url.isControl, Bool.or_eq_false_iff]
      exact ⟨decide_eq_false (by omega), beq_false_of_ne (by omega)⟩

/-- **A host of such characters that is kept is named**: nothing else can be wrong with it. -/
theorem names_of_normalise (hkept : ∀ c ∈ t, IsKept c ∧ c ≠ ':') (hne : kept ≠ [])
    (h : normalise t = .ok kept) : Names t kept := by
  cases beyond : Text.isAscii t with
  | true =>
    have hsafe : ∀ c ∈ t, Percent.hostSafe c = true := by
      intro c hc
      have hascii : c.toNat < 0x80 := of_decide_eq_true (List.all_eq_true.1 beyond c hc)
      obtain ⟨hsafe | rfl | hwide, hcolon⟩ := hkept c hc
      · exact hsafe
      · exact absurd rfl hcolon
      · exact absurd hascii (Nat.not_lt.2 hwide)
    have hfilled : t ≠ [] := by
      rintro rfl
      cases h
      exact hne rfl
    rw [normalise_of_safe hfilled hsafe] at h
    split at h
    · cases h
    · rename_i hfits
      cases h
      refine .name hfilled hsafe fun hresembles ↦ ?_
      simpa [hresembles] using hfits
  | false =>
    rw [normalise_of_wide beyond fun c hc ↦ (hkept c hc).1.plain.2.1] at h
    refine .wide beyond (fun c hc ↦ ?_) (mapError_eq_ok.1 h)
    exact ⟨(hkept c hc).1.plain.1, (hkept c hc).2, (hkept c hc).1.plain.2.1⟩

end Host

/-! ## Sites -/

/-- A host and perhaps a port, as they stand in a text and as they are meant after a scheme. -/
structure Site (scheme : Text) where
  hostText : Text
  portText : Option Text
  host : Text
  port : Option Int
  names : Host.Names hostText host
  port_plain : ∀ p ∈ portText, ∀ c ∈ p, IsSitePlain c ∧ c ≠ ']'
  port_read : Reference.portOf scheme (portText.getD []) = .ok port

namespace Site

variable {scheme : Text} (s : Site scheme)

/-- The text of the site: `host[:port]`. -/
def text : Text := s.hostText ++ s.portText.elim [] (':' :: ·)

/-- The address that names the site and nothing besides. -/
def url : Url where
  scheme := scheme
  userinfo := []
  host := s.host
  port := s.port
  path := []
  query := none
  fragment := none

theorem isAbsolute_url (hscheme : scheme ≠ []) : s.url.isAbsolute = true := by
  simp [Url.isAbsolute, url, hscheme, s.names.ne_nil]

/-- **No character of a site separates parts of an address.** -/
theorem text_plain : ∀ c ∈ s.text, IsSitePlain c := by
  refine List.forall_mem_append.2 ⟨s.names.text_plain, ?_⟩
  cases hport : s.portText with
  | none => exact nofun
  | some p => exact List.forall_mem_cons.2 ⟨by decide, fun c hc ↦ (s.port_plain p hport c hc).1⟩

theorem authorityParts_text :
    Reference.authorityParts s.text = ([], s.hostText, s.portText.getD []) :=
  s.names.authorityParts fun p hp ↦
    ⟨fun hmem ↦ (s.port_plain p hp _ hmem).1.1 rfl, fun hmem ↦ (s.port_plain p hp _ hmem).2 rfl⟩

end Site

/-! ## Texts after a scheme -/

variable {scheme : Text}

namespace Reference

/-- User information is what stands before the last at sign, so there is some unless there is at
most one at sign, at the front. -/
theorem userinfo_eq_nil_iff {authority : Text} :
    (authorityParts authority).1 = [] ↔ '@' ∉ authority.tail := by
  have huserinfo : (authorityParts authority).1 =
      ((Text.cut (· == '@') authority.reverse).2.getD []).reverse := rfl
  rw [huserinfo, List.reverse_eq_nil_iff]
  rcases Text.cut_cases (· == '@') authority.reverse with
    ⟨hcut, hnone⟩ | ⟨site, s, before, hcut, hauthority, hs, hsite⟩
  · rw [hcut]
    refine ⟨fun _ hmem ↦ ?_, fun _ ↦ rfl⟩
    exact absurd (hnone '@' (List.mem_reverse.2 (List.mem_of_mem_tail hmem))) (by decide)
  · obtain rfl := beq_iff_eq.1 hs
    have hat : '@' ∉ site := fun hmem ↦ absurd (hsite '@' hmem) (by decide)
    have heq : authority = before.reverse ++ '@' :: site.reverse := by
      rw [← List.reverse_reverse authority, hauthority]
      simp
    rw [hcut, Option.getD_some, heq]
    cases hbefore : before.reverse with
    | nil => simpa [List.reverse_eq_nil_iff.1 hbefore] using hat
    | cons c rest =>
      have hne : before ≠ [] := by
        rintro rfl
        cases hbefore
      simp [hne]

/-- A text without a slash is an authority, and perhaps a query and a fragment. -/
theorem exists_tail {t : Text} (hslash : '/' ∉ t) :
    ∃ authority query fragment, t = authority ++ tail [] query fragment ∧
      (∀ c ∈ authority, Url.endsPart .authority c = false) ∧
      ∀ q ∈ query, ∀ c ∈ q, Url.endsPart .query c = false := by
  rcases Text.cut_cases (Url.endsPart .authority) t with
    ⟨-, hnone⟩ | ⟨authority, s, rest, -, rfl, hs, hauthority⟩
  · exact ⟨t, none, none, (List.append_nil t).symm, hnone, nofun⟩
  · have hslash : s ≠ '/' := by
      rintro rfl
      exact hslash (List.mem_append_right _ List.mem_cons_self)
    have hsign : s = '?' ∨ s = '#' := by
      simpa [Url.endsPart, hslash] using hs
    rcases hsign with rfl | rfl
    · rcases Text.cut_cases (Url.endsPart .query) rest with
        ⟨-, hnone⟩ | ⟨query, s, fragment, -, rfl, hs, hquery⟩
      · refine ⟨authority, some rest, none, by simp [tail], hauthority, ?_⟩
        rintro q ⟨⟩
        exact hnone
      · obtain rfl := beq_iff_eq.1 hs
        refine ⟨authority, some query, some fragment, by simp [tail], hauthority, ?_⟩
        rintro q ⟨⟩
        exact hquery
    · exact ⟨authority, none, some rest, by simp [tail], hauthority, nofun⟩

theorem append_tail_nil (authority : Text) : authority ++ tail [] none none = authority :=
  List.append_nil authority

/-- A query and a fragment begin with signs of their own. -/
theorem tail_eq_nil_iff {authority : Text} {query fragment : Option Text}
    (hauthority : ∀ c ∈ authority, Url.endsPart .authority c = false) :
    '?' ∉ authority ++ tail [] query fragment ∧ '#' ∉ authority ++ tail [] query fragment ↔
      query = none ∧ fragment = none := by
  have hsigns : '?' ∉ authority ∧ '#' ∉ authority :=
    ⟨fun hmem ↦ absurd (hauthority _ hmem) (by decide),
      fun hmem ↦ absurd (hauthority _ hmem) (by decide)⟩
  cases query <;> cases fragment <;> simp [tail, hsigns]

end Reference

namespace Url.IsScheme

variable (h : IsScheme scheme)
include h

theorem ofText_root {authority : Text} {query : Option Text} (fragment : Option Text)
    (hauthority : ∀ c ∈ authority, Url.endsPart .authority c = false)
    (hquery : ∀ q ∈ query, ∀ c ∈ q, Url.endsPart .query c = false) :
    Reference.ofText
        (scheme ++ ':' :: '/' :: '/' :: (authority ++ Reference.tail [] query fragment)) =
      { scheme, authority, path := [], query, fragment } :=
  Reference.ofText_eq fragment h.head (fun c hc ↦ (h.chars c hc).1) hauthority (.inl rfl) nofun
    hquery

theorem ofText_authority {authority : Text} (hplain : ∀ c ∈ authority, IsSitePlain c) :
    Reference.ofText (scheme ++ ':' :: '/' :: '/' :: authority) =
      ⟨scheme, authority, [], none, none⟩ := by
  have hnone : ∀ q ∈ (none : Option Text), ∀ c ∈ q, Url.endsPart .query c = false := nofun
  have hsplit := h.ofText_root none (fun c hc ↦ (hplain c hc).2.1) hnone
  rwa [Reference.append_tail_nil] at hsplit

theorem withSite_root (authority : Text) (query fragment : Option Text) (host : Text)
    (port : Option Int) :
    Reference.withSite ⟨scheme, authority, [], query, fragment⟩ host port =
      { scheme
        userinfo := Percent.encode Percent.userinfoSafe (Reference.authorityParts authority).1
        host
        port
        path := []
        query := query.map (Percent.encode Percent.querySafe)
        fragment := fragment.map (Percent.encode Percent.fragmentSafe) } := by
  simp only [Reference.withSite, h.lowerAscii, h.isEmpty, Bool.not_false, Bool.true_or, if_true]
  rfl

end Url.IsScheme

/-- **A site after a scheme is read as what it names**, unless it is too long. -/
theorem Site.parse_root_iff (s : Site scheme) (h : Url.IsScheme scheme) :
    Url.parse (scheme ++ ':' :: '/' :: '/' :: s.text) = .ok s.url ↔
      (scheme ++ ':' :: '/' :: '/' :: s.text).length ≤ Url.maxLength := by
  refine ⟨Url.length_le_of_parse, fun hlength ↦ ?_⟩
  have hcontrol := h.root_chars fun c hc ↦ (s.text_plain c hc).2.2
  rw [Url.parse, Url.checkText_eq_ok_iff.2 ⟨hlength, hcontrol⟩,
    h.ofText_authority s.text_plain]
  refine Reference.normalise_eq_ok_iff.2 ⟨s.host, s.port, ?_, ?_, ?_, ?_⟩
  · rw [s.authorityParts_text]
    exact s.names.normalise
  · rw [s.authorityParts_text]
    exact s.port_read
  · rw [h.lowerAscii, h.isEmpty]
    exact Reference.checkPath_of_rooted (.inl rfl) _
  · rw [h.withSite_root, s.authorityParts_text]
    rfl

/-- **Nothing but a site is read as an absolute address** if it has only characters that are kept. -/
theorem Site.exists_of_parse_root {t : Text} {u : Url} (h : Url.IsScheme scheme)
    (hkept : ∀ c ∈ t, Host.IsKept c) (hread : Url.parse (scheme ++ ':' :: '/' :: '/' :: t) = .ok u)
    (hne : u.host ≠ []) : ∃ s : Site scheme, s.text = t ∧ s.url = u := by
  obtain ⟨hostText, portText, rfl, hcolon⟩ : ∃ (hostText : Text) (portText : Option Text),
      t = hostText ++ portText.elim [] (':' :: ·) ∧ ∀ c ∈ hostText, c ≠ ':' := by
    rcases Text.cut_cases (· == ':') t with
      ⟨-, hnone⟩ | ⟨hostText, s, port, -, rfl, hs, hhost⟩
    · exact ⟨t, none, (List.append_nil t).symm, fun c hc ↦ beq_eq_false_iff_ne.1 (hnone c hc)⟩
    · obtain rfl := beq_iff_eq.1 hs
      exact ⟨hostText, some port, rfl, fun c hc ↦ beq_eq_false_iff_ne.1 (hhost c hc)⟩
  obtain ⟨hhost, hport⟩ := List.forall_mem_append.1 hkept
  have hplain : ∀ p ∈ portText, ∀ c ∈ p, IsSitePlain c ∧ c ≠ ']' := by
    rintro p rfl c hc
    have hc := (hport c (List.mem_cons_of_mem _ hc)).plain
    exact ⟨hc.1, hc.2.2⟩
  have hparts : Reference.authorityParts (hostText ++ portText.elim [] (':' :: ·)) =
      ([], hostText, portText.getD []) := by
    refine Reference.authorityParts_name (fun c hc ↦ ?_) fun p hp hmem ↦ (hplain p hp _ hmem).1.1 rfl
    exact ⟨(hhost c hc).plain.1.1, hcolon c hc, (hhost c hc).plain.2.1⟩
  obtain ⟨⟨⟩, -, hnormal⟩ := bind_eq_ok.1 hread
  rw [h.ofText_authority fun c hc ↦ (hkept c hc).plain.1] at hnormal
  obtain ⟨host, port, hnames, hreads, -, rfl⟩ := Reference.normalise_eq_ok_iff.1 hnormal
  rw [hparts] at hnames hreads
  have hkeeps := Host.names_of_normalise (fun c hc ↦ ⟨hhost c hc, hcolon c hc⟩) hne hnames
  refine ⟨⟨hostText, portText, host, port, hkeeps, hplain, hreads⟩, rfl, ?_⟩
  rw [h.withSite_root, hparts]
  rfl

/-- **A text without a slash that is read after a scheme has no path.**  It has no user information,
no query and no fragment exactly if it has no at sign after its first character, no question mark and
no number sign. -/
theorem Url.parse_root {t : Text} {u : Url} (h : Url.IsScheme scheme) (hslash : '/' ∉ t)
    (hread : parse (scheme ++ ':' :: '/' :: '/' :: t) = .ok u) :
    u.scheme = scheme ∧ u.path = [] ∧
      (u.userinfo = [] ∧ u.query = none ∧ u.fragment = none ↔
        '@' ∉ t.tail ∧ '?' ∉ t ∧ '#' ∉ t) := by
  obtain ⟨authority, query, fragment, rfl, hauthority, hquery⟩ := Reference.exists_tail hslash
  obtain ⟨⟨⟩, -, hnormal⟩ := bind_eq_ok.1 hread
  rw [h.ofText_root fragment hauthority hquery] at hnormal
  obtain ⟨host, port, -, -, -, rfl⟩ := Reference.normalise_eq_ok_iff.1 hnormal
  rw [h.withSite_root]
  refine ⟨rfl, rfl, ?_⟩
  have huserinfo : Percent.encode Percent.userinfoSafe (Reference.authorityParts authority).1 = [] ↔
      '@' ∉ authority.tail := by
    rw [← Reference.userinfo_eq_nil_iff]
    exact ⟨fun hnil ↦ Classical.byContradiction fun hne ↦ Percent.encode_ne_nil hne hnil,
      fun hnil ↦ by rw [hnil]; rfl⟩
  rw [Reference.tail_eq_nil_iff hauthority, Option.map_eq_none_iff, Option.map_eq_none_iff,
    huserinfo]
  -- without query and fragment, the text is the authority
  refine and_congr_left ?_
  rintro ⟨rfl, rfl⟩
  rw [Reference.append_tail_nil]

end InjectingProxy
