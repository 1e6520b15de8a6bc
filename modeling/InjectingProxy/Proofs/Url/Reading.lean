import InjectingProxy.Proofs.Number.Reading
import InjectingProxy.Proofs.Url.Build
import InjectingProxy.Proofs.Url.Host
import InjectingProxy.Proofs.Url.Path

/-!
# Reading addresses again

The text of an address shows its parts with separators between them.  If no part holds a character
that would end it (`Url.IsLegible`), then the text is split into these parts again
(`Reference.ofText_eq`, `Reference.authorityParts_append`), and since they are in their normal form,
reading the text gives the address (`Url.IsLegible.parse_text`), apart from two things: capital
letters in a host, and a port that belongs to the scheme.  An address without these two is read
again exactly as it is (`Url.IsLegible.parse_text_eq_iff`).

## What is here

* `Reference.ofText_eq`: the parts of a text that was made of parts.
* `Reference.authorityParts_name`, `Reference.authorityParts_bracketed`: the two kinds of hosts.
* `Url.IsScheme`: what can stand before the colon.
* `Url.IsLegible`: no part of the address holds what would end it.
* `Url.readBack`, `Url.IsReadBack`: what the text is read as, and which addresses stay the same.
-/

set_option autoImplicit false

namespace InjectingProxy

/-! ## Splitting a text -/

namespace Reference

theorem splitScheme_append {scheme : Text} (hhead : scheme.head?.any Char.isAlpha = true)
    (hscheme : ∀ c ∈ scheme, isSchemeChar c = true) (rest : Text) :
    splitScheme (scheme ++ ':' :: rest) = (scheme, rest) := by
  have hcolon : ∀ c ∈ (':' :: rest).head?, isSchemeChar c = false := by
    rintro c ⟨⟩
    decide
  rw [splitScheme, Text.takeWhile_append hscheme hcolon, Text.dropWhile_append hscheme hcolon]
  cases scheme with
  | nil => cases hhead
  | cons c scheme => exact if_pos hhead

theorem splitAuthority_append {authority rest : Text}
    (hauthority : ∀ c ∈ authority, Url.endsPart .authority c = false)
    (hrest : ∀ c ∈ rest.head?, Url.endsPart .authority c = true) :
    splitAuthority ('/' :: '/' :: (authority ++ rest)) = (authority, rest) := by
  have hinside : ∀ c ∈ authority, (!Url.endsPart .authority c) = true := fun c hc ↦ by
    rw [hauthority c hc, Bool.not_false]
  have hend : ∀ c ∈ rest.head?, (!Url.endsPart .authority c) = false := fun c hc ↦ by
    rw [hrest c hc, Bool.not_true]
  rw [splitAuthority, Text.takeWhile_append hinside hend, Text.dropWhile_append hinside hend]

/-- The parts that stand after an authority. -/
def tail (path : Text) (query fragment : Option Text) : Text :=
  path ++ query.elim [] ('?' :: ·) ++ fragment.elim [] ('#' :: ·)

theorem cut_tail {path : Text} {query : Option Text} (fragment : Option Text)
    (hpath : ∀ c ∈ path, Url.endsPart .path c = false)
    (hquery : ∀ q ∈ query, ∀ c ∈ q, Url.endsPart .query c = false) :
    Text.cut (· == '#') (tail path query fragment) =
      (path ++ query.elim [] ('?' :: ·), fragment) := by
  refine Text.cut_append_elim (List.forall_mem_append.2 ⟨fun c hc ↦ ?_, ?_⟩) rfl fragment
  · exact (Bool.or_eq_false_iff.1 (hpath c hc)).2
  · cases query with
    | none => exact nofun
    | some q => exact List.forall_mem_cons.2 ⟨by decide, hquery q rfl⟩

theorem ends_of_head?_tail {path : Text} (hrooted : path = [] ∨ path.head? = some '/')
    (query fragment : Option Text) :
    ∀ c ∈ (tail path query fragment).head?, Url.endsPart .authority c = true := by
  rcases hrooted with rfl | hrooted
  · cases query with
    | none =>
      cases fragment with
      | none => exact nofun
      | some f =>
        rintro c ⟨⟩
        rfl
    | some q =>
      rintro c ⟨⟩
      rfl
  · obtain ⟨rest, rfl⟩ := List.head?_eq_some_iff.1 hrooted
    rintro c ⟨⟩
    rfl

/-- **The parts of a text are those that it was made of**, if none of them holds a character that
ends it. -/
theorem ofText_eq {scheme authority path : Text} {query : Option Text} (fragment : Option Text)
    (hhead : scheme.head?.any Char.isAlpha = true)
    (hscheme : ∀ c ∈ scheme, isSchemeChar c = true)
    (hauthority : ∀ c ∈ authority, Url.endsPart .authority c = false)
    (hrooted : path = [] ∨ path.head? = some '/')
    (hpath : ∀ c ∈ path, Url.endsPart .path c = false)
    (hquery : ∀ q ∈ query, ∀ c ∈ q, Url.endsPart .query c = false) :
    ofText (scheme ++ ':' :: '/' :: '/' :: (authority ++ tail path query fragment)) =
      { scheme, authority, path, query, fragment } := by
  have hquestion : ∀ c ∈ path, (c == '?') = false := fun c hc ↦
    (Bool.or_eq_false_iff.1 (hpath c hc)).1
  rw [ofText, splitScheme_append hhead hscheme]
  dsimp only
  rw [splitAuthority_append hauthority (ends_of_head?_tail hrooted query fragment)]
  dsimp only
  rw [cut_tail fragment hpath hquery]
  dsimp only
  rw [Text.cut_append_elim hquestion rfl]

/-- After a scheme, a path that begins with a slash fits to any authority, and so does none. -/
theorem checkPath_of_rooted {path : Text} (h : path = [] ∨ path.head? = some '/')
    (hasAuthority : Bool) : checkPath true hasAuthority path = .ok () := by
  rcases h with rfl | h
  · cases hasAuthority <;> rfl
  · obtain ⟨rest, rfl⟩ := List.head?_eq_some_iff.1 h
    cases hasAuthority <;> rfl

/-! ## The parts of an authority -/

/-- User information stands before the last at sign. -/
theorem authorityParts_append {site : Text} (hsite : '@' ∉ site) (userinfo : Text) :
    authorityParts ((if userinfo.isEmpty then [] else userinfo ++ ['@']) ++ site) =
      (userinfo, (authorityParts site).2) := by
  have hnone : ∀ c ∈ site.reverse, (c == '@') = false := fun c hc ↦
    beq_false_of_ne fun he ↦ hsite (he ▸ List.mem_reverse.1 hc)
  have hcut : Text.cut (· == '@')
      ((if userinfo.isEmpty then [] else userinfo ++ ['@']) ++ site).reverse =
        (site.reverse, if userinfo.isEmpty then none else some userinfo.reverse) := by
    cases userinfo with
    | nil => exact Text.cut_of_none hnone
    | cons c userinfo =>
      rw [if_neg (by simp), if_neg (by simp), List.reverse_append, List.reverse_append,
        List.reverse_singleton, List.singleton_append]
      exact Text.cut_append hnone rfl _
  rw [authorityParts, hcut, authorityParts, Text.cut_of_none hnone]
  cases userinfo with
  | nil => rfl
  | cons c userinfo =>
    simp

/-- What is left of an authority without user information. -/
theorem authorityParts_of_site {site : Text} (h : '@' ∉ site) :
    authorityParts site =
      let (afterBracket, inner) := Text.cut (· == ']') site.reverse
      let (host, rest) :=
        match site, inner with
        | '[' :: _, some inner => ((']' :: inner).reverse, afterBracket.reverse)
        | _, _ => (site.takeWhile (· != ':'), site.dropWhile (· != ':'))
      ([], host, if rest.head? == some ':' then rest.tail else rest) := by
  have hnone : ∀ c ∈ site.reverse, (c == '@') = false := fun c hc ↦
    beq_false_of_ne fun he ↦ h (he ▸ List.mem_reverse.1 hc)
  rw [authorityParts, Text.cut_of_none hnone]
  simp only [List.reverse_reverse]
  rfl

/-- The port stands after a colon. -/
theorem tail_of_port (port : Option Text) :
    (let rest := port.elim [] (':' :: ·); if rest.head? == some ':' then rest.tail else rest) =
      port.getD [] := by
  cases port <;> rfl

/-- A name ends at a colon. -/
theorem authorityParts_name {host : Text} {port : Option Text}
    (hhost : ∀ c ∈ host, c ≠ '@' ∧ c ≠ ':' ∧ c ≠ '[') (hport : ∀ p ∈ port, '@' ∉ p) :
    authorityParts (host ++ port.elim [] (':' :: ·)) = ([], host, port.getD []) := by
  have hat : '@' ∉ host ++ port.elim [] (':' :: ·) := by
    rw [List.mem_append, not_or]
    refine ⟨fun hmem ↦ (hhost _ hmem).1 rfl, ?_⟩
    cases port with
    | none => exact List.not_mem_nil
    | some p => exact List.not_mem_cons_of_ne_of_not_mem (by decide) (hport p rfl)
  have hbefore : ∀ c ∈ host, (c != ':') = true := fun c hc ↦ bne_iff_ne.2 (hhost c hc).2.1
  have hcolon : ∀ c ∈ (port.elim [] (':' :: ·) : Text).head?, (c != ':') = false := by
    cases port with
    | none => exact nofun
    | some p =>
      rintro c ⟨⟩
      rfl
  rw [authorityParts_of_site hat, ← tail_of_port port]
  dsimp only
  split
  · rename_i rest inner heq _
    cases host with
    | nil => cases port <;> cases heq
    | cons c host =>
      cases heq
      exact absurd rfl (hhost '[' List.mem_cons_self).2.2
  · rw [Text.takeWhile_append hbefore hcolon, Text.dropWhile_append hbefore hcolon]

/-- An address of eight words ends at its closing bracket. -/
theorem authorityParts_bracketed {host : Text} {port : Option Text} (hhost : '@' ∉ host)
    (hport : ∀ p ∈ port, '@' ∉ p ∧ ']' ∉ p) :
    authorityParts ('[' :: host ++ ']' :: port.elim [] (':' :: ·)) =
      ([], '[' :: host ++ [']'], port.getD []) := by
  have hplain : '@' ∉ (port.elim [] (':' :: ·) : Text) ∧
      ']' ∉ (port.elim [] (':' :: ·) : Text) := by
    cases port with
    | none => exact ⟨List.not_mem_nil, List.not_mem_nil⟩
    | some p =>
      exact ⟨List.not_mem_cons_of_ne_of_not_mem (by decide) (hport p rfl).1,
        List.not_mem_cons_of_ne_of_not_mem (by decide) (hport p rfl).2⟩
  have hat : '@' ∉ '[' :: host ++ ']' :: port.elim [] (':' :: ·) := by
    simp [hhost, hplain.1]
  have hcut : Text.cut (· == ']') ('[' :: host ++ ']' :: port.elim [] (':' :: ·)).reverse =
      ((port.elim [] (':' :: ·)).reverse, some ('[' :: host).reverse) := by
    rw [List.reverse_append, List.reverse_cons, List.append_assoc, List.singleton_append]
    refine Text.cut_append (fun c hc ↦ ?_) rfl _
    exact beq_false_of_ne fun he ↦ hplain.2 (he ▸ List.mem_reverse.1 hc)
  rw [authorityParts_of_site hat, hcut, ← tail_of_port port]
  simp

end Reference

namespace Url

/-! ## Texts of addresses -/

/-- The character neither ends an authority nor separates its parts, and is no control character. -/
def IsSitePlain (c : Char) : Prop :=
  c ≠ '@' ∧ endsPart .authority c = false ∧ isControl c = false

instance (c : Char) : Decidable (IsSitePlain c) := inferInstanceAs (Decidable (_ ∧ _ ∧ _))

theorem isControl_of_isPrintableAscii {c : Char} (h : Percent.isPrintableAscii c = true) :
    isControl c = false :=
  forall_ascii (p := fun c ↦ Percent.isPrintableAscii c = true → isControl c = false) (by decide)
    (Percent.ascii_of_isPrintableAscii h) h

theorem endsPart_of_pathSafe {c : Char} (h : Percent.pathSafe c = true) :
    endsPart .path c = false :=
  forall_ascii (p := fun c ↦ Percent.pathSafe c = true → endsPart .path c = false) (by decide)
    (Percent.ascii_of_isPrintableAscii (Bool.and_eq_true_iff.1 h).1) h

theorem endsPart_of_querySafe {c : Char} (h : Percent.querySafe c = true) :
    endsPart .query c = false :=
  forall_ascii (p := fun c ↦ Percent.querySafe c = true → endsPart .query c = false) (by decide)
    (Percent.ascii_of_isPrintableAscii (Bool.and_eq_true_iff.1 h).1) h

theorem ascii_of_isSchemeChar {c : Char} (h : Reference.isSchemeChar c = true) :
    c.toNat < 0x80 := by
  simp only [Reference.isSchemeChar, Bool.or_eq_true, beq_iff_eq] at h
  rcases h with ((h | rfl) | rfl) | rfl
  · have hunreserved : Percent.isUnreserved c = true := by
      rw [Percent.isUnreserved, h, Bool.true_or]
    exact Nat.lt_of_le_of_lt (Percent.toNat_of_isUnreserved hunreserved).2 (by decide)
  · decide
  · decide
  · decide

theorem isControl_of_isSchemeChar {c : Char} (h : Reference.isSchemeChar c = true) :
    isControl c = false :=
  forall_ascii (p := fun c ↦ Reference.isSchemeChar c = true → isControl c = false) (by decide)
    (ascii_of_isSchemeChar h) h

theorem isSitePlain_of_userinfoSafe {c : Char} (h : Percent.userinfoSafe c = true) :
    IsSitePlain c :=
  forall_ascii (p := fun c ↦ Percent.userinfoSafe c = true → IsSitePlain c) (by decide)
    (Percent.ascii_of_isPrintableAscii (Bool.and_eq_true_iff.1 h).1) h

theorem isSitePlain_of_hostSafe {c : Char} (h : Percent.hostSafe c = true) : IsSitePlain c :=
  forall_ascii (p := fun c ↦ Percent.hostSafe c = true → IsSitePlain c) (by decide)
    (Host.ascii_of_hostSafe h) h

theorem hostSafe_of_toString {n : Int} : ∀ c ∈ (toString n).toList, Percent.hostSafe c = true := by
  intro c hc
  rcases Whole.toString_chars n c hc with rfl | hdigit
  · decide
  · exact Host.hostSafe_of_digit (.inr hdigit)

theorem length_le_of_parse {t : Text} {u : Url} (h : parse t = .ok u) : t.length ≤ maxLength := by
  obtain ⟨⟨⟩, htext, -⟩ := bind_eq_ok.1 h
  exact (checkText_eq_ok_iff.1 htext).1

/-- The text can stand before a colon, as the scheme of an address. -/
structure IsScheme (scheme : Text) : Prop where
  head : scheme.head?.any Char.isAlpha = true
  chars : ∀ c ∈ scheme, Reference.isSchemeChar c = true ∧ c.toLower = c

namespace IsScheme

variable {scheme : Text} (h : IsScheme scheme)
include h

theorem ne_nil : scheme ≠ [] := by
  rintro rfl
  cases h.head

theorem isEmpty : scheme.isEmpty = false :=
  Bool.eq_false_iff.2 fun hnil ↦ h.ne_nil (List.isEmpty_iff.1 hnil)

theorem lowerAscii : Text.lowerAscii scheme = scheme :=
  (List.map_congr_left fun c hc ↦ (h.chars c hc).2).trans scheme.map_id

/-- What stands before an authority has no control characters. -/
theorem root_chars {t : Text} (ht : ∀ c ∈ t, isControl c = false) :
    ∀ c ∈ scheme ++ ':' :: '/' :: '/' :: t, isControl c = false := by
  refine List.forall_mem_append.2 ⟨fun c hc ↦ isControl_of_isSchemeChar (h.chars c hc).1, ?_⟩
  exact List.forall_mem_cons.2 ⟨by decide, List.forall_mem_cons.2 ⟨by decide,
    List.forall_mem_cons.2 ⟨by decide, ht⟩⟩⟩

end IsScheme

/-- An absolute address whose parts hold no characters that would end them in its text. -/
structure IsLegible (u : Url) : Prop where
  scheme_head : u.scheme.head?.any Char.isAlpha = true
  scheme_chars : ∀ c ∈ u.scheme, Reference.isSchemeChar c = true ∧ c.toLower = c
  userinfo : ∀ c ∈ u.userinfo, Percent.userinfoSafe c = true
  host_ne : u.host ≠ []
  host_chars : (∀ c ∈ u.host, Percent.hostSafe c = true) ∨
    Host.isIpv6 u.host = true ∧ ∀ c ∈ u.host, IsSitePlain c
  port : ∀ n ∈ u.port, Whole.IsSmall n
  path_rooted : u.path = [] ∨ u.path.head? = some '/'
  path_normal : Path.IsNormal u.path
  path_chars : ∀ c ∈ u.path, Percent.pathSafe c = true
  query : ∀ q ∈ u.query, ∀ c ∈ q, Percent.querySafe c = true
  fragment : ∀ f ∈ u.fragment, ∀ c ∈ f, Percent.fragmentSafe c = true

/-- The host as it stands in a text. -/
def hostText (u : Url) : Text := if u.host.contains ':' then '[' :: u.host ++ [']'] else u.host

/-- The port as it stands in a text. -/
def portText (u : Url) : Option Text := u.port.map fun n ↦ (toString n).toList

theorem portText_chars (u : Url) : ∀ p ∈ u.portText, ∀ c ∈ p, Percent.hostSafe c = true := by
  intro p hp
  obtain ⟨n, -, rfl⟩ := Option.map_eq_some_iff.1 hp
  exact hostSafe_of_toString

theorem netloc_eq (u : Url) : u.netloc = u.hostText ++ u.portText.elim [] (':' :: ·) := by
  rw [netloc, hostText, portText]
  cases u.port <;> rfl

theorem authority_eq (u : Url) :
    u.authority = (if u.userinfo.isEmpty then [] else u.userinfo ++ ['@']) ++ u.netloc :=
  rfl

theorem host_eq_nil_of_authority {u : Url} (h : u.authority = []) : u.host = [] := by
  rw [authority_eq, netloc_eq, List.append_eq_nil_iff, List.append_eq_nil_iff, hostText] at h
  obtain ⟨-, hhost, -⟩ := h
  split at hhost
  · cases hhost
  · exact hhost

theorem text_eq {u : Url} (hscheme : u.scheme ≠ []) (hauthority : u.authority ≠ []) :
    u.text = u.scheme ++ ':' :: '/' :: '/' ::
      (u.authority ++ Reference.tail u.path u.query u.fragment) := by
  rw [text, if_neg fun h ↦ hscheme (List.isEmpty_iff.1 h),
    if_neg fun h ↦ hauthority (List.isEmpty_iff.1 h), Reference.tail]
  cases u.query <;> cases u.fragment <;> simp

/-- What the text of a legible address is read as.  Capital letters of a host become small ones, and
the port that belongs to the scheme is left out. -/
def readBack (u : Url) : Url :=
  { u with
    host := if u.host.contains ':' then u.host else Text.lowerAscii u.host
    port := u.port.filter fun n ↦ Reference.defaultPorts.lookup u.scheme != some n }

namespace IsLegible

variable {u : Url} (h : u.IsLegible)
include h

/-- There are colons in addresses of eight words only. -/
theorem host_cases : ':' ∉ u.host ∧ (∀ c ∈ u.host, Percent.hostSafe c = true) ∨
    ':' ∈ u.host ∧ Host.isIpv6 u.host = true ∧ ∀ c ∈ u.host, IsSitePlain c := by
  rcases h.host_chars with hsafe | ⟨hipv6, hplain⟩
  · exact .inl ⟨fun hmem ↦ absurd (hsafe _ hmem) (by decide), hsafe⟩
  · exact .inr ⟨Text.mem_of_mem_cut (Host.isIpv6_chars hipv6).2.1, hipv6, hplain⟩

theorem netloc_chars : ∀ c ∈ u.netloc, IsSitePlain c := by
  rw [netloc_eq]
  refine List.forall_mem_append.2 ⟨?_, ?_⟩
  · have hhost : ∀ c ∈ u.host, IsSitePlain c :=
      h.host_chars.elim (fun hsafe c hc ↦ isSitePlain_of_hostSafe (hsafe c hc)) fun h ↦ h.2
    rw [hostText]
    split
    · exact List.forall_mem_append.2 ⟨List.forall_mem_cons.2 ⟨by decide, hhost⟩,
        List.forall_mem_cons.2 ⟨by decide, nofun⟩⟩
    · exact hhost
  · cases hport : u.portText with
    | none => exact nofun
    | some p =>
      exact List.forall_mem_cons.2
        ⟨by decide, fun c hc ↦ isSitePlain_of_hostSafe (portText_chars u p hport c hc)⟩

theorem authority_chars :
    ∀ c ∈ u.authority, endsPart .authority c = false ∧ isControl c = false := by
  rw [authority_eq]
  refine List.forall_mem_append.2 ⟨?_, fun c hc ↦ (h.netloc_chars c hc).2⟩
  split
  · exact nofun
  · refine List.forall_mem_append.2 ⟨fun c hc ↦ ?_, List.forall_mem_cons.2 ⟨by decide, nofun⟩⟩
    exact (isSitePlain_of_userinfoSafe (h.userinfo c hc)).2

/-- **The parts of the authority are read again.** -/
theorem authorityParts_authority : Reference.authorityParts u.authority =
    (u.userinfo, u.hostText, u.portText.getD []) := by
  have hat : '@' ∉ u.netloc := fun hmem ↦ (h.netloc_chars _ hmem).1 rfl
  have hport : ∀ p ∈ u.portText, '@' ∉ p ∧ ']' ∉ p := fun p hp ↦
    ⟨fun hmem ↦ absurd (portText_chars u p hp _ hmem) (by decide),
      fun hmem ↦ absurd (portText_chars u p hp _ hmem) (by decide)⟩
  rw [authority_eq, Reference.authorityParts_append hat, netloc_eq, hostText]
  rcases h.host_cases with ⟨hcolon, hsafe⟩ | ⟨hcolon, -, hplain⟩
  · have hname : ∀ c ∈ u.host, c ≠ '@' ∧ c ≠ ':' ∧ c ≠ '[' := by
      intro c hc
      refine ⟨?_, ?_, ?_⟩ <;>
        (rintro rfl; exact absurd (hsafe _ hc) (by decide))
    rw [if_neg fun hmem ↦ hcolon (List.contains_iff_mem.1 hmem),
      Reference.authorityParts_name hname fun p hp ↦ (hport p hp).1]
  · rw [if_pos (List.contains_iff_mem.2 hcolon), List.append_assoc, List.singleton_append,
      Reference.authorityParts_bracketed (fun hmem ↦ (hplain _ hmem).1 rfl) hport]

theorem isScheme : IsScheme u.scheme := ⟨h.scheme_head, h.scheme_chars⟩

theorem authority_ne : u.authority ≠ [] := mt host_eq_nil_of_authority h.host_ne

/-- **The parts of the text are those of the address.** -/
theorem ofText_text : Reference.ofText u.text = u.reference := by
  rw [text_eq h.isScheme.ne_nil h.authority_ne]
  exact Reference.ofText_eq u.fragment h.scheme_head (fun c hc ↦ (h.scheme_chars c hc).1)
    (fun c hc ↦ (h.authority_chars c hc).1) h.path_rooted
    (fun c hc ↦ endsPart_of_pathSafe (h.path_chars c hc))
    fun q hq c hc ↦ endsPart_of_querySafe (h.query q hq c hc)

theorem text_chars : ∀ c ∈ u.text, isControl c = false := by
  have hpath : ∀ c ∈ u.path, isControl c = false := fun c hc ↦
    isControl_of_isPrintableAscii (Bool.and_eq_true_iff.1 (h.path_chars c hc)).1
  have hquery : ∀ c ∈ (u.query.elim [] ('?' :: ·) : Text), isControl c = false := by
    cases hq : u.query with
    | none => exact nofun
    | some q =>
      exact List.forall_mem_cons.2 ⟨by decide, fun c hc ↦
        isControl_of_isPrintableAscii (Bool.and_eq_true_iff.1 (h.query q hq c hc)).1⟩
  have hfragment : ∀ c ∈ (u.fragment.elim [] ('#' :: ·) : Text), isControl c = false := by
    cases hf : u.fragment with
    | none => exact nofun
    | some f =>
      exact List.forall_mem_cons.2 ⟨by decide, fun c hc ↦
        isControl_of_isPrintableAscii (Bool.and_eq_true_iff.1 (h.fragment f hf c hc)).1⟩
  rw [text_eq h.isScheme.ne_nil h.authority_ne]
  exact h.isScheme.root_chars (List.forall_mem_append.2
    ⟨fun c hc ↦ (h.authority_chars c hc).2, List.forall_mem_append.2
      ⟨List.forall_mem_append.2 ⟨hpath, hquery⟩, hfragment⟩⟩)

/-- The host of the address when it is read again. -/
theorem normalise_hostText : Host.normalise u.hostText =
    if Host.resemblesIpv4 u.host && !Host.isIpv4 u.host then .error (.ipv4 u.host)
    else .ok (if u.host.contains ':' then u.host else Text.lowerAscii u.host) := by
  rcases h.host_cases with ⟨hcolon, hsafe⟩ | ⟨hcolon, hipv6, -⟩
  · have hcontains : u.host.contains ':' = false :=
      Bool.eq_false_iff.2 fun hmem ↦ hcolon (List.contains_iff_mem.1 hmem)
    rw [hostText, hcontains]
    exact Host.normalise_of_safe h.host_ne hsafe
  · have hcontains : u.host.contains ':' = true := List.contains_iff_mem.2 hcolon
    have hresembles : Host.resemblesIpv4 u.host = false :=
      Bool.eq_false_iff.2 fun hr ↦ absurd (Host.resemblesIpv4_chars hr ':' hcolon) (by decide)
    rw [hostText, hcontains, hresembles]
    exact Host.normalise_bracketed hipv6

/-- The port of the address when it is read again. -/
theorem portOf_portText : Reference.portOf u.scheme (u.portText.getD []) =
    .ok (u.port.filter fun n ↦ Reference.defaultPorts.lookup u.scheme != some n) := by
  rw [portText]
  cases hport : u.port with
  | none => rfl
  | some n =>
    rw [Option.map_some, Option.getD_some, Reference.portOf,
      if_neg fun hnil ↦ Whole.toString_ne_nil n (List.isEmpty_iff.1 hnil),
      Whole.read_toString (h.port n hport), Option.filter_some]
    by_cases hdefault : Reference.defaultPorts.lookup u.scheme = some n <;> simp [hdefault]

/-- **The text of an address is read as the address**, apart from its host and its port. -/
theorem parse_text (hlength : u.text.length ≤ maxLength) :
    parse u.text =
      if Host.resemblesIpv4 u.host && !Host.isIpv4 u.host then .error (.host (.ipv4 u.host))
      else .ok u.readBack := by
  have hnormal : Path.normalise u.path = u.path := Path.normalise_of_isNormal h.path_normal
  have hquery : u.query.map (Percent.encode Percent.querySafe) = u.query := by
    cases hq : u.query with
    | none => rfl
    | some q => exact congrArg some (Percent.encode_of_safe (h.query q hq))
  have hfragment : u.fragment.map (Percent.encode Percent.fragmentSafe) = u.fragment := by
    cases hf : u.fragment with
    | none => rfl
    | some f => exact congrArg some (Percent.encode_of_safe (h.fragment f hf))
  have hparse : parse u.text = u.reference.normaliseWith none := by
    rw [parse, checkText_eq_ok_iff.2 ⟨hlength, h.text_chars⟩, h.ofText_text]
    rfl
  rw [hparse, Reference.normaliseWith, reference]
  dsimp only
  rw [h.authorityParts_authority]
  dsimp only
  rw [Option.getD_none, h.normalise_hostText, h.portOf_portText, h.isScheme.lowerAscii,
    Percent.encode_of_safe h.userinfo]
  split
  · rfl
  · rw [h.isScheme.isEmpty]
    simp only [Except.mapError, Bool.not_false, Bool.true_or, if_true]
    refine bind_eq_ok.2 ⟨_, rfl, bind_eq_ok.2 ⟨_, rfl, bind_eq_ok.2 ⟨(), ?_, ?_⟩⟩⟩
    · exact Reference.checkPath_of_rooted h.path_rooted _
    · rw [hnormal, Percent.encode_of_safe h.path_chars, hquery, hfragment]
      rfl

theorem parse_text_eq_ok_iff {v : Url} : parse u.text = .ok v ↔
    u.text.length ≤ maxLength ∧
      (Host.resemblesIpv4 u.host = true → Host.isIpv4 u.host = true) ∧ u.readBack = v := by
  have hfits : (Host.resemblesIpv4 u.host && !Host.isIpv4 u.host) = false ↔
      (Host.resemblesIpv4 u.host = true → Host.isIpv4 u.host = true) := by
    cases Host.resemblesIpv4 u.host <;> cases Host.isIpv4 u.host <;> decide
  constructor
  · intro hread
    have hlength := length_le_of_parse hread
    rw [h.parse_text hlength] at hread
    split at hread
    · cases hread
    · rename_i hmisfit
      exact ⟨hlength, hfits.1 (Bool.eq_false_iff.2 hmisfit), Except.ok.inj hread⟩
  · rintro ⟨hlength, hfit, rfl⟩
    rw [h.parse_text hlength, hfits.2 hfit]
    rfl

end IsLegible

/-! ## Addresses that are read again as they are -/

/-- The address is read again as it is: the host has no capital letters and is
not meant as an address of four numbers without being one, and the port is not the one that belongs
to the scheme. -/
structure IsReadBack (u : Url) : Prop where
  host_small : ':' ∈ u.host ∨ ∀ c ∈ u.host, c.isUpper = false
  host_fits : Host.resemblesIpv4 u.host = true → Host.isIpv4 u.host = true
  port : ∀ n ∈ u.port, Reference.defaultPorts.lookup u.scheme ≠ some n

theorem toLower_eq_iff {c : Char} : c.toLower = c ↔ c.isUpper = false := by
  constructor
  · intro hlower
    refine Bool.eq_false_iff.2 fun hupper ↦ ?_
    have hrange : 65 ≤ c.toNat ∧ c.toNat ≤ 90 := of_decide_eq_true hupper
    exact forall_ascii (p := fun c ↦ c.isUpper = true → c.toLower ≠ c) (by decide) (by omega)
      hupper hlower
  · intro hupper
    exact dif_neg (of_decide_eq_false hupper)

theorem lowerAscii_eq_iff {t : Text} :
    Text.lowerAscii t = t ↔ ∀ c ∈ t, c.isUpper = false := by
  induction t with
  | nil => exact ⟨fun _ ↦ nofun, fun _ ↦ rfl⟩
  | cons c t ih =>
    rw [List.forall_mem_cons, ← ih, ← toLower_eq_iff, Text.lowerAscii, List.map_cons,
      List.cons.injEq, Text.lowerAscii]

theorem readBack_eq_iff {u : Url} : u.readBack = u ↔
    (':' ∈ u.host ∨ ∀ c ∈ u.host, c.isUpper = false) ∧
      ∀ n ∈ u.port, Reference.defaultPorts.lookup u.scheme ≠ some n := by
  have hhost : (if u.host.contains ':' then u.host else Text.lowerAscii u.host) = u.host ↔
      ':' ∈ u.host ∨ ∀ c ∈ u.host, c.isUpper = false := by
    split
    · rename_i hcolon
      exact ⟨fun _ ↦ .inl (List.contains_iff_mem.1 hcolon), fun _ ↦ rfl⟩
    · rename_i hcolon
      rw [lowerAscii_eq_iff]
      exact ⟨.inr, fun h ↦ h.resolve_left fun hmem ↦ hcolon (List.contains_iff_mem.2 hmem)⟩
  have hport : (u.port.filter fun n ↦ Reference.defaultPorts.lookup u.scheme != some n) = u.port ↔
      ∀ n ∈ u.port, Reference.defaultPorts.lookup u.scheme ≠ some n := by
    cases hp : u.port with
    | none => exact ⟨fun _ ↦ nofun, fun _ ↦ rfl⟩
    | some n => simp
  rw [← hhost, ← hport]
  exact ⟨fun h ↦ ⟨congrArg Url.host h, congrArg Url.port h⟩,
    fun ⟨hh, hp⟩ ↦ by rw [readBack, hh, hp]⟩

/-- **Which texts are read as the address**, and nothing else. -/
theorem IsLegible.parse_text_eq_iff {u : Url} (h : u.IsLegible)
    (hlength : u.text.length ≤ maxLength) : parse u.text = .ok u ↔ u.IsReadBack := by
  rw [h.parse_text_eq_ok_iff, readBack_eq_iff]
  exact ⟨fun ⟨_, hfits, hsmall, hport⟩ ↦ ⟨hsmall, hfits, hport⟩,
    fun hread ↦ ⟨hlength, hread.host_fits, hread.host_small, hread.port⟩⟩

end Url
end InjectingProxy
