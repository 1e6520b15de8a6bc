import InjectingProxy.Proofs.Relay
import InjectingProxy.Proofs.Url.Redirect

/-!
# Answers that point to another address

An answer that points to another address is handed on if its location makes sense for the request
(`Redirect.follow`).  A location that is no address is told from everything else
(`Redirect.follow_eq_location_iff`); those that are addresses lead somewhere in three steps
(`Redirect.follow_eq_ok_iff`), which come to one condition for absolute locations
(`Redirect.follows_absolute_iff`), one for those with a host only (`Redirect.follows_network_iff`)
and one for those without (`Redirect.follows_relative_iff`).

From these, `Relay.Call.redirect_relayed_iff` says which redirects below an absolute root are
relayed and what becomes of the others (`Relay.Call.IsRedirected`).  None is followed.
-/

set_option autoImplicit false

namespace InjectingProxy

namespace Redirect

variable {asked named : Url} {location : Text}

/-! ## Locations that are no addresses -/

theorem withHost_ne_location (f : Url.Fault) : withHost asked named ≠ .error (.location f) := by
  rw [withHost]
  split
  · exact nofun
  · refine bind_ne_error (mapError_ne_error nofun) fun shown ↦ ?_
    split
    · exact bind_ne_error (mapError_ne_error nofun) fun _ ↦ mapError_ne_error nofun
    · exact nofun

theorem resolve_ne_location (f : Url.Fault) : resolve asked named ≠ .error (.location f) := by
  rw [resolve]
  split
  · exact nofun
  · split
    · exact nofun
    · exact mapError_ne_error nofun

theorem withFragment_ne_location (f : Url.Fault) :
    withFragment asked named ≠ .error (.location f) := by
  rw [withFragment]
  split
  · exact nofun
  · exact mapError_ne_error nofun

/-- A location that is no address, and nothing else, is refused as one. -/
theorem follow_eq_location_iff {f : Url.Fault} :
    follow asked location = .error (.location f) ↔ Url.parse location = .error f := by
  rw [follow]
  cases hread : Url.parse location with
  | error f' => exact ⟨fun h ↦ by cases h; rfl, fun h ↦ by cases h; rfl⟩
  | ok named =>
    refine ⟨fun h ↦ absurd h ?_, nofun⟩
    refine bind_ne_error nofun fun _ ↦ bind_ne_error (withHost_ne_location f) fun _ ↦
      bind_ne_error (resolve_ne_location f) fun _ ↦
        bind_ne_error (withFragment_ne_location f) fun _ ↦ ?_
    exact bind_ne_error (discard_ne_error (mapError_ne_error nofun)) fun _ ↦
      bind_ne_error (discard_ne_error (mapError_ne_error nofun)) fun _ ↦
        bind_ne_error (discard_ne_error (mapError_ne_error nofun)) fun _ ↦ nofun

/-! ## Locations that lead somewhere -/

/-- A location leads to an address in three steps, if requests can be made to that address. -/
theorem follow_eq_ok_iff {v : Url} (hasked : asked.IsAddressable) :
    follow asked location = .ok v ↔ ∃ named hosted absolute, Url.parse location = .ok named ∧
      withHost asked named = .ok hosted ∧ resolve asked hosted = .ok absolute ∧
        withFragment asked absolute = .ok v ∧ v.IsAddressable := by
  simp only [follow, bind_eq_ok, mapError_eq_ok]
  constructor
  · rintro ⟨named, hnamed, hosted, hhosted, absolute, habsolute, whole, hwhole,
      ⟨⟩, -, ⟨⟩, hshown, ⟨⟩, hheld, hv⟩
    cases hv
    obtain ⟨t, hshown⟩ := discard_eq_ok.1 hshown
    obtain ⟨site, hheld⟩ := discard_eq_ok.1 hheld
    exact ⟨named, hosted, absolute, hnamed, hhosted, habsolute, hwhole,
      ⟨t, mapError_eq_ok.1 hshown⟩, ⟨site, mapError_eq_ok.1 hheld⟩⟩
  · rintro ⟨named, hosted, absolute, hnamed, hhosted, habsolute, hwhole,
      ⟨t, hshown⟩, ⟨site, hheld⟩⟩
    obtain ⟨own, hown⟩ := hasked.shown
    exact ⟨named, hnamed, hosted, hhosted, absolute, habsolute, v, hwhole,
      (), discard_eq_ok.2 ⟨own, mapError_eq_ok.2 hown⟩,
      (), discard_eq_ok.2 ⟨t, mapError_eq_ok.2 hshown⟩,
      (), discard_eq_ok.2 ⟨site, mapError_eq_ok.2 hheld⟩, rfl⟩

/-- Nothing is missing from an absolute address, if its host can be shown. -/
theorem withHost_eq_ok_iff (habs : named.isAbsolute = true) {v : Url} :
    withHost asked named = .ok v ↔ (∃ t, named.displayHost = .ok t) ∧ v = named := by
  rw [withHost, Url.scheme_of_isAbsolute habs, if_neg Bool.false_ne_true, bind_eq_ok]
  simp only [mapError_eq_ok]
  constructor
  · rintro ⟨shown, hshown, hv⟩
    have hne := Url.ne_nil_of_displayHost hshown (Url.host_ne_of_isAbsolute habs)
    rw [if_neg fun h ↦ hne (List.isEmpty_iff.1 h)] at hv
    cases hv
    exact ⟨⟨shown, hshown⟩, rfl⟩
  · rintro ⟨⟨shown, hshown⟩, rfl⟩
    have hne := Url.ne_nil_of_displayHost hshown (Url.host_ne_of_isAbsolute habs)
    refine ⟨shown, hshown, ?_⟩
    rw [if_neg fun h ↦ hne (List.isEmpty_iff.1 h)]
    rfl

theorem withHost_of_scheme (h : named.scheme = []) : withHost asked named = .ok named := by
  rw [withHost, h]
  rfl

section NoFragment

variable (hasked : asked.IsAddressable) (hfragment : asked.fragment = none)
include hfragment

theorem withFragment_eq (absolute : Url) : withFragment asked absolute = .ok absolute := by
  have hempty : (fragmentText asked).isEmpty = true := by
    rw [fragmentText, hfragment]
    rfl
  rw [withFragment, hempty, Bool.true_or]
  rfl

include hasked

/-- **An absolute location makes sense exactly if requests can be made to it.** -/
theorem follows_absolute_iff (hread : Url.parse location = .ok named)
    (habs : named.isAbsolute = true) :
    (∃ v, follow asked location = .ok v) ↔ named.IsAddressable := by
  simp only [follow_eq_ok_iff hasked, hread, withFragment_eq hfragment, Except.ok.injEq]
  constructor
  · rintro ⟨v, _, hosted, absolute, rfl, hhosted, habsolute, rfl, hv⟩
    obtain ⟨-, rfl⟩ := (withHost_eq_ok_iff habs).1 hhosted
    rw [resolve, if_pos habs] at habsolute
    cases habsolute
    exact hv
  · intro hnamed
    refine ⟨named, named, named, named, rfl, ?_, ?_, rfl, hnamed⟩
    · exact (withHost_eq_ok_iff habs).2 ⟨hnamed.shown, rfl⟩
    · rw [resolve, if_pos habs]
      rfl

/-- **A location without scheme and authority makes sense exactly if what it leads to is not too
long.** -/
theorem follows_relative_iff (hlegible : asked.IsLegible) (hreadBack : asked.IsReadBack)
    (hread : Url.parse location = .ok named) (hscheme : named.scheme = [])
    (hauthority : named.authority = []) :
    (∃ v, follow asked location = .ok v) ↔ (asked.join named).length ≤ Url.maxLength := by
  have hhosted := @withHost_of_scheme asked named hscheme
  have hresolve : resolve asked named =
      (Url.parse (asked.landing named).text).mapError .address := by
    rw [resolve, Url.not_isAbsolute_of_authority hauthority,
      Url.misreading?_of_authority hauthority, Url.join_eq asked hauthority]
    rfl
  have hlanding := hlegible.landing (Url.hasSafeParts_of_parse hread)
  obtain ⟨path, query, fragment, hsame⟩ := Url.landing_eq asked named
  rw [hsame] at hlanding hresolve
  rw [Url.join_eq asked hauthority, hsame]
  simp only [follow_eq_ok_iff hasked, hread, withFragment_eq hfragment, Except.ok.injEq]
  constructor
  · rintro ⟨v, _, hosted, absolute, rfl, hhosted', habsolute, -, -⟩
    cases hhosted.symm.trans hhosted'
    rw [hresolve, mapError_eq_ok] at habsolute
    exact Url.length_le_of_parse habsolute
  · intro hlength
    refine ⟨{ asked with path, query, fragment }, named, named, _, rfl, hhosted, ?_, rfl,
      ⟨hasked.shown, hasked.held⟩⟩
    rw [hresolve, mapError_eq_ok]
    exact (hlanding.parse_text_eq_iff hlength).2
      ⟨hreadBack.host_small, hreadBack.host_fits, hreadBack.port⟩

/-- **A location with a host but without scheme makes sense exactly if it is read with the scheme
that was asked for**, and requests can be made to what it is read as. -/
theorem follows_network_iff (hlegible : asked.IsLegible) (hread : Url.parse location = .ok named)
    (hscheme : named.scheme = []) (hhost : named.host ≠ []) :
    (∃ v, follow asked location = .ok v) ↔
      named.misreading? = none ∧ (asked.join named).length ≤ Url.maxLength ∧
        (Host.resemblesIpv4 named.host = true → Host.isIpv4 named.host = true) ∧
        ({ named with scheme := asked.scheme } : Url).readBack.IsAddressable := by
  have hhosted := @withHost_of_scheme asked named hscheme
  have habs : named.isAbsolute = false := by
    rw [Url.isAbsolute, hscheme]
    rfl
  have hjoin := Url.join_of_host asked hhost
  have hthere := Url.isLegible_of_host hread hhost hlegible.scheme_head hlegible.scheme_chars
  rw [hjoin]
  simp only [follow_eq_ok_iff hasked, hread, withFragment_eq hfragment, Except.ok.injEq]
  constructor
  · rintro ⟨v, _, hosted, absolute, rfl, hhosted', habsolute, rfl, hv⟩
    cases hhosted.symm.trans hhosted'
    rw [resolve, habs, if_neg Bool.false_ne_true, hjoin] at habsolute
    split at habsolute
    · cases habsolute
    · rename_i hmisread
      obtain ⟨hlength, hfits, rfl⟩ := hthere.parse_text_eq_ok_iff.1 (mapError_eq_ok.1 habsolute)
      exact ⟨hmisread, hlength, hfits, hv⟩
  · rintro ⟨hmisread, hlength, hfits, haddressable⟩
    refine ⟨_, named, named, _, rfl, hhosted, ?_, rfl, haddressable⟩
    rw [resolve, habs, hmisread, hjoin]
    exact mapError_eq_ok.2 (hthere.parse_text_eq_ok_iff.2 ⟨hlength, hfits, rfl⟩)

end NoFragment

end Redirect

/-! ## Answers with a location -/

theorem Answer.location?_of_code {a : Answer} (hcode : a.code ∈ redirectCodes) :
    a.location? = a.header? (word "location") := by
  rw [location?, if_pos (List.contains_iff_mem.2 hcode)]

theorem Answer.makesSense_iff {a : Answer} {asked : Url} {location : Text}
    (hcode : a.code ∈ redirectCodes) (hlocation : a.header? (word "location") = some location) :
    a.MakesSense asked ↔ ∃ v, Redirect.follow asked location = .ok v := by
  rw [MakesSense, location?_of_code hcode, hlocation]
  exact ⟨fun h ↦ h location rfl, fun h _ heq ↦ Option.some.inj heq ▸ h⟩

namespace Relay

section Sent

variable {u : Url} {o : Outbound} {a : Answer} {location : Text}
  (hscheme : o.url.scheme.isEmpty = false) (hread : o.url.misreading? = none)
  (hlocation : a.location? = some location)
include hscheme hread hlocation

/-- An answer with a location that is no address is replaced with a failure. -/
theorem send_of_location_error {f : Url.Fault} (opening : List Event)
    (hf : Url.parse location = .error f) :
    (send u o (.answers a) opening).recorded = [.forwardFailed] ∧
      (send u o (.answers a) opening).result =
        .ok (failure ("Error communicating with other side of proxy:  " ++
          ("Invalid URL in location header: " ++ f.message ++ "."))) := by
  rw [send, hlocation]
  simp only [hscheme, hread, Redirect.follow_eq_location_iff.2 hf]
  exact ⟨rfl, rfl⟩

/-- Any other location that makes no sense comes out as a fault. -/
theorem send_of_follow_error {f : Redirect.Fault} (opening : List Event)
    (hf : Redirect.follow o.url location = .error f)
    (hparse : ∀ f, Url.parse location ≠ .error f) :
    ∃ f, (send u o (.answers a) opening).result = .error f := by
  rw [send, hlocation]
  simp only [hscheme, hread, hf]
  cases f with
  | location f => exact absurd (Redirect.follow_eq_location_iff.1 hf) (hparse f)
  | address f => exact ⟨_, rfl⟩
  | host f => exact ⟨_, rfl⟩
  | misread f => exact ⟨_, rfl⟩
  | characters f => exact ⟨_, rfl⟩

end Sent

namespace Call

variable {c : Call} {root : Text} {u₀ : Url} {a : Answer}

/-- What becomes of a call below the root `u₀` that is answered with a redirect.  Where the location
leads is never asked.  The answer is handed on exactly if the address of the request is read again
as it is meant and the location makes sense there; else a location that is no address counts as a
failure, and anything else comes out as a fault of which nothing is recorded. -/
structure IsRedirected (c : Call) (root : Text) (u₀ : Url) (a : Answer) : Prop where
  sent : (∃ o, (c.handling root).outbound = [o]) ↔ u₀.IsAddressable
  single : ∀ o ∈ (c.handling root).outbound,
    (c.handling root).outbound = [o] ∧ o.url = u₀.under c.path c.params
  relayed : (c.handling root).result = .ok (.relayed a) ↔
    u₀.IsAddressable ∧ u₀.misreading? = none ∧ a.MakesSense (u₀.under c.path c.params)
  counted : (c.handling root).recorded = [.forwardedOk] ↔
    (c.handling root).result = .ok (.relayed a)
  refused : u₀.IsAddressable → u₀.misreading? = none → ∀ location f,
    a.header? (word "location") = some location → Url.parse location = .error f →
      (c.handling root).Fails ("Error communicating with other side of proxy:  " ++
        ("Invalid URL in location header: " ++ f.message ++ "."))
  lost : (c.handling root).result ≠ .ok (.relayed a) →
    (∀ location f, a.header? (word "location") = some location → Url.parse location ≠ .error f) →
      (∃ f, (c.handling root).result = .error f) ∧ (c.handling root).recorded = []

theorem counted_iff_relayed (hb : c.backend = .answers a) :
    (c.handling root).recorded = [.forwardedOk] ↔
      (c.handling root).result = .ok (.relayed a) := by
  rw [handling, handle_recorded, ← handling]
  constructor
  · intro h
    obtain ⟨r, hr, hrecorded⟩ := Option.map_eq_some_iff.1 (Option.toList_eq_singleton_iff.1 h)
    cases hresult : (c.handling root).result with
    | error f =>
      rw [hresult] at hr
      cases hr
    | ok r' =>
      rw [hresult] at hr
      cases hr
      cases r with
      | reply r => cases hrecorded
      | relayed a' =>
        obtain ⟨-, hb', -⟩ := handle_relayed_iff.1 hresult
        cases hb.symm.trans hb'
        rfl
  · intro h
    rw [h]
    rfl

section Absolute

variable (hroot : Url.parse root = .ok u₀) (habs : u₀.isAbsolute = true)
  (hsent : c.IsSent root) (hb : c.backend = .answers a)
include hroot habs hsent hb

/-- A call whose host is read again as it is meant is sent, and its answer is received. -/
theorem handling_of_readable (haddressable : u₀.IsAddressable) (hread : u₀.misreading? = none) :
    ∃ o : Outbound, o.url = u₀.under c.path c.params ∧ o.url.scheme.isEmpty = false ∧
      o.url.misreading? = none ∧
        c.handling root = send o.url o (.answers a) [.forwarding o.url.text] := by
  obtain ⟨⟨u, hu⟩, hm⟩ := hsent
  obtain ⟨-, hunder⟩ := (Url.build_eq_ok_iff hroot habs).1 hu
  obtain ⟨o, rfl, hscheme, hsame, heq⟩ :=
    handling_of_isAddressable hroot habs hu hm haddressable
  exact ⟨o, hunder, hscheme, hsame.trans hread, hb ▸ heq⟩

theorem relayed_iff_of_answers :
    (c.handling root).result = .ok (.relayed a) ↔
      u₀.IsAddressable ∧ u₀.misreading? = none ∧ a.MakesSense (u₀.under c.path c.params) := by
  constructor
  · intro h
    obtain ⟨-, -, u, o, hprepare, ⟨-, hread⟩, hsense⟩ := handle_relayed_iff.1 h
    obtain ⟨-, -, haddressable⟩ := (prepare_iff hroot habs).1 ⟨u, o, hprepare⟩
    obtain ⟨-, rfl, hsame⟩ := url_of_prepare hroot habs hprepare
    rw [hsame] at hread hsense
    exact ⟨haddressable, hread, hsense⟩
  · rintro ⟨haddressable, hread, hsense⟩
    obtain ⟨o, hurl, hscheme, hread, heq⟩ :=
      handling_of_readable hroot habs hsent hb haddressable hread
    rw [heq, send_relayed_iff]
    exact ⟨rfl, ⟨hscheme, hread⟩, hurl ▸ hsense⟩

/-- A call that is sent and answered, but neither handed on nor refused for its location, comes out
as a fault. -/
theorem faults_of_not_relayed (hrelayed : (c.handling root).result ≠ .ok (.relayed a))
    (hparse : ∀ location f, a.location? = some location → Url.parse location ≠ .error f) :
    ∃ f, (c.handling root).result = .error f := by
  by_cases haddressable : u₀.IsAddressable
  · cases hread : u₀.misreading? with
    | some m => exact (faults_of_defeats hroot habs hsent (.inr ⟨⟨a, hb⟩, m, hread⟩)).1
    | none =>
      obtain ⟨o, -, hscheme, hread, heq⟩ :=
        handling_of_readable hroot habs hsent hb haddressable hread
      rw [heq] at hrelayed ⊢
      cases hlocation : a.location? with
      | none =>
        rw [send_of_answer _ hscheme hread (Answer.location?_eq_none_iff.1 hlocation)] at hrelayed
        exact absurd rfl hrelayed
      | some location =>
        cases hfollow : Redirect.follow o.url location with
        | error f =>
          exact send_of_follow_error hscheme hread hlocation _ hfollow (hparse location · hlocation)
        | ok v =>
          refine absurd (send_relayed_iff _ |>.2 ⟨rfl, ⟨hscheme, hread⟩, fun _ h ↦ ?_⟩) hrelayed
          exact ⟨v, Option.some.inj (hlocation.symm.trans h) ▸ hfollow⟩
  · exact (faults_of_defeats hroot habs hsent (.inl haddressable)).1

end Absolute

/-- **Redirects are relayed where their locations make sense, and are never followed.**  Without a
location they always are.  At an address without fragment, an absolute location makes sense exactly
if requests can be made to it, one with a host but without scheme if that is so once it is read with
the scheme that was asked for, and one without scheme and authority unless it leads to an address
that is too long. -/
theorem redirect_relayed_iff (hroot : Url.parse root = .ok u₀) (habs : u₀.isAbsolute = true)
    (hsent : c.IsSent root) (hb : c.backend = .answers a)
    (hcode : a.code ∈ Answer.redirectCodes) :
    c.IsRedirected root u₀ a ∧
      (a.header? (word "location") = none → a.MakesSense (u₀.under c.path c.params)) ∧
      ∀ location u, a.header? (word "location") = some location → Url.parse location = .ok u →
        u₀.IsAddressable → u₀.fragment = none →
        (u.isAbsolute = true → (a.MakesSense (u₀.under c.path c.params) ↔ u.IsAddressable)) ∧
        (u.scheme = [] → u.host ≠ [] → (a.MakesSense (u₀.under c.path c.params) ↔
          u.misreading? = none ∧
            ((u₀.under c.path c.params).join u).length ≤ Url.maxLength ∧
            (Host.resemblesIpv4 u.host = true → Host.isIpv4 u.host = true) ∧
            ({ u with scheme := u₀.scheme } : Url).readBack.IsAddressable)) ∧
        (u₀.IsReadBack → u.scheme = [] → u.authority = [] →
          (a.MakesSense (u₀.under c.path c.params) ↔
            ((u₀.under c.path c.params).join u).length ≤ Url.maxLength)) := by
  obtain ⟨hacceptable, hm⟩ : Url.Acceptable c.path c.params ∧ isForwarded c.method = true := by
    obtain ⟨⟨u, hu⟩, hm⟩ := hsent
    exact ⟨((Url.build_eq_ok_iff hroot habs).1 hu).1, hm⟩
  have hlocation := Answer.location?_of_code hcode
  refine ⟨?_, fun hnone location heq ↦ ?_, fun location u heq hread haddressable hfragment ↦ ?_⟩
  · constructor
    · exact (handle_sends_iff c.backend hroot habs).trans
        ⟨fun h ↦ h.2.2.2, fun h ↦ ⟨rfl, hacceptable, hm, h⟩⟩
    · exact fun o ho ↦ url_of_mem_outbound hroot habs ho
    · exact relayed_iff_of_answers hroot habs hsent hb
    · exact counted_iff_relayed hb
    · intro haddressable hread location f heq hf
      obtain ⟨o, -, hscheme, hread, hsend⟩ :=
        handling_of_readable hroot habs hsent hb haddressable hread
      obtain ⟨hrecorded, hresult⟩ :=
        send_of_location_error hscheme hread (hlocation.trans heq) _ hf
      rw [hsend]
      exact Handling.fails_of_failure hrecorded hresult
    · intro hrelayed hparse
      obtain ⟨f, hf⟩ := faults_of_not_relayed hroot habs hsent hb hrelayed
        fun location f h ↦ hparse location f (hlocation.symm.trans h)
      exact ⟨⟨f, hf⟩, recorded_of_fault hf⟩
  · cases (hlocation.trans hnone).symm.trans heq
  · have hasked := (Url.isAddressable_under c.path c.params).2 haddressable
    rw [Answer.makesSense_iff hcode heq]
    have hlegible := (Url.isLegible_of_parse hroot habs).under hacceptable.rooted c.params
    refine ⟨fun habs' ↦ ?_, fun hscheme hhost ↦ ?_, fun hreadBack hscheme hauthority ↦ ?_⟩
    · exact Redirect.follows_absolute_iff hasked hfragment hread habs'
    · exact Redirect.follows_network_iff hasked hfragment hlegible hread hscheme hhost
    · exact Redirect.follows_relative_iff hasked hfragment hlegible
        ⟨hreadBack.host_small, hreadBack.host_fits, hreadBack.port⟩ hread hscheme hauthority

/-- A relative location below a plain root makes sense, and its answer is handed on. -/
theorem relative_redirect_relayed :
    let root := "http://backend.test".toList
    let u₀ : Url := ⟨"http".toList, [], "backend.test".toList, none, [], none, none⟩
    let a : Answer := ⟨302, none, [(word "location", word "../b?c")], [], .complete⟩
    let c : Call := ⟨"get", "/x/a".toList, [], .answers a⟩
    Url.parse root = .ok u₀ ∧ u₀.isAbsolute = true ∧ c.IsSent root ∧
      (c.handling root).result = .ok (.relayed a) ∧
      (c.handling root).recorded = [.forwardedOk] := by
  intro root u₀ a c
  have hroot : Url.parse root = .ok u₀ := by decide +kernel
  have hsent : c.IsSent root := ⟨⟨u₀.under c.path [], by decide +kernel⟩, by decide⟩
  obtain ⟨h, -, hsense⟩ := redirect_relayed_iff (a := a) hroot rfl hsent rfl (by decide)
  have haddressable : u₀.IsAddressable := ⟨⟨_, rfl⟩, ⟨_, rfl⟩⟩
  have hreadBack : u₀.IsReadBack :=
    ⟨.inr (forall_of_all (by decide +kernel)), by decide +kernel, by decide +kernel⟩
  have hlocation : Url.parse "../b?c".toList =
      .ok ⟨[], [], [], none, "../b".toList, some "c".toList, none⟩ := by decide +kernel
  obtain ⟨-, -, hrelative⟩ := hsense _ _ (by decide +kernel) hlocation haddressable rfl
  have hrelayed := h.relayed.2 ⟨haddressable, rfl,
    (hrelative hreadBack rfl rfl).2 (by decide +kernel)⟩
  exact ⟨hroot, rfl, hsent, hrelayed, h.counted.2 hrelayed⟩

/-- **A redirect to a location with a bad port is not handed on.**  The backend has answered, but
the call counts as a failure to communicate with it. -/
theorem bad_port_fails :
    let root := "http://backend.test".toList
    let u₀ : Url := ⟨"http".toList, [], "backend.test".toList, none, [], none, none⟩
    let a : Answer := ⟨302, none, [(word "location", word "http://h:bad/")], [], .complete⟩
    let c : Call := ⟨"GET", "/a".toList, [], .answers a⟩
    Url.parse root = .ok u₀ ∧ u₀.isAbsolute = true ∧ c.IsSent root ∧
      a.code ∈ Answer.redirectCodes ∧
      (c.handling root).Fails ("Error communicating with other side of proxy:  " ++
        ("Invalid URL in location header: " ++ (Url.Fault.port "bad".toList).message ++ ".")) := by
  intro root u₀ a c
  have hroot : Url.parse root = .ok u₀ := by decide +kernel
  have hsent : c.IsSent root := ⟨⟨u₀.under c.path [], by decide +kernel⟩, by decide⟩
  have hlocation : a.location? = some "http://h:bad/".toList := by decide +kernel
  have hparse : Url.parse "http://h:bad/".toList = .error (.port "bad".toList) := by
    decide +kernel
  have haddressable : u₀.IsAddressable := ⟨⟨_, rfl⟩, ⟨_, rfl⟩⟩
  obtain ⟨o, -, hscheme, hread, hsend⟩ :=
    handling_of_readable hroot rfl hsent rfl haddressable rfl
  obtain ⟨hrecorded, hresult⟩ := send_of_location_error hscheme hread hlocation _ hparse
  refine ⟨hroot, rfl, hsent, by decide, ?_⟩
  rw [hsend]
  exact Handling.fails_of_failure hrecorded hresult

end Call
end Relay
end InjectingProxy
