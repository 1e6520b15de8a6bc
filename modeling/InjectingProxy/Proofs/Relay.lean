import Mathlib.Data.List.Basic
import InjectingProxy.Proofs.Metrics.Ledger
import InjectingProxy.Proofs.Url.Build
import InjectingProxy.Relay

/-!
# What the relay does with a request

There is one equation for each way a request can go before it is sent (`handle_of_address`,
`handle_of_method`, `handle_of_fault`, `handle_of_request`) and after (`send_of_failure`,
`send_of_answer`, `send_of_misreading`), and all else follows from these.  What can become of an
answer is in `send_answers_cases`, and when it is handed on in `handle_relayed_iff`.  Below an
absolute root, `handle_sends_iff` says when the backend is asked at all.

Below an absolute root, a request to an ordinary backend is settled with a response and one
outcome (`Call.Settled`), unless the host of the root defeats it.  This happens to hosts that
cannot be shown or that no header holds, and to those that are not read again as they are meant
once there is an answer (`Url.Defeats`); then a fault comes out and nothing is recorded.  Both cases
and their condition are in `Call.settled_unless_defeated`, together with what is recorded over any
number of requests.
-/

set_option autoImplicit false

namespace InjectingProxy

/-! ## Answers that stay where they are -/

/-- The answer does not point to another address: its code does not say so, or no header tells
which. -/
def Answer.PointsNowhere (a : Answer) : Prop :=
  a.code ∈ redirectCodes → ∀ h ∈ a.headers, lowerName h.1 ≠ word "location"

theorem Answer.header?_eq_none_iff {a : Answer} {name : Bytes} :
    a.header? name = none ↔ ∀ h ∈ a.headers, lowerName h.1 ≠ name := by
  have hvalues : a.headerValues name = [] ↔ ∀ h ∈ a.headers, lowerName h.1 ≠ name := by
    simp [headerValues]
  rw [← hvalues, header?]
  split
  · rename_i hnil
    exact ⟨fun _ ↦ hnil, fun _ ↦ rfl⟩
  · rename_i hne
    exact ⟨nofun, fun hnil ↦ absurd hnil hne⟩

theorem Answer.location?_eq_none_iff {a : Answer} : a.location? = none ↔ a.PointsNowhere := by
  rw [location?, PointsNowhere, ← header?_eq_none_iff]
  split
  · rename_i hcode
    exact ⟨fun h _ ↦ h, fun h ↦ h (List.contains_iff_mem.1 hcode)⟩
  · rename_i hcode
    exact ⟨fun _ h ↦ absurd (List.contains_iff_mem.2 h) hcode, fun _ ↦ rfl⟩

/-- Where the answer points to, if anywhere, there is an address that makes sense for a request to
`u`. -/
def Answer.MakesSense (a : Answer) (u : Url) : Prop :=
  ∀ location, a.location? = some location → ∃ v, Redirect.follow u location = .ok v

/-- The backend fails in a way that belongs to requests, or gives an answer that points nowhere. -/
inductive Backend.IsOrdinary : Backend → Prop
  | fails (kind : RequestFailure) (message : String) : IsOrdinary (.fails (.request kind message))
  | answers {a : Answer} (h : a.PointsNowhere) : IsOrdinary (.answers a)

/-! ## Hosts that requests can have -/

namespace Url

/-- The host can be shown, and a header holds it. -/
structure IsAddressable (u : Url) : Prop where
  shown : ∃ t, u.displayHost = .ok t
  held : ∃ bs, u.siteBytes = .ok bs

/-- No request to the host is brought to an end: none can be made, or it is answered and the host is
not read again as it is meant. -/
def Defeats (u : Url) (b : Backend) : Prop :=
  ¬ u.IsAddressable ∨ (∃ a, b = .answers a) ∧ ∃ m, u.misreading? = some m

variable {u₀ : Url} (path : Text) (params : List Form.Parameter)

theorem scheme_of_isAbsolute {u : Url} (h : u.isAbsolute = true) : u.scheme.isEmpty = false := by
  rw [isAbsolute, Bool.and_eq_true_iff, Bool.not_eq_true'] at h
  exact h.1

theorem isAddressable_under : (u₀.under path params).IsAddressable ↔ u₀.IsAddressable :=
  ⟨fun h ↦ ⟨h.shown, h.held⟩, fun h ↦ ⟨h.shown, h.held⟩⟩

theorem misreading?_under : (u₀.under path params).misreading? = u₀.misreading? := rfl

end Url

/-- The outcome that belongs to a response of the relay. -/
def Response.outcome : Response → Outcome
  | .relayed _ => .forwardedOk
  | .reply _ => .forwardFailed

namespace Relay

variable {root : Text} {method : String} {path : Text} {params : List Form.Parameter}
  {b : Backend} {u : Url} {o : Outbound}

/-! ## The request to an address -/

/-- A request to an absolute address can be made exactly if its host can be shown and written. -/
theorem request_eq_ok_iff (habs : u.isAbsolute = true) :
    request u = .ok o ↔
      ∃ t site, u.displayHost = .ok t ∧ u.siteBytes = .ok site ∧
        o = ⟨"GET", u, baseHeaders u site⟩ := by
  have hrequest : request u = (do
      discard (u.displayHost.mapError Fault.host)
      let site ← u.siteBytes.mapError Fault.characters
      pure ⟨"GET", u, baseHeaders u site⟩) := by
    rw [request, Url.requested, if_pos habs]
    rfl
  rw [hrequest]
  cases u.displayHost with
  | error f => exact ⟨nofun, nofun⟩
  | ok t =>
    cases u.siteBytes with
    | error f => exact ⟨nofun, nofun⟩
    | ok site =>
      constructor
      · exact fun h ↦ ⟨t, site, rfl, rfl, (Except.ok.inj h).symm⟩
      · rintro ⟨_, _, -, ⟨⟩, rfl⟩
        rfl

theorem method_of_request (h : request u = .ok o) : o.method = "GET" := by
  rw [request] at h
  obtain ⟨v, -, h⟩ := bind_eq_ok.1 h
  obtain ⟨-, -, h⟩ := bind_eq_ok.1 h
  obtain ⟨site, -, h⟩ := bind_eq_ok.1 h
  cases h
  rfl

theorem request_of_isAddressable (habs : u.isAbsolute = true) (h : u.IsAddressable) :
    ∃ headers, request u = .ok ⟨"GET", u, headers⟩ := by
  obtain ⟨⟨t, hshown⟩, ⟨site, hsite⟩⟩ := h
  exact ⟨_, (request_eq_ok_iff habs).2 ⟨t, site, hshown, hsite, rfl⟩⟩

theorem request_of_not_isAddressable (habs : u.isAbsolute = true) (h : ¬ u.IsAddressable) :
    ∃ f, request u = .error f := by
  cases hr : request u with
  | error f => exact ⟨f, rfl⟩
  | ok o =>
    obtain ⟨t, site, hshown, hsite, -⟩ := (request_eq_ok_iff habs).1 hr
    exact absurd ⟨⟨t, hshown⟩, ⟨site, hsite⟩⟩ h

/-! ## The ways of a request -/

theorem handle_of_address {f : Url.Fault} (backendOpen : Bool)
    (h : Url.build root path params = .error f) :
    handle root backendOpen method path params b =
      { result := .ok (failure ("Invalid URI:  " ++ f.message)), outbound := [], dropped := none,
        recorded := [.forwardFailed], events := [.addressRefused method path f.message] } := by
  rw [handle, prepare, h]

theorem handle_of_method (backendOpen : Bool) (h : Url.build root path params = .ok u)
    (hm : isForwarded method = false) :
    handle root backendOpen method path params b =
      { result := .ok (failure ("Unsupported method:  " ++ method)), outbound := []
        dropped := none, recorded := [.forwardFailed]
        events := [.forwarding u.text, .methodRefused method path (methodRefusal method)] } := by
  rw [handle, prepare, h]
  simp only [hm]
  rfl

theorem handle_of_fault {f : Fault} (backendOpen : Bool) (h : Url.build root path params = .ok u)
    (hm : isForwarded method = true) (hf : request u = .error f) :
    handle root backendOpen method path params b =
      { result := .error f, outbound := [], dropped := none, recorded := []
        events := [.forwarding u.text] } := by
  rw [handle, prepare, h]
  simp only [hm, hf]
  rfl

theorem handle_of_request (h : Url.build root path params = .ok u)
    (hm : isForwarded method = true) (ho : request u = .ok o) :
    handle root true method path params b =
      send u (Outbound.signed o) b [.forwarding u.text] := by
  rw [handle, prepare, h]
  simp only [hm, ho]
  rfl

/-! ## The ways of a request that is sent -/

theorem failureReason_eq (kind : RequestFailure) (message : String) :
    failureReason kind message = if message = "" then kind.name ++ "('')" else message := by
  simp only [failureReason, String.isEmpty_iff]

theorem send_of_failure (opening : List Event) (kind : RequestFailure) (message : String) :
    send u o (.fails (.request kind message)) opening =
      { result := .ok (failure ("Error communicating with other side of proxy:  " ++
          failureReason kind message))
        outbound := [o], dropped := none, recorded := [.forwardFailed]
        events := opening ++ [.backendFailed] } :=
  rfl

theorem send_of_answer {a : Answer} (opening : List Event) (hs : o.url.scheme.isEmpty = false)
    (hread : o.url.misreading? = none) (ha : a.PointsNowhere) :
    send u o (.answers a) opening =
      { result := .ok (.relayed a), outbound := [o], dropped := none
        recorded := [.forwardedOk], events := opening ++ [.answered a.status u.text] } := by
  rw [send, Answer.location?_eq_none_iff.2 ha]
  simp only [hs, hread]
  rfl

theorem send_of_misreading {a : Answer} {m : Url.Misreading} (opening : List Event)
    (hs : o.url.scheme.isEmpty = false) (hread : o.url.misreading? = some m) :
    send u o (.answers a) opening =
      { result := .error (.misread m), outbound := [o], dropped := some .untouched
        recorded := [], events := opening } := by
  rw [send]
  simp only [hs, hread]
  rfl

/-- What can become of an answer: it is lost because the address of the request is not read again,
or it is handed on, or it is released because it points to something that makes no sense. -/
theorem send_answers_cases (u : Url) (o : Outbound) (a : Answer) (opening : List Event) :
    ((o.url.scheme.isEmpty = true ∨ ∃ m, o.url.misreading? = some m) ∧
        (∃ f, (send u o (.answers a) opening).result = .error f) ∧
        (send u o (.answers a) opening).dropped = some .untouched) ∨
      (o.url.scheme.isEmpty = false ∧ o.url.misreading? = none) ∧
        ((a.MakesSense o.url ∧ (send u o (.answers a) opening).result = .ok (.relayed a) ∧
            (send u o (.answers a) opening).dropped = none) ∨
          (¬ a.MakesSense o.url ∧
            (∀ a', (send u o (.answers a) opening).result ≠ .ok (.relayed a')) ∧
            (send u o (.answers a) opening).dropped = some BodyUse.untouched.release)) := by
  rw [send]
  cases hs : o.url.scheme.isEmpty with
  | true => exact .inl ⟨.inl rfl, ⟨_, rfl⟩, rfl⟩
  | false =>
    cases hread : o.url.misreading? with
    | some m => exact .inl ⟨.inr ⟨m, rfl⟩, ⟨_, rfl⟩, rfl⟩
    | none =>
      refine .inr ⟨⟨rfl, rfl⟩, ?_⟩
      cases hlocation : a.location? with
      | none => exact .inl ⟨fun _ h ↦ (nomatch hlocation.symm.trans h), rfl, rfl⟩
      | some location =>
        cases hfollow : Redirect.follow o.url location with
        | ok v =>
          refine .inl ⟨fun _ h ↦ ?_, ?_⟩
          · cases hlocation.symm.trans h
            exact ⟨v, hfollow⟩
          · simp [hfollow]
        | error f =>
          refine .inr ⟨fun h ↦ ?_, ?_⟩
          · obtain ⟨v, hv⟩ := h location hlocation
            cases hfollow.symm.trans hv
          · cases f <;> simp [hfollow, failure]

/-- What is handed on is an answer that the backend has given, to an address that is read again and
where the answer makes sense. -/
theorem send_relayed_iff {a : Answer} (opening : List Event) :
    (send u o b opening).result = .ok (.relayed a) ↔
      b = .answers a ∧ (o.url.scheme.isEmpty = false ∧ o.url.misreading? = none) ∧
        a.MakesSense o.url := by
  cases b with
  | fails f =>
    refine ⟨fun h ↦ ?_, fun h ↦ nomatch h.1⟩
    cases f <;> cases h
  | answers a' =>
    rcases send_answers_cases u o a' opening with
      ⟨hlost, ⟨f, hf⟩, -⟩ | ⟨hread, ⟨hsense, hr, -⟩ | ⟨hsense, hr, -⟩⟩
    · rw [hf]
      refine ⟨nofun, ?_⟩
      rintro ⟨-, ⟨hs, hread⟩, -⟩
      rcases hlost with h | ⟨m, h⟩
      · cases hs.symm.trans h
      · cases hread.symm.trans h
    · rw [hr]
      constructor
      · rintro ⟨⟩
        exact ⟨rfl, hread, hsense⟩
      · rintro ⟨⟨⟩, -, -⟩
        rfl
    · refine ⟨fun h ↦ absurd h (hr a), ?_⟩
      rintro ⟨⟨⟩, -, h⟩
      exact absurd h hsense

theorem send_outbound (u : Url) (o : Outbound) (b : Backend) (opening : List Event) :
    (send u o b opening).outbound = [o] := by
  unfold send
  repeat' split
  all_goals rfl

theorem send_dropped_of_failure {f : Failure} (opening : List Event) :
    (send u o (.fails f) opening).dropped = none := by
  cases f <;> rfl

/-! ## Requests that come to be sent -/

/-- A request is sent, or nothing has to do with the backend. -/
theorem handle_cases (root : Text) (backendOpen : Bool) (method : String) (path : Text)
    (params : List Form.Parameter) (b : Backend) :
    ((handle root backendOpen method path params b).outbound = [] ∧
        (handle root backendOpen method path params b).dropped = none ∧
        ∀ a, (handle root backendOpen method path params b).result ≠ .ok (.relayed a)) ∨
      backendOpen = true ∧ ∃ u o, prepare root method path params = .ok (u, o) ∧
        handle root backendOpen method path params b =
          send u (Outbound.signed o) b [.forwarding u.text] := by
  rw [handle]
  split
  · exact .inl ⟨rfl, rfl, nofun⟩
  · exact .inl ⟨rfl, rfl, nofun⟩
  · exact .inl ⟨rfl, rfl, nofun⟩
  · rename_i u o ho
    cases backendOpen with
    | true => exact .inr ⟨rfl, u, o, ho, rfl⟩
    | false => exact .inl ⟨rfl, rfl, nofun⟩

theorem handle_of_prepare (b : Backend) (h : prepare root method path params = .ok (u, o)) :
    handle root true method path params b =
      send u (Outbound.signed o) b [.forwarding u.text] := by
  rw [handle, h]
  rfl

theorem handle_relayed_iff {backendOpen : Bool} {a : Answer} :
    (handle root backendOpen method path params b).result = .ok (.relayed a) ↔
      backendOpen = true ∧ b = .answers a ∧ ∃ u o, prepare root method path params = .ok (u, o) ∧
        (o.url.scheme.isEmpty = false ∧ o.url.misreading? = none) ∧ a.MakesSense o.url := by
  constructor
  · intro h
    rcases handle_cases root backendOpen method path params b with
      ⟨-, -, hr⟩ | ⟨hopen, u, o, ho, heq⟩
    · exact absurd h (hr a)
    · rw [heq, send_relayed_iff] at h
      exact ⟨hopen, h.1, u, o, ho, h.2⟩
  · rintro ⟨rfl, hb, u, o, ho, h⟩
    rw [handle_of_prepare b ho, send_relayed_iff]
    exact ⟨hb, h⟩

/-- A request is prepared exactly if there is an address for it, its method is forwarded, and a
request to the address can be made. -/
theorem prepare_eq_ok_iff : prepare root method path params = .ok (u, o) ↔
    Url.build root path params = .ok u ∧ isForwarded method = true ∧ request u = .ok o := by
  rw [prepare]
  cases Url.build root path params with
  | error f => simp
  | ok v =>
    cases isForwarded method with
    | false => simp
    | true =>
      simp only [Except.ok.injEq, true_and, if_true]
      cases hrequest : request v with
      | error f =>
        refine ⟨fun h ↦ (by cases h), ?_⟩
        rintro ⟨rfl, h⟩
        cases hrequest.symm.trans h
      | ok o' =>
        constructor
        · rintro ⟨⟩
          exact ⟨rfl, hrequest⟩
        · rintro ⟨rfl, h⟩
          cases hrequest.symm.trans h
          rfl

theorem eq_of_prepare {u₀ : Url} (hroot : Url.parse root = .ok u₀)
    (habs : u₀.isAbsolute = true) (h : prepare root method path params = .ok (u, o)) :
    Url.Acceptable path params ∧ u = u₀.under path params ∧
      ∃ site, u.siteBytes = .ok site ∧ o = ⟨"GET", u, baseHeaders u site⟩ := by
  obtain ⟨hbuild, -, hrequest⟩ := prepare_eq_ok_iff.1 h
  obtain ⟨hacceptable, rfl⟩ := (Url.build_eq_ok_iff hroot habs).1 hbuild
  obtain ⟨-, site, -, hsite, rfl⟩ := (request_eq_ok_iff (u := u₀.under path params) habs).1 hrequest
  exact ⟨hacceptable, rfl, site, hsite, rfl⟩

/-- Below an absolute root, a request that is prepared goes to the address below it. -/
theorem url_of_prepare {u₀ : Url} (hroot : Url.parse root = .ok u₀)
    (habs : u₀.isAbsolute = true) (h : prepare root method path params = .ok (u, o)) :
    Url.Acceptable path params ∧ u = u₀.under path params ∧ o.url = u := by
  obtain ⟨hacceptable, hu, site, -, rfl⟩ := eq_of_prepare hroot habs h
  exact ⟨hacceptable, hu, rfl⟩

theorem prepare_iff {u₀ : Url} (hroot : Url.parse root = .ok u₀) (habs : u₀.isAbsolute = true) :
    (∃ u o, prepare root method path params = .ok (u, o)) ↔
      Url.Acceptable path params ∧ isForwarded method = true ∧ u₀.IsAddressable := by
  have habs' : (u₀.under path params).isAbsolute = true := habs
  simp only [prepare_eq_ok_iff, Url.build_eq_ok_iff hroot habs]
  rw [← Url.isAddressable_under path params]
  constructor
  · rintro ⟨_, o, ⟨hacceptable, rfl⟩, hm, hrequest⟩
    refine ⟨hacceptable, hm, Classical.byContradiction fun hn ↦ ?_⟩
    obtain ⟨f, hf⟩ := request_of_not_isAddressable habs' hn
    cases hf.symm.trans hrequest
  · rintro ⟨hacceptable, hm, haddressable⟩
    obtain ⟨headers, ho⟩ := request_of_isAddressable habs' haddressable
    exact ⟨_, _, ⟨hacceptable, rfl⟩, hm, ho⟩

/-- **Below an absolute root, one request is made to the backend or none**: it is made if there is
an address for it to which requests can be made, the method is forwarded, and the client for the
backend is open. -/
theorem handle_sends_iff {u₀ : Url} {backendOpen : Bool} (b : Backend)
    (hroot : Url.parse root = .ok u₀) (habs : u₀.isAbsolute = true) :
    (∃ o, (handle root backendOpen method path params b).outbound = [o]) ↔
      backendOpen = true ∧ Url.Acceptable path params ∧ isForwarded method = true ∧
        u₀.IsAddressable := by
  rw [← prepare_iff hroot habs]
  constructor
  · rintro ⟨o, h⟩
    rcases handle_cases root backendOpen method path params b with
      ⟨ho, -⟩ | ⟨hopen, u, o', hprepare, -⟩
    · cases ho.symm.trans h
    · exact ⟨hopen, u, o', hprepare⟩
  · rintro ⟨rfl, u, o, hprepare⟩
    exact ⟨_, by rw [handle_of_prepare b hprepare, send_outbound]⟩

/-- It is signed with the credentials of the root. -/
theorem eq_of_mem_outbound {u₀ : Url} {backendOpen : Bool} (hroot : Url.parse root = .ok u₀)
    (habs : u₀.isAbsolute = true)
    (h : o ∈ (handle root backendOpen method path params b).outbound) :
    (handle root backendOpen method path params b).outbound = [o] ∧
      ∃ site, (u₀.under path params).siteBytes = .ok site ∧
        o = Outbound.signed
          ⟨"GET", u₀.under path params, baseHeaders (u₀.under path params) site⟩ := by
  rcases handle_cases root backendOpen method path params b with
    ⟨ho, -⟩ | ⟨-, u, o', hprepare, heq⟩
  · rw [ho] at h
    cases h
  · obtain ⟨-, rfl, site, hsite, rfl⟩ := eq_of_prepare hroot habs hprepare
    rw [heq, send_outbound] at h ⊢
    obtain rfl := List.mem_singleton.1 h
    exact ⟨rfl, site, hsite, rfl⟩

/-- It goes to the address below the root. -/
theorem url_of_mem_outbound {u₀ : Url} {backendOpen : Bool} (hroot : Url.parse root = .ok u₀)
    (habs : u₀.isAbsolute = true)
    (h : o ∈ (handle root backendOpen method path params b).outbound) :
    (handle root backendOpen method path params b).outbound = [o] ∧
      o.url = u₀.under path params := by
  obtain ⟨hone, site, -, ho⟩ := eq_of_mem_outbound hroot habs h
  exact ⟨hone, congrArg Outbound.url ho⟩

/-- **Whatever the method of a call, the backend is asked to get something.** -/
theorem method_of_mem_outbound {backendOpen : Bool}
    (h : o ∈ (handle root backendOpen method path params b).outbound) : o.method = "GET" := by
  rcases handle_cases root backendOpen method path params b with
    ⟨ho, -⟩ | ⟨-, u, o', hprepare, heq⟩
  · rw [ho] at h
    cases h
  · rw [heq, send_outbound] at h
    obtain rfl := List.mem_singleton.1 h
    exact (method_of_request (prepare_eq_ok_iff.1 hprepare).2.2 :)

/-! ## What is recorded -/

theorem send_recorded (u : Url) (o : Outbound) (b : Backend) (opening : List Event) :
    (send u o b opening).recorded =
      ((send u o b opening).result.toOption.map Response.outcome).toList := by
  unfold send
  repeat' split
  all_goals rfl

/-- **What is recorded is told by the response**, and nothing is recorded without one. -/
theorem handle_recorded (root : Text) (backendOpen : Bool) (method : String) (path : Text)
    (params : List Form.Parameter) (b : Backend) :
    (handle root backendOpen method path params b).recorded =
      ((handle root backendOpen method path params b).result.toOption.map
        Response.outcome).toList := by
  unfold handle
  repeat' split
  · rfl
  · rfl
  · rfl
  · exact send_recorded _ _ _ _
  · rfl

theorem handle_not_injected (root : Text) (backendOpen : Bool) (method : String) (path : Text)
    (params : List Form.Parameter) (b : Backend) :
    .errorInjected ∉ (handle root backendOpen method path params b).recorded := by
  rw [handle_recorded, Option.mem_toList]
  intro h
  obtain ⟨r, -, hr⟩ := Option.map_eq_some_iff.1 h
  cases r <;> cases hr

end Relay

/-! ## Calls -/

/-- A handling that ends in a reply of plain text, status 500, and counts as a failure. -/
structure Handling.Fails (h : Handling) (text : String) : Prop where
  recorded : h.recorded = [.forwardFailed]
  reply : ∃ r, h.result = .ok (.reply r) ∧ r.status = 500 ∧ Reply.plainTextHeader ∈ r.headers ∧
    r.body = Utf8.encode text.toList

theorem Handling.fails_of_failure {h : Handling} {text : String}
    (hrecorded : h.recorded = [.forwardFailed]) (hresult : h.result = .ok (Relay.failure text)) :
    h.Fails text :=
  ⟨hrecorded, _, hresult, rfl, List.mem_append_right _ (List.mem_singleton_self _), rfl⟩

theorem Handling.Fails.not_relayed {h : Handling} {text : String} (hf : h.Fails text) :
    ¬ ∃ a, h.result = .ok (.relayed a) := by
  obtain ⟨-, r, hr, -⟩ := hf
  rintro ⟨a, ha⟩
  cases hr.symm.trans ha

/-- What the relay is called with, and what the backend does if it is asked. -/
structure Relay.Call where
  method : String
  path : Text
  params : List Form.Parameter
  backend : Backend

namespace Relay.Call

variable {c : Call} {root : Text} {u₀ u : Url}

/-- What the relay does with a call, while the client for the backend is open. -/
def handling (c : Call) (root : Text) : Handling :=
  Relay.handle root true c.method c.path c.params c.backend

/-- There is an address for the call, and its method is forwarded. -/
def IsSent (c : Call) (root : Text) : Prop :=
  (∃ u, Url.build root c.path c.params = .ok u) ∧ isForwarded c.method = true

/-- The call is sent to a backend that answers. -/
def IsAnswered (c : Call) (root : Text) : Prop := c.IsSent root ∧ ∃ a, c.backend = .answers a

/-- A call that is settled: with the answer if there is one, and else with a reply that tells what
was in the way, first of all the address, then the method, then the backend. -/
structure Settled (c : Call) (root : Text) : Prop where
  sent : c.IsSent root → ∃ o, (c.handling root).outbound = [o] ∧ o.method = "GET" ∧
    Url.build root c.path c.params = .ok o.url
  kept : ¬ c.IsSent root → (c.handling root).outbound = []
  answered : ∀ a, c.IsSent root → c.backend = .answers a →
    (c.handling root).result = .ok (.relayed a) ∧ (c.handling root).recorded = [.forwardedOk]
  address : ∀ f, Url.build root c.path c.params = .error f →
    (c.handling root).Fails ("Invalid URI:  " ++ f.message)
  method : ∀ u, Url.build root c.path c.params = .ok u → isForwarded c.method = false →
    (c.handling root).Fails ("Unsupported method:  " ++ c.method)
  communication : ∀ kind message, c.IsSent root → c.backend = .fails (.request kind message) →
    (c.handling root).Fails ("Error communicating with other side of proxy:  " ++
      if message = "" then kind.name ++ "('')" else message)

/-- A call without an answer fails. -/
theorem Settled.fails (h : c.Settled root) (hb : c.backend.IsOrdinary)
    (hn : ¬ c.IsAnswered root) : ∃ text, (c.handling root).Fails text := by
  cases hu : Url.build root c.path c.params with
  | error f => exact ⟨_, h.address f hu⟩
  | ok u =>
    cases hm : isForwarded c.method with
    | false => exact ⟨_, h.method u hu hm⟩
    | true =>
      generalize hbackend : c.backend = b at hb
      cases hb with
      | fails kind message => exact ⟨_, h.communication kind message ⟨⟨u, hu⟩, hm⟩ hbackend⟩
      | answers ha => exact absurd ⟨⟨⟨u, hu⟩, hm⟩, _, hbackend⟩ hn

theorem Settled.relayed_iff (h : c.Settled root) (hb : c.backend.IsOrdinary) :
    (∃ a, (c.handling root).result = .ok (.relayed a)) ↔ c.IsAnswered root := by
  constructor
  · intro hrelayed
    refine Classical.byContradiction fun hn ↦ ?_
    obtain ⟨text, hf⟩ := h.fails hb hn
    exact hf.not_relayed hrelayed
  · rintro ⟨hsent, a, ha⟩
    exact ⟨a, (h.answered a hsent ha).1⟩

theorem Settled.recorded_of_answered (h : c.Settled root) (ha : c.IsAnswered root) :
    (c.handling root).recorded = [.forwardedOk] := by
  obtain ⟨hsent, a, hb⟩ := ha
  exact (h.answered a hsent hb).2

theorem Settled.recorded_of_not_answered (h : c.Settled root) (hb : c.backend.IsOrdinary)
    (hn : ¬ c.IsAnswered root) : (c.handling root).recorded = [.forwardFailed] := by
  obtain ⟨text, hf⟩ := h.fails hb hn
  exact hf.recorded

theorem Settled.forwardedOk_iff (h : c.Settled root) (hb : c.backend.IsOrdinary) :
    (c.handling root).recorded = [.forwardedOk] ↔ c.IsAnswered root := by
  refine ⟨fun ho ↦ Classical.byContradiction fun hn ↦ ?_, h.recorded_of_answered⟩
  cases ho.symm.trans (h.recorded_of_not_answered hb hn)

theorem Settled.forwardFailed_iff (h : c.Settled root) (hb : c.backend.IsOrdinary) :
    (c.handling root).recorded = [.forwardFailed] ↔ ¬ c.IsAnswered root := by
  refine ⟨fun ho ha ↦ ?_, h.recorded_of_not_answered hb⟩
  cases ho.symm.trans (h.recorded_of_answered ha)

/-- Nothing is recorded of a call from which a fault comes out. -/
theorem recorded_of_fault {f : Fault} (h : (c.handling root).result = .error f) :
    (c.handling root).recorded = [] := by
  rw [handling, handle_recorded, ← handling, h]
  rfl

/-! ### Calls that are settled -/

theorem settled_of_address {f : Url.Fault} (hu : Url.build root c.path c.params = .error f) :
    c.Settled root := by
  have heq := @handle_of_address root c.method c.path c.params c.backend f true hu
  have hn : ¬ c.IsSent root := by
    rintro ⟨⟨u, hu'⟩, -⟩
    cases hu.symm.trans hu'
  constructor
  · exact fun hsent ↦ absurd hsent hn
  · exact fun _ ↦ by rw [handling, heq]
  · exact fun _ hsent ↦ absurd hsent hn
  · intro f' hf'
    cases hu.symm.trans hf'
    exact Handling.fails_of_failure (by rw [handling, heq]) (by rw [handling, heq])
  · intro u hu'
    cases hu.symm.trans hu'
  · exact fun _ _ hsent ↦ absurd hsent hn

theorem settled_of_method (hu : Url.build root c.path c.params = .ok u)
    (hm : isForwarded c.method = false) : c.Settled root := by
  have heq := handle_of_method (b := c.backend) true hu hm
  have hn : ¬ c.IsSent root := fun hsent ↦ nomatch hm.symm.trans hsent.2
  constructor
  · exact fun hsent ↦ absurd hsent hn
  · exact fun _ ↦ by rw [handling, heq]
  · exact fun _ hsent ↦ absurd hsent hn
  · intro f hf
    cases hu.symm.trans hf
  · exact fun _ _ _ ↦
      Handling.fails_of_failure (by rw [handling, heq]) (by rw [handling, heq])
  · exact fun _ _ hsent ↦ absurd hsent hn

/-- A call that is sent is settled if the handling is right for what the backend does. -/
theorem settled_of_sent {o : Outbound} (hu : Url.build root c.path c.params = .ok o.url)
    (hm : isForwarded c.method = true) (ho : (c.handling root).outbound = [o])
    (ha : ∀ a, c.backend = .answers a →
      (c.handling root).result = .ok (.relayed a) ∧
        (c.handling root).recorded = [.forwardedOk])
    (hf : ∀ kind message, c.backend = .fails (.request kind message) →
      (c.handling root).Fails ("Error communicating with other side of proxy:  " ++
        if message = "" then kind.name ++ "('')" else message)) :
    c.Settled root := by
  have hsent : c.IsSent root := ⟨⟨_, hu⟩, hm⟩
  constructor
  · exact fun _ ↦ ⟨o, ho, method_of_mem_outbound (ho ▸ List.mem_singleton_self o), hu⟩
  · exact fun hn ↦ absurd hsent hn
  · exact fun a _ ↦ ha a
  · intro f hf'
    cases hu.symm.trans hf'
  · intro u _ hm'
    cases hm.symm.trans hm'
  · exact fun kind message _ ↦ hf kind message

/-! ### Calls below an absolute root -/

section Absolute

variable (hroot : Url.parse root = .ok u₀) (habs : u₀.isAbsolute = true)
include hroot habs

/-- A call with an addressable host is sent to its address, which is read like the root. -/
theorem handling_of_isAddressable (hu : Url.build root c.path c.params = .ok u)
    (hm : isForwarded c.method = true) (h : u₀.IsAddressable) :
    ∃ o, u = o.url ∧ o.url.scheme.isEmpty = false ∧ o.url.misreading? = u₀.misreading? ∧
      c.handling root = send o.url o c.backend [.forwarding o.url.text] := by
  obtain ⟨-, rfl⟩ := (Url.build_eq_ok_iff hroot habs).1 hu
  obtain ⟨headers, ho⟩ :=
    request_of_isAddressable (u := u₀.under c.path c.params) habs
      ((Url.isAddressable_under _ _).2 h)
  exact ⟨Outbound.signed ⟨"GET", u₀.under c.path c.params, headers⟩, rfl,
    Url.scheme_of_isAbsolute (u := u₀.under c.path c.params) habs, Url.misreading?_under _ _,
    handle_of_request hu hm ho⟩

theorem handling_of_not_isAddressable (hu : Url.build root c.path c.params = .ok u)
    (hm : isForwarded c.method = true) (h : ¬ u₀.IsAddressable) :
    ∃ f, (c.handling root).result = .error f ∧ (c.handling root).outbound = [] := by
  obtain ⟨-, rfl⟩ := (Url.build_eq_ok_iff hroot habs).1 hu
  obtain ⟨f, hf⟩ :=
    request_of_not_isAddressable (u := u₀.under c.path c.params) habs
      (mt (Url.isAddressable_under _ _).1 h)
  refine ⟨f, ?_⟩
  rw [handling, handle_of_fault true hu hm hf]
  exact ⟨rfl, rfl⟩

/-- A call whose host defeats it comes to nothing: a fault comes out. -/
theorem faults_of_defeats (hsent : c.IsSent root) (hd : u₀.Defeats c.backend) :
    (∃ f, (c.handling root).result = .error f) ∧ (c.handling root).outbound.length ≤ 1 := by
  obtain ⟨⟨u, hu⟩, hm⟩ := hsent
  by_cases haddr : u₀.IsAddressable
  · obtain ⟨⟨a, hb⟩, ⟨m, hread⟩⟩ := hd.resolve_left (not_not_intro haddr)
    obtain ⟨o, -, hs, hsame, heq⟩ := handling_of_isAddressable hroot habs hu hm haddr
    rw [heq, hb, send_of_misreading _ hs (hsame.trans hread)]
    exact ⟨⟨_, rfl⟩, Nat.le_refl 1⟩
  · obtain ⟨f, hresult, houtbound⟩ := handling_of_not_isAddressable hroot habs hu hm haddr
    exact ⟨⟨f, hresult⟩, by rw [houtbound]; exact Nat.zero_le 1⟩

/-- Any other call to an ordinary backend is settled. -/
theorem settled_of_not_defeats (hb : c.backend.IsOrdinary)
    (hd : c.IsSent root → ¬ u₀.Defeats c.backend) : c.Settled root := by
  cases hu : Url.build root c.path c.params with
  | error f => exact settled_of_address hu
  | ok u =>
    cases hm : isForwarded c.method with
    | false => exact settled_of_method hu hm
    | true =>
      obtain ⟨haddr, hread⟩ := not_or.1 (hd ⟨⟨u, hu⟩, hm⟩)
      obtain ⟨o, rfl, hs, hsame, heq⟩ :=
        handling_of_isAddressable hroot habs hu hm (Classical.not_not.1 haddr)
      generalize hbackend : c.backend = b at hb heq
      cases hb with
      | fails kind message =>
        rw [send_of_failure] at heq
        refine settled_of_sent hu hm (by rw [heq]) ?_ ?_
        · intro a ha
          cases hbackend.symm.trans ha
        · intro kind' message' hf
          cases hbackend.symm.trans hf
          refine Handling.fails_of_failure (by rw [heq]) ?_
          rw [heq, failureReason_eq]
      | @answers a ha =>
        have hnone : o.url.misreading? = none := by
          rw [hsame, Option.eq_none_iff_forall_ne_some]
          exact fun m hm ↦ hread ⟨⟨a, hbackend⟩, m, hm⟩
        rw [send_of_answer _ hs hnone ha] at heq
        refine settled_of_sent hu hm (by rw [heq]) ?_ ?_
        · intro a' ha'
          cases hbackend.symm.trans ha'
          exact ⟨by rw [heq], by rw [heq]⟩
        · intro kind message hf
          cases hbackend.symm.trans hf

theorem faults_iff (hb : c.backend.IsOrdinary) :
    (∃ f, (c.handling root).result = .error f) ↔ c.IsSent root ∧ u₀.Defeats c.backend := by
  constructor
  · rintro ⟨f, hf⟩
    refine Classical.byContradiction fun hn ↦ ?_
    have hsettled := settled_of_not_defeats hroot habs hb (not_and.1 hn)
    have hrecorded := recorded_of_fault hf
    by_cases ha : c.IsAnswered root
    · cases hrecorded.symm.trans (hsettled.recorded_of_answered ha)
    · cases hrecorded.symm.trans (hsettled.recorded_of_not_answered hb ha)
  · exact fun h ↦ (faults_of_defeats hroot habs h.1 h.2).1

end Absolute

/-! ### Totals over calls -/

/-- The responses to calls, as far as there are any. -/
def responses (root : Text) (calls : List Call) : List Response :=
  calls.filterMap fun c ↦ (c.handling root).result.toOption

/-- The outcomes that are recorded over calls. -/
def outcomes (root : Text) (calls : List Call) : List Outcome :=
  calls.flatMap fun c ↦ (c.handling root).recorded

theorem outcomes_eq (root : Text) (calls : List Call) :
    outcomes root calls = (responses root calls).map Response.outcome := by
  rw [outcomes, responses, List.map_filterMap, List.filterMap_eq_flatMap_toList]
  exact congrArg (calls.flatMap ·) (funext fun c ↦ handle_recorded _ _ _ _ _ _)

theorem length_responses {calls : List Call}
    (h : ∀ c ∈ calls, ¬ ∃ f, (c.handling root).result = .error f) :
    (responses root calls).length = calls.length := by
  induction calls with
  | nil => rfl
  | cons c calls ih =>
    have hrest := ih fun c' hc' ↦ h c' (List.mem_cons_of_mem c hc')
    cases hc : (c.handling root).result with
    | error f => exact absurd ⟨f, hc⟩ (h c List.mem_cons_self)
    | ok r =>
      have hcons : responses root (c :: calls) = r :: responses root calls := by
        rw [responses, List.filterMap_cons, hc]
        rfl
      rw [hcons, List.length_cons, List.length_cons, hrest]

variable {τ : Type}

theorem total_outcomes (l : Ledger τ) (root : Text) (calls : List Call) (o : Outcome) :
    (l.recordAll (outcomes root calls)).total o =
      l.total o + (responses root calls).countP (·.outcome = o) := by
  rw [Ledger.total_recordAll, outcomes_eq, List.count, List.countP_map]
  rfl

theorem outcome_cases (r : Response) :
    r.outcome = .forwardedOk ∨ r.outcome = .forwardFailed := by
  cases r with
  | reply r => exact .inr rfl
  | relayed a => exact .inl rfl

/-- Each response is one of an answer or of a failure. -/
theorem countP_outcomes (rs : List Response) :
    rs.countP (·.outcome = .forwardedOk) + rs.countP (·.outcome = .forwardFailed) = rs.length := by
  induction rs with
  | nil => rfl
  | cons r rs ih =>
    rw [List.countP_cons, List.countP_cons, List.length_cons, ← ih]
    rcases outcome_cases r with h | h
    · simp [h]
      omega
    · simp [h]
      omega

/-- **Below an absolute root, every call to an ordinary backend is settled, unless its host defeats
it.**  It is defeated exactly if it is sent and the host cannot be shown or written, or is not read
again as it is meant; then a fault comes out, and nothing is recorded.  Over any calls, the totals
grow by the responses of their kind. -/
theorem settled_unless_defeated (hroot : Url.parse root = .ok u₀) (habs : u₀.isAbsolute = true) :
    (∀ c : Call, c.backend.IsOrdinary →
      (∀ o ∈ (c.handling root).outbound, o.method = "GET") ∧
      ((∃ f, (c.handling root).result = .error f) ↔ c.IsSent root ∧ u₀.Defeats c.backend) ∧
      (c.IsSent root ∧ u₀.Defeats c.backend →
        (c.handling root).recorded = [] ∧ (c.handling root).outbound.length ≤ 1) ∧
      (¬ (c.IsSent root ∧ u₀.Defeats c.backend) →
        c.Settled root ∧
        ((∃ a, (c.handling root).result = .ok (.relayed a)) ↔ c.IsAnswered root) ∧
        ((c.handling root).recorded = [.forwardedOk] ↔ c.IsAnswered root) ∧
        ((c.handling root).recorded = [.forwardFailed] ↔ ¬ c.IsAnswered root))) ∧
    ∀ (l : Ledger τ) (calls : List Call), (∀ c ∈ calls, c.backend.IsOrdinary) →
      let after := l.recordAll (outcomes root calls)
      after.total .forwardedOk =
        l.total .forwardedOk + (responses root calls).countP (·.outcome = .forwardedOk) ∧
      after.total .forwardFailed =
        l.total .forwardFailed + (responses root calls).countP (·.outcome = .forwardFailed) ∧
      after.total .errorInjected = l.total .errorInjected ∧
      ((∀ c ∈ calls, c.IsSent root → ¬ u₀.Defeats c.backend) →
        after.total .forwardedOk + after.total .forwardFailed =
          l.total .forwardedOk + l.total .forwardFailed + calls.length) := by
  constructor
  · intro c hb
    refine ⟨fun o ho ↦ method_of_mem_outbound ho, faults_iff hroot habs hb,
      fun ⟨hsent, hd⟩ ↦ ?_, fun hn ↦ ?_⟩
    · obtain ⟨⟨f, hf⟩, houtbound⟩ := faults_of_defeats hroot habs hsent hd
      exact ⟨recorded_of_fault hf, houtbound⟩
    · have hsettled := settled_of_not_defeats hroot habs hb (not_and.1 hn)
      exact ⟨hsettled, hsettled.relayed_iff hb, hsettled.forwardedOk_iff hb,
        hsettled.forwardFailed_iff hb⟩
  · intro l calls hb
    have hinjected : (responses root calls).countP (·.outcome = .errorInjected) = 0 := by
      refine List.countP_eq_zero.2 fun r _ ↦ ?_
      rcases outcome_cases r with h | h
      · rw [h]
        decide
      · rw [h]
        decide
    refine ⟨total_outcomes l root calls _, total_outcomes l root calls _, ?_, fun hd ↦ ?_⟩
    · rw [total_outcomes, hinjected, Nat.add_zero]
    · have hlength : (responses root calls).length = calls.length := by
        refine length_responses fun c hc hfault ↦ ?_
        obtain ⟨hsent, hdefeats⟩ := (faults_iff hroot habs (hb c hc)).1 hfault
        exact hd c hc hsent hdefeats
      rw [total_outcomes, total_outcomes, ← hlength, ← countP_outcomes]
      omega

/-- A root with a plain name defeats no call: one that is answered and one with a method that is not
forwarded are both settled, and both are recorded. -/
theorem plain_root_settles :
    let root := "http://backend.test".toList
    let u₀ : Url := ⟨"http".toList, [], "backend.test".toList, none, [], none, none⟩
    let get : Call := ⟨"get", "/a".toList, [], .answers ⟨200, none, [], [], .complete⟩⟩
    let post : Call := { get with method := "POST" }
    let after := (Ledger.empty [] : Ledger Nat).recordAll (outcomes root [get, post])
    Url.parse root = .ok u₀ ∧ u₀.isAbsolute = true ∧ get.Settled root ∧ post.Settled root ∧
      after.total .forwardedOk + after.total .forwardFailed = 2 := by
  intro root u₀ get post after
  have hroot : Url.parse root = .ok u₀ := rfl
  have habs : u₀.isAbsolute = true := rfl
  have hb (c : Call) (hc : c ∈ [get, post]) : c.backend.IsOrdinary := by
    have hpoints : Answer.PointsNowhere ⟨200, none, [], [], .complete⟩ := fun _ _ h ↦ nomatch h
    rcases List.mem_cons.1 hc with rfl | hc
    · exact .answers hpoints
    · cases List.mem_singleton.1 hc
      exact .answers hpoints
  have hd (b : Backend) : ¬ u₀.Defeats b := by
    rintro (h | ⟨-, m, hm⟩)
    · exact h ⟨⟨_, rfl⟩, ⟨_, rfl⟩⟩
    · exact nomatch (rfl : none = u₀.misreading?).trans hm
  obtain ⟨hcalls, htotals⟩ := @settled_unless_defeated root u₀ Nat hroot habs
  have hsettled (c : Call) (hc : c ∈ [get, post]) : c.Settled root :=
    ((hcalls c (hb c hc)).2.2.2 fun h ↦ hd _ h.2).1
  exact ⟨hroot, habs, hsettled get (by simp), hsettled post (by simp),
    (htotals _ _ hb).2.2.2 fun _ _ _ ↦ hd _⟩

/-- **A host whose name in full cannot be found faults**, although it is absolute and the backend
would answer: nothing is recorded, and the backend is not asked. -/
theorem unreadable_name_faults :
    let root := "http://xn--0.test".toList
    let u₀ : Url := ⟨"http".toList, [], "xn--0.test".toList, none, [], none, none⟩
    let c : Call := ⟨"GET", "/a".toList, [], .answers ⟨200, none, [], [], .complete⟩⟩
    Url.parse root = .ok u₀ ∧ u₀.isAbsolute = true ∧
      c.IsSent root ∧ (c.handling root).result = .error (.host .asciiFormMalformed) ∧
      (c.handling root).recorded = [] ∧ (c.handling root).outbound = [] :=
  ⟨rfl, rfl, ⟨⟨_, rfl⟩, rfl⟩, rfl, rfl, rfl⟩

end Relay.Call
end InjectingProxy
