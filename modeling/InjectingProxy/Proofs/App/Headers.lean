import Mathlib.Data.List.Forall2
import InjectingProxy.Proofs.App.Address
import InjectingProxy.Proofs.App.Counting
import InjectingProxy.Proofs.App.Isolation
import InjectingProxy.Proofs.App.Location

/-!
# What the headers of a request can change

A request is counted, forwarded, measured and told of by its method and its target.  Its headers
are looked at in one place only, where a client is sent to another location
(`Request.IsSentElsewhere`): the location names the host that the client has named.  So of two
requests that differ in their headers at most, the gate decides the same, the backend is asked the
same, the same is recorded, and the clients are told the same, unless they are sent elsewhere with
different hosts (`App.headers_matter_only_elsewhere`).

## What is here

* `Request.Resembles`: the requests differ in their headers at most.
* `Request.isSentElsewhere_iff`: the targets whose clients are sent elsewhere.
* `Served.Parallels`: they have been served alike, apart from what their clients are told.
* `App.decision?_receive`: what becomes of them at the gate.
* `App.serve_parallels`, `App.run_parallels`: a request, and requests one after the other.
-/

set_option autoImplicit false

namespace InjectingProxy

namespace Request

/-- The requests differ in their headers at most. -/
structure Resembles (r r' : Request) : Prop where
  method : r.method = r'.method
  target : r.target = r'.target

/-- Either request is the other one with its own headers. -/
theorem Resembles.exists_headers {r r' : Request} (h : r.Resembles r') :
    ∃ headers : List Header, r' = { r with headers } := by
  obtain ⟨method, target, headers⟩ := r
  obtain ⟨_, _, headers'⟩ := r'
  obtain ⟨rfl, rfl⟩ := h
  exact ⟨headers', rfl⟩

/-- The client of the request is sent to another location: the path leads nowhere, another one
leads to the proxy, and the query is text. -/
structure IsSentElsewhere (r : Request) : Prop where
  unserved : Route.isServed r.path = false
  other : (Route.other? r.path).isSome = true
  queryText : ∃ t : Text, Utf8.encode t = r.queryBytes

/-- **Those are sent elsewhere whose path has one line break, before slashes at its end.** -/
theorem isSentElsewhere_iff {r : Request} (h : r.IsRooted) : r.IsSentElsewhere ↔
    (∃ start slashes : Text, r.path = start ++ '\n' :: slashes ∧ '\n' ∉ start ∧ slashes ≠ [] ∧
      ∀ c ∈ slashes, c = '/') ∧ ∃ t : Text, Utf8.encode t = r.queryBytes := by
  rw [← Route.leads_elsewhere_iff h.path]
  exact ⟨fun hr ↦ ⟨⟨hr.unserved, hr.other⟩, hr.queryText⟩, fun hr ↦ ⟨hr.1.1, hr.1.2, hr.2⟩⟩

/-- The other path that the client is sent to, and the query. -/
theorem IsSentElsewhere.destination {r : Request} (h : r.IsSentElsewhere) : ∃ other query : Text,
    Route.isServed r.path = false ∧ Route.other? r.path = some other ∧
      Utf8.decode r.queryBytes = .ok query := by
  obtain ⟨other, hother⟩ := Option.isSome_iff_exists.1 h.other
  obtain ⟨query, hquery⟩ := h.queryText
  exact ⟨other, query, h.unserved, hother, Utf8.decode_eq_ok_iff.2 hquery⟩

end Request

namespace App

variable {a : App} {r r' : Request}

/-! ## At the gate -/

/-- A client that is sent elsewhere is told a location with the host that it has named. -/
theorem receive_of_isSentElsewhere (h : r.IsSentElsewhere) : ∃ other query : Text,
    ∀ (headers : List Header) (asked : Int), a.receive asked { r with headers } =
      .aside (.ok (.reply (Reply.elsewhere
        (Route.location { r with headers } query other)))) := by
  obtain ⟨other, query, hunserved, hother, hquery⟩ := h.destination
  refine ⟨other, query, fun headers asked ↦ ?_⟩
  have hpath : ({ r with headers } : Request).path = r.path := rfl
  have hbytes : ({ r with headers } : Request).queryBytes = r.queryBytes := rfl
  rw [receive, hpath, hbytes, hunserved, hother, hquery]
  rfl

/-- At the gate, headers have no part in anything else. -/
theorem receive_of_not_isSentElsewhere (h : ¬ r.IsSentElsewhere) (headers : List Header)
    (asked : Int) : a.receive asked { r with headers } = a.receive asked r := by
  have hpath : ({ r with headers } : Request).path = r.path := rfl
  have hbytes : ({ r with headers } : Request).queryBytes = r.queryBytes := rfl
  rw [receive, hpath, hbytes, receive]
  cases hserved : Route.isServed r.path with
  | true => rfl
  | false =>
    cases hother : Route.other? r.path with
    | none => rfl
    | some other =>
      cases hquery : Utf8.decode r.queryBytes with
      | error f => rfl
      | ok query =>
        exact absurd ⟨hserved, hother ▸ rfl, query, Utf8.decode_eq_ok_iff.1 hquery⟩ h

/-- The gate looks at no headers. -/
theorem decision?_receive (a : App) (r : Request) (headers : List Header) (asked : Int) :
    (a.receive asked { r with headers }).decision? = (a.receive asked r).decision? := by
  by_cases hr : r.IsSentElsewhere
  · obtain ⟨other, query, hreceive⟩ := receive_of_isSentElsewhere (a := a) hr
    rw [hreceive headers asked]
    exact (congrArg Admission.decision? (hreceive r.headers asked)).symm
  · rw [receive_of_not_isSentElsewhere hr]

/-! ## Serving -/

/-- The requests have been served alike, apart from what their clients are told: the state
afterwards and what was asked of the backend are the same, and so are the outcomes, the fault, the
use of the answer and the events. -/
structure Served.Parallels (p p' : Served) : Prop where
  state : p.state = p'.state
  seenInFlight : p.seenInFlight = p'.seenInFlight
  outbound : p.exchange.outbound = p'.exchange.outbound
  recorded : p.exchange.recorded = p'.exchange.recorded
  raised : p.exchange.raised = p'.exchange.raised
  bodyUse : p.exchange.bodyUse = p'.exchange.bodyUse
  events : p.exchange.events = p'.exchange.events

theorem Served.Parallels.refl (p : Served) : p.Parallels p := ⟨rfl, rfl, rfl, rfl, rfl, rfl, rfl⟩

/-- How the sending of a reply ends is up to the client alone. -/
theorem ending_deliver_reply (c : Client) (x y : Reply) :
    (x.script.deliver c false).ending = (y.script.deliver c false).ending := by
  simp only [Script.deliver, Reply.script, Reply.messages, List.map_cons, List.map_nil,
    Script.deliverAfter, Client.reaction, Bool.false_and, Bool.false_eq_true, if_false]
  -- it can break off before the first message, or before the second
  cases c.failsAfter.any (decide <| · ≤ 0) <;> cases c.failsAfter.any (decide <| · ≤ 0 + 1) <;> rfl

theorem serve_parallels_of_aside {s : State} {x y : Reply} (w : Surroundings)
    (hx : a.receive s.asked r = .aside (.ok (.reply x)))
    (hy : a.receive s.asked r' = .aside (.ok (.reply y))) :
    (a.serve s r w).Parallels (a.serve s r' w) := by
  have hending := ending_deliver_reply w.client x y
  rw [serve, handle_of_aside (s := s.enter) w.backend hx, serve,
    handle_of_aside (s := s.enter) w.backend hy]
  exact ⟨rfl, rfl, rfl, rfl, congrArg Ending.fault? hending, rfl, rfl⟩

/-- Headers have no part in the handling of a request whose client is not sent elsewhere. -/
theorem handle_of_not_isSentElsewhere (s : State) (h : ¬ r.IsSentElsewhere) (headers : List Header)
    (b : Backend) : a.handle s { r with headers } b = a.handle s r b := by
  rw [handle, receive_of_not_isSentElsewhere h, handle]
  cases hreceive : a.receive s.asked r with
  | aside result => rfl
  | counted ordinal inject =>
    -- the path that is forwarded is taken out of an address with the host that a header names
    have haddress := Request.address_headers (head?_path_of_counted hreceive) headers
    have hparams : ({ r with headers } : Request).params = r.params := rfl
    simp only [told, forward, haddress, hparams]

/-- **Headers change nothing but what a client is told.** -/
theorem serve_parallels (a : App) (s : State) (r : Request) (headers : List Header)
    (w : Surroundings) : (a.serve s r w).Parallels (a.serve s { r with headers } w) := by
  by_cases hr : r.IsSentElsewhere
  · obtain ⟨other, query, hreceive⟩ := receive_of_isSentElsewhere (a := a) hr
    exact serve_parallels_of_aside w (hreceive r.headers s.asked) (hreceive headers s.asked)
  · rw [serve, serve, handle_of_not_isSentElsewhere s.enter hr headers]
    exact .refl _

/-! ## What clients are told -/

/-- Different locations are told apart by all clients that receive anything. -/
theorem received_elsewhere_iff (c : Client) (location location' : Bytes) :
    c.received (Reply.elsewhere location).messages =
        c.received (Reply.elsewhere location').messages ↔
      c.failsAfter = some 0 ∨ location = location' := by
  rw [Client.received, Client.received]
  rcases c.failsAfter with _ | _ | k <;> simp [Reply.messages, Reply.elsewhere]

theorem messages_eq_iff_of_isSentElsewhere (a : App) (s : State) {r : Request}
    (h : r.IsSentElsewhere) (headers : List Header) (w : Surroundings) :
    (a.serve s r w).exchange.messages = (a.serve s { r with headers } w).exchange.messages ↔
      w.client.failsAfter = some 0 ∨ Route.hostOf r.headers = Route.hostOf headers := by
  obtain ⟨other, query, hreceive⟩ := receive_of_isSentElsewhere (a := a) h
  rw [serve_messages, handle_of_aside (s := s.enter) w.backend (hreceive r.headers s.asked),
    answer_messages_reply w rfl, serve_messages,
    handle_of_aside (s := s.enter) w.backend (hreceive headers s.asked),
    answer_messages_reply w rfl, received_elsewhere_iff, Route.location_eq_iff]

theorem messages_eq_of_not_isSentElsewhere (a : App) (s : State) {r : Request}
    (h : ¬ r.IsSentElsewhere) (headers : List Header) (w : Surroundings) :
    (a.serve s r w).exchange.messages = (a.serve s { r with headers } w).exchange.messages := by
  rw [serve_messages, serve_messages, handle_of_not_isSentElsewhere s.enter h headers]

/-! ## Runs -/

/-- **Runs of requests with other headers go alike**: each request is served alike, and so all
states are the same. -/
theorem run_parallels (a : App) {requests requests' : List (Request × Surroundings)}
    (h : List.Forall₂ (fun p p' ↦ p.1.Resembles p'.1 ∧ p.2 = p'.2) requests requests') :
    ∀ s : State, List.Forall₂ Served.Parallels (a.run s requests) (a.run s requests') := by
  induction h with
  | nil => exact fun _ ↦ .nil
  | @cons p p' requests requests' hp _ ih =>
    intro s
    obtain ⟨r, w⟩ := p
    obtain ⟨r', w'⟩ := p'
    obtain ⟨hr, rfl⟩ := hp
    obtain ⟨headers, rfl⟩ := hr.exists_headers
    have hserve := serve_parallels a s r headers w
    exact .cons hserve (hserve.state ▸ ih _)

/-! ## Main statement -/

/-- **Headers matter only to clients that are sent elsewhere.**  Of two requests that differ in
their headers at most, the gate decides the same and the backend is asked the same; state, outcomes,
fault, use of the answer and events are the same, too, in runs as well.  The messages to the clients
are the same exactly unless they are sent elsewhere, have named different hosts, and receive
anything. -/
theorem headers_matter_only_elsewhere (a : App) (s : State) {r r' : Request} (h : r.Resembles r')
    (w : Surroundings) :
    (a.receive s.asked r).decision? = (a.receive s.asked r').decision? ∧
      (a.serve s r w).Parallels (a.serve s r' w) ∧
      ((a.serve s r w).exchange.messages = (a.serve s r' w).exchange.messages ↔
        (r.IsSentElsewhere → w.client.failsAfter = some 0 ∨
          Route.hostOf r.headers = Route.hostOf r'.headers)) := by
  obtain ⟨headers, rfl⟩ := h.exists_headers
  refine ⟨(decision?_receive a r headers s.asked).symm, serve_parallels a s r headers w, ?_⟩
  by_cases hr : r.IsSentElsewhere
  · rw [messages_eq_iff_of_isSentElsewhere a s hr]
    exact ⟨fun hm _ ↦ hm, fun hm ↦ hm hr⟩
  · exact ⟨fun _ hr' ↦ absurd hr' hr, fun _ ↦ messages_eq_of_not_isSentElsewhere a s hr headers w⟩

/-- A cookie, a credential and another host change nothing of a request that the gate lets pass. -/
theorem credentials_change_nothing :
    let r : Request := ⟨"GET", word "/a?x=1", []⟩
    let r' : Request := { r with headers := [(word "host", word "evil.test"),
      (word "cookie", word "id=1"), (word "authorization", [0xFF])] }
    r.Resembles r' ∧ (alternating.serve .initial r .calm).exchange.messages =
      (alternating.serve .initial r' .calm).exchange.messages := by
  intro r r'
  have h : r.Resembles r' := ⟨rfl, rfl⟩
  refine ⟨h, (headers_matter_only_elsewhere alternating .initial h .calm).2.2.2 fun hr ↦ ?_⟩
  exact absurd hr.unserved (by decide)

/-- **A client that is sent elsewhere is sent to the host that it has named.** -/
theorem sent_to_named_host :
    let r : Request := ⟨"GET", word "/a%0A/", []⟩
    let r' : Request := { r with headers := [(word "host", word "evil.test")] }
    r.Resembles r' ∧ (alternating.serve .initial r .calm).exchange.messages ≠
      (alternating.serve .initial r' .calm).exchange.messages :=
  ⟨⟨rfl, rfl⟩, by decide +kernel⟩

end App
end InjectingProxy
