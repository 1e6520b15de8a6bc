import InjectingProxy.Proofs.Answer
import InjectingProxy.Proofs.App.Serve
import InjectingProxy.Proofs.Relay

/-!
# How an answer is streamed

An answer that is handed on is streamed: each chunk is sent before the next one is taken.  The
client can go away at any place, or let a message fail, and the backend can break off or stay
silent.  That a client has gone is noticed up to version 2.3 of the interface to the server.  From
the next version on nobody listens for it: everything is sent as if it had stayed, and only a
message that fails ends the sending (`Exchange.StreamsLazily.unheard`).

## What is here

* `Exchange.StreamsLazily`: what is true of the exchange whatever happens.  The client has received
  a first part of the transcript, has the end of the body only if the backend came to it, and no
  more than one chunk has been taken that the client did not receive.
* `Script.Cut.complete_of_transcript` and its neighbours: the same of a delivery, by the ways in
  which a client can cut a script.
* `Response.ends_iff`: when the sending comes to an end at all.
* `Answer.relayed_transparently`: nothing is interrupted, and the client receives the transcript.
* `Answer.streamed_lazily`: anything may be interrupted.

An answer is handed on if it points nowhere and the host of the root does not defeat the call
(`Answer.IsHandedOn`).  Both main statements are about every handling in which that has happened.
-/

set_option autoImplicit false

namespace InjectingProxy

@[simp] theorem BodyUse.release_taken (u : BodyUse) : u.release.taken = u.taken := by
  rw [release]
  split <;> rfl

/-! ## Responses with an answer -/

theorem Handling.respond_of_relayed {h : Handling} {a : Answer} (c : Client) (version : List Nat)
    (hr : h.result = .ok (.relayed a)) :
    let listening := Response.listens version
    let d := a.script.deliver c listening
    h.respond c version =
      { response := some (.relayed a)
        raised := d.ending.fault?.map (Fault.whileStreaming listening)
        messages := d.messages, outbound := h.outbound, bodyUse := some d.use.release
        recorded := h.recorded, events := h.events ++ [.released] } := by
  rw [respond, hr]

/-- The sending of a response to a client comes to an end.  It does not if the backend stays silent
while the client still waits. -/
def Response.Ends (r : Response) (c : Client) (version : List Nat) : Prop :=
  match r with
  | .reply _ => True
  | .relayed a => (a.script.deliver c (listens version)).ending ≠ .stalled

/-- What is true of an exchange in which an answer was streamed to a client. -/
structure Exchange.StreamsLazily (x : Exchange) (a : Answer) (c : Client) (listening : Bool) :
    Prop where
  messages_prefix : x.messages <+: a.transcript
  /-- The end of the body is told only after the backend has come to it. -/
  complete : .body [] false ∈ x.messages → a.bodyEnd = .complete ∧
    ∃ use, x.bodyUse = some use ∧ use.taken = a.chunks.length
  stops_failing : ∀ k, c.failsAfter = some k → x.messages.length ≤ k
  stops_leaving : listening = true → ∀ k, c.leavesAfter = some k →
    x.messages.countP Message.isBody ≤ k
  /-- While nobody listens, the client receives all that there is, up to a message that fails. -/
  unheard : listening = false → x.messages = c.received a.offered
  /-- At most one chunk is taken ahead, apart from empty ones. -/
  lazy : ∃ use, x.bodyUse = some use ∧
    (Answer.filled (a.chunks.take use.taken)).length ≤ x.messages.countP Message.isBody + 1
  raised_iff : x.raised = none ↔ c.HasLeft listening x.messages ∨ x.messages = a.transcript
  /-- A fault is the one of a message that failed, or the one with which the body broke off. -/
  cause : ∀ f, x.raised = some f →
    (f = Fault.clientGone.whileStreaming listening ∧ c.failsAfter = some x.messages.length) ∨
      ∃ g, f = (Fault.backend g).whileStreaming listening ∧ a.bodyEnd = .broken g ∧
        x.messages = a.offered

namespace Script.Cut

variable {a : Answer} {c : Client} {listening : Bool} {d : Delivery}

theorem taken_le (h : a.script.Cut c listening d) (hu : a.IsUncoded) :
    (Answer.filled (a.chunks.take d.use.taken)).length ≤ d.messages.length := by
  cases h with
  | whole =>
    rw [Answer.script_messages hu, Answer.script_use hu, List.take_length, Answer.offered,
      Answer.transcript, Answer.pieces]
    split
    · simp only [List.length_cons, List.length_append, List.length_map]
      omega
    · simp only [List.length_cons, List.length_map]
      omega
  | fails hs =>
    rw [List.length_map]
    exact Answer.script_lazy hu hs
  | leaves hs =>
    rw [List.length_append, List.length_map]
    exact Nat.le_add_right_of_le (Answer.script_lazy hu hs)

theorem prefix_offered (h : a.script.Cut c listening d) (hu : a.IsUncoded) :
    d.messages <+: a.offered :=
  Answer.script_messages hu ▸ h.messages_prefix

/-- If all of a transcript is received, then the body has come to its end, and all chunks have been
taken. -/
theorem complete_of_transcript (h : a.script.Cut c listening d) (hu : a.IsUncoded)
    (hwhole : d.messages = a.transcript) :
    a.bodyEnd = .complete ∧ d.use.taken = a.chunks.length := by
  have hoffered : a.offered = a.transcript :=
    a.offered_prefix.eq_of_length_le (hwhole ▸ (h.prefix_offered hu).length_le)
  refine ⟨Answer.offered_eq_transcript_iff.1 hoffered, ?_⟩
  cases h with
  | whole => rw [Answer.script_use hu]
  | @fails before e after hs =>
    -- the message that failed stands in the script, but not in what was received
    have hlength := congrArg List.length (hwhole.trans (hoffered.symm.trans
      (Answer.script_messages hu).symm))
    simp [Script.messages, hs] at hlength
  | @leaves before e after hs =>
    have hfinal : e.message = .body [] false := by
      have hlast := congrArg List.getLast? hwhole
      rw [List.getLast?_concat, Answer.transcript, List.getLast?_concat] at hlast
      exact Option.some.inj hlast
    exact Answer.script_final hu (by rw [hs]; simp) hfinal

theorem fault?_eq_none_iff (h : a.script.Cut c listening d) (hu : a.IsUncoded)
    (hends : d.ending ≠ .stalled) :
    d.ending.fault? = none ↔ c.HasLeft listening d.messages ∨ d.messages = a.transcript := by
  cases h with
  | whole hfails hstays =>
    show a.script.ending.fault? = none ↔
      c.HasLeft listening a.script.messages ∨ a.script.messages = a.transcript
    rw [or_iff_right hstays, Answer.script_messages hu, Answer.offered_eq_transcript_iff]
    rw [Answer.script_ending hu] at hends ⊢
    generalize a.bodyEnd = bodyEnd at hends ⊢
    cases bodyEnd with
    | complete => exact ⟨fun _ ↦ rfl, fun _ ↦ rfl⟩
    | silent => exact absurd rfl hends
    | broken f => exact ⟨fun h ↦ absurd h (Option.some_ne_none _), fun h ↦ by cases h⟩
  | @fails before e after hs hfails hstays =>
    have hshort : before.map Emission.message ≠ a.transcript := by
      intro hwhole
      have hle := a.offered_prefix.length_le
      rw [← hwhole, ← Answer.script_messages hu, Script.messages, hs] at hle
      simp only [List.length_map, List.length_append, List.length_cons] at hle
      omega
    exact ⟨fun h ↦ absurd h (Option.some_ne_none _),
      fun h ↦ absurd (h.resolve_left hstays) hshort⟩
  | leaves hs hfails hleft => exact ⟨fun _ ↦ .inl hleft, fun _ ↦ rfl⟩

theorem cause (h : a.script.Cut c listening d) (hu : a.IsUncoded) {f : Fault}
    (hf : d.ending.fault? = some f) :
    (f = .clientGone ∧ c.failsAfter = some d.messages.length) ∨
      ∃ g, f = .backend g ∧ a.bodyEnd = .broken g ∧ d.messages = a.offered := by
  cases h with
  | whole =>
    rw [Answer.script_ending hu] at hf
    rw [Answer.script_messages hu]
    cases hb : a.bodyEnd with
    | complete => rw [hb] at hf; cases hf
    | silent => rw [hb] at hf; cases hf
    | broken g =>
      rw [hb] at hf
      cases hf
      exact .inr ⟨g, rfl, rfl, rfl⟩
  | fails hs hfails =>
    cases hf
    exact .inl ⟨rfl, by rw [List.length_map]; exact hfails⟩
  | leaves => cases hf

end Script.Cut

/-- **The sending of an answer comes to an end**, unless the backend stays silent and the client
takes all that there is. -/
theorem Response.ends_iff {a : Answer} (hu : a.IsUncoded) (c : Client) (version : List Nat) :
    (Response.relayed a).Ends c version ↔
      (a.bodyEnd = .silent →
        (∃ k, c.failsAfter = some k ∧ k ≤ a.pieces.length) ∨
          listens version = true ∧ ∃ k, c.leavesAfter = some k ∧ k ≤ a.pieces.length) := by
  have hcut := a.script.deliver_cut c (listens version)
  have hmessages (hsilent : a.bodyEnd = .silent) : a.script.messages = a.opening :: a.pieces := by
    rw [Answer.script_messages hu, Answer.offered, hsilent]
  have hlength (hsilent : a.bodyEnd = .silent) :
      a.script.emissions.length = a.pieces.length + 1 := by
    rw [← List.length_map Emission.message, ← Script.messages, hmessages hsilent, List.length_cons]
  rw [Ends]
  constructor
  · intro hends hsilent
    have hfirst := hmessages hsilent ▸ hcut.messages_prefix
    generalize a.script.deliver c (listens version) = d at hcut hends hfirst
    cases hcut with
    | whole => exact absurd ((Answer.script_ending hu).trans (by rw [hsilent]; rfl)) hends
    | @fails before e after hs hfails =>
      have hle := hlength hsilent
      rw [hs, List.length_append, List.length_cons] at hle
      exact .inl ⟨_, hfails, by omega⟩
    | leaves hs hfails hleft =>
      have hle := List.Sublist.countP_le (p := Message.isBody) hfirst.sublist
      rw [Answer.countP_isBody_pieces] at hle
      exact .inr ⟨hleft.1, _, hleft.2.2, hle⟩
  · intro hreach hstalled
    have hleast {k : Nat} (hlistens : listens version = true) (hk : c.leavesAfter = some k) :
        (a.script.deliver c (listens version)).messages.countP Message.isBody ≤ k := by
      rw [hlistens]
      exact Script.countP_deliver_le hk (Answer.emissions_of_isUncoded hu) rfl
    generalize a.script.deliver c (listens version) = d at hcut hstalled hleast
    cases hcut with
    | fails => cases hstalled
    | leaves => cases hstalled
    | whole hfails hstays =>
      have hsilent : a.bodyEnd = .silent := by
        rw [Answer.script_ending hu] at hstalled
        cases hb : a.bodyEnd with
        | silent => rfl
        | complete => rw [hb] at hstalled; cases hstalled
        | broken f => rw [hb] at hstalled; cases hstalled
      rcases hreach hsilent with ⟨k, hk, hle⟩ | ⟨hlistens, k, hk, hle⟩
      · have := hfails k hk
        rw [hlength hsilent] at this
        omega
      · have hcount := hleast hlistens hk
        rw [hmessages hsilent, Answer.countP_isBody_pieces] at hcount
        refine hstays ⟨hlistens, hmessages hsilent ▸ List.cons_ne_nil _ _, ?_⟩
        rw [hmessages hsilent, Answer.countP_isBody_pieces, Nat.le_antisymm hcount hle]
        exact hk

/-- **An answer without codings is streamed lazily**, if its sending comes to an end. -/
theorem Handling.respond_streamsLazily {h : Handling} {a : Answer} (hu : a.IsUncoded)
    (hr : h.result = .ok (.relayed a)) (c : Client) (version : List Nat)
    (hends : (Response.relayed a).Ends c version) :
    (h.respond c version).StreamsLazily a c (Response.listens version) := by
  rw [h.respond_of_relayed c version hr]
  have hcut := a.script.deliver_cut c (Response.listens version)
  have hfirst := (hcut.prefix_offered hu).trans a.offered_prefix
  constructor
  · exact hfirst
  · intro hfinal
    obtain ⟨hbody, htaken⟩ :=
      hcut.complete_of_transcript hu (Answer.eq_transcript_of_prefix hfirst hfinal)
    exact ⟨hbody, _, rfl, by rw [BodyUse.release_taken, htaken]⟩
  · exact fun k hk ↦ hcut.length_le hk
  · intro hlistening k hk
    rw [hlistening]
    exact Script.countP_deliver_le hk (Answer.emissions_of_isUncoded hu) rfl
  · intro hunheard
    rw [hunheard]
    exact (Script.deliver_messages c a.script).trans (congrArg _ (Answer.script_messages hu))
  · refine ⟨_, rfl, ?_⟩
    rw [BodyUse.release_taken]
    exact Nat.le_trans (hcut.taken_le hu) (Answer.length_le_of_prefix hfirst)
  · rw [Option.map_eq_none_iff]
    exact hcut.fault?_eq_none_iff hu hends
  · intro f hf
    obtain ⟨f', hf', rfl⟩ := Option.map_eq_some_iff.1 hf
    rcases hcut.cause hu hf' with ⟨rfl, hfails⟩ | ⟨g, rfl, hbroken⟩
    · exact .inl ⟨rfl, hfails⟩
    · exact .inr ⟨g, rfl, hbroken⟩

/-! ## Answers that are handed on -/

namespace Relay

variable {root : Text} {backendOpen : Bool} {method : String} {path : Text}
  {params : List Form.Parameter} {b : Backend} {a : Answer}

theorem recorded_of_relayed
    (h : (handle root backendOpen method path params b).result = .ok (.relayed a)) :
    (handle root backendOpen method path params b).recorded = [.forwardedOk] := by
  rw [handle_recorded, h]
  rfl

/-- Whether an answer is handed on is settled by its code and its headers. -/
theorem relayed_of_headers {a' : Answer}
    (h : (handle root backendOpen method path params b).result = .ok (.relayed a))
    (hcode : a'.code = a.code) (hheaders : a'.headers = a.headers) :
    (handle root backendOpen method path params (.answers a')).result = .ok (.relayed a') := by
  have hlocation : a'.location? = a.location? := by
    simp only [Answer.location?, Answer.header?, Answer.headerValues, hcode, hheaders]
  rw [handle_relayed_iff] at h ⊢
  obtain ⟨hopen, -, u, o, ho, hread, hsense⟩ := h
  exact ⟨hopen, rfl, u, o, ho, hread, fun location hl ↦ hsense location (hlocation ▸ hl)⟩

end Relay

/-- Wherever the answer is given to a call below an absolute root, it is handed on, unless the host
of the root defeats the call. -/
def Answer.IsHandedOn (a : Answer) : Prop :=
  ∀ (root : Text) (u₀ : Url) (c : Relay.Call), Url.parse root = .ok u₀ → u₀.isAbsolute = true →
    c.backend = .answers a → c.IsSent root → ¬ u₀.Defeats c.backend →
      (c.handling root).result = .ok (.relayed a) ∧
        (c.handling root).recorded = [.forwardedOk]

theorem Answer.PointsNowhere.isHandedOn {a : Answer} (h : a.PointsNowhere) : a.IsHandedOn := by
  intro root u₀ c hroot habs hb hsent hd
  have hordinary : c.backend.IsOrdinary := hb ▸ .answers h
  exact (Relay.Call.settled_of_not_defeats hroot habs hordinary fun _ ↦ hd).answered a hsent hb

namespace App

variable {a : App} {s : State} {r : Request} {b : Backend} {w : Surroundings} {given : Answer}

/-- An answer is handed on by the application only as it is handed on by the relay. -/
theorem handle_relayed_iff :
    (a.handle s r b).1.result = .ok (.relayed given) ↔
      (∃ ordinal, a.receive s.asked r = .counted ordinal false) ∧
        (a.forward s r b).result = .ok (.relayed given) := by
  cases hreceive : a.receive s.asked r with
  | aside result =>
    rw [handle_of_aside b hreceive]
    refine ⟨fun h ↦ absurd h (receive_aside_ne hreceive given), ?_⟩
    rintro ⟨⟨_, ⟨⟩⟩, -⟩
  | counted ordinal inject =>
    rw [handle_of_counted b hreceive]
    cases inject with
    | true =>
      refine ⟨fun h ↦ absurd h (inject_result_ne a given), ?_⟩
      rintro ⟨⟨_, ⟨⟩⟩, -⟩
    | false => exact ⟨fun h ↦ ⟨⟨ordinal, rfl⟩, h⟩, fun h ↦ h.2⟩

theorem handle_recorded_of_relayed (h : (a.handle s r b).1.result = .ok (.relayed given)) :
    (a.handle s r b).1.recorded = [.forwardedOk] := by
  obtain ⟨⟨ordinal, hreceive⟩, hrelayed⟩ := handle_relayed_iff.1 h
  rw [handle_of_counted b hreceive]
  exact Relay.recorded_of_relayed hrelayed

theorem handle_relayed_of_headers {given' : Answer}
    (h : (a.handle s r b).1.result = .ok (.relayed given)) (hcode : given'.code = given.code)
    (hheaders : given'.headers = given.headers) :
    (a.handle s r (.answers given')).1.result = .ok (.relayed given') := by
  obtain ⟨hcounted, hrelayed⟩ := handle_relayed_iff.1 h
  exact handle_relayed_iff.2 ⟨hcounted, Relay.relayed_of_headers hrelayed hcode hheaders⟩

theorem handle_of_serve_relayed (h : (a.serve s r w).exchange.response = some (.relayed given)) :
    (a.handle s.enter r w.backend).1.result = .ok (.relayed given) := by
  rw [serve_response] at h
  cases hr : (a.handle s.enter r w.backend).1.result with
  | error f => rw [hr] at h; cases h
  | ok response => rw [hr] at h; cases h; rfl

theorem serve_recorded_of_relayed
    (h : (a.handle s.enter r w.backend).1.result = .ok (.relayed given)) :
    (a.serve s r w).exchange.recorded = [.forwardedOk] :=
  (serve_recorded w a s r).trans (handle_recorded_of_relayed h)

/-- An answer that is streamed through the application is streamed like one of the relay, and only
the events are more. -/
theorem serve_of_relayed (h : (a.handle s.enter r w.backend).1.result = .ok (.relayed given)) :
    ∃ events, (a.serve s r w).exchange =
      { (a.handle s.enter r w.backend).1.respond w.client w.version with events } := by
  have hresponse : ((a.handle s.enter r w.backend).1.respond w.client w.version).response =
      some (.relayed given) := by
    rw [Handling.respond_response, h]
    rfl
  have hanswer : answer (a.handle s.enter r w.backend).1 w =
      (a.handle s.enter r w.backend).1.respond w.client w.version :=
    Exchange.recover_of_response w.client hresponse
  refine ⟨(a.serve s r w).exchange.events, ?_⟩
  rw [← hanswer]
  rfl

end App

/-! ## Main statements -/

namespace Answer

variable {a : Answer}

/-- **An answer without codings whose body ends is handed on as it is** to a client that takes
everything, whether or not somebody listens for the client. -/
theorem relayed_transparently (hu : a.IsUncoded) (hend : a.bodyEnd = .complete) :
    (∀ (h : Handling) (version : List Nat), h.result = .ok (.relayed a) →
      let x := h.respond .patient version
      x.messages = a.transcript ∧ x.raised = none ∧
        x.bodyUse = some ⟨a.chunks.length, 1⟩ ∧ x.recorded = h.recorded) ∧
      (a.PointsNowhere → a.IsHandedOn) := by
  refine ⟨fun h version hr ↦ ?_, PointsNowhere.isHandedOn⟩
  have hdeliver : a.script.deliver .patient (Response.listens version) =
      ⟨a.transcript, ⟨a.chunks.length, 1⟩, .complete⟩ := by
    rw [Script.deliver_patient, script_messages hu, offered_eq_transcript_iff.2 hend,
      script_ending hu, script_use hu, hend]
    rfl
  rw [h.respond_of_relayed _ _ hr, hdeliver]
  exact ⟨rfl, rfl, rfl, rfl⟩

/-- A phrase that is not ASCII, two content types and an empty chunk, below a plain root: of these
the description keeps two letters, the first content type passes, and two pieces are sent. -/
theorem missing_page_relayed :
    let a : Answer :=
      { code := 404, phrase := some [0x4E, 0xE9, 0x6F]
        headers := [(word "CONTENT-TYPE", word "a"), (word "content-type", word "b")]
        chunks := [word "x", [], word "y"], bodyEnd := .complete }
    let c : Relay.Call := ⟨"GET", "/a".toList, [], .answers a⟩
    let h := c.handling "http://backend.test".toList
    a.IsUncoded ∧ a.bodyEnd = .complete ∧ h.result = .ok (.relayed a) ∧
      (h.respond .patient [2, 4]).messages = a.transcript ∧
      a.transcript =
        [.start 404 [(word "x-status-description", word "No"), (word "content-type", word "a")],
          .body (word "x") true, .body (word "y") true, .body [] false] :=
  ⟨codings_eq_nil_iff.1 rfl, rfl, rfl,
    ((relayed_transparently (codings_eq_nil_iff.1 rfl) rfl).1 _ [2, 4] rfl).1, rfl⟩

/-- **However the streaming of an answer is interrupted, it is lazy**, and what is recorded is what
would be recorded without the interruption.  A client that goes away interrupts it only while
somebody listens for that; otherwise all goes on as if the client had stayed. -/
theorem streamed_lazily (hu : a.IsUncoded) (client : Client) (version : List Nat)
    (hends : (Response.relayed a).Ends client version) :
    (∀ (root : Text) (c : Relay.Call), (c.handling root).result = .ok (.relayed a) →
      let whole : Relay.Call := { c with backend := .answers { a with bodyEnd := .complete } }
      let x := (c.handling root).respond client version
      x.StreamsLazily a client (Response.listens version) ∧
        (Response.listens version = false →
          (c.handling root).respond client.staying version = x) ∧
        x.recorded = [.forwardedOk] ∧
        ((whole.handling root).respond .patient version).recorded = x.recorded) ∧
      (∀ (app : App) (s : App.State) (r : Request) (w : Surroundings),
        w.client = client → w.version = version →
          (app.serve s r w).exchange.response = some (.relayed a) →
        let whole : Surroundings :=
          { w with backend := .answers { a with bodyEnd := .complete }, client := .patient }
        let x := (app.serve s r w).exchange
        x.StreamsLazily a client (Response.listens version) ∧
          (Response.listens version = false →
            app.serve s r { w with client := client.staying } = app.serve s r w) ∧
          x.recorded = [.forwardedOk] ∧
          (app.serve s r whole).exchange.recorded = x.recorded) ∧
      (a.PointsNowhere → a.IsHandedOn) := by
  refine ⟨?_, ?_, PointsNowhere.isHandedOn⟩
  · intro root c hr whole x
    have hrecorded := Relay.recorded_of_relayed hr
    have hwhole := Relay.recorded_of_relayed
      (Relay.relayed_of_headers hr rfl rfl : (whole.handling root).result = .ok (.relayed _))
    refine ⟨Handling.respond_streamsLazily hu hr client version hends,
      Handling.respond_staying _ client, ?_, ?_⟩
    · rw [Handling.respond_recorded]
      exact hrecorded
    · rw [Handling.respond_recorded, Handling.respond_recorded]
      exact hwhole.trans hrecorded.symm
  · intro app s r w hclient hversion hx whole x
    have hr := App.handle_of_serve_relayed hx
    have hrecorded := App.serve_recorded_of_relayed hr
    have hwhole : (app.handle s.enter r whole.backend).1.result = .ok (.relayed _) :=
      App.handle_relayed_of_headers hr rfl rfl
    refine ⟨?_, ?_, hrecorded, (App.serve_recorded_of_relayed hwhole).trans hrecorded.symm⟩
    · obtain ⟨events, heq⟩ := App.serve_of_relayed hr
      rw [hclient, hversion] at heq
      rw [show x = _ from heq]
      obtain ⟨hfirst, hcomplete, hfails, hleaves, hunheard, hlazy, hraised, hcause⟩ :=
        Handling.respond_streamsLazily hu hr client version hends
      exact ⟨hfirst, hcomplete, hfails, hleaves, hunheard, hlazy, hraised, hcause⟩
    · intro hunheard
      rw [← hclient]
      exact App.serve_staying w app s r (hversion ▸ hunheard)

/-- A backend that sends a piece and then stays silent, to a client that leaves after the piece. -/
theorem silence_left :
    let a : Answer := ⟨200, none, [], [word "x", []], .silent⟩
    let c : Relay.Call := ⟨"GET", "/a".toList, [], .answers a⟩
    let x := (c.handling "http://backend.test".toList).respond ⟨none, some 1⟩ [2, 3]
    a.IsUncoded ∧ (Response.relayed a).Ends ⟨none, some 1⟩ [2, 3] ∧
      x.StreamsLazily a ⟨none, some 1⟩ true ∧ x.messages = [a.opening, .body (word "x") true] := by
  have hends {a : Answer} (hu : a.IsUncoded) (hpieces : 1 ≤ a.pieces.length) :
      (Response.relayed a).Ends ⟨none, some 1⟩ [2, 3] :=
    (Response.ends_iff hu _ _).2 fun _ ↦ .inr ⟨rfl, 1, rfl, hpieces⟩
  have hu : Answer.IsUncoded ⟨200, none, [], [word "x", []], .silent⟩ := codings_eq_nil_iff.1 rfl
  exact ⟨hu, hends hu (Nat.le_refl 1),
    ((streamed_lazily hu _ _ (hends hu (Nat.le_refl 1))).1 _ _ rfl).1, rfl⟩

/-- A client that leaves after the first of two pieces, under a version from which on nobody listens
for it: it is sent everything all the same, and nothing comes out. -/
theorem departure_unheard :
    let a : Answer := ⟨200, none, [], [word "x", word "y"], .complete⟩
    let client : Client := ⟨none, some 1⟩
    let c : Relay.Call := ⟨"GET", "/a".toList, [], .answers a⟩
    let x := (c.handling "http://backend.test".toList).respond client [2, 4]
    a.IsUncoded ∧ (Response.relayed a).Ends client [2, 4] ∧
      x.response = some (.relayed a) ∧ x.raised = none ∧
      x.messages =
        [a.opening, .body (word "x") true, .body (word "y") true, .body [] false] ∧
      ¬ ∀ k, client.leavesAfter = some k → x.messages.countP Message.isBody ≤ k := by
  have hu : Answer.IsUncoded ⟨200, none, [], [word "x", word "y"], .complete⟩ :=
    codings_eq_nil_iff.1 rfl
  refine ⟨hu, (Response.ends_iff hu _ _).2 fun hsilent ↦ ?_, rfl, rfl, rfl, fun hstops ↦ ?_⟩
  · cases hsilent
  · exact absurd (hstops 1 rfl) (by decide)

end Answer
end InjectingProxy
