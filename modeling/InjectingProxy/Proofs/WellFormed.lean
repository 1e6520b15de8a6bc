import InjectingProxy.Proofs.App.Counting
import InjectingProxy.Proofs.App.Follow

/-!
# What is sent is a well-formed response

Five kinds of responses can go out: the injected error, a failure of the relay told as text, an
answer of the backend, a reply of the router, and the page after a fault that nothing else answers.
A client can break off each of them, the backend can break off the one that is streamed, and a
fault can come out before or after the first message.  In all these cases what has been sent is a
response or a first part of one (`Message.AreResponse`), and a response that tells its length and
has been sent as a whole has as many bytes as it tells (`Message.AreWellFormed`).

## What is here

* `Message.AreBody`, `Message.AreResponse`: which lists of messages are first parts of a response,
  with the lemmas that every first part of such a list is one, too.
* `Answer.script_areResponse`: what is streamed, whatever the codings are.
* `Reply.TellsLength`: the headers of a reply tell the length of its body, if they tell any.
* `Handling.TellsLength`, `App.handle_tellsLength`: every reply that a handling can end in tells its
  length.
* `App.sends_wellFormed`: the statement for requests one after the other and at the same time.
-/

set_option autoImplicit false

namespace InjectingProxy

/-! ## First parts of responses -/

namespace Message

/-- Pieces of a body: each says that more follows, except perhaps the last. -/
inductive AreBody : List Message → Prop
  | nil : AreBody []
  | last (piece : Bytes) : AreBody [.body piece false]
  | more (piece : Bytes) {rest : List Message} (h : AreBody rest) :
      AreBody (.body piece true :: rest)

/-- A response as far as it has been sent: nothing yet, or its start and pieces of its body. -/
inductive AreResponse : List Message → Prop
  | nothing : AreResponse []
  | begun (status : Int) (headers : List Header) {rest : List Message} (h : AreBody rest) :
      AreResponse (.start status headers :: rest)

theorem AreBody.of_prefix {ms : List Message} (h : AreBody ms) :
    ∀ {first : List Message}, first <+: ms → AreBody first := by
  induction h with
  | nil =>
    intro first hfirst
    rw [List.prefix_nil.1 hfirst]
    exact .nil
  | last piece =>
    intro first hfirst
    cases first with
    | nil => exact .nil
    | cons m first =>
      obtain ⟨rfl, hrest⟩ := List.cons_prefix_cons.1 hfirst
      rw [List.prefix_nil.1 hrest]
      exact .last piece
  | more piece h ih =>
    intro first hfirst
    cases first with
    | nil => exact .nil
    | cons m first =>
      obtain ⟨rfl, hrest⟩ := List.cons_prefix_cons.1 hfirst
      exact .more piece (ih hrest)

theorem AreResponse.of_prefix {ms first : List Message} (h : AreResponse ms)
    (hfirst : first <+: ms) : AreResponse first := by
  cases first with
  | nil => exact .nothing
  | cons m first =>
    cases h with
    | nothing => cases List.prefix_nil.1 hfirst
    | begun status headers h =>
      obtain ⟨rfl, hrest⟩ := List.cons_prefix_cons.1 hfirst
      exact .begun status headers (h.of_prefix hrest)

/-- No response starts in its body. -/
theorem AreBody.not_start_mem {ms : List Message} (h : AreBody ms) (status : Int)
    (headers : List Header) : .start status headers ∉ ms := by
  induction h with
  | nil => exact List.not_mem_nil
  | last piece => exact fun hmem ↦ by cases List.mem_singleton.1 hmem
  | more piece h ih =>
    intro hmem
    rcases List.mem_cons.1 hmem with hmem | hmem
    · cases hmem
    · exact ih hmem

/-- The piece of a body that a message holds. -/
def piece : Message → Bytes
  | .body piece _ => piece
  | _ => []

/-- Each length that the headers tell is this one. -/
def TellLength (headers : List Header) (length : Nat) : Prop :=
  ∀ h ∈ headers, Answer.lowerName h.1 = word "content-length" → h.2 = word (toString length)

/-- The messages are a response or a first part of one.  If they are all of it and tell its length,
they have so many bytes. -/
structure AreWellFormed (ms : List Message) : Prop where
  response : AreResponse ms
  length : ∀ (last : Bytes) (status : Int) (headers : List Header), .body last false ∈ ms →
    .start status headers ∈ ms → TellLength headers (ms.flatMap piece).length

/-! ### Headers -/

variable {length : Nat} {rest : List Header} {name value : Bytes}

theorem tellLength_nil (length : Nat) : TellLength [] length := fun _ h ↦ absurd h List.not_mem_nil

theorem TellLength.cons_of_ne (h : TellLength rest length)
    (hname : Answer.lowerName name ≠ word "content-length") :
    TellLength ((name, value) :: rest) length := by
  intro header hmem hlength
  rcases List.mem_cons.1 hmem with rfl | hmem
  · exact absurd hlength hname
  · exact h header hmem hlength

theorem TellLength.cons_length (h : TellLength rest length)
    (hvalue : value = word (toString length)) :
    TellLength ((word "content-length", value) :: rest) length := by
  intro header hmem hlength
  rcases List.mem_cons.1 hmem with rfl | hmem
  · exact hvalue
  · exact h header hmem hlength

end Message

/-! ## Replies -/

/-- The headers of a reply tell the length of its body, if they tell any. -/
def Reply.TellsLength (r : Reply) : Prop := Message.TellLength r.headers r.body.length

namespace Reply

open Message (TellLength tellLength_nil)

theorem tellLength_lengthHeader {rest : List Header} (status : Int) (body : Bytes)
    (h : TellLength rest body.length) :
    TellLength (lengthHeader status body ++ rest) body.length := by
  rw [lengthHeader]
  split
  · exact h
  · exact h.cons_length rfl

theorem tellLength_plainTextHeader (length : Nat) : TellLength [plainTextHeader] length :=
  (tellLength_nil length).cons_of_ne (by decide)

/-- The length of a text is told in bytes, not in characters. -/
theorem plainText_tellsLength (message : String) (status : Int) :
    (plainText message status).TellsLength :=
  tellLength_lengthHeader status _ (tellLength_plainTextHeader _)

theorem injected_tellsLength {s : Status} {r : Reply} (h : injected s = .ok r) :
    r.TellsLength := by
  rw [injected] at h
  split at h
  · cases h
  · split at h
    · cases h
      exact (tellLength_nil _).cons_of_ne (by decide)
    · cases h
      exact (tellLength_lengthHeader s.code injectedBody
        (tellLength_plainTextHeader _)).cons_of_ne (by decide)

theorem notFound_tellsLength : notFound.TellsLength :=
  ((tellLength_nil _).cons_of_ne (by decide)).cons_length (by decide)

theorem elsewhere_tellsLength (location : Bytes) : (elsewhere location).TellsLength :=
  ((tellLength_nil 0).cons_of_ne (by decide)).cons_length (by decide)

theorem messages_areResponse (r : Reply) : Message.AreResponse r.messages :=
  .begun r.status r.headers (.last r.body)

end Reply

namespace Client

theorem received_isPrefix (c : Client) (ms : List Message) : c.received ms <+: ms := by
  rw [received]
  split
  · exact List.prefix_rfl
  · exact List.take_prefix _ _

/-- **What a client receives of a reply that tells its length is well-formed.** -/
theorem received_areWellFormed (c : Client) {r : Reply} (h : r.TellsLength) :
    Message.AreWellFormed (c.received r.messages) := by
  refine ⟨r.messages_areResponse.of_prefix (c.received_isPrefix _), ?_⟩
  intro last status headers hlast hstart
  obtain rfl : last = r.body := by
    simpa [Reply.messages] using (c.received_isPrefix _).subset hlast
  rw [Reply.messages_eq_of_body_mem hlast] at hstart ⊢
  obtain ⟨-, rfl⟩ : status = r.status ∧ headers = r.headers := by
    simpa [Reply.messages] using hstart
  have htells : Message.TellLength r.headers r.body.length := h
  simpa [Reply.messages, Message.piece] using htells

end Client

/-! ## Answers -/

namespace Answer

open Message (AreBody AreResponse)

theorem areBody_pieceOf_append {es : List Emission} (h : AreBody (es.map Emission.message))
    (piece : Bytes) (use : BodyUse) :
    AreBody ((pieceOf piece use ++ es).map Emission.message) := by
  rw [pieceOf]
  split
  · exact h
  · exact .more piece h

/-- Whatever the codings are and wherever the body breaks off, pieces of a body are sent. -/
theorem bodyScript_areBody (bodyEnd : BodyEnd) (chunks : List Bytes) :
    ∀ (coding : Coding.Stack) (use : BodyUse),
      AreBody (bodyScript bodyEnd coding use chunks).messages := by
  induction chunks with
  | nil =>
    intro coding use
    cases bodyEnd with
    | silent => exact .nil
    | broken f => exact .nil
    | complete =>
      rw [bodyScript]
      split
      · exact .nil
      · have hlast : AreBody ([⟨.body [] false, use.release⟩].map Emission.message) := .last []
        exact areBody_pieceOf_append hlast _ _
  | cons chunk rest ih =>
    intro coding use
    rw [bodyScript]
    split
    · exact ih coding use.take
    · split
      · exact .nil
      · rename_i piece coding' _
        exact areBody_pieceOf_append (ih coding' use.take) _ _

theorem script_areResponse (a : Answer) : AreResponse a.script.messages :=
  .begun a.code a.relayedHeaders (bodyScript_areBody a.bodyEnd a.chunks a.codings .untouched)

/-- An answer that is handed on tells no length, as its body is passed on decoded. -/
theorem relayedHeaders_tellLength (a : Answer) (length : Nat) :
    Message.TellLength a.relayedHeaders length := by
  rw [relayedHeaders]
  cases a.contentType? with
  | none => exact (Message.tellLength_nil length).cons_of_ne (by decide)
  | some value =>
    exact ((Message.tellLength_nil length).cons_of_ne (by decide)).cons_of_ne (by decide)

/-- **What a client receives of an answer is well-formed.** -/
theorem deliver_areWellFormed (a : Answer) (c : Client) (listening : Bool) :
    Message.AreWellFormed (a.script.deliver c listening).messages := by
  have hfirst := Script.Cut.messages_prefix (a.script.deliver_cut c listening)
  refine ⟨a.script_areResponse.of_prefix hfirst, ?_⟩
  intro last status headers _ hstart
  rcases List.mem_cons.1 (hfirst.subset hstart) with h | h
  · cases h
    exact a.relayedHeaders_tellLength _
  · exact absurd h ((bodyScript_areBody _ _ _ _).not_start_mem status headers)

end Answer

/-! ## Handlings -/

/-- A reply in which the handling ends tells its length. -/
def Handling.TellsLength (h : Handling) : Prop := ∀ r, h.result = .ok (.reply r) → r.TellsLength

namespace Relay

theorem send_reply {u : Url} {o : Outbound} {b : Backend} {opening : List Event} {r : Reply}
    (h : (send u o b opening).result = .ok (.reply r)) : ∃ text, r = Reply.plainText text 500 := by
  unfold send at h
  repeat' split at h
  all_goals cases h
  all_goals exact ⟨_, rfl⟩

/-- The relay makes replies of plain text only. -/
theorem handle_reply {root : Text} {backendOpen : Bool} {method : String} {path : Text}
    {params : List Form.Parameter} {b : Backend} {r : Reply}
    (h : (handle root backendOpen method path params b).result = .ok (.reply r)) :
    ∃ text, r = Reply.plainText text 500 := by
  rw [handle] at h
  split at h
  · cases h
    exact ⟨_, rfl⟩
  · cases h
    exact ⟨_, rfl⟩
  · cases h
  · split at h
    · exact send_reply h
    · cases h

end Relay

namespace App

/-- The replies to requests that are turned aside. -/
theorem receive_aside_reply {a : App} {asked : Int} {r : Request} {reply : Reply}
    (h : a.receive asked r = .aside (.ok (.reply reply))) :
    reply = Reply.notFound ∨ ∃ location, reply = Reply.elsewhere location := by
  rw [receive] at h
  split at h
  · split at h <;> cases h
  · split at h
    · cases h
      exact .inl rfl
    · split at h <;> cases h
      exact .inr ⟨_, rfl⟩

variable {a : App}

theorem settled_tellsLength {result : Except Fault Response} {asked : Int} {r : Request}
    (h : a.receive asked r = .aside result) : (settled result).TellsLength := by
  intro reply hreply
  rcases receive_aside_reply (h.trans (congrArg Admission.aside hreply)) with
    rfl | ⟨location, rfl⟩
  · exact Reply.notFound_tellsLength
  · exact Reply.elsewhere_tellsLength location

theorem inject_tellsLength (a : App) : a.inject.TellsLength := by
  intro reply hreply
  rw [inject] at hreply
  cases hr : Reply.injected a.config.errorStatus with
  | error f => rw [hr] at hreply; cases hreply
  | ok r =>
    rw [hr] at hreply
    cases hreply
    exact Reply.injected_tellsLength hr

theorem forward_tellsLength (a : App) (s : State) (r : Request) (b : Backend) :
    (a.forward s r b).TellsLength := by
  intro reply hreply
  obtain ⟨text, rfl⟩ := Relay.handle_reply hreply
  exact Reply.plainText_tellsLength text 500

theorem handle_tellsLength (a : App) (s : State) (r : Request) (b : Backend) :
    (a.handle s r b).1.TellsLength := by
  cases hreceive : a.receive s.asked r with
  | aside result =>
    rw [handle_of_aside b hreceive]
    exact settled_tellsLength hreceive
  | counted ordinal inject =>
    rw [handle_of_counted b hreceive]
    cases inject with
    | true => exact inject_tellsLength a
    | false => exact forward_tellsLength a s r b

/-- **However a sound handling is answered, what is sent is well-formed.** -/
theorem answer_areWellFormed {h : Handling} (hs : h.TellsLength) (w : Surroundings) :
    Message.AreWellFormed (answer h w).messages := by
  cases hr : h.result with
  | error f =>
    rw [answer_messages_fault w hr]
    exact w.client.received_areWellFormed (Reply.plainText_tellsLength _ _)
  | ok response =>
    cases response with
    | reply r =>
      rw [answer_messages_reply w hr]
      exact w.client.received_areWellFormed (hs r hr)
    | relayed given =>
      rw [answer_messages_relayed w hr]
      exact given.deliver_areWellFormed w.client _

end App

/-! ## Requests at the same time -/

/-- A task is about to send, or has sent, only what is well-formed. -/
def Task.SendsWellFormed (t : Task) : Prop :=
  match t.stage with
  | .handled _ h => h.TellsLength
  | .answered _ x | .over x => Message.AreWellFormed x.messages
  | _ => True

namespace App

/-- Each step of a task keeps this, whatever the other tasks have done before it. -/
theorem step_sendsWellFormed (a : App) (s : State) {t : Task} (h : t.SendsWellFormed) :
    (a.step s t).2.SendsWellFormed := by
  obtain ⟨r, w, stage, counted, seen⟩ := t
  cases stage with
  | arrived => trivial
  | measured began =>
    rw [step]
    cases hreceive : a.receive s.asked r with
    | aside result => exact settled_tellsLength hreceive
    | counted ordinal inject =>
      cases inject with
      | true => exact inject_tellsLength a
      | false => trivial
  | admitted began told => exact forward_tellsLength a s r w.backend
  | handled began handled => exact answer_areWellFormed h w
  | answered began x => exact h
  | «over» x => exact h

/-! ## Main statement -/

/-- A client that takes everything gets the start of a response, whatever becomes of the rest. -/
theorem answer_messages_patient (h : Handling) {w : Surroundings} (hw : w.client = .patient) :
    ∃ status headers rest, (answer h w).messages = .start status headers :: rest := by
  cases hr : h.result with
  | error f =>
    rw [answer_messages_fault w hr, hw]
    exact ⟨_, _, _, rfl⟩
  | ok response =>
    cases response with
    | reply r =>
      rw [answer_messages_reply w hr, hw]
      exact ⟨_, _, _, rfl⟩
    | relayed given =>
      rw [answer_messages_relayed w hr, hw, Script.deliver_patient]
      exact ⟨_, _, _, rfl⟩

/-- **Whatever is sent is a well-formed response or a first part of one.**  This is so in every
application and every state, for each request, backend and client, and also for requests at the
same time; and nobody who takes everything goes without the start of a response. -/
theorem sends_wellFormed (a : App) (s : State) :
    (∀ (r : Request) (w : Surroundings),
      Message.AreWellFormed (a.serve s r w).exchange.messages ∧
        (w.client = .patient → ∃ status headers rest,
          (a.serve s r w).exchange.messages = .start status headers :: rest)) ∧
      ∀ (requests : List (Request × Surroundings)) (schedule : List Nat) (t : Task)
        (x : Exchange),
        t ∈ (a.follow (s, requests.map fun p ↦ Task.arriving p.1 p.2) schedule).2 →
          t.exchange? = some x → Message.AreWellFormed x.messages := by
  refine ⟨fun r w ↦ ⟨?_, fun hw ↦ ?_⟩, fun requests schedule t x ht hx ↦ ?_⟩
  · exact answer_areWellFormed (handle_tellsLength a s.enter r w.backend) w
  · exact answer_messages_patient _ hw
  · have hsends := follow_arriving (I := fun _ ↦ True) (fun _ _ _ _ ↦ trivial)
      (fun s t _ h ↦ step_sendsWellFormed a s h) (fun _ _ ↦ trivial) trivial requests schedule t ht
    rw [Task.SendsWellFormed, Task.exchange?_eq_some_iff.1 hx] at hsends
    exact hsends

/-- The length of a failure that is told with an accent is told in bytes: it has 48 characters and
49 bytes. -/
theorem accented_failure_wellFormed :
    let s : State := { State.initial with asked := 1 }
    let r : Request := ⟨"GET", word "/a", []⟩
    let w : Surroundings :=
      { Surroundings.calm with backend := .fails (.request .connectError "é") }
    let x := (alternating.serve s r w).exchange
    w.client = .patient ∧ Message.AreWellFormed x.messages ∧
      (∃ status headers rest, x.messages = .start status headers :: rest) ∧
      x.messages =
        [.start 500 [(word "content-length", word "49"), Reply.plainTextHeader],
          .body (word "Error communicating with other side of proxy:  é") false] := by
  have h := (sends_wellFormed alternating { State.initial with asked := 1 }).1
    ⟨"GET", word "/a", []⟩ { Surroundings.calm with backend := .fails (.request .connectError "é") }
  exact ⟨rfl, h.1, h.2 rfl, by decide⟩

end App
end InjectingProxy
