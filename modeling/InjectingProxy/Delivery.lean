import InjectingProxy.Backend
import InjectingProxy.Message
import InjectingProxy.Url.Redirect

/-!
# Delivery

A response is sent to a client message by message.  The client may take everything, go away, or
let a message fail; then nothing more is sent.  A streamed response is made while it is sent: each
message is sent before the next chunk is taken from the backend.

## What is here

* `Fault`: what can come out of handling a request.
* `Client`, `Client.reaction`: what a client does with each message.
* `Script`: the messages of a response with the use made of the body before each, and how it ends.
* `Script.deliver`: what of a script reaches a client.
* `Answer.script`, `Reply.script`: the scripts of the two kinds of responses.
-/

set_option autoImplicit false

namespace InjectingProxy

/-- What can come out of handling a request, beside its response. -/
inductive Fault where
  /-- A failure of the backend that no response tells of. -/
  | backend (f : Failure)
  /-- A message to the client has failed. -/
  | clientGone
  /-- The client has gone while a response was streamed, as told by newer servers. -/
  | disconnected
  /-- The client for the backend has been closed. -/
  | backendClosed
  /-- The address asked for has no scheme. -/
  | noScheme (address : Text)
  /-- An address is not read again as it is meant. -/
  | misread (f : Url.Misreading)
  /-- An address is refused. -/
  | address (f : Url.Fault)
  /-- A host cannot be shown. -/
  | host (f : Idna.Fault)
  /-- A text has characters that its place in a header does not hold. -/
  | characters (f : Charset.Fault)
  /-- The query of a request is no text. -/
  | query (f : Utf8.Fault) (bytes : Bytes)
  /-- The body of an answer cannot be decoded. -/
  | decoding (f : Coding.Flaw)
  deriving DecidableEq, Repr

/-- What is wrong with bytes that are no text. -/
def Utf8.Fault.describe (f : Utf8.Fault) (bs : Bytes) : String :=
  let reason :=
    match f.flaw with
    | .start => "invalid start byte"
    | .continuation => "invalid continuation byte"
    | .truncated => "unexpected end of data"
  let place :=
    if f.width = 1 then
      "byte 0x" ++ Quoted.hexadecimal 2 ((bs.getD f.place 0).toNat) ++ " in position " ++
        toString f.place
    else
      "bytes in position " ++ toString f.place ++ "-" ++ toString (f.place + f.width - 1)
  "'utf-8' codec can't decode " ++ place ++ ": " ++ reason

/-- The text of a failure. -/
def Failure.message : Failure → String
  | .request _ message | .address message | .state message | .value message | .system message
  | .other _ message => message

/-- The text of a fault. -/
def Fault.message : Fault → String
  | .backend f => f.message
  | .clientGone => "client went away"
  | .disconnected => ""
  | .backendClosed => "Cannot send a request, as the client has been closed."
  | .noScheme place => "unknown url type: " ++ Text.quoted place
  | .misread f => f.message
  | .address f => f.message
  | .host f => f.message
  | .characters f => f.message
  | .query f bs => f.describe bs
  | .decoding f => f.message

/-- A client: the number of messages after which sending fails, and the number of body messages
after which it goes away.  A client that goes away before the first message still gets it, as the
sending of a response begins before anything is made of that: it goes away after no body message. -/
structure Client where
  failsAfter : Option Nat
  leavesAfter : Option Nat
  deriving DecidableEq, Repr

/-- A client that takes everything. -/
def Client.patient : Client := ⟨none, none⟩

/-- What a client does with a message. -/
inductive Reaction where
  | takes
  /-- It takes the message and goes away. -/
  | leaves
  /-- The message fails. -/
  | fails
  deriving DecidableEq, Repr

/-- The message is a piece of a body. -/
def Message.isBody : Message → Bool
  | .body .. => true
  | _ => false

/-- What a client does with a message after `sent` others, `bodies` of them with pieces of the
body.  That it has gone is noticed only while someone listens for it. -/
def Client.reaction (c : Client) (listening : Bool) (sent bodies : Nat) (m : Message) : Reaction :=
  if c.failsAfter.any (· ≤ sent) then .fails
  else if listening && c.leavesAfter == some (if m.isBody then bodies + 1 else bodies) then .leaves
  else .takes

/-- How the sending of a response ends. -/
inductive Ending where
  | complete
  /-- The client has gone away. -/
  | left
  /-- The backend stays silent, and nobody goes away. -/
  | stalled
  | failed (f : Fault)
  deriving DecidableEq, Repr

/-- A message, and the use that has been made of the body of the backend when it is sent. -/
structure Emission where
  message : Message
  use : BodyUse
  deriving DecidableEq, Repr

/-- A response as it would be sent to a client that takes everything: its messages, the use that has
been made of the body in the end, and the way it ends. -/
structure Script where
  emissions : List Emission
  use : BodyUse
  ending : Ending
  deriving DecidableEq, Repr

/-- What a client has received of a response, the use that was made of the body for it, and how it
ended. -/
structure Delivery where
  messages : List Message
  use : BodyUse
  ending : Ending
  deriving DecidableEq, Repr

namespace Script

/-- The messages of a script. -/
def messages (s : Script) : List Message := s.emissions.map Emission.message

/-- A script with one more emission in front. -/
def cons (e : Emission) (s : Script) : Script := { s with emissions := e :: s.emissions }

/-- What of a script reaches a client that has already received `sent` messages, `bodies` of them
with pieces of the body. -/
def deliverAfter (c : Client) (listening : Bool) (s : Script) (sent bodies : Nat) :
    List Emission → Delivery
  | [] => ⟨[], s.use, s.ending⟩
  | e :: rest =>
    match c.reaction listening sent bodies e.message with
    | .fails => ⟨[], e.use, .failed .clientGone⟩
    | .leaves => ⟨[e.message], e.use, .left⟩
    | .takes =>
      let d := deliverAfter c listening s (sent + 1)
        (if e.message.isBody then bodies + 1 else bodies) rest
      { d with messages := e.message :: d.messages }

/-- What of a script reaches a client. -/
def deliver (c : Client) (listening : Bool) (s : Script) : Delivery :=
  deliverAfter c listening s 0 0 s.emissions

end Script

/-- The script of a response that is known as a whole. -/
def Reply.script (r : Reply) : Script where
  emissions := r.messages.map fun m => ⟨m, .untouched⟩
  use := .untouched
  ending := .complete

namespace Answer

/-- A message with a piece of the body, unless the piece is empty. -/
def pieceOf (piece : Bytes) (use : BodyUse) : List Emission :=
  if piece.isEmpty then [] else [⟨.body piece true, use⟩]

/-- The script of a body: each chunk is taken, decoded and passed on, unless nothing comes of it.
At its end the body is released, and an empty message says that it is complete. -/
def bodyScript (bodyEnd : BodyEnd) (coding : Coding.Stack) (use : BodyUse) : List Bytes → Script
  | [] =>
    match bodyEnd with
    | .silent => ⟨[], use, .stalled⟩
    | .broken f => ⟨[], use, .failed (.backend f)⟩
    | .complete =>
      let use := use.release
      match coding.finish with
      | .error f => ⟨[], use, .failed (.decoding f)⟩
      | .ok piece => ⟨pieceOf piece use ++ [⟨.body [] false, use⟩], use, .complete⟩
  | chunk :: rest =>
    let use := use.take
    if chunk.isEmpty then bodyScript bodyEnd coding use rest
    else
      match coding.feed chunk with
      | .error f => ⟨[], use, .failed (.decoding f)⟩
      | .ok (piece, coding) =>
        let s := bodyScript bodyEnd coding use rest
        { s with emissions := pieceOf piece use ++ s.emissions }

/-- The headers of a relayed answer: the description of its status, and its content type. -/
def relayedHeaders (a : Answer) : List Header :=
  (Reply.descriptionHeader, word a.status.description) ::
    (a.contentType?.map fun value => (word "content-type", value)).toList

/-- The script of a relayed answer. -/
def script (a : Answer) : Script :=
  (bodyScript a.bodyEnd a.codings .untouched a.chunks).cons
    ⟨.start a.code a.relayedHeaders, .untouched⟩

end Answer
end InjectingProxy
