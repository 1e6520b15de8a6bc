import InjectingProxy.Delivery
import InjectingProxy.Event
import InjectingProxy.Outcome
import InjectingProxy.Text.Base64

/-!
# The relay

The relay forwards a request to the backend and hands the answer on.  Only requests to get
something are forwarded, and of a request only its path and its parameters.

## What is here

* `Relay.prepare`: the request to the backend.
* `Relay.handle`: what the relay does with a request, up to the response.
* `Handling.respond`: the response on its way to the client.
-/

set_option autoImplicit false

namespace InjectingProxy

/-- A response on its way to a client. -/
inductive Response where
  /-- A reply of the proxy itself. -/
  | reply (r : Reply)
  /-- An answer of the backend, whose body is still to come. -/
  | relayed (a : Answer)
  deriving DecidableEq, Repr

/-- What the relay has done with a request before anything is sent to the client. -/
structure Handling where
  result : Except Fault Response
  outbound : List Outbound
  /-- The use of an answer that is not handed on. -/
  dropped : Option BodyUse
  /-- The outcomes that have been recorded, one after the other. -/
  recorded : List Outcome
  events : List Event

/-- A request as it was handled and answered. -/
structure Exchange where
  /-- The response that was made, if any. -/
  response : Option Response
  raised : Option Fault
  messages : List Message
  outbound : List Outbound
  bodyUse : Option BodyUse
  recorded : List Outcome
  events : List Event

namespace Relay

/-- The headers that every request to the backend has, with its host and port; these only if there
is a host. -/
def baseHeaders (u : Url) (site : Bytes) : List Header :=
  (if u.host.isEmpty then [] else [(word "host", site)]) ++
    [(word "accept", word "*/*"), (word "connection", word "keep-alive")]

/-- The header with the credentials of an address, if it has any. -/
def credentials (u : Url) : List Header :=
  let (user, password) := Text.cut (· == ':') u.userinfo
  let user := Percent.decode user
  let password := Percent.decode (password.getD [])
  if user.isEmpty && password.isEmpty then []
  else
    [(word "authorization",
      word "Basic " ++ Utf8.encode (Base64.encode (Utf8.encode user ++ word ":" ++
        Utf8.encode password)))]

/-- The methods that are forwarded, in capital letters. -/
def isForwarded (method : String) : Bool :=
  method.toList.map Char.toUpper == "GET".toList

/-- The wording for a method that is not forwarded. -/
def methodRefusal (method : String) : String := "Unsupported method:  " ++ method

/-- The request to get what is at an address, before it is sent.  The host must be one that can be
shown, and that a header holds. -/
def request (u : Url) : Except Fault Outbound := do
  let u ← u.requested.mapError Fault.address
  discard (u.displayHost.mapError Fault.host)
  let site ← u.siteBytes.mapError Fault.characters
  pure { method := "GET", url := u, headers := baseHeaders u site }

/-- The request as it is sent. -/
def Outbound.signed (o : Outbound) : Outbound :=
  { o with headers := o.headers ++ credentials o.url }

/-- The reply to a request that could not be forwarded. -/
def failure (reason : String) : Response := .reply (Reply.plainText reason 500)

/-- The wording for a request that has not been answered. -/
def communicationFailure (reason : String) : String :=
  "Error communicating with other side of proxy:  " ++ reason

/-- What is told of a failed request: its message, or its name where there is none. -/
def failureReason (kind : RequestFailure) (message : String) : String :=
  if message.isEmpty then kind.name ++ "('')" else message

/-- What happens to a request at its address when the backend answers or fails.  An answer that
points to another address is handed on only if that makes sense. -/
def send (u : Url) (o : Outbound) (b : Backend) (opening : List Event) : Handling :=
  let failed (reason : String) (dropped : Option BodyUse) : Handling :=
    { result := .ok (failure (communicationFailure reason)), outbound := [o], dropped,
      recorded := [.forwardFailed], events := opening ++ [.backendFailed] }
  let raised (f : Fault) (dropped : Option BodyUse) : Handling :=
    { result := .error f, outbound := [o], dropped, recorded := [], events := opening }
  match b with
  | .fails (.request kind message) => failed (failureReason kind message) none
  | .fails f => raised (.backend f) none
  | .answers a =>
    let accepted : Handling :=
      { result := .ok (.relayed a), outbound := [o], dropped := none,
        recorded := [.forwardedOk], events := opening ++ [.answered a.status u.text] }
    if o.url.scheme.isEmpty then raised (.noScheme o.url.text) (some .untouched)
    else if let some f := o.url.misreading? then raised (.misread f) (some .untouched)
    else
      match a.location? with
      | none => accepted
      | some location =>
        let unused := some BodyUse.untouched.release
        match Redirect.follow o.url location with
        | .ok _ => accepted
        | .error (.location f) =>
          failed ("Invalid URL in location header: " ++ f.message ++ ".") unused
        | .error (.address f) => raised (.address f) unused
        | .error (.host f) => raised (.host f) unused
        | .error (.misread f) => raised (.misread f) unused
        | .error (.characters f) => raised (.characters f) unused

/-- Why there is no request to the backend. -/
inductive Refusal where
  /-- There is no address for the request. -/
  | address (f : Url.Fault)
  /-- Requests with the method are not forwarded to the address. -/
  | method (u : Url)
  /-- No request to the address can be made. -/
  | fault (u : Url) (f : Fault)

/-- The address for a request below a root, and the request to it. -/
def prepare (root : Text) (method : String) (path : Text) (params : List Form.Parameter) :
    Except Refusal (Url × Outbound) :=
  match Url.build root path params with
  | .error f => .error (.address f)
  | .ok u =>
    if isForwarded method then
      match request u with
      | .ok o => .ok (u, o)
      | .error f => .error (.fault u f)
    else .error (.method u)

/-- What the relay does with a request below a root.  `backendOpen` says whether the client for the
backend is still open. -/
def handle (root : Text) (backendOpen : Bool) (method : String) (path : Text)
    (params : List Form.Parameter) (b : Backend) : Handling :=
  let refused (reason : String) (events : List Event) : Handling :=
    { result := .ok (failure reason), outbound := [], dropped := none,
      recorded := [.forwardFailed], events }
  let raised (f : Fault) (u : Url) : Handling :=
    { result := .error f, outbound := [], dropped := none, recorded := [],
      events := [.forwarding u.text] }
  match prepare root method path params with
  | .error (.address f) =>
    refused ("Invalid URI:  " ++ f.message) [.addressRefused method path f.message]
  | .error (.method u) =>
    refused (methodRefusal method)
      [.forwarding u.text, .methodRefused method path (methodRefusal method)]
  | .error (.fault u f) => raised f u
  | .ok (u, o) =>
    if backendOpen then send u (Outbound.signed o) b [.forwarding u.text]
    else raised .backendClosed u

end Relay

/-- A response listens for a client that leaves up to version 2.3 of the interface to the server.
Newer servers let a message to such a client fail instead. -/
def Response.listens (version : List Nat) : Bool := version < [2, 4]

/-- A fault as newer servers tell it: errors of the system while streaming mean that the client
has gone. -/
def Fault.whileStreaming (listening : Bool) (f : Fault) : Fault :=
  if listening then f
  else
    match f with
    | .clientGone | .backend (.system _) => .disconnected
    | f => f

/-- The fault of an ending, if it is one. -/
def Ending.fault? : Ending → Option Fault
  | .failed f => some f
  | _ => none

/-- Send the response to a client.  Whatever happens, the body of an answer is released in the
end. -/
def Handling.respond (h : Handling) (c : Client) (version : List Nat) : Exchange :=
  match h.result with
  | .error f =>
    { response := none, raised := some f, messages := [], outbound := h.outbound,
      bodyUse := h.dropped, recorded := h.recorded, events := h.events }
  | .ok (.reply r) =>
    let d := r.script.deliver c false
    { response := some (.reply r), raised := d.ending.fault?, messages := d.messages,
      outbound := h.outbound, bodyUse := h.dropped, recorded := h.recorded, events := h.events }
  | .ok (.relayed a) =>
    let listening := Response.listens version
    let d := a.script.deliver c listening
    { response := some (.relayed a),
      raised := d.ending.fault?.map (Fault.whileStreaming listening),
      messages := d.messages, outbound := h.outbound, bodyUse := some d.use.release,
      recorded := h.recorded, events := h.events ++ [.released] }

end InjectingProxy
