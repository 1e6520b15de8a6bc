import InjectingProxy.Status
import InjectingProxy.Text.Utf8

/-!
# Messages and whole responses

A response is sent as messages: one that starts it with status and headers, then messages with
pieces of the body, the last of which says that no more follows.

## What is here

* `Header`, `Message`.
* `Reply`: a response whose body is known as a whole, and its messages.
* `Reply.plainText`, `Reply.injected`, `Reply.internalError`: the responses the proxy makes itself.
-/

set_option autoImplicit false

namespace InjectingProxy

/-- A header: its name and its value. -/
abbrev Header := Bytes × Bytes

/-- What the proxy sends to a client or to the server that runs it. -/
inductive Message where
  /-- A response begins. -/
  | start (status : Int) (headers : List Header)
  /-- A piece of the body, and whether more follows. -/
  | body (piece : Bytes) (more : Bool)
  /-- The application is ready for requests. -/
  | ready
  /-- The application has shut down. -/
  | finished
  /-- A connection that is not served is closed. -/
  | closed
  deriving DecidableEq, Repr

/-- The bytes of an ASCII word. -/
def word (s : String) : Bytes := Utf8.encode s.toList

/-- A response whose body is known as a whole. -/
structure Reply where
  status : Int
  headers : List Header
  body : Bytes
  deriving DecidableEq, Repr

namespace Reply

/-- The messages of a reply: its start and its body in one piece. -/
def messages (r : Reply) : List Message := [.start r.status r.headers, .body r.body false]

/-- The header with the length of a body.  A response that cannot have a body has none. -/
def lengthHeader (status : Int) (body : Bytes) : List Header :=
  if status < 200 ∨ status = 204 ∨ status = 304 then []
  else [(word "content-length", word (toString body.length))]

/-- The header for plain text. -/
def plainTextHeader : Header := (word "content-type", word "text/plain; charset=utf-8")

/-- A reply of plain text. -/
def plainText (message : String) (status : Int) : Reply :=
  let body := Utf8.encode message.toList
  { status, headers := lengthHeader status body ++ [plainTextHeader], body }

/-- The name of the header that holds the description of a status. -/
def descriptionHeader : Bytes := word "x-status-description"

/-- A response with this status has no body. -/
def isBodyless (status : Int) : Bool := status == 204 || status == 304

/-- The body of an injected error. -/
def injectedBody : Bytes := word "dummy error"

/-- The injected error of a status, unless its description does not fit into a header. -/
def injected (s : Status) : Except Charset.Fault Reply :=
  match Charset.latin.encode s.description.toList with
  | .error e => .error e
  | .ok description =>
    let described := (descriptionHeader, description)
    if isBodyless s.code then .ok { status := s.code, headers := [described], body := [] }
    else
      .ok {
        status := s.code
        headers := described :: lengthHeader s.code injectedBody ++ [plainTextHeader]
        body := injectedBody }

/-- The reply after a failure that nothing else answers. -/
def internalError : Reply := plainText "Internal Server Error" 500

end Reply
end InjectingProxy
