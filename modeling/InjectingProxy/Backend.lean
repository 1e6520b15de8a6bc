import InjectingProxy.Coding.Stack
import InjectingProxy.Status
import InjectingProxy.Message
import InjectingProxy.Text.Digit
import InjectingProxy.Url.Address

/-!
# The backend

A request to the backend is answered or fails.  An answer has a status line, headers and a body
that arrives in chunks; the body ends, breaks off, or stays silent for ever.

## What is here

* `RequestFailure`, `Failure`: the ways in which talking to the backend fails.
* `Answer`, `Backend`: what the backend does with a request.
* `BodyUse`: what is done with the body of an answer.
* `Answer.header?`, `Answer.codings`, `Answer.status`: what an answer says about itself.
* `Outbound`: a request to the backend.
-/

set_option autoImplicit false

namespace InjectingProxy

/-- The ways in which a request fails. -/
inductive RequestFailure where
  | connectError | connectTimeout | readTimeout | writeTimeout | poolTimeout
  | readError | writeError | closeError
  | remoteProtocolError | localProtocolError | proxyError | unsupportedProtocol
  | tooManyRedirects | decodingError
  /-- A failure of a kind of its own, by the name of the kind. -/
  | other (name : String)
  deriving DecidableEq, Repr

/-- The name under which a failure is reported. -/
def RequestFailure.name : RequestFailure → String
  | .connectError => "ConnectError"
  | .connectTimeout => "ConnectTimeout"
  | .readTimeout => "ReadTimeout"
  | .writeTimeout => "WriteTimeout"
  | .poolTimeout => "PoolTimeout"
  | .readError => "ReadError"
  | .writeError => "WriteError"
  | .closeError => "CloseError"
  | .remoteProtocolError => "RemoteProtocolError"
  | .localProtocolError => "LocalProtocolError"
  | .proxyError => "ProxyError"
  | .unsupportedProtocol => "UnsupportedProtocol"
  | .tooManyRedirects => "TooManyRedirects"
  | .decodingError => "DecodingError"
  | .other name => name

/-- A failure with its message.  Besides failures of the request there are an address that is
refused, a wrong state, a wrong value, an error of the system, and any other failure by its
name. -/
inductive Failure where
  | request (kind : RequestFailure) (message : String)
  | address (message : String)
  | state (message : String)
  | value (message : String)
  | system (message : String)
  | other (name message : String)
  deriving DecidableEq, Repr

/-- How the body of an answer ends. -/
inductive BodyEnd where
  | complete
  | silent
  | broken (f : Failure)
  deriving DecidableEq, Repr

/-- An answer of the backend. -/
structure Answer where
  code : Int
  phrase : Option Bytes
  headers : List Header
  chunks : List Bytes
  bodyEnd : BodyEnd
  deriving DecidableEq, Repr

/-- What the backend does with a request. -/
inductive Backend where
  | fails (f : Failure)
  | answers (a : Answer)
  deriving DecidableEq, Repr

/-- The use that is made of the body of an answer: how many chunks have been taken, and how often it
has been released. -/
structure BodyUse where
  taken : Nat
  released : Nat
  deriving DecidableEq, Repr

namespace BodyUse

/-- A body that nothing has been done with. -/
def untouched : BodyUse := ⟨0, 0⟩

/-- Take one more chunk. -/
def take (u : BodyUse) : BodyUse := { u with taken := u.taken + 1 }

/-- Release the body, unless that has been done before. -/
def release (u : BodyUse) : BodyUse := if u.released = 0 then { u with released := 1 } else u

end BodyUse

/-- A request to the backend. -/
structure Outbound where
  method : String
  url : Url
  headers : List Header
  deriving DecidableEq, Repr

namespace Answer

/-- The same header name in small letters. -/
def lowerName (name : Bytes) : Bytes := name.map fun b => if 65 ≤ b && b ≤ 90 then b + 32 else b

/-- The text of header bytes: ASCII or UTF-8 if all headers allow it, else a character for each
byte. -/
def headerText (headers : List Header) (value : Bytes) : Text :=
  let isText (bs : Bytes) : Bool := (Utf8.decode bs).toOption.isSome
  if headers.all fun h => isText h.1 && isText h.2 then Utf8.decodeLossy value
  else Latin.decode value

/-- The values of all headers of a name, given in small letters. -/
def headerValues (a : Answer) (name : Bytes) : List Text :=
  (a.headers.filter fun h => lowerName h.1 == name).map fun h => headerText a.headers h.2

/-- The value of the headers of a name, with commas between several. -/
def header? (a : Answer) (name : Bytes) : Option Text :=
  match a.headerValues name with
  | [] => none
  | values => some (Text.join [',', ' '] values)

/-- The first header that says what kind of content the body is, as it stands. -/
def contentType? (a : Answer) : Option Bytes :=
  (a.headers.find? fun h => lowerName h.1 == word "content-type").map Prod.snd

/-- The codings of the body, to be undone. -/
def codings (a : Answer) : Coding.Stack :=
  Coding.Stack.ofHeaders (a.headerValues (word "content-encoding"))

/-- The status of the answer. -/
def status (a : Answer) : Status := Status.ofLine a.code a.phrase

/-- The codes of answers that point to another address. -/
def redirectCodes : List Int := [301, 302, 303, 307, 308]

/-- The address that the answer points to. -/
def location? (a : Answer) : Option Text :=
  if redirectCodes.contains a.code then a.header? (word "location") else none

end Answer
end InjectingProxy
