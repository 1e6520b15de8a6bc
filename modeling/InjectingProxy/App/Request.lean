import InjectingProxy.Delivery
import InjectingProxy.Url.Form

/-!
# Inbound requests

A request names a method and a target; the target is a path and, after the first question mark, a
query.

## What is here

* `Request`, with the path and the query of its target.
* `Request.params`: the parameters of the query.
* `Surroundings`: what goes on around a request.
-/

set_option autoImplicit false

namespace InjectingProxy

/-- An inbound request. -/
structure Request where
  method : String
  target : Bytes
  headers : List Header
  deriving DecidableEq, Repr

namespace Request

/-- The bytes of the target before the first question mark. -/
def pathBytes (r : Request) : Bytes := r.target.takeWhile (· != 0x3F)

/-- The bytes of the target after the first question mark. -/
def queryBytes (r : Request) : Bytes := (r.target.dropWhile (· != 0x3F)).drop 1

/-- The path that the target asks for: its escapes are undone, and bytes that are no text become
U+FFFD. -/
def path (r : Request) : Text := Utf8.decodeLossy (Percent.unescape r.pathBytes)

/-- The query as text, which has nothing in it where its bytes are no text. -/
def query (r : Request) : Text := (Utf8.decode r.queryBytes).toOption.getD []

/-- A path inside an address: the characters that would end it or change its segments are
escaped. -/
def escapePath (path : Text) : Text :=
  path.flatMap fun c => if c = '\\' || c = '?' || c = '#' then Percent.escapeChar c else [c]

/-- The characters that are left out when an address is taken apart. -/
def isLeftOut (c : Char) : Bool := c == '\t' || c == '\r' || c == '\n'

/-- The parameters of the query, which is read one byte a character. -/
def params (r : Request) : List Form.Parameter := Form.decode (Latin.decode r.queryBytes)

end Request

/-- What goes on around a request: what the backend does if it is asked, what the client does with
the response, the version of the server, and the time that the backend takes. -/
structure Surroundings where
  backend : Backend
  client : Client
  version : List Nat
  delay : Float

end InjectingProxy
