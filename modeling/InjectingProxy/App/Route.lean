import InjectingProxy.App.Request

/-!
# Routes

All paths that begin with a slash lead to the proxy, except those with a line break inside.  A
path that leads nowhere is tried with a slash more at its end, or without the slashes there; if
that leads to the proxy, the client is sent there.  The address of a request is put together from
the host that the client names, the path and the query; a client is sent to such an address, and
the path that is forwarded is taken out of it.

## What is here

* `Route.isServed`: the path leads to the proxy.
* `Route.other?`: the path to try instead.
* `Route.wholeAddress`: the address of a path, on the host that a client names.
* `Request.address`: the path of a request, taken out of its whole address.
* `Reply.notFound`, `Reply.elsewhere`: the replies for paths that lead nowhere.
-/

set_option autoImplicit false

namespace InjectingProxy
namespace Route

/-- The path leads to the proxy: it begins with a slash, and no line break stands before its last
character. -/
def isServed : Text → Bool
  | '/' :: rest => !rest.dropLast.contains '\n'
  | _ => false

/-- The path to try instead of one that leads nowhere. -/
def other? (path : Text) : Option Text :=
  if path = ['/'] then none
  else
    let other :=
      if path.getLast? == some '/' then Text.trimRight (· == '/') path else path ++ ['/']
    if isServed other then some other else none

/-- The characters that separate parts of a name without being escaped. -/
def isDelimiter (c : Char) : Bool := "!$&'()*+,;=".toList.contains c

/-- Characters of a host name, with escapes among them. -/
def areNameChars : Text → Bool
  | [] => true
  | c :: rest =>
    if c == '%' then
      match rest with
      | a :: b :: more => (hexValue? a).isSome && (hexValue? b).isSome && areNameChars more
      | _ => false
    else (Percent.isUnreserved c || isDelimiter c) && areNameChars rest

/-- A host name or an address of four numbers. -/
def isHostName (t : Text) : Bool := !t.isEmpty && areNameChars t

/-- An address of a later kind: the letter v and the number of the kind in hexadecimal, a point,
and the address. -/
def isLaterAddress : Text → Bool
  | c :: rest =>
    match Text.cut (· == '.') rest with
    | (kind, some address) =>
      (c == 'v' || c == 'V') && !kind.isEmpty && kind.all (fun d => (hexValue? d).isSome) &&
        !address.isEmpty &&
        address.all fun d => Percent.isUnreserved d || isDelimiter d || d == ':'
    | (_, none) => false
  | [] => false

/-- An address that stands between brackets: one of eight words, which names no zone here, or one
of a later kind. -/
def isLiteral (t : Text) : Bool := (Host.isIpv6 t && !t.contains '%') || isLaterAddress t

/-- A port, if there is one: a number that fits into 16 bits. -/
def isPort : Option Text → Bool
  | none => true
  | some digits =>
    !digits.isEmpty && digits.all Char.isDigit &&
      decimalNumber (digits.map fun c => c.toNat - 48) ≤ 65535

/-- A host, with a port perhaps, as a client may name it. -/
def isPlainHost : Text → Bool
  | '[' :: rest =>
    match Text.cut (· == ']') rest with
    | (inner, some []) => isLiteral inner
    | (inner, some (':' :: port)) => isLiteral inner && isPort (some port)
    | _ => false
  | t =>
    let (name, port) := Text.cut (· == ':') t
    isHostName name && isPort port

/-- The address of the proxy itself, for clients that name no host. -/
def ownHost : Text := "127.0.0.1:8812".toList

/-- The host that a client names in its headers. -/
def hostOf (headers : List Header) : Text :=
  match headers.find? fun h => h.1 == word "host" with
  | some (_, value) => if isPlainHost (Latin.decode value) then Latin.decode value else ownHost
  | none => ownHost

/-- The characters that a location keeps. -/
def locationSafe (c : Char) : Bool :=
  Percent.isUnreserved c || ":/%#?=@[]!$&'()*+,;".toList.contains c

/-- The whole address of a path and a query, on the host that a client names. -/
def wholeAddress (headers : List Header) (path query : Text) : Text :=
  let address := "http://".toList ++ hostOf headers ++ Request.escapePath path
  if query.isEmpty then address else address ++ '?' :: query

/-- The location of another path for a request; the query must be text. -/
def location (r : Request) (query other : Text) : Bytes :=
  Utf8.encode (Percent.encode locationSafe (wholeAddress r.headers other query))

end Route

/-- The path of the request as it is told of and forwarded: its whole address is put together, and
the path is taken out of that again. -/
def Request.address (r : Request) : Text :=
  let whole := Route.wholeAddress r.headers r.path r.query
  (Reference.ofText (whole.filter fun c => !isLeftOut c)).path

/-- The reply for a path that leads nowhere. -/
def Reply.notFound : Reply where
  status := 404
  headers := [(word "content-length", word "22"), (word "content-type", word "application/json")]
  body := word "\x7b\"detail\":\"Not Found\"\x7d"

/-- The reply that sends a client to another location. -/
def Reply.elsewhere (location : Bytes) : Reply where
  status := 307
  headers := [(word "content-length", word "0"), (word "location", location)]
  body := []

end InjectingProxy
