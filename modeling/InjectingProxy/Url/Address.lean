import InjectingProxy.Number.Reading
import InjectingProxy.Text.Charset
import InjectingProxy.Url.Form
import InjectingProxy.Url.Host
import InjectingProxy.Url.Path

/-!
# Addresses

An address names a scheme, an authority (user information, host and port), a path, a query and a
fragment.  It is read from text in two steps: the text is split at its separators, and each part
is then brought into the one form in which it is kept.  All parts of an `Url` are ASCII, except for
the zone of a number address.

## What is here

* `Reference`, `Reference.ofText`: the parts of a text, as they stand.
* `Url`, `Reference.normalise`: the parts in their normal form.
* `Url.parse`: both steps together.
* `Url.build`: the address for a path and parameters below a root.
* `Url.text`, `Url.target`: the whole text, and the part that a request asks for.
* `Url.hostBytes`, `Url.siteBytes`: the host, and the host with its port, as bytes.
* `Url.misreading?`: why an address is not read again as it is meant.
-/

set_option autoImplicit false

namespace InjectingProxy

/-- The parts of an address that can be given apart from the others. -/
inductive UrlPart where
  | authority | path | query | fragment | host
  deriving DecidableEq, Repr

/-- The name of a part in messages. -/
def UrlPart.name : UrlPart → String
  | .authority => "authority"
  | .path => "path"
  | .query => "query"
  | .fragment => "fragment"
  | .host => "host"

/-- An address in its normal form. -/
structure Url where
  scheme : Text
  userinfo : Text
  host : Text
  port : Option Int
  path : Text
  query : Option Text
  fragment : Option Text
  deriving DecidableEq, Repr

namespace Url

/-- What is wrong with an address. -/
inductive Fault where
  /-- The text, or one part of it, is too long. -/
  | tooLong (part : Option UrlPart)
  /-- The text, or one part of it, holds a control character. -/
  | unprintable (part : Option UrlPart) (c : Char) (place : Nat)
  /-- A part holds a character that ends it. -/
  | malformed (part : UrlPart)
  | host (fault : Host.Fault)
  | port (text : Text)
  /-- The path after an authority does not begin with a slash. -/
  | pathNotRooted
  /-- A path without scheme and authority begins with two slashes. -/
  | pathLikeAuthority
  /-- A path without scheme and authority begins with a colon. -/
  | pathLikeScheme
  deriving DecidableEq, Repr

/-- The text of a fault. -/
def Fault.message : Fault → String
  | .tooLong none => "URL too long"
  | .tooLong (some part) => "URL component '" ++ part.name ++ "' too long"
  | .unprintable part c place =>
    "Invalid non-printable ASCII character in URL" ++
      (match part with
        | none => ""
        | some part => " " ++ part.name ++ " component") ++
      ", " ++ Text.quoted [c] ++ " at position " ++ toString place ++ "."
  | .malformed part => "Invalid URL component '" ++ part.name ++ "'"
  | .host fault => fault.message
  | .port text => "Invalid port: " ++ Text.quoted text
  | .pathNotRooted => "For absolute URLs, path must be empty or begin with '/'"
  | .pathLikeAuthority => "Relative URLs cannot have a path starting with '//'"
  | .pathLikeScheme => "Relative URLs cannot have a path starting with ':'"

/-- The longest text of an address or of a part given apart. -/
def maxLength : Nat := 65536

/-- The character is an ASCII control character. -/
def isControl (c : Char) : Bool := c.toNat < 0x20 || c.toNat == 0x7F

/-- A text that is not too long and holds no control character. -/
def checkText (part : Option UrlPart) (t : Text) : Except Fault Unit :=
  if maxLength < t.length then .error (.tooLong part)
  else
    match t.find? isControl with
    | some c => .error (.unprintable part c (t.takeWhile fun d => !isControl d).length)
    | none => .ok ()

/-- The characters that cannot stand in a part. -/
def endsPart : UrlPart → Char → Bool
  | .authority, c => c == '/' || c == '?' || c == '#'
  | .path, c => c == '?' || c == '#'
  | .query, c => c == '#'
  | .fragment, _ => false
  | .host, _ => false

/-- A part that can be given apart from the others. -/
def checkPart (part : UrlPart) (t : Text) : Except Fault Unit := do
  checkText (some part) t
  if t.any (endsPart part) then throw (.malformed part)

end Url

/-- The parts of an address as they stand in its text. -/
structure Reference where
  scheme : Text
  authority : Text
  path : Text
  query : Option Text
  fragment : Option Text
  deriving DecidableEq, Repr

namespace Reference

/-- The character may stand in a scheme. -/
def isSchemeChar (c : Char) : Bool := c.isAlphanum || c == '+' || c == '.' || c == '-'

/-- The scheme before the first colon, which may be empty, and what follows. -/
def splitScheme (t : Text) : Text × Text :=
  let name := t.takeWhile isSchemeChar
  match t.dropWhile isSchemeChar with
  | ':' :: rest =>
    match name with
    | [] => ([], rest)
    | c :: _ => if c.isAlpha then (name, rest) else ([], t)
  | _ => ([], t)

/-- The authority after two slashes, and what follows. -/
def splitAuthority : Text → Text × Text
  | '/' :: '/' :: rest =>
    (rest.takeWhile fun c => !Url.endsPart .authority c,
      rest.dropWhile fun c => !Url.endsPart .authority c)
  | t => ([], t)

/-- The parts of a text. -/
def ofText (t : Text) : Reference :=
  let (scheme, afterScheme) := splitScheme t
  let (authority, afterAuthority) := splitAuthority afterScheme
  let (beforeFragment, fragment) := Text.cut (· == '#') afterAuthority
  let (path, query) := Text.cut (· == '?') beforeFragment
  { scheme, authority, path, query, fragment }

/-- The parts of an authority: user information before the last at sign, a host that ends at a
colon or, if it begins with a bracket, at the last closing one, and the text for the port. -/
def authorityParts (authority : Text) : Text × Text × Text :=
  let (tail, before) := Text.cut (· == '@') authority.reverse
  let userinfo := (before.getD []).reverse
  let site := tail.reverse
  let (afterBracket, inner) := Text.cut (· == ']') tail
  let (host, rest) :=
    match site, inner with
    | '[' :: _, some inner => ((']' :: inner).reverse, afterBracket.reverse)
    | _, _ => (site.takeWhile (· != ':'), site.dropWhile (· != ':'))
  (userinfo, host, if rest.head? == some ':' then rest.tail else rest)

/-- The port that a scheme uses when none is given. -/
def defaultPorts : List (Text × Int) :=
  [("ftp".toList, 21), ("http".toList, 80), ("https".toList, 443), ("ws".toList, 80),
    ("wss".toList, 443)]

/-- The port that a text names; none for the default port of the scheme. -/
def portOf (scheme port : Text) : Except Url.Fault (Option Int) :=
  if port.isEmpty then .ok none
  else
    match Whole.read port with
    | .error _ => .error (.port port)
    | .ok n => .ok (if defaultPorts.lookup scheme = some n then none else some n)

/-- The path fits to what stands before it. -/
def checkPath (hasScheme hasAuthority : Bool) (path : Text) : Except Url.Fault Unit :=
  if hasAuthority then
    match path with
    | [] | '/' :: _ => .ok ()
    | _ => .error .pathNotRooted
  else if hasScheme then .ok ()
  else
    match path with
    | '/' :: '/' :: _ => .error .pathLikeAuthority
    | ':' :: _ => .error .pathLikeScheme
    | _ => .ok ()

/-- The parts in their normal form, with a host given apart if there is one. -/
def normaliseWith (givenHost : Option Text) (r : Reference) : Except Url.Fault Url := do
  let (userinfo, ownHost, portText) := authorityParts r.authority
  let scheme := Text.lowerAscii r.scheme
  let userinfo := Percent.encode Percent.userinfoSafe userinfo
  let host ← (Host.normalise (givenHost.getD ownHost)).mapError .host
  let port ← portOf r.scheme portText
  let hasScheme := !scheme.isEmpty
  let hasAuthority := !userinfo.isEmpty || !host.isEmpty || port.isSome
  checkPath hasScheme hasAuthority r.path
  let path := if hasScheme || hasAuthority then Path.normalise r.path else r.path
  pure {
    scheme, userinfo, host, port
    path := Percent.encode Percent.pathSafe path
    query := r.query.map (Percent.encode Percent.querySafe)
    fragment := r.fragment.map (Percent.encode Percent.fragmentSafe) }

/-- The parts in their normal form. -/
def normalise (r : Reference) : Except Url.Fault Url := r.normaliseWith none

end Reference

namespace Url

/-- The address that a text stands for. -/
def parse (t : Text) : Except Fault Url := do
  checkText none t
  (Reference.ofText t).normalise

/-- The query for a list of parameters, which is missing if there are none. -/
def queryFor (params : List Form.Parameter) : Option Text :=
  if params.isEmpty then none else some (Form.encode (Form.group params))

/-- The path that an inbound path asks for: an empty one asks for the top. -/
def pathFor (path : Text) : Text := if path.isEmpty then ['/'] else path

/-- The address of a path with parameters below a root, whose own path and query are replaced. -/
def build (root path : Text) (params : List Form.Parameter) : Except Fault Url := do
  checkText none root
  checkPart .path (pathFor path)
  match queryFor params with
  | some query => checkPart .query query
  | none => pure ()
  Reference.normalise { Reference.ofText root with path := pathFor path, query := queryFor params }

/-- The host and port as they stand in a text. -/
def netloc (u : Url) : Text :=
  (if u.host.contains ':' then '[' :: u.host ++ [']'] else u.host) ++
    match u.port with
    | none => []
    | some n => ':' :: (toString n).toList

/-- The host as bytes, which it has if it is ASCII. -/
def hostBytes (u : Url) : Except Charset.Fault Bytes := Charset.ascii.encode u.host

/-- The host and port as bytes, which they have if the host is ASCII. -/
def siteBytes (u : Url) : Except Charset.Fault Bytes := Charset.ascii.encode u.netloc

/-- The authority as it stands in a text. -/
def authority (u : Url) : Text :=
  (if u.userinfo.isEmpty then [] else u.userinfo ++ ['@']) ++ u.netloc

/-- Characters that stand for text in which one of the characters is that separate parts. -/
def separatorForms : List Nat :=
  [0x2047, 0x2048, 0x2049, 0x2100, 0x2101, 0x2105, 0x2106, 0x2A74, 0xFE13, 0xFE16, 0xFE55, 0xFE56,
    0xFE5F, 0xFE6B, 0xFF03, 0xFF0F, 0xFF1A, 0xFF1F, 0xFF20]

/-- Why an authority whose host has an odd zone is not read again as it is meant. -/
inductive Misreading where
  /-- Something other than a port follows the first closing bracket. -/
  | trailing
  /-- What stands before the first closing bracket is no address. -/
  | noAddress (inner : Text)
  /-- A character stands for a separator. -/
  | separator (authority : Text)
  deriving DecidableEq, Repr

/-- The text of a misreading. -/
def Misreading.message : Misreading → String
  | .trailing => "Invalid IPv6 URL"
  | .noAddress inner =>
    Text.quoted inner ++ " does not appear to be an IPv4 or IPv6 address"
  | .separator authority =>
    "netloc '" ++ Text.string authority ++
      "' contains invalid characters under NFKC normalization"

/-- Why the authority is not read again as it is meant.  A reader takes the first closing bracket
for the last, and some characters for separators. -/
def misreading? (u : Url) : Option Misreading :=
  let plain :=
    if u.host.any fun c => separatorForms.contains c.toNat then some (.separator u.authority)
    else none
  match Text.cut (· == ']') u.host with
  | (_, none) => plain
  | (inner, some rest) =>
    if (rest ++ [']']).head? != some ':' then some .trailing
    else if Host.isIpv6 inner then plain
    else some (.noAddress inner)

/-- The path and the query of the address, as a request asks for them. -/
def target (u : Url) : Text :=
  pathFor u.path ++
    match u.query with
    | none => []
    | some query => '?' :: query

/-- The text of the address. -/
def text (u : Url) : Text :=
  (if u.scheme.isEmpty then [] else u.scheme ++ [':']) ++
    (if u.authority.isEmpty then [] else '/' :: '/' :: u.authority) ++ u.path ++
    (match u.query with
      | none => []
      | some query => '?' :: query) ++
    match u.fragment with
    | none => []
    | some fragment => '#' :: fragment

/-- The address names a scheme and a host. -/
def isAbsolute (u : Url) : Bool := !u.scheme.isEmpty && !u.host.isEmpty

/-- The parts of the address, to be read again. -/
def reference (u : Url) : Reference where
  scheme := u.scheme
  authority := u.authority
  path := u.path
  query := u.query
  fragment := u.fragment

/-- Read the parts of an address again, some of them replaced.  Each is checked like a part given
apart. -/
def reread (host : Option Text) (r : Reference) : Except Fault Url := do
  checkPart .authority r.authority
  checkPart .path r.path
  (r.query.forM (checkPart .query) : Except Fault Unit)
  (r.fragment.forM (checkPart .fragment) : Except Fault Unit)
  (host.forM (checkPart .host) : Except Fault Unit)
  r.normaliseWith host

/-- The address to which a request goes.  An address without scheme or host is taken as a path,
without the slashes at its front. -/
def requested (u : Url) : Except Fault Url :=
  if u.isAbsolute then .ok u
  else
    let (path, query) := Text.cut (· == '?') (u.target.dropWhile (· == '/'))
    reread none { scheme := [], authority := [], path := '/' :: path, query, fragment := none }

end Url
end InjectingProxy
