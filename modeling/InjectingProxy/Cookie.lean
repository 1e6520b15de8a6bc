import InjectingProxy.Backend
import InjectingProxy.Text.Case

/-!
# Cookies

A client may keep the cookies that answers set, and send them along with later requests.  A policy
says which cookies are kept; the policy of the proxy's own client allows no domain, so that nothing
is kept.

Cookies are read in the plain form that has no version.  Time has no part here: a cookie does not
expire.

## What is here

* `Cookie`, `Cookie.Jar`: a cookie, and the cookies that are kept.
* `Cookie.read`: the cookie that a header sets.
* `Cookie.Policy.accepts`: whether a cookie from an address is kept.
* `Cookie.Jar.header?`: the header with the cookies for an address.
* `Cookie.Keeping`: what a client does about cookies, and `Cookie.Policy.keeping`, what it does
  under a policy.
-/

set_option autoImplicit false

namespace InjectingProxy

/-- A cookie that is kept. -/
structure Cookie where
  name : Text
  value : Option Text
  /-- The domain with a dot at its front if the cookie names it, and else the host that has set the
  cookie. -/
  domain : Text
  path : Text
  /-- The cookie is only for connections that nobody can read. -/
  secure : Bool
  deriving DecidableEq, Repr

namespace Cookie

/-- The cookies that are kept, in the order in which they came. -/
abbrev Jar := List Cookie

/-! ## Hosts and paths of addresses -/

/-- The host of an address, in small letters and without a port. -/
def host (u : Url) : Text := Case.lower { u with port := none }.authority

/-- The host of an address as a domain: one without a dot is taken as local. -/
def domainOf (u : Url) : Text :=
  if (host u).contains '.' then host u else host u ++ ".local".toList

/-- The characters of a path that are not escaped. -/
def pathSafe (c : Char) : Bool := Percent.isUnreserved c || "%/;:@&=+$,!~*'()".toList.contains c

/-- Escapes with capital letters. -/
def capitalEscapes : Text → Text
  | '%' :: a :: b :: rest =>
    if (hexValue? a).isSome && (hexValue? b).isSome then
      '%' :: a.toUpper :: b.toUpper :: capitalEscapes rest
    else '%' :: capitalEscapes (a :: b :: rest)
  | c :: rest => c :: capitalEscapes rest
  | [] => []

/-- A path as cookies name it. -/
def escapePath (path : Text) : Text := capitalEscapes (Percent.encode pathSafe path)

/-- The path that an address asks for. -/
def pathOf (u : Url) : Text :=
  match escapePath u.path with
  | '/' :: rest => '/' :: rest
  | path => '/' :: path

/-- The folder of a path: all before its last slash. -/
def folder (path : Text) : Text :=
  match ((path.reverse.dropWhile (· != '/')).drop 1).reverse with
  | [] => ['/']
  | start => start

/-- The domain with a dot at its front. -/
def dotted (domain : Text) : Text :=
  if domain.head? == some '.' then domain else '.' :: domain

/-! ## Reading a header -/

/-- A part of a header that sets a cookie: its name, and its value if there is an equals sign. -/
def part (t : Text) : Text × Option Text :=
  let (name, value) := Text.cut (· == '=') t
  (Text.trim isBlank name, value.map (Text.trim isBlank))

/-- The first part with a name, in small letters. -/
def attribute? (parts : List (Text × Option Text)) (name : String) : Option (Option Text) :=
  (parts.find? fun p => Case.lower p.1 == name.toList).map Prod.snd

/-- The cookie that a header sets at an address, and whether it names its domain.  A cookie without
a name is none, and neither is one that names a domain or a path without saying which. -/
def read (u : Url) (header : Text) : Option (Cookie × Bool) :=
  match (Text.pieces (· == ';') header).map part with
  | [] => none
  | (name, value) :: parts =>
    if name.isEmpty then none
    else
      let secure :=
        match attribute? parts "secure" with
        | none => false
        | some value => value != some []
      let path (given : Option Text) : Text :=
        match given with
        | none | some [] => folder (pathOf u)
        | some given => escapePath given
      match attribute? parts "domain", attribute? parts "path" with
      | some none, _ | _, some none => none
      | none, given =>
        some ({ name, value, domain := domainOf u, path := path given.join, secure }, false)
      | some (some domain), given =>
        let domain := dotted (Case.lower domain)
        some ({ name, value, domain, path := path given.join, secure }, true)

/-! ## Policies -/

/-- Which cookies are kept. -/
structure Policy where
  /-- The domains whose cookies are kept; all of them, unless it is said which. -/
  allowedDomains : Option (List Text)

namespace Policy

/-- The policy that allows no domain. -/
def closed : Policy := { allowedDomains := some [] }

/-- The policy that allows all domains. -/
def unrestricted : Policy := { allowedDomains := none }

/-- The domain ends with a number, like a number address. -/
def endsInNumber (domain : Text) : Bool :=
  let digits := domain.reverse.takeWhile Char.isDigit
  !digits.isEmpty && (domain.reverse.dropWhile Char.isDigit).head? == some '.'

/-- The domain is one that a list of domains means: the same, or one below it if there is a dot at
the front. -/
def isMeant (domain listed : Text) : Bool :=
  if endsInNumber domain || endsInNumber listed then domain == listed
  else if listed.head? == some '.' then listed.isSuffixOf domain
  else domain == listed

/-- A cookie may name a domain if this has a dot inside or the host is local, and the host is below
it, or is local with the name of the domain at its end. -/
def mayName (u : Url) (domain : Text) : Bool :=
  ((domain.drop 1).contains '.' || ".local".toList.isSuffixOf (domainOf u)) &&
    ((domainOf u).head? == some '.' || domain.isSuffixOf ('.' :: domainOf u) ||
      (domain.drop 1 ++ ".local".toList).isSuffixOf (domainOf u))

/-- The cookie from an address is kept. -/
def accepts (p : Policy) (u : Url) (c : Cookie) (namesDomain : Bool) : Bool :=
  (match p.allowedDomains with
    | none => true
    | some listed => listed.any fun d => isMeant (Case.lower c.domain) (Case.lower d)) &&
  (!namesDomain || mayName u c.domain)

end Policy

/-! ## Keeping and sending -/

namespace Jar

/-- Keep a cookie, in the place of an earlier one of the same name for the same domain and path. -/
def put (jar : Jar) (c : Cookie) : Jar :=
  let isSame (d : Cookie) : Bool := d.domain == c.domain && d.path == c.path && d.name == c.name
  if jar.any isSame then jar.map fun d => if isSame d then c else d else jar ++ [c]

/-- The cookies in the order of their domains, and for a domain in that of their paths. -/
def inOrder (jar : Jar) : List Cookie :=
  (jar.map Cookie.domain).eraseDups.flatMap fun domain =>
    let own := jar.filter (·.domain == domain)
    (own.map Cookie.path).eraseDups.flatMap fun path => own.filter (·.path == path)

end Jar

/-- The cookie is sent with requests to an address. -/
def isFor (u : Url) (c : Cookie) : Bool :=
  (dotted c.domain).isSuffixOf ('.' :: domainOf u) &&
    (pathOf u == c.path ||
      c.path.isPrefixOf (pathOf u) &&
        (c.path.getLast? == some '/' || (pathOf u)[c.path.length]? == some '/')) &&
    (!c.secure || u.scheme == "https".toList || u.scheme == "wss".toList)

/-- A cookie as it is sent. -/
def text (c : Cookie) : Text :=
  match c.value with
  | none => c.name
  | some value => c.name ++ '=' :: value

/-- Put a cookie before those whose path is not longer. -/
def insert (c : Cookie) : List Cookie → List Cookie
  | [] => [c]
  | d :: rest => if d.path.length ≤ c.path.length then c :: d :: rest else d :: insert c rest

/-- The header with the cookies for an address, those with the longest path first. -/
def Jar.header? (jar : Jar) (u : Url) : Option Bytes :=
  let sent := (jar.inOrder.filter (isFor u)).foldr insert []
  if sent.isEmpty then none
  else some (Utf8.encode (Text.join "; ".toList (sent.map text)))

/-- What a client does about cookies. -/
structure Keeping where
  /-- What it keeps after an answer from an address. -/
  keep : Jar → Url → Answer → Jar
  /-- The header that it sends along to an address, if any. -/
  header? : Jar → Url → Option Bytes

/-- What a client does about cookies under a policy. -/
def Policy.keeping (p : Policy) : Keeping where
  keep jar u a :=
    let set := (a.headerValues (word "set-cookie")).filterMap (read u)
    ((set.filter fun c => p.accepts u c.1 c.2).map Prod.fst).foldl Jar.put jar
  header? := Jar.header?

end Cookie

/-- The request with a header for cookies, if there is one.  Only credentials stand after it. -/
def Outbound.withCookies (o : Outbound) (value : Option Bytes) : Outbound :=
  match value with
  | none => o
  | some value =>
    let isOther (h : Header) : Bool := h.1 != word "authorization"
    { o with headers :=
        o.headers.takeWhile isOther ++ (word "cookie", value) :: o.headers.dropWhile isOther }

end InjectingProxy
