import InjectingProxy.Url.Address

/-!
# Where a redirect points to

An answer can point to another address, which is relative to the one that was asked for.  The
proxy does not go there, but the address has to make sense.

## What is here

* `Url.displayHost`: the host as it is shown.
* `Url.join`: an address relative to another one.
* `Redirect.withHost`, `Redirect.resolve`, `Redirect.withFragment`: what an address takes from the
  one that was asked for.
* `Redirect.follow`: the address that a redirect points to, or why there is none.
-/

set_option autoImplicit false

namespace InjectingProxy
namespace Url

/-- The host as it is shown: a name whose ASCII form begins the host is written in full. -/
def displayHost (u : Url) : Except Idna.Fault Text :=
  if Idna.asciiMark.isPrefixOf u.host then Idna.decode u.host else .ok u.host

/-- The segments of a path below the last directory of another one, where inner empty segments are
left out. -/
def mergeSegments (base path : Text) : List Text :=
  match path with
  | '/' :: _ => Path.segments path
  | _ =>
    let directory := Path.segments base
    let directory := if directory.getLast? == some [] then directory else directory.dropLast
    let parts := directory ++ Path.segments path
    parts.take 1 ++ ((parts.drop 1).dropLast.filter fun s => !s.isEmpty) ++
      (parts.drop 1).getLast?.toList

/-- The path for segments, all dot segments followed.  A dot segment at the end leaves a
directory. -/
def joinSegments (parts : List Text) : Text :=
  let kept := parts.foldl
    (fun kept s => if s = Path.above then kept.tail else if s = Path.here then kept else s :: kept)
    []
  let last := parts.getLast?
  let kept := if last = some Path.here ∨ last = some Path.above then [] :: kept else kept
  pathFor (Text.join ['/'] kept.reverse)

/-- The text of an address relative to another one.  Relative to it, nothing at all is the address
itself. -/
def join (base u : Url) : Text :=
  let joined : Url :=
    if u.text.isEmpty then base
    else if !u.authority.isEmpty then { u with scheme := base.scheme }
    else
      let based : Url :=
        { base with path := u.path, query := u.query, fragment := u.fragment }
      if u.path.isEmpty then
        { based with path := base.path, query := if u.query.isSome then u.query else base.query }
      else
        let path := joinSegments (mergeSegments base.path u.path)
        { based with path := if path.head? == some '/' then path else '/' :: path }
  joined.text

end Url

namespace Redirect

/-- Why a redirect points nowhere. -/
inductive Fault where
  /-- What it says is no address. -/
  | location (f : Url.Fault)
  /-- What it says cannot be brought together with the address that was asked for. -/
  | address (f : Url.Fault)
  /-- A host has no form in which to show it. -/
  | host (f : Idna.Fault)
  /-- An address is not read again as it is meant. -/
  | misread (f : Url.Misreading)
  /-- A host has characters that a header does not hold. -/
  | characters (f : Charset.Fault)
  deriving DecidableEq, Repr

/-- The fragment of an address as text, empty if there is none. -/
def fragmentText (u : Url) : Text := Percent.decode (u.fragment.getD [])

/-- The host for an authority: number addresses of eight words stand between brackets. -/
def bracketed (host : Text) : Text :=
  if host.contains ':' && !Host.isBracketed host then '[' :: host ++ [']'] else host

/-- The address that is named, where a host that is missing after a scheme is taken from the
request. -/
def withHost (asked named : Url) : Except Fault Url :=
  if named.scheme.isEmpty then pure named
  else do
    let shown ← named.displayHost.mapError .host
    if shown.isEmpty then
      let host ← asked.displayHost.mapError .host
      (Url.reread (some (bracketed host)) named.reference).mapError .address
    else pure named

/-- An address as it is understood at the one that was asked for. -/
def resolve (asked hosted : Url) : Except Fault Url :=
  if hosted.isAbsolute then pure hosted
  else
    match hosted.misreading? with
    | some f => throw (.misread f)
    | none => (Url.parse (asked.join hosted)).mapError .address

/-- The address, where a missing fragment is taken from the request. -/
def withFragment (asked absolute : Url) : Except Fault Url :=
  let fragment := fragmentText asked
  if fragment.isEmpty || !(fragmentText absolute).isEmpty then pure absolute
  else
    (Url.reread none { absolute.reference with fragment := some fragment }).mapError .address

/-- The address that `location` points to, for a request to `asked`.  The hosts of both are shown,
and the one that is pointed to is written into a header. -/
def follow (asked : Url) (location : Text) : Except Fault Url := do
  let named ← (Url.parse location).mapError .location
  let hosted ← withHost asked named
  let absolute ← resolve asked hosted
  let whole ← withFragment asked absolute
  discard (asked.displayHost.mapError .host)
  discard (whole.displayHost.mapError .host)
  discard (whole.siteBytes.mapError .characters)
  pure whole

end Redirect
end InjectingProxy
