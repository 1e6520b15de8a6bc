import InjectingProxy.Text.Case
import InjectingProxy.Url.Idna.Name
import InjectingProxy.Url.Percent

/-!
# Hosts

A host is a number address of four bytes, a number address of eight words between brackets, or a
name.  Names are written in small letters; those beyond ASCII take their ASCII form.

## What is here

* `Host.isIpv4`, `Host.isIpv6`: the two forms of number addresses.
* `Host.normalise`: the form in which a host is kept.
-/

set_option autoImplicit false

namespace InjectingProxy
namespace Host

/-- What is wrong with a host. -/
inductive Fault where
  | ipv4 (host : Text)
  | ipv6 (host : Text)
  | name (host : Text)
  deriving DecidableEq, Repr

/-- The text of a fault. -/
def Fault.message : Fault → String
  | .ipv4 host => "Invalid IPv4 address: " ++ Text.quoted host
  | .ipv6 host => "Invalid IPv6 address: " ++ Text.quoted host
  | .name host => "Invalid IDNA hostname: " ++ Text.quoted host

/-- The text is meant as four numbers: four runs of digits between dots.  Only a dot separates them,
so `1-2-3-4` and `1234567` are names. -/
def resemblesIpv4 (host : Text) : Bool :=
  let parts := Text.pieces (· == '.') host
  parts.length == 4 && parts.all fun part => !part.isEmpty && part.all Char.isDigit

/-- A number below 256 without needless zeros. -/
def isOctet (t : Text) : Bool :=
  !t.isEmpty && t.length ≤ 3 && t.all Char.isDigit && !(t.head? == some '0' && t.length != 1) &&
    t.foldl (fun n c => 10 * n + (c.toNat - 48)) 0 ≤ 255

/-- Four numbers between dots. -/
def isIpv4 (t : Text) : Bool :=
  let parts := Text.pieces (· == '.') t
  parts.length == 4 && parts.all isOctet

/-- One to four hexadecimal digits. -/
def isHextet (t : Text) : Bool :=
  !t.isEmpty && t.length ≤ 4 && t.all fun c => (hexValue? c).isSome

/-- The words of an address, where its last part may be four numbers that stand for two words. -/
def words? (t : Text) : Option (List Text) :=
  let parts := Text.pieces (· == ':') t
  if parts.length < 3 then none
  else
    match parts.getLast? with
    | some last =>
      if last.contains '.' then
        if isIpv4 last then some (parts.dropLast ++ [['0'], ['0']]) else none
      else some parts
    | none => none

/-- The words are those of an address: eight of them, or fewer with one gap. -/
def areWords (parts : List Text) : Bool :=
  let inner := parts.drop 1 |>.dropLast
  if 9 < parts.length then false
  else
    match inner.findIdx? List.isEmpty with
    | none => parts.length == 8 && parts.all isHextet
    | some i =>
      let before := parts.take (i + 1)
      let after := parts.drop (i + 2)
      let high := if before == [[]] then [] else before
      let low := if after == [[]] then [] else after
      high.length + low.length ≤ 7 && high.all isHextet && low.all isHextet

/-- Eight words of sixteen bits in hexadecimal between colons, with at most one gap for words of
zero, and a zone after a percent sign. -/
def isIpv6 (t : Text) : Bool :=
  if t.contains '/' then false
  else
    let (address, zone) := Text.cut (· == '%') t
    let zoneFits :=
      match zone with
      | none => true
      | some z => !z.isEmpty && !z.contains '%'
    zoneFits && ((words? address).map areWords).getD false

/-- The text stands between brackets. -/
def isBracketed (host : Text) : Bool :=
  2 ≤ host.length && host.head? == some '[' && host.getLast? == some ']'

/-- The form in which a host is kept: number addresses as they are, without brackets, and names in
small letters and ASCII. -/
def normalise (host : Text) : Except Fault Text :=
  if host.isEmpty then .ok []
  else if resemblesIpv4 host then
    if isIpv4 host then .ok host else .error (.ipv4 host)
  else if isBracketed host then
    let inner := (host.drop 1).dropLast
    if isIpv6 inner then .ok inner else .error (.ipv6 host)
  else if Text.isAscii host then .ok (Percent.encode Percent.hostSafe (Text.lowerAscii host))
  else
    match Idna.encode (Case.lower host) with
    | .ok name => .ok name
    | .error _ => .error (.name host)

end Host
end InjectingProxy
