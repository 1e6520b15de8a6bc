import InjectingProxy.Url.Idna.Label

/-!
# Internationalised host names

A host name is a row of labels between dots; there are four characters for the dot.  A dot at the
end belongs to the name.
-/

set_option autoImplicit false

namespace InjectingProxy
namespace Idna

/-- The dots between labels. -/
def isDot (c : Char) : Bool :=
  c = '.' || c.toNat = 0x3002 || c.toNat = 0xFF0E || c.toNat = 0xFF61

/-- The labels of a name, and whether a dot ends it. -/
def labels (name : Text) : Except Fault (List Text × Bool) :=
  if maxName true < name.length then .error .nameTooLong
  else
    match Text.pieces isDot name with
    | [[]] => .error .nameEmpty
    | parts =>
      if parts.getLast? == some [] then .ok (parts.dropLast, true) else .ok (parts, false)

/-- The name of these labels. -/
def joinLabels (parts : List Text) (dotAtEnd : Bool) : Text :=
  Text.join ['.'] (if dotAtEnd then parts ++ [[]] else parts)

/-- The ASCII form of a name. -/
def encode (name : Text) : Except Fault Text := do
  let (parts, dotAtEnd) ← labels name
  let ascii := joinLabels (← parts.mapM toAscii) dotAtEnd
  if maxName dotAtEnd < ascii.length then throw .nameTooLong
  pure ascii

/-- The name of an ASCII form. -/
def decode (name : Text) : Except Fault Text := do
  let (parts, dotAtEnd) ← labels name
  pure (joinLabels (← parts.mapM toUnicode) dotAtEnd)

end Idna
end InjectingProxy
