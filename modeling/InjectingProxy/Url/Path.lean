import InjectingProxy.Text.Basic

/-!
# Paths

A path is its segments with slashes between them.  The segment `.` stands for the place where it
is met and `..` for the one above, so both can be removed; nothing lies above the first segment.
-/

set_option autoImplicit false

namespace InjectingProxy
namespace Path

/-- The segment for the same place. -/
def here : Text := ['.']

/-- The segment for the place above. -/
def above : Text := ['.', '.']

/-- The parts of a path between slashes. -/
def segments (path : Text) : List Text := Text.pieces (· == '/') path

/-- Take one more segment, given those kept before it, the last one first.  Going up from the top,
or from the empty segment before the first slash, changes nothing. -/
def visit (kept : List Text) (segment : Text) : List Text :=
  if segment = here then kept
  else if segment = above then if kept = [[]] then kept else kept.tail
  else segment :: kept

/-- The segments that remain when all dot segments are followed. -/
def removeDots (parts : List Text) : List Text := (parts.foldl visit []).reverse

/-- The path without dot segments. -/
def normalise (path : Text) : Text := Text.join ['/'] (removeDots (segments path))

/-- No segment of the path is a dot segment. -/
def IsNormal (path : Text) : Prop := ∀ s ∈ segments path, s ≠ here ∧ s ≠ above

end Path
end InjectingProxy
