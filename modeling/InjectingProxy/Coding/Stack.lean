import InjectingProxy.Coding.Wrapper
import InjectingProxy.Text.Digit

/-!
# Content codings

A response names the codings that were applied to its body, in their order, so they are undone in
the reverse order.  Codings that are not known are passed over.

## What is here

* `Decoder`: the undoing of one coding.
* `Stack`: the undoing of all codings of a body, piece by piece.
-/

set_option autoImplicit false

namespace InjectingProxy
namespace Coding

/-- The undoing of one coding. -/
inductive Decoder where
  /-- Nothing to undo. -/
  | identity
  | gzip (i : Inflater)
  /-- Data with a header, or without one: `untried` says that the first piece is still to come,
  which decides. -/
  | deflate (untried : Bool) (i : Inflater)

namespace Decoder

/-- The decoder for the name of a coding. -/
def ofName? (name : Text) : Option Decoder :=
  if name = "identity".toList then some .identity
  else if name = "gzip".toList then some (.gzip (.start .gzip))
  else if name = "deflate".toList then some (.deflate true (.start .zlib))
  else none

/-- Undo the coding of a piece. -/
def feed (d : Decoder) (piece : Bytes) : Except Flaw (Bytes × Decoder) :=
  match d with
  | .identity => .ok (piece, .identity)
  | .gzip i => (i.feed piece).map fun (out, i) => (out, .gzip i)
  | .deflate untried i =>
    match i.feed piece with
    | .ok (out, i) => .ok (out, .deflate false i)
    | .error f =>
      if untried then
        ((Inflater.start .bare).feed piece).map fun (out, i) => (out, .deflate false i)
      else .error f

end Decoder

/-- The decoders of a body, in the order in which they work. -/
abbrev Stack := List Decoder

namespace Stack

/-- The decoders for the values of the headers that name codings. -/
def ofHeaders (values : List Text) : Stack :=
  ((values.flatMap (Text.pieces (· == ','))).filterMap fun name =>
    Decoder.ofName? (Text.lowerAscii (Text.trim isBlank name))).reverse

/-- Undo all codings of a piece. -/
def feed : Stack → Bytes → Except Flaw (Bytes × Stack)
  | [], piece => .ok (piece, [])
  | d :: rest, piece =>
    match d.feed piece with
    | .error f => .error f
    | .ok (out, d) =>
      match feed rest out with
      | .error f => .error f
      | .ok (out, rest) => .ok (out, d :: rest)

/-- What comes out at the end of the body.  A single decoder has passed on all it could; several
are fed once more with nothing. -/
def finish (s : Stack) : Except Flaw Bytes :=
  match s with
  | [] | [_] => .ok []
  | _ => (feed s []).map Prod.fst

end Stack
end Coding
end InjectingProxy
