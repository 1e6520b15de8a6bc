import InjectingProxy.Text.Basic

/-!
# UTF-8

`Utf8.encode` writes a text as bytes and `Utf8.scan` reads bytes back, one piece at a time.  A
piece is a character or a run of bytes that begins no character; such a run is as long as the
bytes could still have become a character, so a broken character counts once.

## What is here

* `Utf8.encode`, `Utf8.encodeChar`: one to four bytes for a character.
* `Utf8.scan`: the pieces of a byte list, in order.
* `Utf8.decodeLossy`: broken pieces become U+FFFD.
* `Utf8.decode`: the text, or where and why the first broken piece stands.
-/

set_option autoImplicit false

namespace InjectingProxy
namespace Utf8

/-- The bytes of one character. -/
def encodeChar (c : Char) : Bytes :=
  let n := c.toNat
  if n < 0x80 then [UInt8.ofNat n]
  else if n < 0x800 then [UInt8.ofNat (0xC0 + n / 64), UInt8.ofNat (0x80 + n % 64)]
  else if n < 0x10000 then
    [UInt8.ofNat (0xE0 + n / 4096), UInt8.ofNat (0x80 + n / 64 % 64), UInt8.ofNat (0x80 + n % 64)]
  else
    [UInt8.ofNat (0xF0 + n / 262144), UInt8.ofNat (0x80 + n / 4096 % 64),
      UInt8.ofNat (0x80 + n / 64 % 64), UInt8.ofNat (0x80 + n % 64)]

/-- The bytes of a text. -/
def encode (t : Text) : Bytes := t.flatMap encodeChar

/-- Why a run of bytes is no character. -/
inductive Flaw where
  /-- The first byte begins no character. -/
  | start
  /-- A later byte does not continue the character. -/
  | continuation
  /-- The bytes end inside the character. -/
  | truncated
  deriving DecidableEq, Repr

/-- A character read from bytes, or a run of `width` bytes that is none. -/
inductive Piece where
  | char (c : Char) (width : Nat)
  | broken (flaw : Flaw) (width : Nat)

/-- How many bytes a piece covers. -/
def Piece.width : Piece → Nat
  | .char _ w => w
  | .broken _ w => w

/-- The byte continues a character. -/
def isTail (b : UInt8) : Bool := 0x80 ≤ b && b ≤ 0xBF

/-- The byte may follow the first byte `b` of a character of three bytes or more.  Overlong forms,
surrogates and numbers above U+10FFFF are excluded here. -/
def isSecond (b next : UInt8) : Bool :=
  if b = 0xE0 then 0xA0 ≤ next && next ≤ 0xBF
  else if b = 0xED then 0x80 ≤ next && next ≤ 0x9F
  else if b = 0xF0 then 0x90 ≤ next && next ≤ 0xBF
  else if b = 0xF4 then 0x80 ≤ next && next ≤ 0x8F
  else isTail next

/-- The six low bits of a byte, which a character takes from each byte after the first. -/
def low6 (b : UInt8) : Nat := b.toNat % 64

/-- The piece at the head of a byte list, given its first byte and the bytes after it. -/
def head (b : UInt8) (rest : Bytes) : Piece :=
  if b < 0x80 then .char (Char.ofNat b.toNat) 1
  else if b < 0xC2 then .broken .start 1
  else if b < 0xE0 then
    match rest with
    | [] => .broken .truncated 1
    | b₁ :: _ =>
      if isTail b₁ then .char (Char.ofNat (b.toNat % 32 * 64 + low6 b₁)) 2
      else .broken .continuation 1
  else if b < 0xF0 then
    match rest with
    | [] => .broken .truncated 1
    | b₁ :: more =>
      if isSecond b b₁ then
        match more with
        | [] => .broken .truncated 2
        | b₂ :: _ =>
          if isTail b₂ then
            .char (Char.ofNat (b.toNat % 16 * 4096 + low6 b₁ * 64 + low6 b₂)) 3
          else .broken .continuation 2
      else .broken .continuation 1
  else if b < 0xF5 then
    match rest with
    | [] => .broken .truncated 1
    | b₁ :: more =>
      if isSecond b b₁ then
        match more with
        | [] => .broken .truncated 2
        | b₂ :: more =>
          if isTail b₂ then
            match more with
            | [] => .broken .truncated 3
            | b₃ :: _ =>
              if isTail b₃ then
                .char (Char.ofNat
                  (b.toNat % 8 * 262144 + low6 b₁ * 4096 + low6 b₂ * 64 + low6 b₃)) 4
              else .broken .continuation 3
          else .broken .continuation 2
      else .broken .continuation 1
  else .broken .start 1

/-- The pieces of the bytes that follow the next `skip` ones. -/
def scanAfter : (skip : Nat) → Bytes → List Piece
  | _, [] => []
  | skip + 1, _ :: rest => scanAfter skip rest
  | 0, b :: rest => head b rest :: scanAfter ((head b rest).width - 1) rest

/-- The pieces of a byte list, in order. -/
def scan (bs : Bytes) : List Piece := scanAfter 0 bs

/-- The text of the bytes, with U+FFFD for each broken piece. -/
def decodeLossy (bs : Bytes) : Text :=
  (scan bs).map fun
    | .char c _ => c
    | .broken _ _ => Char.ofNat 0xFFFD

/-- A broken piece: the place of its first byte, its width and what is wrong with it. -/
structure Fault where
  place : Nat
  width : Nat
  flaw : Flaw
  deriving DecidableEq, Repr

/-- Gather the characters of pieces that begin at a given place. -/
def gather (place : Nat) : List Piece → Except Fault Text
  | [] => .ok []
  | .char c w :: rest =>
    match gather (place + w) rest with
    | .ok t => .ok (c :: t)
    | .error e => .error e
  | .broken flaw w :: _ => .error ⟨place, w, flaw⟩

/-- The text of the bytes, or the first broken piece. -/
def decode (bs : Bytes) : Except Fault Text := gather 0 (scan bs)

end Utf8
end InjectingProxy
