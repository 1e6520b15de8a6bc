/-!
# Text and bytes

Text that is taken apart (paths, queries, host names, options) is a list of characters, and data
on the wire is a list of bytes, so that every function on them is a recursion on a list.  Fixed
wording and messages stay strings.

## What is here

* `Text`, `Bytes`, and the passage from strings to them.
* `Text.cut`: the part before a separator and the part after it.
* `Text.pieces`: all the parts between separators.
* `Text.trim`: a text without the blanks at its ends.
-/

set_option autoImplicit false

namespace InjectingProxy

/-- A text that is read character by character. -/
abbrev Text := List Char

/-- Bytes as they travel. -/
abbrev Bytes := List UInt8

namespace Text

/-- The string with these characters. -/
abbrev string (t : Text) : String := String.ofList t

/-- The part before the first character that satisfies `p`, and the part after that character if
there is one. -/
def cut (p : Char → Bool) : Text → Text × Option Text
  | [] => ([], none)
  | c :: rest =>
    if p c then ([], some rest)
    else
      let (before, after) := cut p rest
      (c :: before, after)

/-- The parts between the characters that satisfy `p`: one more than there are such characters. -/
def pieces (p : Char → Bool) : Text → List Text
  | [] => [[]]
  | c :: rest =>
    if p c then [] :: pieces p rest
    else
      match pieces p rest with
      | [] => [[c]]
      | first :: others => (c :: first) :: others

/-- The text without its last characters that satisfy `p`. -/
def trimRight (p : Char → Bool) (t : Text) : Text := (t.reverse.dropWhile p).reverse

/-- The text without the characters at either end that satisfy `p`. -/
def trim (p : Char → Bool) (t : Text) : Text := trimRight p (t.dropWhile p)

/-- The parts joined by a separator. -/
def join (separator : Text) (parts : List Text) : Text := List.intercalate separator parts

/-- Small letters of the Latin alphabet for the capital ones. -/
def lowerAscii (t : Text) : Text := t.map Char.toLower

/-- The text holds only characters below U+0080. -/
def isAscii (t : Text) : Bool := t.all fun c => c.toNat < 128

/-- What is left of the text after a given beginning. -/
def dropStart? (start : Text) (t : Text) : Option Text :=
  if start.isPrefixOf t then some (t.drop start.length) else none

/-- A text is its pieces with the separator between them. -/
theorem join_pieces (s : Char) (t : Text) : join [s] (pieces (· == s) t) = t := by
  induction t with
  | nil => simp [pieces, join, List.intercalate]
  | cons c rest ih =>
    unfold pieces
    by_cases h : c = s
    · subst h
      have ne : pieces (· == c) rest ≠ [] := by
        cases rest with
        | nil => simp [pieces]
        | cons d more =>
          unfold pieces
          split
          · simp
          · split <;> simp
      match hp : pieces (· == c) rest with
      | [] => exact absurd hp ne
      | first :: others =>
        rw [hp] at ih
        simp [join, List.intercalate] at ih ⊢
        exact ih
    · simp only [beq_iff_eq, h, if_false]
      match hp : pieces (· == s) rest with
      | [] =>
        rw [hp] at ih
        simp [join, List.intercalate] at ih ⊢
        exact ih
      | [first] =>
        rw [hp] at ih
        simp [join, List.intercalate] at ih ⊢
        exact ih
      | first :: second :: others =>
        rw [hp] at ih
        simp [join, List.intercalate, List.intersperse] at ih ⊢
        exact ih

end Text

end InjectingProxy
