import QueryLint.Text.Lines

/-! # Places in a text

Offsets count characters from zero, lines and columns from one.
-/

namespace QueryLint

/-- The characters from `start` up to, and without, `stop`. -/
structure Span where
  start : Nat
  stop : Nat
  deriving DecidableEq, Repr, Inhabited

structure Location where
  line : Nat
  column : Nat
  deriving DecidableEq, Repr, Inhabited

/-- Line and column of the character at an offset: the number of lines of the text before it and
one more than the length of the last of them. A character that begins a line is therefore placed
behind the end of the line before. -/
def Location.ofOffset (text : List Char) (offset : Nat) : Location :=
  let before := Text.lines (text.take offset)
  match before.getLast? with
  | some last => ⟨before.length, last.length + 1⟩
  | none => ⟨1, 1⟩

end QueryLint
