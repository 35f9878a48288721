/-! # Lines

A line ends at a line feed, a carriage return or the pair of both, at the vertical tab, form feed
and information separators, and at the line and paragraph separators beyond ASCII. A break at the
very end opens no further line.
-/

namespace QueryLint.Text

def lineBreaks : List Char :=
  ['\n', '\r', '\x0b', '\x0c', '\x1c', '\x1d', '\x1e', '\u0085', '\u2028', '\u2029']

def isLineBreak (c : Char) : Bool :=
  lineBreaks.contains c

def consLine (c : Char) : List (List Char) → List (List Char)
  | [] => [[c]]
  | l :: ls => (c :: l) :: ls

/-- The lines of a text without their breaks. -/
def lines : List Char → List (List Char)
  | [] => []
  | '\r' :: '\n' :: r => [] :: lines r
  | c :: r => if isLineBreak c then [] :: lines r else consLine c (lines r)

/-- Line breaks of either convention become a single line feed. -/
def unifyBreaks : List Char → List Char
  | [] => []
  | '\r' :: '\n' :: r => '\n' :: unifyBreaks r
  | c :: r => (if c = '\r' then '\n' else c) :: unifyBreaks r

theorem lines_cons_of_not_break {c : Char} {r : List Char} (h : isLineBreak c = false) :
    lines (c :: r) = consLine c (lines r) := by
  have hc : c ≠ '\r' := by rintro rfl; revert h; decide
  rw [lines]
  · simp [h]
  · exact fun _ hr _ => hc hr

end QueryLint.Text
