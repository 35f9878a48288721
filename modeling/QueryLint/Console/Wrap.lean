import QueryLint.Console.Width
import QueryLint.Text.Blank
import QueryLint.Text.Search

/-! # Wrapped text

Breaks lines between words so that they fit into a width. Tabs become blanks up to the next stop. A
word that is too long for a line is folded, or it is left to be cut.
-/

namespace QueryLint.Console

/-- What is printed on. Lines without a single cell would leave everything out. -/
structure Page where
  /-- The cells of a line. -/
  width : Nat
  width_pos : 0 < width := by decide

/-- What happens to a word that is too long for a line. -/
inductive Overflow
  /-- It continues on the next line. -/
  | fold
  /-- It is cut, with a mark at the end. -/
  | ellipsis
  deriving DecidableEq, Repr

def tabSize : Nat := 8

/-- A part of a line with the tab behind it turned into at least one blank. -/
def fillTab (position : Nat) (part : List Char) : List Char :=
  let shown := part ++ [' ']
  shown ++ List.replicate ((tabSize - (position + textWidth shown) % tabSize) % tabSize) ' '

/-- The parts of a line between tabs, put together from a position on. -/
def joinTabbed (position : Nat) : List (List Char) → List Char
  | [] => []
  | [part] => part
  | part :: r =>
    let filled := fillTab position part
    filled ++ joinTabbed (position + textWidth filled) r

def expandTabs (line : List Char) : List Char :=
  joinTabbed 0 (Text.splitAt '\t' line)

/-- The words of a line behind a beginning, which is kept backwards: each with the blanks behind it,
the first also with those before it. -/
def wordsAfter (beginning : List Char) : List Char → List (List Char)
  | [] => [beginning.reverse]
  | c :: r =>
    if !Text.isBlank c && beginning.head?.any Text.isBlank && !beginning.all Text.isBlank then
      beginning.reverse :: wordsAfter [c] r
    else wordsAfter (c :: beginning) r

def words (line : List Char) : List (List Char) :=
  wordsAfter [] line

/-- The lines that words make behind the beginning of one, which takes some cells. Only blanks may
stand out at the end of a line. There is no break before anything is there. -/
def arrange (overflow : Overflow) (width : Nat) (line : List Char) (used : Nat) :
    List (List Char) → List (List Char)
  | [] => [line]
  | w :: r =>
    let size := textWidth (Text.stripRight w)
    if used + size ≤ width then arrange overflow width (line ++ w) (used + textWidth w) r
    else
      let pieces := if width < size && overflow = .fold then chopCells width w else [w]
      let last := pieces.getLast?.getD []
      (line :: pieces.dropLast).dropWhile List.isEmpty
        ++ arrange overflow width last (textWidth last) r

/-- Takes blanks away from the end of a line with more characters than it has cells. -/
def dropExcessBlanks (width : Nat) (line : List Char) : List Char :=
  let blanks := line.length - (Text.stripRight line).length
  line.take (line.length - min blanks (line.length - width))

/-- Cuts a line that takes too many cells. -/
def truncate (overflow : Overflow) (width : Nat) (line : List Char) : List Char :=
  if textWidth line ≤ width then line
  else match overflow with
    | .fold => fitCells width line
    | .ellipsis => fitCells (width - 1) line ++ ['…']

def broken (overflow : Overflow) (width : Nat) (text : List Char) : List (List Char) :=
  (Text.splitAt '\n' text).flatMap fun line =>
    (arrange overflow width [] 0 (words (expandTabs line))).map (dropExcessBlanks width)

def unbroken (width : Nat) (text : List Char) : List (List Char) :=
  (Text.splitAt '\n' text).map fun line => dropExcessBlanks width (expandTabs line)

def wrapped (overflow : Overflow) (width : Nat) (text : List Char) : List (List Char) :=
  (broken overflow width text).map (truncate overflow width)

end QueryLint.Console
