import QueryLint.Text.Lines

/-! # Blank characters -/

namespace QueryLint.Text

def blanks : List Char :=
  ['\t', '\n', '\x0b', '\x0c', '\r', '\x1c', '\x1d', '\x1e', '\x1f', ' ', '\u0085', '\u00a0',
   '\u1680', '\u2000', '\u2001', '\u2002', '\u2003', '\u2004', '\u2005', '\u2006', '\u2007',
   '\u2008', '\u2009', '\u200a', '\u2028', '\u2029', '\u202f', '\u205f', '\u3000']

/-- White space of any script; the zero-width space and the byte order mark are none. -/
def isBlank (c : Char) : Bool :=
  blanks.contains c

def stripLeft (s : List Char) : List Char :=
  s.dropWhile isBlank

def stripRight (s : List Char) : List Char :=
  (stripLeft s.reverse).reverse

/-- A text without the blanks at its two ends. -/
def strip (s : List Char) : List Char :=
  stripRight (stripLeft s)

def allBlank (s : List Char) : Bool :=
  s.all isBlank

/-- The parts of a text between blanks. -/
def blankFree (s : List Char) : List (List Char) :=
  let parts := s.foldr (fun c parts => if isBlank c then [] :: parts else consLine c parts) []
  parts.filter fun part => !part.isEmpty

end QueryLint.Text
