/-! # Reading positions in YAML

The text that is left, with its place in the whole text and on its line. A byte order mark takes up
no column.
-/

namespace QueryLint.Yaml

/-- Why a text has no value. -/
inductive Fault
  /-- It is no YAML, or tags something by what it cannot be. -/
  | malformed
  /-- A number, time or character that does not exist. -/
  | impossible (reason : String)
  /-- The code of a character, or a power of sixty, that is beyond all bounds. -/
  | overflow
  /-- A flag that is none of the words for flags. -/
  | unknownFlag
  /-- A number without any digits. -/
  | emptyNumber
  /-- A time that is not written as one. -/
  | unreadableTime
  /-- A time that is no text. -/
  | unsuitedTime
  /-- Something for which the stack has no room, or that is a part of itself. -/
  | exhausted
  deriving DecidableEq, Repr

def Fault.message : Fault → String
  | malformed => "invalid YAML"
  | impossible reason => reason
  | overflow => "a number is beyond all bounds"
  | unknownFlag => "a flag is none of the words for flags"
  | emptyNumber => "a number has no digits"
  | unreadableTime | unsuitedTime => "a time is not written as one"
  | exhausted => "the stack has no room left"

structure Cursor where
  rest : List Char
  index : Nat := 0
  line : Nat := 0
  column : Nat := 0
  deriving Repr, Inhabited

def isBreak (c : Char) : Bool :=
  c = '\n' || c = '\r' || c = '\u0085' || c = '\u2028' || c = '\u2029'

/-- A blank, a line break or the end. -/
def isGapNext (s : List Char) : Bool :=
  match s with
  | [] => true
  | c :: _ => c = ' ' || c = '\t' || isBreak c

/-- A space, a line break or the end. -/
def isSpaceNext (s : List Char) : Bool :=
  match s with
  | [] => true
  | c :: _ => c = ' ' || isBreak c

def isNameChar (c : Char) : Bool :=
  c.isAlphanum || c = '-' || c = '_'

namespace Cursor

def head? (c : Cursor) : Option Char := c.rest.head?

def isAt (c : Cursor) (d : Char) : Bool := c.rest.head? == some d

/-- The position behind the next character. -/
def step (c : Cursor) : Cursor :=
  match c.rest with
  | [] => c
  | d :: r =>
    if isBreak d && !(d = '\r' && r.head? == some '\n') then
      { rest := r, index := c.index + 1, line := c.line + 1 }
    else if d = '\ufeff' then { c with rest := r, index := c.index + 1 }
    else { c with rest := r, index := c.index + 1, column := c.column + 1 }

/-- The position so many characters further on. -/
def skip (c : Cursor) : Nat → Cursor
  | 0 => c
  | n + 1 => c.step.skip n

/-- The characters next to the position that pass a test, and the position behind them. -/
def takeWhile (p : Char → Bool) (c : Cursor) : List Char × Cursor :=
  let s := c.rest.takeWhile p
  (s, c.skip s.length)

def skipSpaces (c : Cursor) : Cursor :=
  (c.takeWhile (· = ' ')).2

def skipComment (c : Cursor) : Cursor :=
  if c.isAt '#' then (c.takeWhile fun d => !isBreak d).2 else c

/-- The line break at the position, as it is kept in folded text, and the position behind it. -/
def break? (c : Cursor) : Option (Char × Cursor) :=
  match c.rest with
  | '\r' :: '\n' :: _ => some ('\n', c.skip 2)
  | d :: _ =>
    if d = '\n' || d = '\r' || d = '\u0085' then some ('\n', c.step)
    else if isBreak d then some (d, c.step)
    else none
  | [] => none

/-- Three equal marks, as they open or close a document at the beginning of a line. -/
def hasMarks (mark : Char) (c : Cursor) : Bool :=
  c.rest.take 3 = [mark, mark, mark] && isGapNext (c.rest.drop 3)

def hasMarker (c : Cursor) : Bool :=
  c.hasMarks '-' || c.hasMarks '.'

/-- Passes over spaces, a comment and the end of their line, where nothing else may stand. -/
def endLine (c : Cursor) : Except Fault Cursor :=
  let c := c.skipSpaces.skipComment
  match c.break? with
  | some (_, c) => .ok c
  | none => if c.rest.isEmpty then .ok c else .error .malformed

end Cursor

end QueryLint.Yaml
