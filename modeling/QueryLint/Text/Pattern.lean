import QueryLint.Text.Fold
import QueryLint.Text.Search
import QueryLint.Text.Word

/-! # Search patterns

A pattern is written as a text: characters, some of them behind a backslash, word boundaries `\b`,
groups in parentheses and alternatives. One that begins with `(?i)` matches in any case. A search
tries the alternatives in the order in which they stand and goes back to the next one where what
follows does not match.
-/

namespace QueryLint

inductive Pattern where
  | empty
  | char (c : Char)
  | boundary
  | append (p q : Pattern)
  | choice (p q : Pattern)
deriving DecidableEq, Repr

namespace Pattern

/-! ## Matching -/

/-- A position in a text: the character before it, if there is one, and the text after it. -/
structure Place where
  before : Option Char
  after : List Char

/-- Where a match that begins at a place can end, in the order in which the ends are tried. -/
def ends (same : Char → Char → Bool) : Pattern → Place → List Place
  | empty, s => [s]
  | char c, s =>
    match s.after with
    | [] => []
    | x :: r => if same c x then [⟨some x, r⟩] else []
  | boundary, s => if Text.isBoundary s.before s.after.head? then [s] else []
  | append p q, s => (p.ends same s).flatMap (q.ends same)
  | choice p q, s => p.ends same s ++ q.ends same s

/-- Whether a match begins at a place or anywhere after it. -/
def searchFrom (same : Char → Char → Bool) (p : Pattern) (before : Option Char) :
    List Char → Bool
  | [] => !(p.ends same ⟨before, []⟩).isEmpty
  | c :: r => !(p.ends same ⟨before, c :: r⟩).isEmpty || p.searchFrom same (some c) r

/-! ## Reading -/

/-- A group while it is read: the alternatives that are complete and the one that is not. -/
structure Group where
  complete : Option Pattern
  last : Pattern

namespace Group

def fresh : Group :=
  ⟨none, .empty⟩

def push (g : Group) (p : Pattern) : Group :=
  { g with last := .append g.last p }

def close (g : Group) : Pattern :=
  match g.complete with
  | none => g.last
  | some p => .choice p g.last

def alternative (g : Group) : Group :=
  ⟨some g.close, .empty⟩

end Group

/-- Characters that begin a repetition, a class or an anchor. -/
def operators : List Char :=
  ['.', '[', '\x7b', '*', '+', '?', '^', '$']

/-- The pattern that a text stands for, read on from a group inside of others. There is none for a
text that is no pattern or uses other operators. -/
def readFrom? (outer : List Group) (inner : Group) : List Char → Option Pattern
  | [] => if outer.isEmpty then some inner.close else none
  | '\\' :: [] => none
  | '\\' :: c :: r =>
    if c = 'b' then readFrom? outer (inner.push .boundary) r
    else if c.isAlphanum then none
    else readFrom? outer (inner.push (.char c)) r
  | '(' :: r => readFrom? (inner :: outer) .fresh r
  | ')' :: r =>
    match outer with
    | [] => none
    | around :: outer => readFrom? outer (around.push inner.close) r
  | '|' :: r => readFrom? outer inner.alternative r
  | c :: r => if operators.contains c then none else readFrom? outer (inner.push (.char c)) r

/-! ## Writing -/

/-- Characters that are written behind a backslash to stand for themselves. -/
def escaped : List Char :=
  ['(', ')', '[', ']', '\x7b', '\x7d', '?', '*', '+', '-', '|', '^', '$', '\\', '.', '&', '~', '#',
    ' ', '\t', '\n', '\r', '\x0b', '\x0c']

def escape (text : String) : String :=
  String.ofList (text.toList.flatMap fun c => if escaped.contains c then ['\\', c] else [c])

end Pattern

/-- A pattern that is ready for a search. -/
structure Search where
  anyCase : Bool
  pattern : Pattern
deriving DecidableEq, Repr

namespace Search

def compile? (text : String) : Option Search :=
  match Text.dropStart? "(?i)".toList text.toList with
  | some r => (Pattern.readFrom? [] .fresh r).map (⟨true, ·⟩)
  | none => (Pattern.readFrom? [] .fresh text.toList).map (⟨false, ·⟩)

/-- Whether a character of a text counts as one of the pattern. -/
def same (s : Search) (c x : Char) : Bool :=
  if s.anyCase then Text.agrees c x else x == c

def found (s : Search) (text : String) : Bool :=
  s.pattern.searchFrom s.same none text.toList

end Search

end QueryLint
