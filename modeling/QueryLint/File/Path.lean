import QueryLint.Text.Search

/-! # Paths

A path is a root, empty for a relative path, and the names below it. Empty names and the name of
the directory itself are left out; the parent directory `..` stays a name.
-/

namespace QueryLint

structure Path where
  root : String := ""
  names : List String := []
  deriving DecidableEq, Repr, Inhabited

namespace Path

/-- Two leading slashes are a root of their own, more count as one. -/
def rootOf (s : List Char) : String :=
  match (s.takeWhile (· = '/')).length with
  | 0 => ""
  | 2 => "//"
  | _ => "/"

def ofText (s : String) : Path :=
  { root := rootOf s.toList
    names := ((Text.splitAt '/' s.toList).map String.ofList).filter fun n => n ≠ "" && n ≠ "." }

def ofText? (s : String) : Option Path :=
  if s = "" then none else some (ofText s)

def toText (p : Path) : String :=
  if p.root = "" && p.names.isEmpty then "." else p.root ++ "/".intercalate p.names

/-- The last name, empty for a root or the working directory. -/
def name (p : Path) : String :=
  p.names.getLast?.getD ""

/-- The part of a name from its last dot on, unless the dot is the first or last character. -/
def suffixOf (name : List Char) : List Char :=
  let tail := (name.reverse.takeWhile (· ≠ '.')).reverse
  if tail.isEmpty || name.length ≤ tail.length + 1 then [] else '.' :: tail

def suffix (p : Path) : String :=
  String.ofList (suffixOf p.name.toList)

def parent (p : Path) : Path :=
  { p with names := p.names.dropLast }

def child (p : Path) (name : String) : Path :=
  { p with names := p.names ++ [name] }

/-- The directory around a place, which above the working directory has no name but `..`. -/
def around (p : Path) : Path :=
  if p.names.getLast?.all (· = "..") then
    if p.root = "" then p.child ".." else p
  else p.parent

/-- A path in which no name is left behind by a `..` after it. -/
def normal (p : Path) : Path :=
  p.names.foldl (fun q n => if n = ".." then q.around else q.child n) { root := p.root }

def hasNull (p : Path) : Bool :=
  p.names.any fun n => n.toList.contains '\x00'

/-- Whether a path leads through another one. -/
def isAbove (p q : Path) : Bool :=
  p.root == q.root && p.names.isPrefixOf q.names && p.names != q.names

/-- A path as it is handed over: written as a text, of which an empty one stands for no path, or as
such. -/
inductive Given
  | text (s : String)
  | path (p : Path)
  deriving DecidableEq, Repr

def Given.path? : Given → Option Path
  | text s => ofText? s
  | path p => some p

/-- What is written for a path that is handed over. -/
def Given.text? : Given → Option String
  | text s => if s = "" then none else some s
  | path p => some p.toText

end Path

end QueryLint
