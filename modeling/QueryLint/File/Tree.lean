import QueryLint.File.Path

/-! # File trees

The files that a run can see, by path, with contents of some type. Of directories that are not
listed it is known that those exist which hold a listed file, and those around the working
directory.
-/

namespace QueryLint

/-- What a path leads to. -/
inductive Found (α : Type)
  | file (content : α)
  | directory
  | missing
  /-- A name on the way is a file, not a directory. -/
  | blocked
  /-- A name on the way, or the whole path, is longer than it may be. -/
  | tooLong
  deriving DecidableEq, Repr

structure FileTree (α : Type) where
  files : List (Path × α) := []
  directories : List Path := []
  deriving Repr, Inhabited

/-- Why a directory or file cannot be made. -/
inductive Obstacle
  /-- The directory that is to be made is a file. -/
  | isFile
  /-- The file that is to be made is a directory. -/
  | isDirectory
  /-- A directory further up is a file. -/
  | blocked
  | nameTooLong
  /-- A name holds a null character. -/
  | nullName
  deriving DecidableEq, Repr

namespace FileTree

variable {α : Type}

/-- A tree holds a directory for every part of the paths in it. -/
def isDirectory (t : FileTree α) (p : Path) : Bool :=
  p.names.all (· = "..") || (t.files.any fun f => p.isAbove f.1)
    || t.directories.any fun d => d == p || p.isAbove d

/-- What stands at a place. -/
def entry (t : FileTree α) (p : Path) : Found α :=
  match t.files.lookup p with
  | some content => .file content
  | none => if t.isDirectory p then .directory else .missing

/-- The most bytes that a name may have. -/
def nameLimit : Nat := 255

/-- The most bytes that a path may have. -/
def pathLimit : Nat := 4095

/-- Follows names from a place in the tree; `..` leads to the directory around. -/
def follow (t : FileTree α) (place : Path) : List String → Found α
  | [] => t.entry place
  | n :: rest =>
    match t.entry place with
    | .directory =>
      if n = ".." then t.follow place.around rest
      else if nameLimit < n.utf8ByteSize then .tooLong
      else t.follow (place.child n) rest
    | .file _ => .blocked
    | other => other

/-- What a path leads to; a path that is listed needs no following. A name with a null character is
no name of anything. -/
def find (t : FileTree α) (p : Path) : Found α :=
  if p.hasNull then .missing
  else if pathLimit < p.toText.utf8ByteSize then .tooLong
  else match t.entry p with
    | .missing => t.follow { root := p.root } p.names
    | found => found

/-- Adds a file, or a directory where there is no content. -/
def insert (t : FileTree α) (p : Path) (content : Option α) : FileTree α :=
  match content with
  | some c => { t with files := t.files ++ [(p, c)] }
  | none => { t with directories := t.directories ++ [p] }

/-- Makes the directories on the way from a place; those made before an obstacle stay. -/
def makeWay (t : FileTree α) (place : Path) : List String → FileTree α × Option Obstacle
  | [] => (t, none)
  | n :: rest =>
    if n = ".." then t.makeWay place.around rest
    else if nameLimit < n.utf8ByteSize then (t, some .nameTooLong)
    else
      let here := place.child n
      match t.entry here with
      | .file _ => (t, some (if rest.isEmpty then .isFile else .blocked))
      | .directory => t.makeWay here rest
      | _ => (t.insert here none).makeWay here rest

def makeDirectory (t : FileTree α) (p : Path) : FileTree α × Option Obstacle :=
  if p.hasNull then (t, some .nullName)
  else if pathLimit < p.toText.utf8ByteSize then (t, some .nameTooLong)
  else t.makeWay { root := p.root } p.names

/-- Makes a file in a directory that exists; a file that is already there is left alone. -/
def makeFile (t : FileTree α) (p : Path) (content : α) : FileTree α × Option Obstacle :=
  if p.hasNull then (t, some .nullName)
  else if nameLimit < p.name.utf8ByteSize || pathLimit < p.toText.utf8ByteSize then
    (t, some .nameTooLong)
  else match t.entry p with
    | .file _ => (t, none)
    | .directory => (t, some .isDirectory)
    | _ => (t.insert p (some content), none)

end FileTree

end QueryLint
