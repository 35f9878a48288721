import QueryLint.Number.Calendar
import QueryLint.Number.Literal
import QueryLint.Number.Shortest
import QueryLint.Text.Torn

/-! # Values of settings and configuration data

Settings hold values of any shape: what a configuration file can say, and the collections a caller
can hand over. Numbers are compared by what they count, so that `1`, `1.0` and a true flag are
equal; sets by their members; mappings by key. The keys of a mapping are usually texts, but a file
may have others. Where a file makes a collection a part of itself, that part is a loop.
-/

namespace QueryLint

mutual
inductive Data
  | null
  | bool (b : Bool)
  | int (n : Int)
  | float (x : Binary64)
  | text (s : String)
  | torn (t : TornText)
  | instant (i : Instant)
  | bytes (bs : List UInt8)
  /-- A list, or a mapping, inside itself. -/
  | loop (isMapping : Bool)
  | list (items : List Data)
  | tuple (items : List Data)
  | set (items : List Data)
  | frozenSet (items : List Data)
  | mapping (entries : List DataEntry)

structure DataEntry where
  key : Data
  value : Data
end

instance : Inhabited Data := ⟨.null⟩

namespace Data

def typeName : Data → String
  | null => "NoneType"
  | bool _ => "bool"
  | int _ => "int"
  | float _ => "float"
  | text _ | torn _ => "str"
  | instant i => i.typeName
  | bytes _ => "bytes"
  | loop isMapping => if isMapping then "dict" else "list"
  | list _ => "list"
  | tuple _ => "tuple"
  | set _ => "set"
  | frozenSet _ => "frozenset"
  | mapping _ => "dict"

/-- Zero, nothing and empty collections do not count as given. -/
def isTruthy : Data → Bool
  | null => false
  | bool b => b
  | int n => n != 0
  | float x => !x.isZero
  | text s => s != ""
  | torn _ | instant _ => true
  | bytes bs => !bs.isEmpty
  | loop _ => true
  | list xs | tuple xs | set xs | frozenSet xs => !xs.isEmpty
  | mapping es => !es.isEmpty

def asText? : Data → Option String
  | text s => some s
  | _ => none

/-- Whether a value is a text, be it torn. -/
def isText : Data → Bool
  | text _ | torn _ => true
  | _ => false

def ofGlyphs (gs : List Glyph) : Data :=
  match TornText.ofGlyphs? gs with
  | some t => torn t
  | none => text (String.ofList (gs.map Glyph.shown))

/-- The members of a collection of any of the four kinds. -/
def members? : Data → Option (List Data)
  | list xs | tuple xs | set xs | frozenSet xs => some xs
  | _ => none

def hasText (d : Data) (s : String) : Bool :=
  d.asText?.any (· == s)

def lookup (key : String) (entries : List DataEntry) : Option Data :=
  (entries.find? fun e => e.key.hasText key).map (·.value)

/-- The whole number that a number or flag equals. -/
def toInt? : Data → Option Int
  | bool b => some (if b then 1 else 0)
  | int n => some n
  | float x => x.toInt?
  | _ => none

/-- Equality of two values neither of which is a collection. -/
def scalarEqual : Data → Data → Bool
  | null, null => true
  | text s, text t => s == t
  | torn s, torn t => s == t
  | instant i, instant j => i.equal j
  | bytes bs, bytes cs => bs == cs
  | float x, float y => x.equal y
  | a, b => match a.toInt?, b.toInt? with
    | some m, some n => m == n
    | _, _ => false

mutual
def equal : Data → Data → Bool
  | list xs, b => match b with
    | list ys => equalLists xs ys
    | _ => false
  | tuple xs, b => match b with
    | tuple ys => equalLists xs ys
    | _ => false
  | set xs, b => match b with
    | set ys | frozenSet ys => xs.length == ys.length && allIn xs ys
    | _ => false
  | frozenSet xs, b => match b with
    | set ys | frozenSet ys => xs.length == ys.length && allIn xs ys
    | _ => false
  | mapping es, b => match b with
    | mapping fs => es.length == fs.length && entriesIn es fs
    | _ => false
  | a, b => scalarEqual a b

def equalLists : List Data → List Data → Bool
  | [], ys => ys.isEmpty
  | x :: xs, ys => match ys with
    | [] => false
    | y :: ys => equal x y && equalLists xs ys

def allIn : List Data → List Data → Bool
  | [], _ => true
  | x :: xs, ys => ys.any (fun y => equal x y) && allIn xs ys

def entriesIn : List DataEntry → List DataEntry → Bool
  | [], _ => true
  | ⟨k, v⟩ :: es, fs => fs.any (fun f => equal k f.key && equal v f.value) && entriesIn es fs
end

/-- Keeps the first of equal members. -/
def dedup (items : List Data) : List Data :=
  (items.foldl (fun kept x => if kept.any (fun y => equal y x) then kept else x :: kept) []).reverse

def commaJoin (parts : List String) : String :=
  ", ".intercalate parts

mutual
/-- The text of a value in messages. -/
def display : Data → String
  | null => "None"
  | bool b => if b then "True" else "False"
  | int n => toString n
  | float x => x.toText
  | text s => Text.quoted s
  | torn t => t.quoted
  | instant i => i.toCall
  | bytes bs => Text.quotedBytes bs
  | loop isMapping => if isMapping then "\x7b...\x7d" else "[...]"
  | list xs => "[" ++ commaJoin (displays xs) ++ "]"
  | tuple xs => match displays xs with
    | [x] => "(" ++ x ++ ",)"
    | ds => "(" ++ commaJoin ds ++ ")"
  | set xs => if xs.isEmpty then "set()" else "\x7b" ++ commaJoin (displays xs) ++ "\x7d"
  | frozenSet xs =>
    if xs.isEmpty then "frozenset()" else "frozenset(\x7b" ++ commaJoin (displays xs) ++ "\x7d)"
  | mapping es => "\x7b" ++ commaJoin (displayEntries es) ++ "\x7d"

def displays : List Data → List String
  | [] => []
  | x :: xs => display x :: displays xs

def displayEntries : List DataEntry → List String
  | [] => []
  | ⟨k, v⟩ :: es => (display k ++ ": " ++ display v) :: displayEntries es
end

mutual
/-- Whether the text of a value can be made: none of its numbers is too long. -/
def isWritable : Data → Bool
  | int n => Literal.isWritable n
  | list xs | tuple xs | set xs | frozenSet xs => areWritable xs
  | mapping es => entriesWritable es
  | _ => true

def areWritable : List Data → Bool
  | [] => true
  | x :: xs => isWritable x && areWritable xs

def entriesWritable : List DataEntry → Bool
  | [] => true
  | ⟨k, v⟩ :: es => isWritable k && isWritable v && entriesWritable es
end

mutual
/-- The number of collections inside one another. -/
def depth : Data → Nat
  | list xs | tuple xs | set xs | frozenSet xs => innerDepth xs + 1
  | mapping es => entriesDepth es + 1
  | _ => 0

def innerDepth : List Data → Nat
  | [] => 0
  | x :: xs => max (depth x) (innerDepth xs)

def entriesDepth : List DataEntry → Nat
  | [] => 0
  | ⟨k, v⟩ :: es => max (max (depth k) (depth v)) (entriesDepth es)
end

/-- The text of a value spliced into a sentence: a text stands for itself, an instant is written
plainly. -/
def spliced : Data → String
  | text s => s
  | torn t => String.ofList t.shown
  | instant i => i.toText
  | d => display d

def sortTexts (texts : List String) : List String :=
  texts.mergeSort fun a b => decide (a ≤ b)

end Data

end QueryLint
