import QueryLint.Yaml.Scalar

/-! # Nodes

A node is a scalar, a list or a mapping with a tag. It carries the value it stands for and what is
wrong with it. Values are made from the outside in, level by level: of several faults the one
nearest to the root counts, and of those on one level the first.
-/

namespace QueryLint.Yaml

/-- The faults of a node and of what it holds, the first of each level. -/
abbrev Levels := List (Option Fault)

def Levels.merge : Levels → Levels → Levels
  | [], b => b
  | a, [] => a
  | x :: a, y :: b => x.or y :: Levels.merge a b

def Levels.first? (levels : Levels) : Option Fault :=
  levels.findSome? id

inductive Kind
  | scalar
  | list
  | mapping
  deriving DecidableEq, Repr

/-- The text that a node stands for where its tag asks for one. -/
inductive Wording
  | nothing
  | found (text : List Glyph)
  /-- It is looked for in a node that is not finished, and so without end. -/
  | endless

structure Node where
  tag : Tag
  kind : Kind
  /-- The value, if nothing is wrong. -/
  data : Data := .null
  faults : Levels := []
  /-- The text of a scalar, or of what stands for a mapping. -/
  wording : Wording := .nothing
  /-- The items of a list. -/
  items : List Node := []
  /-- The keys and values of a mapping as they are written. -/
  entries : List (Node × Node) := []
  /-- Those keys and values together with what is merged into them. -/
  merged : Except Fault (List (Node × Node)) := .ok []

namespace Node

instance : Inhabited Node := ⟨{ tag := .null, kind := .scalar }⟩

def own (n : Node) : Option Fault := n.faults.head?.join

/-- The faults of nodes inside a collection, a level further down. -/
def inner (nodes : List Node) : Levels :=
  nodes.foldl (fun levels n => levels.merge (n.faults.drop 1)) []

/-- Puts an entry into a mapping; a repeated key keeps its place and takes the new value. -/
def putEntry (k v : Data) : List DataEntry → List DataEntry
  | [] => [⟨k, v⟩]
  | e :: r => if Data.equal k e.key then ⟨e.key, v⟩ :: r else e :: putEntry k v r

/-! ## Scalars -/

def isCollectionTag (tag : Tag) : Bool :=
  tag = .list || tag = .mapping || tag = .set || tag = .pairs

/-- A scalar. A tag of collections is found wrong only when their contents are made. -/
def ofText (tag : Tag) (text : List Glyph) : Node :=
  let node : Node := { tag, kind := .scalar, wording := .found text }
  if isCollectionTag tag then { node with faults := [none, some .malformed] }
  else match readScalar tag text with
    | .ok data => { node with data }
    | .error f => { node with faults := [some f] }

/-- A list or mapping inside itself. -/
def ofLoop (kind : Kind) : Node :=
  { tag := if kind = .list then .list else .mapping
    kind
    data := .loop (kind = .mapping)
    wording := if kind = .mapping then .endless else .nothing }

/-! ## Lists -/

/-- A mapping with a single entry, as a pair. -/
def pair? (n : Node) : Option (Node × Node) :=
  match n.kind, n.entries with
  | .mapping, [e] => some e
  | _, _ => none

/-- What goes wrong in making pairs, and the nodes that they are made of. -/
def pairFaults : List Node → List (Option Fault) × List Node
  | [] => ([], [])
  | n :: r =>
    match n.pair? with
    | none => ([some .malformed], [])
    | some (k, v) =>
      let (faults, nodes) := pairFaults r
      (k.own :: v.own :: faults, k :: v :: nodes)

def pairData (n : Node) : Data :=
  match n.pair? with
  | some (k, v) => .tuple [k.data, v.data]
  | none => .null

def ofItems (tag : Tag) (items : List Node) : Node :=
  let node : Node := { tag, kind := .list, items }
  match tag with
  | .list =>
    { node with
      data := .list (items.map (·.data))
      faults := none :: items.findSome? own :: inner items }
  | .pairs =>
    let (faults, nodes) := pairFaults items
    { node with
      data := .list (items.map pairData)
      faults := none :: faults.findSome? id :: inner nodes }
  | .set | .mapping => { node with faults := [none, some .malformed] }
  | _ => { node with faults := [some .malformed] }

/-! ## Mappings -/

/-- The key that stands for a whole mapping is a plain text among other keys. -/
def plainKey (k : Node) : Node :=
  if k.tag ≠ .value then k
  else match k.wording with
    | .found text => { k with tag := .text, data := .ofGlyphs text, faults := [] }
    | .endless => { k with tag := .text, faults := [some .exhausted] }
    | .nothing => { k with tag := .text, faults := [some .malformed] }

/-- The entries that a value brings in under the key for merging. Of several mappings the first one
prevails, so it comes last. -/
def mergedFrom (v : Node) : Except Fault (List (Node × Node)) :=
  match v.kind with
  | .mapping => v.merged
  | .list => do
    let parts ← v.items.mapM fun i => if i.kind = .mapping then i.merged else .error .malformed
    return parts.reverse.flatten
  | .scalar => .error .malformed

def mergeEntries (entries : List (Node × Node)) : Except Fault (List (Node × Node)) := do
  let brought ← (entries.filter fun e => e.1.tag = .merge).mapM fun e => mergedFrom e.2
  let others := entries.filter fun e => e.1.tag ≠ .merge
  return brought.flatten ++ others.map fun (k, v) => (plainKey k, v)

/-- What is wrong with a key and its value. Collections cannot be keys. -/
def entryFaults (e : Node × Node) : List (Option Fault) :=
  [e.1.own, if isCollectionTag e.1.tag then some .malformed else none, e.2.own]

def entryData (entries : List (Node × Node)) : List DataEntry :=
  entries.foldl (fun es e => putEntry e.1.data e.2.data es) []

/-- The text that stands for a whole mapping. -/
def wordingOf (entries : List (Node × Node)) : Wording :=
  match entries.find? fun e => e.1.tag = .value with
  | some e => e.2.wording
  | none => .nothing

def ofEntries (tag : Tag) (entries : List (Node × Node)) : Node :=
  let merged := mergeEntries entries
  let wording := wordingOf entries
  let node : Node := { tag, kind := .mapping, entries, merged, wording }
  let made (data : List DataEntry → Data) : Node := match merged with
    | .error f => { node with faults := [none, some f] }
    | .ok es =>
      { node with
        data := data (entryData es)
        faults := none :: (es.flatMap entryFaults).findSome? id
          :: inner (es.flatMap fun e => [e.1, e.2]) }
  match tag with
  | .mapping => made .mapping
  | .set => made fun es => .set (es.map (·.key))
  | .list | .pairs => { node with faults := [none, some .malformed] }
  | tag =>
    match wording with
    | .nothing => { node with faults := [some .malformed] }
    | .endless => { node with faults := [some .exhausted] }
    | .found text =>
      if tag = .timestamp then { node with faults := [some .unsuitedTime] }
      else match readScalar tag text with
        | .ok data => { node with data }
        | .error f => { node with faults := [some f] }

end Node

end QueryLint.Yaml
