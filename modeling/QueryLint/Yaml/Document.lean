import QueryLint.Yaml.Node
import QueryLint.Yaml.Token

/-! # YAML documents

Puts tokens together to nodes. A node may have a name by which it is mentioned again later, even
inside itself, and a tag, whose handle stands for the beginning of its name.
-/

namespace QueryLint.Yaml

/-- What a name stands for: a node that is still being read, or a finished one. -/
inductive Anchor
  | unfinished (kind : Kind)
  | finished (n : Node)

structure State where
  tokens : List Token
  anchors : List (String × Anchor) := []
  handles : List (String × String) := []
  /-- The calls that the stack has room for. -/
  room : Nat

abbrev Parse := StateT State (Except Fault)

namespace Parse

def peek : Parse Token := do
  match (← get).tokens with
  | .broken f :: _ => throw f
  | t :: _ => return t
  | [] => throw .malformed

def drop : Parse Unit :=
  modify fun s => { s with tokens := s.tokens.tail }

def comes (ts : List Token) : Parse Bool := do
  return ts.contains (← peek)

def dropIf (t : Token) : Parse Bool := do
  if ← comes [t] then
    drop
    return true
  else return false

/-- Drops the next token, which has to be the one. -/
def expect (t : Token) : Parse Unit := do
  if !(← dropIf t) then throw .malformed

/-! ## Names and tags -/

def defaultHandles : List (String × String) :=
  [("!", "!"), ("!!", tagSpace)]

def tagName (handle : Option String) (suffix : String) : Parse String := do
  match handle with
  | none => return suffix
  | some h => match (← get).handles.lookup h with
    | some start => return start ++ suffix
    | none => throw .malformed

def anchorNext : Parse (Option String) := do
  match ← peek with
  | .anchor name => do drop; return some name
  | _ => return none

def tagNext : Parse (Option String) := do
  match ← peek with
  | .tag handle suffix => do
    drop
    return some (← tagName handle suffix)
  | _ => return none

/-- A name and a tag, in any order and each of them optional. -/
def properties : Parse (Option String × Option String) := do
  match ← anchorNext with
  | some a => return (some a, ← tagNext)
  | none => match ← tagNext with
    | some t => return (← anchorNext, some t)
    | none => return (none, none)

/-- The tag of a collection that has none, or only an exclamation mark. -/
def tagOr (standard : Tag) (name : Option String) : Tag :=
  match name with
  | none | some "!" => standard
  | some n => Tag.ofName n

/-- The tag of a scalar, found from its text where an exclamation mark or nothing but plain text
stands. -/
def scalarTag (name : Option String) (plain : Bool) (text : List Char) : Tag :=
  match name with
  | none => if plain then Tag.ofText text else .text
  | some "!" => Tag.ofText text
  | some n => Tag.ofName n

def bindName (name : Option String) (a : Anchor) : Parse Unit :=
  match name with
  | none => pure ()
  | some n => modify fun s => { s with anchors := (n, a) :: s.anchors }

def checkName (name : Option String) : Parse Unit := do
  let anchors := (← get).anchors
  if name.any fun n => (anchors.lookup n).isSome then throw .malformed

def aliased (name : String) : Parse Node := do
  match (← get).anchors.lookup name with
  | none => throw .malformed
  | some (.unfinished kind) => return .ofLoop kind
  | some (.finished n) => return n

/-- Reads what is inside a collection, which takes two calls. -/
def inside {α : Type} (read : Parse α) : Parse α := do
  let room := (← get).room
  if room < 2 then throw .exhausted
  modify fun s => { s with room := room - 2 }
  let found ← read
  modify fun s => { s with room }
  return found

/-- What stands where nothing is written. -/
def nothing : Node := .ofText .null []

/-! ## Nodes -/

mutual
/-- A node. Blocks are allowed on demand, and so are items without indentation of their own. -/
def node : Nat → Bool → Bool → Parse Node
  | 0, _, _ => throw .malformed
  | fuel + 1, block, indentless => do
    match ← peek with
    | .alias name => do
      drop
      aliased name
    | _ => do
      let (name, tag) ← properties
      checkName name
      let finish (n : Node) : Parse Node := do
        bindName name (.finished n)
        return n
      let list (read : Parse (List Node)) : Parse Node := do
        bindName name (.unfinished .list)
        finish (.ofItems (tagOr .list tag) (← inside read))
      let mapping (read : Parse (List (Node × Node))) : Parse Node := do
        bindName name (.unfinished .mapping)
        finish (.ofEntries (tagOr .mapping tag) (← inside read))
      match ← peek, block, indentless with
      | .item, _, true => list (looseItems fuel)
      | .scalar text plain, _, _ => do
        drop
        finish (.ofText (scalarTag tag plain (text.map Glyph.shown)) text)
      | .listOpen, _, _ => do
        drop
        list (flowItems fuel true)
      | .tableOpen, _, _ => do
        drop
        mapping (flowEntries fuel true)
      | .sequenceStart, true, _ => do
        drop
        list (blockItems fuel)
      | .mappingStart, true, _ => do
        drop
        mapping (blockEntries fuel)
      | _, _, _ =>
        if name.isNone && tag.isNone then throw .malformed
        else finish (.ofText (scalarTag tag true []) [])

/-- A node unless one of some tokens comes instead. -/
def nodeUnless : Nat → Bool → Bool → List Token → Parse Node
  | 0, _, _, _ => throw .malformed
  | fuel + 1, block, indentless, ends => do
    if ← comes ends then return nothing else node fuel block indentless

def blockItems : Nat → Parse (List Node)
  | 0 => throw .malformed
  | fuel + 1 => do
    if ← dropIf .item then
      let n ← nodeUnless fuel true false [.item, .blockEnd]
      return n :: (← blockItems fuel)
    else if ← dropIf .blockEnd then return []
    else throw .malformed

/-- Items at the column of the key that they belong to. -/
def looseItems : Nat → Parse (List Node)
  | 0 => throw .malformed
  | fuel + 1 => do
    if ← dropIf .item then
      let n ← nodeUnless fuel true false [.item, .key, .value, .blockEnd]
      return n :: (← looseItems fuel)
    else return []

/-- The value behind a key, which ends at one of some tokens. -/
def valueUnless : Nat → Bool → List Token → Parse Node
  | 0, _, _ => throw .malformed
  | fuel + 1, block, ends => do
    if ← dropIf .value then nodeUnless fuel block block ends else return nothing

def blockEntries : Nat → Parse (List (Node × Node))
  | 0 => throw .malformed
  | fuel + 1 => do
    if ← dropIf .key then
      let ends := [.key, .value, .blockEnd]
      let k ← nodeUnless fuel true true ends
      let v ← valueUnless fuel true ends
      return (k, v) :: (← blockEntries fuel)
    else if ← dropIf .blockEnd then return []
    else throw .malformed

/-- The items of a list in brackets; a key with its value is a mapping with one entry. -/
def flowItems : Nat → Bool → Parse (List Node)
  | 0, _ => throw .malformed
  | fuel + 1, first => do
    if ← dropIf .listClose then return []
    if !first then expect .comma
    if ← dropIf .key then
      let k ← nodeUnless fuel false false [.value, .comma, .listClose]
      let v ← valueUnless fuel false [.comma, .listClose]
      return .ofEntries .mapping [(k, v)] :: (← flowItems fuel false)
    else if ← dropIf .listClose then return []
    else
      let n ← node fuel false false
      return n :: (← flowItems fuel false)

/-- The entries of a mapping in braces; a lone key has no value. -/
def flowEntries : Nat → Bool → Parse (List (Node × Node))
  | 0, _ => throw .malformed
  | fuel + 1, first => do
    if ← dropIf .tableClose then return []
    if !first then expect .comma
    if ← dropIf .key then
      let k ← nodeUnless fuel false false [.value, .comma, .tableClose]
      let v ← valueUnless fuel false [.comma, .tableClose]
      return (k, v) :: (← flowEntries fuel false)
    else if ← dropIf .tableClose then return []
    else
      let k ← node fuel false false
      return (k, nothing) :: (← flowEntries fuel false)
end

/-! ## Documents -/

def isDirective : Token → Bool
  | .version _ | .tagPrefix _ _ | .reserved => true
  | _ => false

/-- Reads directives: one version, which begins with one, and each handle once. -/
def directives : Nat → Bool → List (String × String) → Parse (List (String × String))
  | 0, _, _ => throw .malformed
  | fuel + 1, versioned, handles => do
    match ← peek with
    | .version major => do
      if versioned || major ≠ 1 then throw .malformed
      drop
      directives fuel true handles
    | .tagPrefix handle text => do
      if (handles.lookup handle).isSome then throw .malformed
      drop
      directives fuel versioned ((handle, text) :: handles)
    | .reserved => do
      drop
      directives fuel versioned handles
    | _ => return handles

def dropEnds : Nat → Parse Unit
  | 0 => pure ()
  | fuel + 1 => do if ← dropIf .documentEnd then dropEnds fuel

/-- The only document of a text; there may be none. -/
def document (fuel : Nat) : Parse (Option Node) := do
  let first ← peek
  if first = .streamEnd then return none
  let found ← if isDirective first || first = .documentStart then do
      let handles ← directives fuel false []
      modify fun s => { s with handles := handles ++ defaultHandles }
      expect .documentStart
      let next ← peek
      if isDirective next || [.documentStart, .documentEnd, .streamEnd].contains next then
        pure nothing
      else node fuel true false
    else do
      modify fun s => { s with handles := defaultHandles }
      node fuel true false
  dropEnds fuel
  if !(← comes [.streamEnd]) then throw .malformed
  return some found

end Parse

/-- A character that a document may hold. -/
def isAllowed (c : Char) : Bool :=
  let n := c.toNat
  n = 0x9 || n = 0xA || n = 0xD || (0x20 ≤ n && n ≤ 0x7E) || n = 0x85 || (0xA0 ≤ n && n ≤ 0xD7FF)
    || (0xE000 ≤ n && n ≤ 0xFFFD) || 0x10000 ≤ n

/-- The value of a text that holds one document, on a stack with room for some calls. -/
def parse (room : Nat) (text : List Char) : Except Fault Data := do
  if !text.all isAllowed then throw .malformed
  let ts := tokens text
  let (found, _) ← (Parse.document (3 * ts.length + 8)).run { tokens := ts, room }
  match found with
  | none => return .null
  | some n => match n.faults.first? with
    | some f => throw f
    | none => return n.data

end QueryLint.Yaml
