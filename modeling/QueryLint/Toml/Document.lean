import QueryLint.Toml.Value

/-! # TOML documents

A document is a list of statements, one on a line: a table header, the header of one more table of
an array, or a key with its value. A table may be opened by a header only once, tables made by
dotted keys may not be opened again, and inline tables and arrays take no additions.
-/

namespace QueryLint.Toml

structure State where
  entries : List DataEntry := []
  /-- The table that keys belong to. -/
  header : Key := []
  /-- Tables that may not be opened again. -/
  opened : List Key := []
  /-- Tables that count as opened once the next header comes. -/
  pending : List Key := []
  /-- Values that are closed to additions. -/
  frozen : List Key := []

namespace State

def settle (st : State) : State :=
  { st with opened := st.opened ++ st.pending, pending := [] }

def openTable (st : State) (k : Key) : Option State :=
  if st.opened.contains k || isFrozen st.frozen k then none
  else (updateAt true some k st.entries).map fun entries =>
    { st with entries, header := k, opened := k :: st.opened }

/-- Adds an empty table to an array, which is made if it is not there. -/
def appendTable (k : String) (es : List DataEntry) : Option (List DataEntry) :=
  match getEntry k es with
  | none => some (es ++ [⟨.text k, .list [.mapping []]⟩])
  | some (.list items) => some (setEntry k (.list (items ++ [.mapping []])) es)
  | some _ => none

def openItem (st : State) (k : Key) : Option State :=
  if isFrozen st.frozen k then none
  else
    let outside (l : Key) : Bool := !k.isPrefixOf l
    (updateAt true (appendTable (k.getLast?.getD "")) k.dropLast st.entries).map fun entries =>
      { st with
        entries
        header := k
        opened := k :: st.opened.filter outside
        frozen := st.frozen.filter outside }

def passed (header : Key) (k : Key) : List Key :=
  (List.range k.length).tail.map fun i => header ++ k.take i

def addPair (st : State) (k : Key) (v : Data) : Option State :=
  let tables := passed st.header k
  if tables.any st.opened.contains then none
  else if isFrozen st.frozen (st.header ++ k.dropLast) then none
  else
    (updateAt true (addNew (k.getLast?.getD "") v) (st.header ++ k.dropLast) st.entries).map
      fun entries =>
        { st with
          entries
          pending := st.pending ++ tables
          frozen := if isContainer v then (st.header ++ k) :: st.frozen else st.frozen }

end State

/-- What a line begins with. -/
def statement (room fuel : Nat) (st : State) : ReadValue State := fun s =>
  match s with
  | '[' :: '[' :: r =>
    match key fuel (skipSpaces r) with
    | some (k, ']' :: ']' :: rest) =>
      orMalformed ((st.settle.openItem k).map fun st => (st, rest))
    | _ => .error .malformed
  | '[' :: r =>
    match key fuel (skipSpaces r) with
    | some (k, ']' :: rest) => orMalformed ((st.settle.openTable k).map fun st => (st, rest))
    | _ => .error .malformed
  | '#' :: _ => .ok (st, s)
  | '\n' :: _ => .ok (st, s)
  | [] => .ok (st, [])
  | _ => do
    let ((k, v), rest) ← pair room fuel s
    orMalformed ((st.addPair k v).map fun st => (st, rest))

def statements (room fuel : Nat) : Nat → State → List Char → Except Fault State
  | 0, _, _ => .error .malformed
  | n + 1, st, s => do
    let (st, r) ← statement room fuel st (skipSpaces s)
    match skipComment (skipSpaces r) with
    | some [] => .ok st
    | some ('\n' :: rest) => statements room fuel n st rest
    | _ => .error .malformed

/-- Pairs of carriage return and line feed count as a line feed. -/
def joinBreaks : List Char → List Char
  | '\r' :: '\n' :: r => '\n' :: joinBreaks r
  | c :: r => c :: joinBreaks r
  | [] => []

/-- The contents of a document, read on a stack with room for some calls. -/
def parse (room : Nat) (text : String) : Except Fault (List DataEntry) :=
  let s := joinBreaks text.toList
  (statements room (2 * s.length + 8) (s.length + 1) {} s).map (·.entries)

end QueryLint.Toml
