import QueryLint.Document.Walk
import QueryLint.Table

/-! # Depth

The depth of a selection set is the largest number of fields on a way down from it. Fragments in
place add nothing; a spread goes on in the body of its fragment, unless the fragment is undefined or
already entered on this way. The fragments that may still be entered are carried along: entering one
takes it out, so every way ends.
-/

namespace QueryLint

/-- The fragments of a document by name; of two with one name the later counts. -/
def Document.fragmentTable (d : Document) : Table Fragment :=
  Table.ofList (d.fragments.map fun f => (f.name.value, f))

mutual
def selectionSetDepth (available : Table Fragment) : SelectionSet → Nat
  | ⟨items, _⟩ => selectionsDepth available items
termination_by s => (available.size, sizeOf s)

def selectionsDepth (available : Table Fragment) : List Selection → Nat
  | [] => 0
  | s :: rest => max (selectionDepth available s) (selectionsDepth available rest)
termination_by ss => (available.size, sizeOf ss)

def selectionDepth (available : Table Fragment) : Selection → Nat
  | .field ⟨_, _, _, _, some body, _⟩ => 1 + selectionSetDepth available body
  | .field ⟨_, _, _, _, none, _⟩ => 1
  | .inlineFragment ⟨_, _, body, _⟩ => selectionSetDepth available body
  | .spread s =>
    match _h : available.get? s.name.value with
    | some f => selectionSetDepth (available.erase s.name.value) f.selectionSet
    | none => 0
termination_by s => (available.size, sizeOf s)
decreasing_by
  · simp_wf; right; omega
  · simp_wf; right; omega
  · left; exact Table.size_erase_lt _h
end

namespace Document

/-- The depth of what is selected under a field, with the field itself. -/
def fieldDepth (d : Document) (f : Field) : Nat :=
  1 + match f.selectionSet with
    | some s => selectionSetDepth d.fragmentTable s
    | none => 0

/-- The selection sets that depth is measured from: those of the operations or, in a document
without any, of the fragments. -/
def depthRoots (d : Document) : List SelectionSet :=
  if d.operations.isEmpty then d.fragmentTable.values.map (·.selectionSet)
  else d.operations.filterMap (·.selectionSet)

def maxDepth (d : Document) : Nat :=
  ((d.depthRoots.map (selectionSetDepth d.fragmentTable)).max?).getD 0

/-- The largest number of selections in one set. -/
def maxBreadth (d : Document) : Nat :=
  ((d.selectionSets.map fun s => s.selections.length).max?).getD 0

def fieldCount (d : Document) : Nat :=
  d.root.fieldCount

/-- Whether a field asks about the schema itself. -/
def hasIntrospection (d : Document) : Bool :=
  d.fields.any Field.isIntrospection

end Document

end QueryLint
