import QueryLint.Document.Depth

/-! # Depth on a bounded stack

Depth is computed by a function that calls itself for what is selected under a field, whether there
is anything or not, for a fragment in place and for the body of a fragment that is entered. A stack
has room for so many calls, one inside the other, and the computation breaks off where another one
is wanted.
-/

namespace QueryLint

/-- What is said when the stack has no room for another call. -/
def stackExhausted : String :=
  "maximum recursion depth exceeded"

/-- The depth of what is selected, if something is, on a stack with room for some calls. -/
def bodyDepthWithin : (room : Nat) → Table Fragment → Option SelectionSet → Except String Nat
  | 0, _, _ => .error stackExhausted
  | _ + 1, _, none => .ok 0
  | room + 1, available, some s => do
    let depths ← s.selections.mapM fun
      | .field f => (bodyDepthWithin room available f.selectionSet).map (1 + ·)
      | .inlineFragment i => bodyDepthWithin room available (some i.selectionSet)
      | .spread x =>
        match available.get? x.name.value with
        | some f => bodyDepthWithin room (available.erase x.name.value) (some f.selectionSet)
        | none => .ok 0
    return depths.max?.getD 0

namespace Document

/-- What the operations select or, in a document without any, the fragments. -/
def depthBodies (d : Document) : List (Option SelectionSet) :=
  if d.operations.isEmpty then d.fragmentTable.values.map fun f => some f.selectionSet
  else d.operations.map (·.selectionSet)

/-- The bodies are gone through in a call of its own. -/
def maxDepthWithin (room : Nat) (d : Document) : Except String Nat :=
  match room with
  | 0 => .error stackExhausted
  | room + 1 => do
    let depths ← d.depthBodies.mapM (bodyDepthWithin room d.fragmentTable)
    return depths.max?.getD 0

def fieldDepthWithin (room : Nat) (d : Document) (f : Field) : Except String Nat :=
  (bodyDepthWithin room d.fragmentTable f.selectionSet).map (1 + ·)

end Document

end QueryLint
