import QueryLint.Document.Walk

/-! # Trees with gaps

A node as it is laid out has a kind and attributes, each of which holds a node, several nodes or
nothing. One table tells for every kind of node which attributes hold its children, and what is
missing is passed over, so the walk takes trees that were put together by hand with gaps anywhere.
It keeps the nodes that wait on a stack.
-/

namespace QueryLint

mutual
inductive SyntaxTree
  | node (kind : String) (attributes : List (String × Slot))

/-- What an attribute holds. -/
inductive Slot
  | missing
  | one (t : SyntaxTree)
  | many (items : List (Option SyntaxTree))
end

namespace Slot

def trees : Slot → List SyntaxTree
  | missing => []
  | one t => [t]
  | many items => items.filterMap id

def ofOption : Option SyntaxTree → Slot
  | none => missing
  | some t => one t

/-- Several nodes without a gap. -/
def all (ts : List SyntaxTree) : Slot :=
  many (ts.map some)

@[simp] theorem trees_one (t : SyntaxTree) : (one t).trees = [t] := rfl

@[simp] theorem trees_ofOption (o : Option SyntaxTree) : (ofOption o).trees = o.toList := by
  cases o <;> rfl

@[simp] theorem trees_all (ts : List SyntaxTree) : (all ts).trees = ts := by
  simp [all, trees]

theorem sizeOf_lt_of_mem_trees {s : Slot} {t : SyntaxTree} (h : t ∈ s.trees) :
    sizeOf t < sizeOf s := by
  cases s with
  | missing => cases h
  | one t' =>
    obtain rfl := List.mem_singleton.mp h
    rw [one.sizeOf_spec]
    omega
  | many items =>
    obtain ⟨o, ho, rfl⟩ := List.mem_filterMap.mp h
    have := List.sizeOf_lt_of_mem ho
    simp only [Option.some.sizeOf_spec, many.sizeOf_spec] at this ⊢
    omega

end Slot

/-- The attributes that hold the children of a node, for each kind that has any, in source order. -/
def childAttributes : List (String × List String) :=
  [("document", ["definitions"]),
   ("operation_definition", ["variable_definitions", "directives", "selection_set"]),
   ("variable_definition", ["default_value", "directives"]),
   ("selection_set", ["selections"]),
   ("field", ["arguments", "directives", "selection_set"]),
   ("argument", ["value"]),
   ("fragment_spread", ["directives"]),
   ("inline_fragment", ["directives", "selection_set"]),
   ("fragment_definition", ["directives", "selection_set"]),
   ("directive", ["arguments"]),
   ("list_value", ["values"]),
   ("object_value", ["fields"]),
   ("object_field", ["value"])]

/-! ## The stack of a walk -/

/-- A walk under way: the nodes that wait, the next one last, and those that were met. -/
structure Walker (α : Type) where
  waiting : List α
  met : List α := []

namespace Walker

variable {α : Type} {children walk : α → List α} {w : Walker α} {n : α}

/-- The next node is met, and its children wait in its place, the first of them last. Nothing
happens when no node waits. -/
def step (children : α → List α) (w : Walker α) : Walker α :=
  match w.waiting.getLast? with
  | none => w
  | some n => { waiting := w.waiting.dropLast ++ (children n).reverse, met := w.met ++ [n] }

/-- What will be met if the nodes that wait are walked one after the other. -/
def ahead (walk : α → List α) (w : Walker α) : List α :=
  w.waiting.reverse.flatMap walk

theorem step_eq (h : w.waiting.getLast? = some n) : w.step children
    = { waiting := w.waiting.dropLast ++ (children n).reverse, met := w.met ++ [n] } := by
  rw [step, h]

/-- A step meets the first of what is ahead and leaves the rest of it ahead. -/
theorem ahead_eq_cons (hwalk : ∀ n, walk n = n :: (children n).flatMap walk)
    (h : w.waiting.getLast? = some n) : w.ahead walk = n :: (w.step children).ahead walk := by
  obtain ⟨others, hw⟩ := List.getLast?_eq_some_iff.mp h
  have hstep : (w.step children).waiting.reverse = children n ++ others.reverse := by
    rw [step_eq h, hw, List.dropLast_concat, List.reverse_append, List.reverse_reverse]
  rw [ahead, hw, List.reverse_append, List.reverse_singleton, List.singleton_append,
    List.flatMap_cons, hwalk, ahead, hstep, List.flatMap_append, List.cons_append]

end Walker

namespace SyntaxTree

def kind : SyntaxTree → String
  | node k _ => k

/-- What the node holds under a name; a name that it does not have is missing. -/
def slot : SyntaxTree → String → Slot
  | node _ attributes, name => (attributes.lookup name).getD .missing

def children (t : SyntaxTree) : List SyntaxTree :=
  ((childAttributes.lookup t.kind).getD []).flatMap fun name => (t.slot name).trees

theorem sizeOf_lt_of_mem_children {t c : SyntaxTree} (h : c ∈ t.children) :
    sizeOf c < sizeOf t := by
  obtain ⟨name, -, hc⟩ := List.mem_flatMap.mp h
  obtain ⟨k, attributes⟩ := t
  rw [slot] at hc
  cases hs : attributes.lookup name with
  | none =>
    rw [hs] at hc
    cases hc
  | some s =>
    rw [hs] at hc
    obtain ⟨before, after, rfl, -⟩ := List.lookup_eq_some_iff.mp hs
    have hslot := Slot.sizeOf_lt_of_mem_trees hc
    have hentry := List.sizeOf_lt_of_mem
      (List.mem_append_right before (@List.mem_cons_self _ (name, s) after))
    simp only [Option.getD_some, Prod.mk.sizeOf_spec, node.sizeOf_spec] at hslot hentry ⊢
    omega

/-- A node, and then what stands under its children, child by child. -/
def preorder (t : SyntaxTree) : List SyntaxTree :=
  t :: t.children.attach.flatMap fun c => c.1.preorder
termination_by sizeOf t
decreasing_by exact sizeOf_lt_of_mem_children c.2

theorem preorder_eq (t : SyntaxTree) : t.preorder = t :: t.children.flatMap preorder := by
  rw [preorder]
  simp

/-- Goes on until no node waits. With every step there are fewer nodes ahead. -/
def run (w : Walker SyntaxTree) : Walker SyntaxTree :=
  match _h : w.waiting.getLast? with
  | none => w
  | some _ => run (w.step children)
termination_by (w.ahead preorder).length
decreasing_by
  rw [Walker.ahead_eq_cons preorder_eq _h, List.length_cons]
  exact Nat.lt_succ_self _

/-- All nodes under a node, itself first, if there is one. -/
def walk (root : Option SyntaxTree) : List SyntaxTree :=
  (run { waiting := root.toList }).met

def countKind (root : Option SyntaxTree) (kind : String) : Nat :=
  ((walk root).filter fun t => t.kind = kind).length

end SyntaxTree

/-! ## Documents as trees -/

/-- A name has no attribute that holds nodes. -/
def Name.tree (_ : Name) : SyntaxTree :=
  .node "name" []

def NamedType.tree (t : NamedType) : SyntaxTree :=
  .node "named_type" [("name", .one t.name.tree)]

def TypeRef.tree : TypeRef → SyntaxTree
  | named t => t.tree
  | list inner _ => .node "list_type" [("type", .one inner.tree)]
  | nonNull inner _ => .node "non_null_type" [("type", .one inner.tree)]

def Variable.tree (v : Variable) : SyntaxTree :=
  .node "variable" [("name", .one v.name.tree)]

mutual
def Value.tree : Value → SyntaxTree
  | .var v => v.tree
  | .int .. => .node "int_value" []
  | .float .. => .node "float_value" []
  | .string .. => .node "string_value" []
  | .boolean .. => .node "boolean_value" []
  | .null _ => .node "null_value" []
  | .enum .. => .node "enum_value" []
  | .list items _ => .node "list_value" [("values", .all (Value.itemTrees items))]
  | .object fields _ => .node "object_value" [("fields", .all (Value.fieldTrees fields))]

def Value.itemTrees : List Value → List SyntaxTree
  | [] => []
  | v :: vs => v.tree :: Value.itemTrees vs

def Value.fieldTrees : List ObjectField → List SyntaxTree
  | [] => []
  | f :: fs => f.tree :: Value.fieldTrees fs

def ObjectField.tree : ObjectField → SyntaxTree
  | ⟨name, value, _⟩ => .node "object_field" [("name", .one name.tree), ("value", .one value.tree)]
end

def Argument.tree (a : Argument) : SyntaxTree :=
  .node "argument" [("name", .one a.name.tree), ("value", .one a.value.tree)]

def Directive.tree (d : Directive) : SyntaxTree :=
  .node "directive"
    [("name", .one d.name.tree), ("arguments", .all (d.arguments.map Argument.tree))]

def VariableDefinition.tree (v : VariableDefinition) : SyntaxTree :=
  .node "variable_definition"
    [("variable", .one v.ref.tree), ("type", .one v.type.tree),
     ("default_value", .ofOption (v.defaultValue.map Value.tree)),
     ("directives", .all (v.directives.map Directive.tree))]

def Spread.tree (s : Spread) : SyntaxTree :=
  .node "fragment_spread"
    [("name", .one s.name.tree), ("directives", .all (s.directives.map Directive.tree))]

mutual
def Field.tree : Field → SyntaxTree
  | ⟨aliasName, name, arguments, directives, body, _⟩ =>
    .node "field"
      [("alias", .ofOption (aliasName.map Name.tree)), ("name", .one name.tree),
       ("arguments", .all (arguments.map Argument.tree)),
       ("directives", .all (directives.map Directive.tree)),
       ("selection_set", Field.bodySlot body)]

def Field.bodySlot : Option SelectionSet → Slot
  | none => .missing
  | some body => .one body.tree

def InlineFragment.tree : InlineFragment → SyntaxTree
  | ⟨condition, directives, body, _⟩ =>
    .node "inline_fragment"
      [("type_condition", .ofOption (condition.map NamedType.tree)),
       ("directives", .all (directives.map Directive.tree)), ("selection_set", .one body.tree)]

def Selection.tree : Selection → SyntaxTree
  | .field f => f.tree
  | .spread s => s.tree
  | .inlineFragment i => i.tree

def SelectionSet.tree : SelectionSet → SyntaxTree
  | ⟨selections, _⟩ =>
    .node "selection_set" [("selections", .all (SelectionSet.selectionTrees selections))]

def SelectionSet.selectionTrees : List Selection → List SyntaxTree
  | [] => []
  | s :: ss => s.tree :: SelectionSet.selectionTrees ss
end

def Operation.tree (o : Operation) : SyntaxTree :=
  .node "operation_definition"
    [("name", .ofOption (o.name.map Name.tree)),
     ("variable_definitions", .all (o.declarations.map VariableDefinition.tree)),
     ("directives", .all (o.directives.map Directive.tree)),
     ("selection_set", .ofOption (o.selectionSet.map SelectionSet.tree))]

def Fragment.tree (f : Fragment) : SyntaxTree :=
  .node "fragment_definition"
    [("name", .one f.name.tree), ("type_condition", .one f.condition.tree),
     ("directives", .all (f.directives.map Directive.tree)),
     ("selection_set", .one f.selectionSet.tree)]

/-- What a definition of the type system is made of is left out. -/
def TypeSystemDefinition.tree (t : TypeSystemDefinition) : SyntaxTree :=
  .node t.kind []

def Definition.tree : Definition → SyntaxTree
  | operation o => o.tree
  | fragment f => f.tree
  | typeSystem t => t.tree

def Node.tree : Node → SyntaxTree
  | document ds _ => .node "document" [("definitions", .all (ds.map Definition.tree))]
  | operation o => o.tree
  | fragment f => f.tree
  | typeSystem t => t.tree
  | variableDefinition v => v.tree
  | selectionSet s => s.tree
  | field f => f.tree
  | spread s => s.tree
  | inlineFragment i => i.tree
  | argument a => a.tree
  | directive d => d.tree
  | value v => v.tree
  | objectField f => f.tree

end QueryLint
