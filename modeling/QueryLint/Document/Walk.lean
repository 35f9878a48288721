import QueryLint.Document.Node

/-! # Walking a document

The walk keeps the nodes still to be visited on a stack. It ends because the children of a node are
together smaller than the node.
-/

namespace QueryLint

namespace Node

/-- The sizes of some nodes together. -/
noncomputable def weight : List Node → Nat
  | [] => 0
  | n :: r => sizeOf n + weight r

@[simp] theorem weight_nil : weight [] = 0 := rfl

@[simp] theorem weight_cons (n : Node) (r : List Node) : weight (n :: r) = sizeOf n + weight r :=
  rfl

@[simp] theorem weight_append (a b : List Node) : weight (a ++ b) = weight a + weight b := by
  induction a with
  | nil => simp
  | cons n a ih => simp [ih, Nat.add_assoc]

theorem weight_map_lt {α : Type} [SizeOf α] (f : α → Node)
    (hf : ∀ a, sizeOf (f a) ≤ 1 + sizeOf a) (l : List α) : weight (l.map f) < sizeOf l := by
  induction l with
  | nil => simp
  | cons a l ih =>
    have := hf a
    simp only [List.map_cons, weight_cons, List.cons.sizeOf_spec]
    omega

theorem weight_toList_le {α : Type} [SizeOf α] (f : α → Node)
    (hf : ∀ a, sizeOf (f a) ≤ 1 + sizeOf a) (o : Option α) :
    weight (o.toList.map f) ≤ sizeOf o := by
  cases o with
  | none => simp
  | some a => simpa using hf a

theorem sizeOf_ofDefinition (d : Definition) : sizeOf (ofDefinition d) ≤ 1 + sizeOf d := by
  cases d <;> simp [ofDefinition]

theorem sizeOf_ofSelection (s : Selection) : sizeOf (ofSelection s) ≤ 1 + sizeOf s := by
  cases s <;> simp [ofSelection]

theorem weight_children_lt (n : Node) : weight n.children < sizeOf n := by
  cases n with
  | document ds s =>
    have := weight_map_lt ofDefinition sizeOf_ofDefinition ds
    simp only [children, document.sizeOf_spec]; omega
  | operation o =>
    obtain ⟨k, n, vs, ds, b, s⟩ := o
    have h1 := weight_map_lt variableDefinition (fun _ => by simp) vs
    have h2 := weight_map_lt directive (fun _ => by simp) ds
    have h3 := weight_toList_le selectionSet (fun _ => by simp) b
    simp only [children, operation.sizeOf_spec, Operation.mk.sizeOf_spec, weight_append]
    omega
  | fragment f =>
    obtain ⟨n, c, ds, b, s⟩ := f
    have := weight_map_lt directive (fun _ => by simp) ds
    simp only [children, fragment.sizeOf_spec, Fragment.mk.sizeOf_spec, weight_append, weight_cons,
      weight_nil, selectionSet.sizeOf_spec]
    omega
  | typeSystem t =>
    simp only [children, weight_nil, typeSystem.sizeOf_spec]
    omega
  | variableDefinition v =>
    obtain ⟨r, t, d, ds, s⟩ := v
    have h1 := weight_toList_le value (fun _ => by simp) d
    have h2 := weight_map_lt directive (fun _ => by simp) ds
    simp only [children, variableDefinition.sizeOf_spec, VariableDefinition.mk.sizeOf_spec,
      weight_append]
    omega
  | selectionSet s =>
    obtain ⟨ss, s⟩ := s
    have := weight_map_lt ofSelection sizeOf_ofSelection ss
    simp only [children, selectionSet.sizeOf_spec, SelectionSet.mk.sizeOf_spec]
    omega
  | field f =>
    obtain ⟨al, n, as, ds, b, s⟩ := f
    have h1 := weight_map_lt argument (fun _ => by simp) as
    have h2 := weight_map_lt directive (fun _ => by simp) ds
    have h3 := weight_toList_le selectionSet (fun _ => by simp) b
    simp only [children, field.sizeOf_spec, Field.mk.sizeOf_spec, weight_append]
    omega
  | spread s =>
    obtain ⟨n, ds, s⟩ := s
    have := weight_map_lt directive (fun _ => by simp) ds
    simp only [children, spread.sizeOf_spec, Spread.mk.sizeOf_spec]
    omega
  | inlineFragment i =>
    obtain ⟨c, ds, b, s⟩ := i
    have := weight_map_lt directive (fun _ => by simp) ds
    simp only [children, inlineFragment.sizeOf_spec, InlineFragment.mk.sizeOf_spec, weight_append,
      weight_cons, weight_nil, selectionSet.sizeOf_spec]
    omega
  | argument a =>
    obtain ⟨n, v, s⟩ := a
    simp only [children, argument.sizeOf_spec, Argument.mk.sizeOf_spec, weight_cons,
      weight_nil, value.sizeOf_spec]
    have : 0 < sizeOf n := by rw [Name.mk.sizeOf_spec]; omega
    omega
  | directive d =>
    obtain ⟨n, as, s⟩ := d
    have := weight_map_lt argument (fun _ => by simp) as
    simp only [children, directive.sizeOf_spec, Directive.mk.sizeOf_spec]
    omega
  | value v =>
    cases v with
    | list items s =>
      have := weight_map_lt value (fun _ => by simp) items
      simp only [children, value.sizeOf_spec, Value.list.sizeOf_spec]
      omega
    | object fields s =>
      have := weight_map_lt objectField (fun _ => by simp) fields
      simp only [children, value.sizeOf_spec, Value.object.sizeOf_spec]
      omega
    | _ =>
      simp only [children, weight_nil, value.sizeOf_spec]
      omega
  | objectField f =>
    obtain ⟨n, v, s⟩ := f
    simp only [children, objectField.sizeOf_spec, ObjectField.mk.sizeOf_spec, weight_cons,
      weight_nil, value.sizeOf_spec]
    have : 0 < sizeOf n := by rw [Name.mk.sizeOf_spec]; omega
    omega

/-- Visits the top of the stack and puts its children in its place. -/
def walkStack : List Node → List Node
  | [] => []
  | n :: rest => n :: walkStack (n.children ++ rest)
termination_by stack => weight stack
decreasing_by
  have := weight_children_lt n
  simp only [weight_append, weight_cons]
  omega

/-- All nodes under a node, itself first, in source order. -/
def walk (root : Node) : List Node :=
  walkStack [root]

def field? : Node → Option Field
  | field f => some f
  | _ => none

def argument? : Node → Option Argument
  | argument a => some a
  | _ => none

def directive? : Node → Option Directive
  | directive d => some d
  | _ => none

def spread? : Node → Option Spread
  | spread s => some s
  | _ => none

def selectionSet? : Node → Option SelectionSet
  | selectionSet s => some s
  | _ => none

def variableDefinition? : Node → Option VariableDefinition
  | variableDefinition v => some v
  | _ => none

def reference? : Node → Option Variable
  | value (.var v) => some v
  | _ => none

def isInlineFragment : Node → Bool
  | inlineFragment _ => true
  | _ => false

/-- The fields under a node; spreads are not followed. -/
def fields (root : Node) : List Field :=
  root.walk.filterMap field?

def fieldCount (root : Node) : Nat :=
  root.fields.length

end Node

namespace Document

/-- The shape of a document under lint in messages. -/
def describe (d : Document) : String :=
  "LintContext(definitions=" ++ toString d.definitions.length ++ ")"

def root (d : Document) : Node :=
  .document d.definitions d.span

def nodes (d : Document) : List Node :=
  d.root.walk

def fields (d : Document) : List Field :=
  d.root.fields

def arguments (d : Document) : List Argument :=
  d.nodes.filterMap Node.argument?

def directives (d : Document) : List Directive :=
  d.nodes.filterMap Node.directive?

def spreads (d : Document) : List Spread :=
  d.nodes.filterMap Node.spread?

def selectionSets (d : Document) : List SelectionSet :=
  d.nodes.filterMap Node.selectionSet?

def variableDefinitions (d : Document) : List VariableDefinition :=
  d.nodes.filterMap Node.variableDefinition?

/-- The uses of variables; the names that definitions declare are not among them. -/
def references (d : Document) : List Variable :=
  d.nodes.filterMap Node.reference?

end Document

end QueryLint
