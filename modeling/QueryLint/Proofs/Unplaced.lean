import QueryLint.Proofs.Descent
import QueryLint.Proofs.Overrides

/-! # Documents without places

Taking the spans out of a tree leaves what was written and forgets where. The walk over a document,
the fragments an operation reaches and the depth of selections do not look at spans: each of them
gives for the bare tree what it gives for the tree with its spans, bare.
-/

namespace QueryLint

/-! ## Trees -/

def Name.unplaced (n : Name) : Name := ⟨n.value, none⟩

def Variable.unplaced (v : Variable) : Variable := ⟨v.name.unplaced, none⟩

mutual
/-- A value without the spans of its parts. -/
def Value.unplaced : Value → Value
  | .var v => .var v.unplaced
  | .int digits _ => .int digits none
  | .float digits _ => .float digits none
  | .string content block _ => .string content block none
  | .boolean b _ => .boolean b none
  | .null _ => .null none
  | .enum name _ => .enum name none
  | .list items _ => .list (unplacedItems items) none
  | .object fields _ => .object (unplacedFields fields) none

def Value.unplacedItems : List Value → List Value
  | [] => []
  | v :: vs => v.unplaced :: unplacedItems vs

def Value.unplacedFields : List ObjectField → List ObjectField
  | [] => []
  | ⟨n, v, _⟩ :: fs => ⟨n.unplaced, v.unplaced, none⟩ :: unplacedFields fs
end

def ObjectField.unplaced (f : ObjectField) : ObjectField :=
  ⟨f.name.unplaced, f.value.unplaced, none⟩

def Argument.unplaced (a : Argument) : Argument := ⟨a.name.unplaced, a.value.unplaced, none⟩

def Directive.unplaced (d : Directive) : Directive :=
  ⟨d.name.unplaced, d.arguments.map Argument.unplaced, none⟩

def NamedType.unplaced (t : NamedType) : NamedType := ⟨t.name.unplaced, none⟩

def TypeRef.unplaced : TypeRef → TypeRef
  | .named t => .named t.unplaced
  | .list inner _ => .list inner.unplaced none
  | .nonNull inner _ => .nonNull inner.unplaced none

def VariableDefinition.unplaced (v : VariableDefinition) : VariableDefinition :=
  ⟨v.ref.unplaced, v.type.unplaced, v.defaultValue.map Value.unplaced,
    v.directives.map Directive.unplaced, none⟩

def Spread.unplaced (s : Spread) : Spread :=
  ⟨s.name.unplaced, s.directives.map Directive.unplaced, none⟩

mutual
def Field.unplaced : Field → Field
  | ⟨aliasName, name, arguments, directives, some body, _⟩ =>
    ⟨aliasName.map Name.unplaced, name.unplaced, arguments.map Argument.unplaced,
      directives.map Directive.unplaced, some body.unplaced, none⟩
  | ⟨aliasName, name, arguments, directives, none, _⟩ =>
    ⟨aliasName.map Name.unplaced, name.unplaced, arguments.map Argument.unplaced,
      directives.map Directive.unplaced, none, none⟩

def InlineFragment.unplaced : InlineFragment → InlineFragment
  | ⟨condition, directives, body, _⟩ =>
    ⟨condition.map NamedType.unplaced, directives.map Directive.unplaced, body.unplaced, none⟩

def Selection.unplaced : Selection → Selection
  | .field f => .field f.unplaced
  | .spread s => .spread s.unplaced
  | .inlineFragment i => .inlineFragment i.unplaced

def SelectionSet.unplaced : SelectionSet → SelectionSet
  | ⟨selections, _⟩ => ⟨SelectionSet.unplacedItems selections, none⟩

def SelectionSet.unplacedItems : List Selection → List Selection
  | [] => []
  | s :: ss => s.unplaced :: SelectionSet.unplacedItems ss
end

def Operation.unplaced (o : Operation) : Operation :=
  ⟨o.kind, o.name.map Name.unplaced, o.declarations.map VariableDefinition.unplaced,
    o.directives.map Directive.unplaced, o.selectionSet.map SelectionSet.unplaced, none⟩

def Fragment.unplaced (f : Fragment) : Fragment :=
  ⟨f.name.unplaced, f.condition.unplaced, f.directives.map Directive.unplaced,
    f.selectionSet.unplaced, none⟩

def Description.unplaced (d : Description) : Description := { d with span := none }

def RootType.unplaced (r : RootType) : RootType := ⟨r.kind, r.type.unplaced, none⟩

def InputValueDefinition.unplaced (v : InputValueDefinition) : InputValueDefinition :=
  ⟨v.description.map Description.unplaced, v.name.unplaced, v.type.unplaced,
    v.defaultValue.map Value.unplaced, v.directives.map Directive.unplaced, none⟩

def FieldDefinition.unplaced (f : FieldDefinition) : FieldDefinition :=
  ⟨f.description.map Description.unplaced, f.name.unplaced,
    f.arguments.map InputValueDefinition.unplaced, f.type.unplaced,
    f.directives.map Directive.unplaced, none⟩

def EnumValueDefinition.unplaced (v : EnumValueDefinition) : EnumValueDefinition :=
  ⟨v.description.map Description.unplaced, v.name.unplaced, v.directives.map Directive.unplaced,
    none⟩

def TypeSystemBody.unplaced : TypeSystemBody → TypeSystemBody
  | .schema ds roots => .schema (ds.map Directive.unplaced) (roots.map RootType.unplaced)
  | .scalar n ds => .scalar n.unplaced (ds.map Directive.unplaced)
  | .object n is ds fs => .object n.unplaced (is.map NamedType.unplaced)
      (ds.map Directive.unplaced) (fs.map FieldDefinition.unplaced)
  | .interface n is ds fs => .interface n.unplaced (is.map NamedType.unplaced)
      (ds.map Directive.unplaced) (fs.map FieldDefinition.unplaced)
  | .union n ds ts => .union n.unplaced (ds.map Directive.unplaced) (ts.map NamedType.unplaced)
  | .enum n ds vs => .enum n.unplaced (ds.map Directive.unplaced)
      (vs.map EnumValueDefinition.unplaced)
  | .input n ds fs => .input n.unplaced (ds.map Directive.unplaced)
      (fs.map InputValueDefinition.unplaced)
  | .directive n as repeatable places =>
    .directive n.unplaced (as.map InputValueDefinition.unplaced) repeatable
      (places.map Name.unplaced)

def TypeSystemDefinition.unplaced (t : TypeSystemDefinition) : TypeSystemDefinition :=
  ⟨t.description.map Description.unplaced, t.isExtension, t.body.unplaced, none⟩

def Definition.unplaced : Definition → Definition
  | .operation o => .operation o.unplaced
  | .fragment f => .fragment f.unplaced
  | .typeSystem t => .typeSystem t.unplaced

/-- The tree of a document without the spans of its nodes and the text they point into. -/
def Document.unplaced (d : Document) : Document :=
  { definitions := d.definitions.map Definition.unplaced }

def Node.unplaced : Node → Node
  | .document ds _ => .document (ds.map Definition.unplaced) none
  | .operation o => .operation o.unplaced
  | .fragment f => .fragment f.unplaced
  | .typeSystem t => .typeSystem t.unplaced
  | .variableDefinition v => .variableDefinition v.unplaced
  | .selectionSet s => .selectionSet s.unplaced
  | .field f => .field f.unplaced
  | .spread s => .spread s.unplaced
  | .inlineFragment i => .inlineFragment i.unplaced
  | .argument a => .argument a.unplaced
  | .directive d => .directive d.unplaced
  | .value v => .value v.unplaced
  | .objectField f => .objectField f.unplaced

/-! ## What is left -/

@[simp] theorem Name.value_unplaced (n : Name) : n.unplaced.value = n.value := by
  rw [unplaced]

@[simp] theorem Variable.name_unplaced (v : Variable) : v.unplaced.name = v.name.unplaced := rfl

theorem Value.unplacedItems_eq_map (vs : List Value) : unplacedItems vs = vs.map unplaced := by
  induction vs with
  | nil => rfl
  | cons v vs ih => rw [unplacedItems, ih, List.map_cons]

theorem Value.unplacedFields_eq_map (fs : List ObjectField) :
    unplacedFields fs = fs.map ObjectField.unplaced := by
  induction fs with
  | nil => rfl
  | cons f fs ih =>
    obtain ⟨name, value, span⟩ := f
    rw [unplacedFields, ih]
    rfl

theorem SelectionSet.unplacedItems_eq_map (ss : List Selection) :
    unplacedItems ss = ss.map Selection.unplaced := by
  induction ss with
  | nil => rfl
  | cons s ss ih => rw [unplacedItems, ih, List.map_cons]

@[simp] theorem Argument.name_unplaced (a : Argument) : a.unplaced.name = a.name.unplaced := rfl

@[simp] theorem Argument.value_unplaced (a : Argument) : a.unplaced.value = a.value.unplaced := rfl

@[simp] theorem Directive.name_unplaced (d : Directive) : d.unplaced.name = d.name.unplaced := rfl

@[simp] theorem Directive.arguments_unplaced (d : Directive) :
    d.unplaced.arguments = d.arguments.map Argument.unplaced := rfl

@[simp] theorem VariableDefinition.ref_unplaced (v : VariableDefinition) :
    v.unplaced.ref = v.ref.unplaced := rfl

@[simp] theorem Spread.name_unplaced (s : Spread) : s.unplaced.name = s.name.unplaced := rfl

theorem Field.unplaced_eq (f : Field) : f.unplaced =
    ⟨f.aliasName.map Name.unplaced, f.name.unplaced, f.arguments.map Argument.unplaced,
      f.directives.map Directive.unplaced, f.selectionSet.map SelectionSet.unplaced, none⟩ := by
  obtain ⟨aliasName, name, arguments, directives, selectionSet, span⟩ := f
  cases selectionSet <;> rw [Field.unplaced] <;> rfl

namespace Field

@[simp] theorem aliasName_unplaced (f : Field) :
    f.unplaced.aliasName = f.aliasName.map Name.unplaced := by rw [unplaced_eq]

@[simp] theorem name_unplaced (f : Field) : f.unplaced.name = f.name.unplaced := by
  rw [unplaced_eq]

@[simp] theorem arguments_unplaced (f : Field) :
    f.unplaced.arguments = f.arguments.map Argument.unplaced := by rw [unplaced_eq]

@[simp] theorem directives_unplaced (f : Field) :
    f.unplaced.directives = f.directives.map Directive.unplaced := by rw [unplaced_eq]

@[simp] theorem selectionSet_unplaced (f : Field) :
    f.unplaced.selectionSet = f.selectionSet.map SelectionSet.unplaced := by rw [unplaced_eq]

@[simp] theorem isIntrospection_unplaced (f : Field) :
    f.unplaced.isIntrospection = f.isIntrospection := by simp [isIntrospection]

@[simp] theorem responseKey_unplaced (f : Field) : f.unplaced.responseKey = f.responseKey := by
  unfold responseKey
  rw [aliasName_unplaced, name_unplaced]
  cases f.aliasName <;> rfl

end Field

namespace InlineFragment

theorem unplaced_eq (i : InlineFragment) : i.unplaced =
    ⟨i.condition.map NamedType.unplaced, i.directives.map Directive.unplaced,
      i.selectionSet.unplaced, none⟩ := by
  obtain ⟨condition, directives, selectionSet, span⟩ := i
  rw [InlineFragment.unplaced]

@[simp] theorem selectionSet_unplaced (i : InlineFragment) :
    i.unplaced.selectionSet = i.selectionSet.unplaced := by rw [unplaced_eq]

end InlineFragment

@[simp] theorem Selection.unplaced_field (f : Field) :
    (field f).unplaced = field f.unplaced := by rw [Selection.unplaced]

@[simp] theorem Selection.unplaced_spread (s : Spread) :
    (spread s).unplaced = spread s.unplaced := by rw [Selection.unplaced]

@[simp] theorem Selection.unplaced_inlineFragment (i : InlineFragment) :
    (inlineFragment i).unplaced = inlineFragment i.unplaced := by rw [Selection.unplaced]

@[simp] theorem Selection.field?_unplaced (s : Selection) :
    s.unplaced.field? = s.field?.map Field.unplaced := by
  cases s <;> simp [field?]

@[simp] theorem Selection.isSpread_unplaced (s : Selection) : s.unplaced.isSpread = s.isSpread := by
  cases s <;> simp [isSpread]

namespace SelectionSet

theorem unplaced_eq (s : SelectionSet) :
    s.unplaced = ⟨s.selections.map Selection.unplaced, none⟩ := by
  obtain ⟨selections, span⟩ := s
  rw [SelectionSet.unplaced, unplacedItems_eq_map]

@[simp] theorem selections_unplaced (s : SelectionSet) :
    s.unplaced.selections = s.selections.map Selection.unplaced := by rw [unplaced_eq]

@[simp] theorem fields_unplaced (s : SelectionSet) :
    s.unplaced.fields = s.fields.map Field.unplaced := by
  simp only [fields, selections_unplaced, List.filterMap_map, List.map_filterMap]
  exact List.filterMap_congr fun x _ => x.field?_unplaced

end SelectionSet

@[simp] theorem Fragment.name_unplaced (f : Fragment) : f.unplaced.name = f.name.unplaced := rfl

@[simp] theorem Fragment.selectionSet_unplaced (f : Fragment) :
    f.unplaced.selectionSet = f.selectionSet.unplaced := rfl

@[simp] theorem Operation.kind_unplaced (o : Operation) : o.unplaced.kind = o.kind := by
  rw [unplaced]

@[simp] theorem Operation.name_unplaced (o : Operation) :
    o.unplaced.name = o.name.map Name.unplaced := rfl

@[simp] theorem Operation.declarations_unplaced (o : Operation) :
    o.unplaced.declarations = o.declarations.map VariableDefinition.unplaced := rfl

@[simp] theorem Operation.selectionSet_unplaced (o : Operation) :
    o.unplaced.selectionSet = o.selectionSet.map SelectionSet.unplaced := rfl

/-! ## The walk -/

namespace Node

theorem unplaced_ofDefinition (d : Definition) :
    ofDefinition d.unplaced = (ofDefinition d).unplaced := by
  cases d <;> rfl

theorem unplaced_ofSelection (s : Selection) :
    ofSelection s.unplaced = (ofSelection s).unplaced := by
  cases s <;> simp [ofSelection, unplaced]

theorem kind_unplaced (n : Node) : n.unplaced.kind = n.kind := by
  cases n with
  | typeSystem t =>
    obtain ⟨description, isExtension, body, span⟩ := t
    cases body <;> rfl
  | value v => cases v <;> simp [unplaced, kind, Value.unplaced, Value.kind]
  | _ => rfl

theorem name_unplaced (n : Node) : n.unplaced.name = n.name := by
  cases n with
  | operation o => simp [unplaced, name, Function.comp_def]
  | typeSystem t =>
    obtain ⟨description, isExtension, body, span⟩ := t
    cases body <;> rfl
  | field f => cases h : f.aliasName <;> simp [unplaced, name, h]
  | value v => cases v <;> simp [unplaced, name, Value.unplaced]
  | _ => rfl

/-- A node is called the same in reports, wherever it was read. -/
@[simp] theorem describe_unplaced (n : Node) : n.unplaced.describe = n.describe := by
  rw [describe, describe, kind_unplaced, name_unplaced]

theorem children_unplaced (n : Node) : n.unplaced.children = n.children.map unplaced := by
  cases n with
  | document ds s =>
    simp only [unplaced, children, List.map_map]
    exact List.map_congr_left fun d _ => unplaced_ofDefinition d
  | operation o =>
    obtain ⟨kind, name, declarations, directives, selectionSet, span⟩ := o
    cases selectionSet <;> simp [unplaced, children, Operation.unplaced, Function.comp_def]
  | fragment f => simp [unplaced, children, Fragment.unplaced, Function.comp_def]
  | typeSystem t => rfl
  | variableDefinition v =>
    obtain ⟨ref, type, defaultValue, directives, span⟩ := v
    cases defaultValue <;> simp [unplaced, children, VariableDefinition.unplaced, Function.comp_def]
  | selectionSet s =>
    simp only [unplaced, children, SelectionSet.selections_unplaced, List.map_map]
    exact List.map_congr_left fun x _ => unplaced_ofSelection x
  | field f =>
    cases h : f.selectionSet <;> simp [unplaced, children, h, Function.comp_def]
  | spread s => simp [unplaced, children, Spread.unplaced, Function.comp_def]
  | inlineFragment i =>
    simp [unplaced, children, InlineFragment.unplaced_eq, Function.comp_def]
  | argument a => rfl
  | directive d => simp [unplaced, children, Function.comp_def]
  | value v =>
    cases v with
    | list items s =>
      simp [unplaced, children, Value.unplaced, Value.unplacedItems_eq_map, Function.comp_def]
    | object fields s =>
      simp [unplaced, children, Value.unplaced, Value.unplacedFields_eq_map, Function.comp_def]
    | _ => rfl
  | objectField f => rfl

theorem walkStack_unplaced (stack : List Node) :
    walkStack (stack.map unplaced) = (walkStack stack).map unplaced := by
  fun_induction walkStack stack with
  | case1 => rw [List.map_nil, walkStack]
  | case2 n rest ih =>
    rw [List.map_append] at ih
    rw [List.map_cons, walkStack, children_unplaced, ih, List.map_cons]

theorem walk_unplaced (n : Node) : n.unplaced.walk = n.walk.map unplaced :=
  walkStack_unplaced [n]

theorem filterMap_unplaced {α : Type} {view : Node → Option α} {bare : α → α}
    (h : ∀ n : Node, view n.unplaced = (view n).map bare) (nodes : List Node) :
    (nodes.map unplaced).filterMap view = (nodes.filterMap view).map bare := by
  rw [List.filterMap_map, List.map_filterMap]
  exact List.filterMap_congr fun n _ => h n

theorem field?_unplaced (n : Node) : n.unplaced.field? = n.field?.map Field.unplaced := by
  cases n <;> rfl

theorem argument?_unplaced (n : Node) :
    n.unplaced.argument? = n.argument?.map Argument.unplaced := by
  cases n <;> rfl

theorem directive?_unplaced (n : Node) :
    n.unplaced.directive? = n.directive?.map Directive.unplaced := by
  cases n <;> rfl

theorem spread?_unplaced (n : Node) : n.unplaced.spread? = n.spread?.map Spread.unplaced := by
  cases n <;> rfl

theorem selectionSet?_unplaced (n : Node) :
    n.unplaced.selectionSet? = n.selectionSet?.map SelectionSet.unplaced := by
  cases n <;> rfl

theorem reference?_unplaced (n : Node) :
    n.unplaced.reference? = n.reference?.map Variable.unplaced := by
  cases n with
  | value v => cases v <;> rfl
  | _ => rfl

theorem fields_unplaced (n : Node) : n.unplaced.fields = n.fields.map Field.unplaced := by
  rw [fields, walk_unplaced, filterMap_unplaced field?_unplaced, fields]

theorem fieldCount_unplaced (n : Node) : n.unplaced.fieldCount = n.fieldCount := by
  rw [fieldCount, fields_unplaced, List.length_map, fieldCount]

end Node

namespace Document

variable (d : Document)

@[simp] theorem root_unplaced : d.unplaced.root = d.root.unplaced := rfl

@[simp] theorem nodes_unplaced : d.unplaced.nodes = d.nodes.map Node.unplaced := by
  rw [nodes, root_unplaced, Node.walk_unplaced, nodes]

@[simp] theorem fields_unplaced : d.unplaced.fields = d.fields.map Field.unplaced :=
  d.root.fields_unplaced

@[simp] theorem arguments_unplaced : d.unplaced.arguments = d.arguments.map Argument.unplaced := by
  rw [arguments, nodes_unplaced, Node.filterMap_unplaced Node.argument?_unplaced, arguments]

@[simp] theorem directives_unplaced :
    d.unplaced.directives = d.directives.map Directive.unplaced := by
  rw [directives, nodes_unplaced, Node.filterMap_unplaced Node.directive?_unplaced, directives]

@[simp] theorem spreads_unplaced : d.unplaced.spreads = d.spreads.map Spread.unplaced := by
  rw [spreads, nodes_unplaced, Node.filterMap_unplaced Node.spread?_unplaced, spreads]

@[simp] theorem selectionSets_unplaced :
    d.unplaced.selectionSets = d.selectionSets.map SelectionSet.unplaced := by
  rw [selectionSets, nodes_unplaced, Node.filterMap_unplaced Node.selectionSet?_unplaced,
    selectionSets]

@[simp] theorem operations_unplaced :
    d.unplaced.operations = d.operations.map Operation.unplaced := by
  simp only [operations, unplaced, List.filterMap_map, List.map_filterMap]
  exact List.filterMap_congr fun x _ => by cases x <;> rfl

@[simp] theorem fragments_unplaced : d.unplaced.fragments = d.fragments.map Fragment.unplaced := by
  simp only [fragments, unplaced, List.filterMap_map, List.map_filterMap]
  exact List.filterMap_congr fun x _ => by cases x <;> rfl

@[simp] theorem fieldCount_unplaced : d.unplaced.fieldCount = d.fieldCount :=
  d.root.fieldCount_unplaced

@[simp] theorem hasIntrospection_unplaced : d.unplaced.hasIntrospection = d.hasIntrospection := by
  simp [hasIntrospection, Function.comp_def]

@[simp] theorem maxBreadth_unplaced : d.unplaced.maxBreadth = d.maxBreadth := by
  simp [maxBreadth, Function.comp_def]

end Document

/-! ## Tables of bare parts -/

namespace Table

variable {α β : Type} (g : α → β)

def mapValues (t : Table α) : Table β :=
  ⟨t.entries.map fun e => (e.1, g e.2)⟩

@[simp] theorem entries_mapValues (t : Table α) :
    (t.mapValues g).entries = t.entries.map fun e => (e.1, g e.2) := rfl

@[simp] theorem get?_mapValues (t : Table α) (key : String) :
    (t.mapValues g).get? key = (t.get? key).map g :=
  find?_map g key t.entries

@[simp] theorem contains_mapValues (t : Table α) (key : String) :
    (t.mapValues g).contains key = t.contains key := by
  rw [contains, get?_mapValues, Option.isSome_map, contains]

theorem values_mapValues (t : Table α) : (t.mapValues g).values = t.values.map g := by
  simp [values, mapValues, Function.comp_def]

theorem mapValues_insert (t : Table α) (key : String) (value : α) :
    (t.insert key value).mapValues g = (t.mapValues g).insert key (g value) := by
  obtain ⟨es⟩ := t
  simp only [insert, mapValues, mk.injEq]
  induction es with
  | nil => rfl
  | cons e es ih =>
    obtain ⟨k, v⟩ := e
    by_cases h : key = k
    · simp [insertEntries, h]
    · simp [insertEntries, h, ih]

theorem mapValues_erase (t : Table α) (key : String) :
    (t.erase key).mapValues g = (t.mapValues g).erase key := by
  simp [erase, mapValues, List.filter_map, Function.comp_def]

theorem ofList_map {es : List (String × α)} :
    ofList (es.map fun e => (e.1, g e.2)) = (ofList es).mapValues g := by
  induction es using List.reverseRecOn with
  | nil => rfl
  | append_singleton es e ih =>
    simp only [ofList, List.map_append, List.foldl_append] at ih ⊢
    rw [ih]
    exact (mapValues_insert g _ e.1 e.2).symm

end Table

/-! ## Fragments, depth and reach -/

theorem Document.fragmentTable_unplaced (d : Document) :
    d.unplaced.fragmentTable = d.fragmentTable.mapValues Fragment.unplaced := by
  rw [fragmentTable, fragmentTable, ← Table.ofList_map, fragments_unplaced, List.map_map,
    List.map_map]
  rfl

theorem selectionsDepth_unplaced (available : Table Fragment) (ss : List Selection) :
    selectionsDepth (available.mapValues Fragment.unplaced) (ss.map Selection.unplaced)
      = selectionsDepth available ss := by
  refine (selectionSetDepth.mutual_induct
    (fun available body => selectionsDepth (available.mapValues Fragment.unplaced)
      (body.selections.map Selection.unplaced) = selectionsDepth available body.selections)
    (fun available ss => selectionsDepth (available.mapValues Fragment.unplaced)
      (ss.map Selection.unplaced) = selectionsDepth available ss)
    (fun available x => selectionDepth (available.mapValues Fragment.unplaced) x.unplaced
      = selectionDepth available x)
    ?set ?nil ?cons ?field ?leaf ?inlineFragment ?spread ?lost).2.1 available ss
  case set => exact fun available items span ih => ih
  case nil => exact fun available => by rw [List.map_nil, selectionsDepth, selectionsDepth]
  case cons =>
    intro available x rest ihx ihrest
    rw [List.map_cons, selectionsDepth, selectionsDepth, ihx, ihrest]
  case field =>
    intro available aliasName name arguments directives body span ih
    rw [Selection.unplaced_field, selectionDepth_field (Field.selectionSet_unplaced _),
      selectionDepth_field rfl, SelectionSet.selections_unplaced, ih]
  case leaf =>
    intro available aliasName name arguments directives span
    rw [Selection.unplaced_field, selectionDepth_leaf (Field.selectionSet_unplaced _),
      selectionDepth_leaf rfl]
  case inlineFragment =>
    intro available condition directives body span ih
    rw [Selection.unplaced_inlineFragment, selectionDepth_inlineFragment,
      selectionDepth_inlineFragment, InlineFragment.selectionSet_unplaced,
      SelectionSet.selections_unplaced, ih]
  case spread =>
    intro available s f hf ih
    have hbare : (available.mapValues Fragment.unplaced).get? s.unplaced.name.value
        = some f.unplaced := by simp [hf]
    rw [Selection.unplaced_spread, selectionDepth_spread hbare, selectionDepth_spread hf,
      Fragment.selectionSet_unplaced, SelectionSet.selections_unplaced, ← ih, Table.mapValues_erase]
    rfl
  case lost =>
    intro available s hn
    have hbare : (available.mapValues Fragment.unplaced).get? s.unplaced.name.value = none := by
      simp [hn]
    rw [Selection.unplaced_spread, selectionDepth_lost hbare, selectionDepth_lost hn]

namespace Document

variable (d : Document)

theorem selectionSetDepth_unplaced (s : SelectionSet) :
    selectionSetDepth d.unplaced.fragmentTable s.unplaced
      = selectionSetDepth d.fragmentTable s := by
  rw [fragmentTable_unplaced, selectionSetDepth_eq, selectionSetDepth_eq,
    SelectionSet.selections_unplaced, selectionsDepth_unplaced]

@[simp] theorem fieldDepth_unplaced (f : Field) :
    d.unplaced.fieldDepth f.unplaced = d.fieldDepth f := by
  unfold fieldDepth
  rw [Field.selectionSet_unplaced]
  cases f.selectionSet with
  | none => rfl
  | some s => simp only [Option.map_some, selectionSetDepth_unplaced]

theorem depthRoots_unplaced : d.unplaced.depthRoots = d.depthRoots.map SelectionSet.unplaced := by
  unfold depthRoots
  rw [operations_unplaced, List.isEmpty_map, fragmentTable_unplaced, Table.values_mapValues]
  split
  · simp [Function.comp_def]
  · simp only [List.filterMap_map, List.map_filterMap]
    rfl

@[simp] theorem maxDepth_unplaced : d.unplaced.maxDepth = d.maxDepth := by
  have h : selectionSetDepth d.unplaced.fragmentTable ∘ SelectionSet.unplaced
      = selectionSetDepth d.fragmentTable := funext d.selectionSetDepth_unplaced
  rw [maxDepth, depthRoots_unplaced, List.map_map, h, maxDepth]

end Document

theorem takeFragments_unplaced (table : Table Fragment) (names : List String) :
    takeFragments (table.mapValues Fragment.unplaced) names
      = ((takeFragments table names).1.map Fragment.unplaced,
        (takeFragments table names).2.mapValues Fragment.unplaced) := by
  induction names generalizing table with
  | nil => rfl
  | cons n ns ih =>
    rw [takeFragments, takeFragments, Table.get?_mapValues, ← Table.mapValues_erase, ih, ih]
    cases table.get? n <;> rfl

namespace Node

theorem spreadNames_unplaced (nodes : List Node) :
    spreadNames (nodes.map unplaced) = spreadNames nodes := by
  rw [spreadNames, List.filterMap_map, spreadNames]
  refine List.filterMap_congr fun n _ => ?_
  rw [Function.comp_apply, spread?_unplaced, Option.map_map]
  rfl

theorem reachFrom_unplaced (table : Table Fragment) (pending : List Node) :
    reachFrom (table.mapValues Fragment.unplaced) (pending.map unplaced)
      = (reachFrom table pending).map unplaced := by
  fun_induction reachFrom table pending with
  | case1 => rw [List.map_nil, reachFrom]
  | case2 table n pending found ih =>
    have hpending : (found.1.map Fragment.unplaced).reverse.map fragment
        ++ pending.map unplaced = (found.1.reverse.map fragment ++ pending).map unplaced := by
      rw [List.map_append, List.map_map, ← List.map_reverse, List.map_map]
      rfl
    rw [List.map_cons, reachFrom, walk_unplaced, spreadNames_unplaced, takeFragments_unplaced,
      hpending, ih, List.map_append]

end Node

@[simp] theorem Document.reach_unplaced (d : Document) (o : Operation) :
    d.unplaced.reach o.unplaced = (d.reach o).map Node.unplaced := by
  rw [reach, fragmentTable_unplaced]
  exact Node.reachFrom_unplaced _ [.operation o]

end QueryLint
