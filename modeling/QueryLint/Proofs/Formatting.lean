import Mathlib
import QueryLint.Proofs.Invariance
import QueryLint.Proofs.Unplaced

/-! # The layout of a text does not matter

Two documents may differ in where their nodes were read: one text written in two ways, or one text
read with spans and without. Best practice, performance, security and the conventions on names find
the same in both, in the same order. The checks are followed one by one from a document to its bare
tree; what they point at is called the same there.
-/

namespace QueryLint

/-! ## Gists of lists of findings -/

def gists (fs : List Finding) : List (Severity × String × Option String) :=
  fs.map Finding.gist

@[simp] theorem gist_error (message : String) (n : Node) :
    (Finding.error message n).gist = (.error, message, some n.describe) := rfl

@[simp] theorem gist_warning (message : String) (n : Node) :
    (Finding.warning message n).gist = (.warning, message, some n.describe) := rfl

@[simp] theorem gist_info (message : String) (n : Node) :
    (Finding.info message n).gist = (.info, message, some n.describe) := rfl

section Gists

variable {α : Type}

@[simp] theorem gists_nil : gists [] = [] := rfl

@[simp] theorem gists_cons (f : Finding) (fs : List Finding) :
    gists (f :: fs) = f.gist :: gists fs := rfl

@[simp] theorem gists_append (fs gs : List Finding) : gists (fs ++ gs) = gists fs ++ gists gs :=
  List.map_append

@[simp] theorem gists_flatMap (l : List α) (g : α → List Finding) :
    gists (l.flatMap g) = l.flatMap fun a => gists (g a) :=
  List.map_flatMap

@[simp] theorem gists_map (l : List α) (g : α → Finding) :
    gists (l.map g) = l.map fun a => (g a).gist :=
  List.map_map

@[simp] theorem gists_ite (p : Prop) [Decidable p] (fs gs : List Finding) :
    gists (if p then fs else gs) = if p then gists fs else gists gs :=
  apply_ite gists p fs gs

end Gists

/-! ## Names of bare nodes -/

namespace Node

@[simp] theorem describe_field_unplaced (f : Field) :
    (field f.unplaced).describe = (field f).describe := (field f).describe_unplaced

@[simp] theorem describe_fragment_unplaced (f : Fragment) :
    (fragment f.unplaced).describe = (fragment f).describe := (fragment f).describe_unplaced

@[simp] theorem describe_operation_unplaced (o : Operation) :
    (operation o.unplaced).describe = (operation o).describe := (operation o).describe_unplaced

@[simp] theorem describe_argument_unplaced (a : Argument) :
    (argument a.unplaced).describe = (argument a).describe := (argument a).describe_unplaced

@[simp] theorem describe_directive_unplaced (d : Directive) :
    (directive d.unplaced).describe = (directive d).describe := (directive d).describe_unplaced

@[simp] theorem describe_selectionSet_unplaced (s : SelectionSet) :
    (selectionSet s.unplaced).describe = (selectionSet s).describe :=
  (selectionSet s).describe_unplaced

@[simp] theorem describe_variableDefinition_unplaced (v : VariableDefinition) :
    (variableDefinition v.unplaced).describe = (variableDefinition v).describe :=
  (variableDefinition v).describe_unplaced

@[simp] theorem describe_variable_unplaced (v : Variable) :
    (value (.var v.unplaced)).describe = (value (.var v)).describe := rfl

@[simp] theorem fieldCount_fragment_unplaced (f : Fragment) :
    (fragment f.unplaced).fieldCount = (fragment f).fieldCount := (fragment f).fieldCount_unplaced

@[simp] theorem fields_fragment_unplaced (f : Fragment) :
    (fragment f.unplaced).fields = (fragment f).fields.map Field.unplaced :=
  (fragment f).fields_unplaced

end Node

/-! ## Best practice -/

namespace BestPractice

variable (d : Document) (c : Config)

@[simp] theorem occurrences_unplaced (fields : List Field) (name : String) :
    occurrences (fields.map Field.unplaced) name = occurrences fields name := by
  simp [occurrences, List.filter_map, Function.comp_def]

theorem gists_aliasFindings_unplaced (a : Name) (f : Field) :
    gists (aliasFindings a.unplaced f.unplaced) = gists (aliasFindings a f) := by
  simp [aliasFindings]

theorem gist_missingAlias_unplaced (count : Nat) (f : Field) :
    (missingAlias count f.unplaced).gist = (missingAlias count f).gist := by
  simp [missingAlias]

theorem gists_aliasesFrom_unplaced (fields : List Field) (enforce : Bool) (reported : List String)
    (fs : List Field) :
    gists (aliasesFrom (fields.map Field.unplaced) enforce reported (fs.map Field.unplaced))
      = gists (aliasesFrom fields enforce reported fs) := by
  induction fs generalizing reported with
  | nil => rfl
  | cons f fs ih =>
    rw [List.map_cons, aliasesFrom, aliasesFrom, Field.aliasName_unplaced]
    cases f.aliasName with
    | some a => simp [gists_aliasFindings_unplaced, ih]
    | none => simp [gist_missingAlias_unplaced, ih]

theorem gists_aliases_unplaced : gists (aliases ⟨d.unplaced, c⟩) = gists (aliases ⟨d, c⟩) := by
  rw [aliases, Document.fields_unplaced]
  exact gists_aliasesFrom_unplaced ..

theorem gists_fragments_unplaced :
    gists (fragments ⟨d.unplaced, c⟩) = gists (fragments ⟨d, c⟩) := by
  simp [fragments, fragmentCount, fragmentUse, fragmentSize, List.filter_map, List.flatMap_map,
    Function.comp_def]

@[simp] theorem fieldNames_unplaced (s : SelectionSet) : fieldNames s.unplaced = fieldNames s := by
  simp [fieldNames, Function.comp_def]

theorem repeatedKeys_unplaced (seen : List String) (fs : List Field) :
    repeatedKeys seen (fs.map Field.unplaced) = (repeatedKeys seen fs).map Field.unplaced := by
  induction fs generalizing seen with
  | nil => rfl
  | cons f fs ih =>
    rw [List.map_cons, repeatedKeys, repeatedKeys, Field.responseKey_unplaced, ih, ih]
    split <;> rfl

theorem gists_selectionSets_unplaced :
    gists (selectionSets ⟨d.unplaced, c⟩) = gists (selectionSets ⟨d, c⟩) := by
  simp [selectionSets, selectionSetFindings, repeatedKeys_unplaced, duplicate, List.flatMap_map,
    Function.comp_def]

theorem declared_unplaced (o : Operation) :
    declared o.unplaced = (declared o).mapValues VariableDefinition.unplaced := by
  rw [declared, declared, ← Table.ofList_map, Operation.declarations_unplaced, List.map_map,
    List.map_map]
  rfl

theorem used_unplaced (nodes : List Node) :
    used (nodes.map Node.unplaced) = (used nodes).mapValues Variable.unplaced := by
  rw [used, Node.filterMap_unplaced Node.reference?_unplaced, List.foldl_map, used]
  change List.foldl _ (Table.mapValues Variable.unplaced {}) _ = _
  refine List.foldl_hom _ fun t v => ?_
  simp only [Variable.name_unplaced, Name.value_unplaced, Table.contains_mapValues]
  split
  · rfl
  · exact (Table.mapValues_insert ..).symm

theorem gists_variableUse_unplaced :
    gists (variableUse ⟨d.unplaced, c⟩) = gists (variableUse ⟨d, c⟩) := by
  simp [variableUse, variableFindings, declared_unplaced, used_unplaced, List.flatMap_map,
    List.filter_map, Function.comp_def]

theorem gists_shortName_unplaced (owner name : String) (n : Node) :
    gists (shortName owner name n.unplaced) = gists (shortName owner name n) := by
  simp [shortName]

theorem gists_operationName_unplaced (o : Operation) :
    gists (operationName o.unplaced) = gists (operationName o) := by
  unfold operationName
  rw [Operation.name_unplaced]
  cases o.name with
  | none => simp
  | some n =>
    have hshort := gists_shortName_unplaced "Operation" n.value (.operation o)
    rw [Node.unplaced] at hshort
    simp [hshort]

theorem fetchesTooMuch_unplaced (s : SelectionSet) :
    fetchesTooMuch s.unplaced = fetchesTooMuch s := by
  rw [fetchesTooMuch, fieldNames_unplaced, fetchesTooMuch]

theorem isSingleLeaf_unplaced (s : SelectionSet) : isSingleLeaf s.unplaced = isSingleLeaf s := by
  rw [isSingleLeaf, isSingleLeaf, SelectionSet.selections_unplaced]
  rcases s.selections with _ | ⟨x, _ | ⟨y, ss⟩⟩
  · rfl
  · cases x <;> simp
  · cases x <;> simp

theorem gists_fieldSelection_unplaced (f : Field) :
    gists (fieldSelection f.unplaced) = gists (fieldSelection f) := by
  unfold fieldSelection
  rw [Field.selectionSet_unplaced]
  cases f.selectionSet with
  | none => rfl
  | some s => simp [fetchesTooMuch_unplaced, isSingleLeaf_unplaced]

theorem gists_fieldSelections_unplaced :
    gists (fieldSelections ⟨d.unplaced, c⟩) = gists (fieldSelections ⟨d, c⟩) := by
  simp [fieldSelections, List.flatMap_map, gists_fieldSelection_unplaced]

theorem gists_arguments_unplaced :
    gists (arguments ⟨d.unplaced, c⟩) = gists (arguments ⟨d, c⟩) := by
  simp [arguments, List.filter_map, Function.comp_def]

theorem gists_directives_unplaced :
    gists (directives ⟨d.unplaced, c⟩) = gists (directives ⟨d, c⟩) := by
  simp [directives, List.filter_map, Function.comp_def]

theorem gists_documentShape_unplaced :
    gists (documentShape ⟨d.unplaced, c⟩) = gists (documentShape ⟨d, c⟩) := by
  simp [documentShape, List.filter_map, Function.comp_def]

theorem gists_findings_unplaced :
    gists (findings ⟨d.unplaced, c⟩) = gists (findings ⟨d, c⟩) := by
  have hoperations : gists (operationNames ⟨d.unplaced, c⟩) = gists (operationNames ⟨d, c⟩) := by
    simp [operationNames, List.flatMap_map, gists_operationName_unplaced]
  have hshort (f : Fragment) := gists_shortName_unplaced "Fragment" f.name.value (.fragment f)
  simp only [Node.unplaced] at hshort
  have hfragments : gists (fragmentNames ⟨d.unplaced, c⟩) = gists (fragmentNames ⟨d, c⟩) := by
    simp [fragmentNames, List.flatMap_map, hshort]
  simp only [findings, gists_append, gists_aliases_unplaced, gists_fragments_unplaced,
    gists_selectionSets_unplaced, gists_variableUse_unplaced, hoperations,
    gists_fieldSelections_unplaced, gists_arguments_unplaced, gists_directives_unplaced,
    hfragments, gists_documentShape_unplaced]

end BestPractice

/-! ## Performance -/

namespace Performance

variable (d : Document) (c : Config)

theorem isComplexObject_unplaced (v : Value) : isComplexObject v.unplaced = isComplexObject v := by
  cases v <;> simp [isComplexObject, Value.unplaced, Value.unplacedFields_eq_map]

theorem gists_fragmentUsage_unplaced :
    gists (fragmentUsage ⟨d.unplaced, c⟩) = gists (fragmentUsage ⟨d, c⟩) := by
  simp [fragmentUsage, List.filter_map, List.flatMap_map, Function.comp_def]

theorem fieldComplexity_unplaced (f : Field) : fieldComplexity f.unplaced = fieldComplexity f := by
  simp [fieldComplexity]

theorem gists_complexity_unplaced :
    gists (complexity ⟨d.unplaced, c⟩) = gists (complexity ⟨d, c⟩) := by
  simp [complexity, fieldComplexity_unplaced, List.foldl_map]

theorem gists_nesting_unplaced : gists (nesting ⟨d.unplaced, c⟩) = gists (nesting ⟨d, c⟩) := by
  simp [nesting, nestingFindings, List.filter_map, List.flatMap_map, Function.comp_def]

theorem gists_selectionMix_unplaced :
    gists (selectionMix ⟨d.unplaced, c⟩) = gists (selectionMix ⟨d, c⟩) := by
  simp [selectionMix, ofOneKind, List.filter_map, List.flatMap_map, Function.comp_def]

theorem gists_findings_unplaced :
    gists (findings ⟨d.unplaced, c⟩) = gists (findings ⟨d, c⟩) := by
  have hdepth : gists (depth ⟨d.unplaced, c⟩) = gists (depth ⟨d, c⟩) := by
    simp [depth, depthFindings]
  have hcount : gists (fieldCount ⟨d.unplaced, c⟩) = gists (fieldCount ⟨d, c⟩) := by
    simp [fieldCount]
  have hvalues : gists (argumentValues ⟨d.unplaced, c⟩) = gists (argumentValues ⟨d, c⟩) := by
    simp [argumentValues, isComplexObject_unplaced, List.filter_map, Function.comp_def]
  simp only [findings, gists_append, hdepth, hcount, gists_fragmentUsage_unplaced,
    gists_complexity_unplaced, hvalues, gists_nesting_unplaced, gists_selectionMix_unplaced]

end Performance

/-! ## Security -/

namespace Checked

/-- Two checks that end alike and find the same. -/
structure Agrees (a b : Checked) : Prop where
  failure_eq : a.failure = b.failure
  gists_eq : gists a.findings = gists b.findings

namespace Agrees

variable {α β : Type} {a a' b b' : Checked}

theorem refl (a : Checked) : a.Agrees a :=
  ⟨rfl, rfl⟩

theorem ofFindings {fs gs : List Finding} (h : gists fs = gists gs) :
    (Checked.ofFindings fs).Agrees (.ofFindings gs) :=
  ⟨rfl, h⟩

theorem ofExcept {e e' : Except String (List Finding)} (h : e.map gists = e'.map gists) :
    (Checked.ofExcept e).Agrees (.ofExcept e') := by
  cases e with
  | error reason =>
    cases e' with
    | error reason' => exact ⟨congrArg some (Except.error.inj h), rfl⟩
    | ok gs => cases h
  | ok fs =>
    cases e' with
    | error reason' => cases h
    | ok gs => exact ⟨rfl, Except.ok.inj h⟩

theorem append (h : a.Agrees a') (h' : b.Agrees b') : (a.append b).Agrees (a'.append b') := by
  unfold Checked.append
  rw [h.failure_eq]
  split
  · exact h
  · exact ⟨h'.failure_eq, by rw [gists_append, gists_append, h.gists_eq, h'.gists_eq]⟩

theorem sequence_cons {ks ks' : List Checked} (h : a.Agrees a')
    (hs : (Checked.sequence ks).Agrees (.sequence ks')) :
    (Checked.sequence (a :: ks)).Agrees (.sequence (a' :: ks')) :=
  h.append hs

theorem each {items : List α} {check check' : α → Checked}
    (h : ∀ x ∈ items, (check' x).Agrees (check x)) :
    (Checked.each items check').Agrees (.each items check) := by
  unfold Checked.each
  induction items with
  | nil => exact .refl _
  | cons x items ih =>
    refine (h x List.mem_cons_self).sequence_cons (ih fun y hy => ?_)
    exact h y (List.mem_cons_of_mem x hy)

/-- Checks of items and of what the items are changed to agree if they do item by item. -/
theorem each_map {items : List α} {g : α → β} {check : α → Checked} {check' : β → Checked}
    (h : ∀ x ∈ items, (check' (g x)).Agrees (check x)) :
    (Checked.each (items.map g) check').Agrees (.each items check) := by
  have hmap : Checked.each (items.map g) check' = Checked.each items fun x => check' (g x) :=
    congrArg Checked.sequence List.map_map
  rw [hmap]
  exact .each h

theorem ite (h : a.Agrees b) (on : Bool) :
    (if on then a else {}).Agrees (if on then b else {}) := by
  cases on
  · exact .refl _
  · exact h

end Agrees

end Checked

namespace Security

open Checked

variable (d : Document) (c : Config)

theorem map_gists_bind {α : Type} {e : Except String α} {f g : α → Except String (List Finding)}
    (h : ∀ a, (f a).map gists = (g a).map gists) : (e >>= f).map gists = (e >>= g).map gists := by
  cases e with
  | error reason => rfl
  | ok a => exact h a

theorem sensitiveSubject?_unplaced (n : Node) :
    sensitiveSubject? n.unplaced = sensitiveSubject? n := by
  cases n <;> simp [sensitiveSubject?, Node.unplaced]

theorem sensitiveName_unplaced (sensitive patterns : List Data) (n : Node) :
    (sensitiveName sensitive patterns n.unplaced).map gists
      = (sensitiveName sensitive patterns n).map gists := by
  have hgist (message : String) : gists [.warning message n.unplaced]
      = gists [.warning message n] := by simp
  unfold sensitiveName
  rw [sensitiveSubject?_unplaced]
  cases sensitiveSubject? n with
  | none => rfl
  | some subject =>
    refine map_gists_bind fun found => ?_
    cases found with
    | true => exact congrArg Except.ok (hgist _)
    | false =>
      refine map_gists_bind fun found => ?_
      cases found with
      | true => exact congrArg Except.ok (hgist _)
      | false => rfl

theorem sensitiveNames_agrees :
    (sensitiveNames ⟨d.unplaced, c⟩).Agrees (sensitiveNames ⟨d, c⟩) := by
  unfold sensitiveNames
  dsimp only
  rw [Document.nodes_unplaced]
  exact .each_map fun n _ => .ofExcept (sensitiveName_unplaced ..)

theorem sensitiveFragmentField_unplaced (sensitive : List Data) (fragment : Fragment) (f : Field) :
    (sensitiveFragmentField sensitive fragment.unplaced f.unplaced).map gists
      = (sensitiveFragmentField sensitive fragment f).map gists := by
  unfold sensitiveFragmentField
  rw [Field.name_unplaced, Name.value_unplaced]
  refine map_gists_bind fun found => ?_
  cases found <;> simp [Except.map, pure, Except.pure]

theorem fragments_agrees : (fragments ⟨d.unplaced, c⟩).Agrees (fragments ⟨d, c⟩) := by
  unfold fragments
  dsimp only
  rw [Document.fragments_unplaced]
  refine .each_map fun fragment _ => ?_
  rw [Node.fields_fragment_unplaced]
  exact .each_map fun f _ => .ofExcept (sensitiveFragmentField_unplaced ..)

/-! ### Injection -/

mutual
theorem stringsIn_unplaced (label : String) : (v : Value) →
    stringsIn label v.unplaced = stringsIn label v
  | .list items _ => by
    rw [Value.unplaced, stringsIn, stringsIn, stringsInItems_unplaced label items]
  | .object fields _ => by
    rw [Value.unplaced, stringsIn, stringsIn, stringsInFields_unplaced label fields]
  | .string .. => by rw [Value.unplaced, stringsIn, stringsIn]
  | .var .. | .int .. | .float .. | .boolean .. | .null .. | .enum .. => by
    simp [Value.unplaced, stringsIn]

theorem stringsInItems_unplaced (label : String) : (vs : List Value) →
    stringsInItems label (Value.unplacedItems vs) = stringsInItems label vs
  | [] => by rw [Value.unplacedItems]
  | v :: vs => by
    rw [Value.unplacedItems, stringsInItems, stringsInItems, stringsIn_unplaced label v,
      stringsInItems_unplaced label vs]

theorem stringsInFields_unplaced (label : String) : (fs : List ObjectField) →
    stringsInFields label (Value.unplacedFields fs) = stringsInFields label fs
  | [] => by rw [Value.unplacedFields]
  | ⟨n, v, _⟩ :: fs => by
    rw [Value.unplacedFields, stringsInFields, stringsInFields, Name.value_unplaced,
      stringsIn_unplaced _ v, stringsInFields_unplaced label fs]
end

theorem stringFindings_unplaced (keywords : List Data) (owner : String) (a : Argument)
    (label content : String) :
    (stringFindings keywords owner a.unplaced label content).map gists
      = (stringFindings keywords owner a label content).map gists := by
  refine map_gists_bind fun patterns => ?_
  simp [Except.map, pure, Except.pure, patternFinding]

theorem scanArgument_agrees (keywords : List Data) (owner : String) (a : Argument) :
    (scanArgument keywords owner a.unplaced).Agrees (scanArgument keywords owner a) := by
  unfold scanArgument
  rw [Argument.name_unplaced, Name.value_unplaced, Argument.value_unplaced, stringsIn_unplaced]
  exact .each fun _ _ => .ofExcept (stringFindings_unplaced ..)

theorem argumentValues_agrees :
    (argumentValues ⟨d.unplaced, c⟩).Agrees (argumentValues ⟨d, c⟩) := by
  unfold argumentValues
  dsimp only
  rw [Document.fields_unplaced, Document.directives_unplaced]
  refine .append (.each_map fun f _ => ?_) (.each_map fun r _ => ?_)
  · rw [Field.arguments_unplaced]
    exact .each_map fun a _ => scanArgument_agrees ..
  · rw [Directive.arguments_unplaced]
    exact .each_map fun a _ => scanArgument_agrees ..

theorem scannedNames_unplaced :
    scannedNames d.unplaced = (scannedNames d).map fun e => (e.1, e.2.1, e.2.2.unplaced) := by
  simp [scannedNames, List.filterMap_map, List.map_filterMap, Function.comp_def, Node.unplaced]

theorem nameInjection_agrees :
    (nameInjection ⟨d.unplaced, c⟩).Agrees (nameInjection ⟨d, c⟩) := by
  unfold nameInjection
  dsimp only
  rw [scannedNames_unplaced]
  refine .each_map fun e _ => .ofExcept ?_
  dsimp only
  cases Injection.labels? (c.vocabulary .sqlKeywords) e.2.1 with
  | error reason => rfl
  | ok labels => simp [Except.map, patternFinding]

/-! ### The rule -/

theorem gists_introspection_unplaced :
    gists (introspection ⟨d.unplaced, c⟩) = gists (introspection ⟨d, c⟩) := by
  simp [introspection, introspectionField, List.filter_map, List.flatMap_map, Function.comp_def]

theorem fieldCost_unplaced (f : Field) : fieldCost f.unplaced = fieldCost f := by
  unfold fieldCost
  rw [Field.selectionSet_unplaced]
  cases f.selectionSet <;> simp

theorem gists_complexity_unplaced :
    gists (complexity ⟨d.unplaced, c⟩) = gists (complexity ⟨d, c⟩) := by
  simp [complexity, costFindings, growthFindings, totalCost, fieldCost_unplaced, List.foldl_map]

theorem gists_directives_unplaced :
    gists (directives ⟨d.unplaced, c⟩) = gists (directives ⟨d, c⟩) := by
  simp [directives, List.filter_map, Function.comp_def]

theorem isMutating_unplaced (f : Field) : isMutating f.unplaced = isMutating f := by
  simp [isMutating]

theorem gists_mutations_unplaced :
    gists (mutations ⟨d.unplaced, c⟩) = gists (mutations ⟨d, c⟩) := by
  have hcount (s : SelectionSet) : ((s.fields.map Field.unplaced).filter isMutating).length
      = (s.fields.filter isMutating).length := by
    simp [List.filter_map, Function.comp_def, isMutating_unplaced]
  simp only [mutations, Document.operations_unplaced, List.filter_map, List.flatMap_map,
    gists_flatMap, Function.comp_def, Operation.kind_unplaced, Operation.selectionSet_unplaced]
  congr 1
  funext o
  cases o.selectionSet with
  | none => rfl
  | some s => simp [hcount]

theorem concerned_unplaced (vocabulary : List Data) (f : Field) (concern : String) :
    (concerned vocabulary f.unplaced concern).map gists
      = (concerned vocabulary f concern).map gists := by
  unfold concerned
  rw [Field.name_unplaced, Name.value_unplaced]
  refine map_gists_bind fun found => ?_
  cases found <;> simp [Except.map, pure, Except.pure]

theorem accessControl_agrees :
    (accessControl ⟨d.unplaced, c⟩).Agrees (accessControl ⟨d, c⟩) := by
  unfold accessControl
  dsimp only
  rw [Document.fields_unplaced]
  exact .each_map fun f _ =>
    .append (.ofExcept (concerned_unplaced ..)) (.ofExcept (concerned_unplaced ..))

theorem check_agrees : (check ⟨d.unplaced, c⟩).Agrees (check ⟨d, c⟩) := by
  have hdepth : gists (depth ⟨d.unplaced, c⟩) = gists (depth ⟨d, c⟩) := by
    simp [depth, depthFindings]
  refine .sequence_cons (.ofFindings (gists_introspection_unplaced d c)) ?_
  refine .sequence_cons (sensitiveNames_agrees d c) ?_
  refine .sequence_cons (.ite ((argumentValues_agrees d c).append (nameInjection_agrees d c)) _) ?_
  refine .sequence_cons (.ofFindings hdepth) ?_
  refine .sequence_cons (.ofFindings (gists_complexity_unplaced d c)) ?_
  refine .sequence_cons (.ofFindings (gists_directives_unplaced d c)) ?_
  refine .sequence_cons (fragments_agrees d c) ?_
  refine .sequence_cons (.ofFindings (gists_mutations_unplaced d c)) ?_
  exact .sequence_cons (.ite (accessControl_agrees d c) _) (.refl _)

end Security

/-! ## Names -/

namespace Style

theorem gists_nameFindings_unplaced (camelCase : Bool) (n : Node) :
    gists (nameFindings camelCase n.unplaced) = gists (nameFindings camelCase n) := by
  have hcamel (owner name : String) (reserved : Bool) :
      gists (camelFindings owner name camelCase reserved n.unplaced)
        = gists (camelFindings owner name camelCase reserved n) := by
    simp [camelFindings]
  have hpascal (owner name : String) :
      gists (pascalFindings owner name n.unplaced) = gists (pascalFindings owner name n) := by
    simp [pascalFindings]
  cases n with
  | field f =>
    simp only [nameFindings, Node.unplaced, Field.isIntrospection_unplaced, Field.name_unplaced,
      Name.value_unplaced, gists_ite]
    exact congrArg (ite _ _) (hcamel ..)
  | argument a => exact hcamel ..
  | directive r => exact hcamel ..
  | fragment f => exact hpascal ..
  | operation o =>
    simp only [nameFindings, Node.unplaced, Operation.name_unplaced]
    cases o.name with
    | none => rfl
    | some name => exact hpascal ..
  | _ => rfl

theorem gists_naming_unplaced (d : Document) (c : Config) :
    gists (naming ⟨d.unplaced, c⟩) = gists (naming ⟨d, c⟩) := by
  simp [naming, List.flatMap_map, gists_nameFindings_unplaced]

end Style

/-! ## Reports -/

/-- What a diagnostic says, for which rule and of what: all but the place. -/
def Diagnostic.statement (e : Diagnostic) : String × Severity × String × Option String :=
  (e.ruleId, e.severity, e.message, e.path)

theorem statements_toDiagnostic (id : String) (text : List Char) (fs : List Finding) :
    (fs.map (Finding.toDiagnostic id text)).map Diagnostic.statement
      = (gists fs).map fun g => (id, g) := by
  rw [gists, List.map_map, List.map_map]
  refine List.map_congr_left fun f _ => ?_
  obtain ⟨severity, message, place⟩ := f
  cases place <;> rfl

namespace Rule

variable {d d' : Document}

theorem statements_run_eq {title id description : String} {handle : Nat}
    {check : Context → Checked} {c : Config}
    (hcheck : ∀ e : Document, (check ⟨e.unplaced, c⟩).Agrees (check ⟨e, c⟩))
    (h : d.unplaced = d'.unplaced) {r : Rule} (hr : r = ofCheck title id description handle check) :
    (r.run ⟨d, c⟩).failure = (r.run ⟨d', c⟩).failure ∧
      (r.run ⟨d, c⟩).findings.map Diagnostic.statement
        = (r.run ⟨d', c⟩).findings.map Diagnostic.statement := by
  subst hr
  have hd := hcheck d
  rw [h] at hd
  constructor
  · exact hd.failure_eq.symm.trans (hcheck d').failure_eq
  · change ((check ⟨d, c⟩).findings.map _).map _ = ((check ⟨d', c⟩).findings.map _).map _
    rw [statements_toDiagnostic, statements_toDiagnostic, ← hd.gists_eq, (hcheck d').gists_eq]

/-- On two documents with the same bare tree, under any configuration, best practice, performance
and security end alike and make the same statements in the same order, and so do the conventions on
names. -/
theorem layout_keeps_statements (h : d.unplaced = d'.unplaced) (c : Config) (handle : Nat) :
    (∀ r ∈ [BestPractice.rule handle, Performance.rule handle, Security.rule handle],
      (r.run ⟨d, c⟩).failure = (r.run ⟨d', c⟩).failure ∧
        (r.run ⟨d, c⟩).findings.map Diagnostic.statement
          = (r.run ⟨d', c⟩).findings.map Diagnostic.statement) ∧
      ((Style.naming ⟨d, c⟩).map
          (Finding.toDiagnostic (Style.rule handle).id d.text)).map Diagnostic.statement
        = ((Style.naming ⟨d', c⟩).map
          (Finding.toDiagnostic (Style.rule handle).id d'.text)).map Diagnostic.statement := by
  constructor
  · intro r hr
    simp only [List.mem_cons, List.not_mem_nil, or_false] at hr
    rcases hr with hr | hr | hr
    · exact statements_run_eq (fun e => .ofFindings (BestPractice.gists_findings_unplaced e c)) h hr
    · exact statements_run_eq (fun e => .ofFindings (Performance.gists_findings_unplaced e c)) h hr
    · exact statements_run_eq (fun e => Security.check_agrees e c) h hr
  · rw [statements_toDiagnostic, statements_toDiagnostic, ← Style.gists_naming_unplaced d, h,
      Style.gists_naming_unplaced d']

end Rule

/-- A query on one line. -/
def Document.crowdedText : List Char :=
  ("query Q($a:Int)\x7buser(id:$b,name:\"x' OR 1=1\")"
    ++ "\x7bpassword,password ...F\x7d\x7d").toList

/-- The same query, laid out. -/
def Document.spaciousText : List Char :=
  ("query Q($a: Int) \x7b\n  # by name\n  user(id: $b, name: \"x' OR 1=1\") \x7b\n"
    ++ "    password\n    password\n    ... F\n  \x7d\n\x7d\n").toList

/-- One is read with spans and the other without. -/
theorem Rule.layout_keeps_statements_crowded :
    ∃ d d', Document.parse Document.crowdedText = .ok d ∧
      Document.parse Document.spaciousText false = .ok d' ∧ d.unplaced = d'.unplaced ∧
      (∀ r ∈ [BestPractice.rule 0, Performance.rule 0, Security.rule 0],
        (r.run ⟨d, .standard⟩).failure = (r.run ⟨d', .standard⟩).failure ∧
          (r.run ⟨d, .standard⟩).findings.map Diagnostic.statement
            = (r.run ⟨d', .standard⟩).findings.map Diagnostic.statement) ∧
        ((Style.naming ⟨d, .standard⟩).map
            (Finding.toDiagnostic (Style.rule 0).id d.text)).map Diagnostic.statement
          = ((Style.naming ⟨d', .standard⟩).map
            (Finding.toDiagnostic (Style.rule 0).id d'.text)).map Diagnostic.statement := by
  have hread : (Document.parse Document.crowdedText).toOption.isSome = true := by decide +kernel
  have hbare : (Document.parse Document.crowdedText).map Document.unplaced
      = (Document.parse Document.spaciousText false).map Document.unplaced := by cbv
  cases hd : Document.parse Document.crowdedText with
  | error f =>
    rw [hd] at hread
    cases hread
  | ok d =>
    cases hd' : Document.parse Document.spaciousText false with
    | error f =>
      rw [hd, hd'] at hbare
      cases hbare
    | ok d' =>
      rw [hd, hd'] at hbare
      have htrees : d.unplaced = d'.unplaced := Except.ok.inj hbare
      exact ⟨d, d', rfl, rfl, htrees, layout_keeps_statements htrees _ 0⟩

end QueryLint
