import Mathlib.Data.Finset.Card
import QueryLint.Proofs.Scanning
import QueryLint.Proofs.Variables

/-! # Fields under one response key

A field repeats a key if an earlier field of the same selection set has it. Best practice reports
one error for each such field, selection set by selection set however deep they lie, and no other
error about duplicates. So the number of these errors is the number of fields less that of their
keys, summed over all selection sets.
-/

namespace QueryLint

/-! ## Selection sets at any depth -/

mutual
/-- The selection sets in a selection set, itself first. -/
def SelectionSet.nested : SelectionSet → List SelectionSet
  | ⟨selections, span⟩ => ⟨selections, span⟩ :: SelectionSet.nestedIn selections

def SelectionSet.nestedIn : List Selection → List SelectionSet
  | [] => []
  | s :: ss => s.nested ++ SelectionSet.nestedIn ss

def Selection.nested : Selection → List SelectionSet
  | .field ⟨_, _, _, _, some body, _⟩ => body.nested
  | .field ⟨_, _, _, _, none, _⟩ => []
  | .spread _ => []
  | .inlineFragment ⟨_, _, body, _⟩ => body.nested
end

def Definition.nested : Definition → List SelectionSet
  | operation o => o.selectionSet.toList.flatMap SelectionSet.nested
  | fragment f => f.selectionSet.nested
  | typeSystem _ => []

namespace Node

def selectionSets (n : Node) : List SelectionSet :=
  n.walk.filterMap selectionSet?

variable {n : Node}

theorem selectionSets_eq (n : Node) :
    n.selectionSets = n.selectionSet?.toList ++ n.children.flatMap selectionSets :=
  filterMap_walk selectionSet? n

theorem selectionSets_of_isInput (h : n.isInput = true) : n.selectionSets = [] := by
  refine List.filterMap_eq_nil_iff.mpr fun m hm => ?_
  have hinput := (mem_walk_iff.mp hm).isInput h
  cases m <;> first | rfl | cases hinput

theorem flatMap_selectionSets_arguments (as : List Argument) :
    (as.map argument).flatMap selectionSets = [] := by
  rw [List.flatMap_map]
  exact List.flatMap_eq_nil_iff.mpr fun a _ => selectionSets_of_isInput rfl

theorem flatMap_selectionSets_directives (ds : List Directive) :
    (ds.map directive).flatMap selectionSets = [] := by
  rw [List.flatMap_map]
  refine List.flatMap_eq_nil_iff.mpr fun r _ => ?_
  rw [selectionSets_eq, children, flatMap_selectionSets_arguments]
  rfl

mutual
theorem selectionSets_selectionSet : (s : SelectionSet) → (selectionSet s).selectionSets = s.nested
  | ⟨selections, span⟩ => by
    rw [selectionSets_eq, children, List.flatMap_map, SelectionSet.nested,
      flatMap_selectionSets_ofSelection selections]
    rfl

theorem flatMap_selectionSets_ofSelection : (ss : List Selection) →
    (ss.flatMap fun s => (ofSelection s).selectionSets) = SelectionSet.nestedIn ss
  | [] => by rw [List.flatMap_nil, SelectionSet.nestedIn]
  | s :: ss => by
    rw [List.flatMap_cons, SelectionSet.nestedIn, selectionSets_ofSelection s,
      flatMap_selectionSets_ofSelection ss]

theorem selectionSets_ofSelection : (s : Selection) → (ofSelection s).selectionSets = s.nested
  | .field ⟨aliasName, name, arguments, directives, some body, span⟩ => by
    rw [ofSelection, selectionSets_eq, children, List.flatMap_append, List.flatMap_append,
      flatMap_selectionSets_arguments, flatMap_selectionSets_directives, Selection.nested,
      ← selectionSets_selectionSet body]
    exact List.flatMap_singleton ..
  | .field ⟨aliasName, name, arguments, directives, none, span⟩ => by
    rw [ofSelection, selectionSets_eq, children, List.flatMap_append, List.flatMap_append,
      flatMap_selectionSets_arguments, flatMap_selectionSets_directives, Selection.nested]
    rfl
  | .spread s => by
    rw [ofSelection, selectionSets_eq, children, flatMap_selectionSets_directives,
      Selection.nested]
    rfl
  | .inlineFragment ⟨condition, directives, body, span⟩ => by
    rw [ofSelection, selectionSets_eq, children, List.flatMap_append,
      flatMap_selectionSets_directives, Selection.nested, ← selectionSets_selectionSet body]
    exact List.flatMap_singleton ..
end

theorem flatMap_selectionSets_declarations (vs : List VariableDefinition) :
    (vs.map variableDefinition).flatMap selectionSets = [] := by
  rw [List.flatMap_map]
  refine List.flatMap_eq_nil_iff.mpr fun v _ => ?_
  rw [selectionSets_eq, children, List.flatMap_append, flatMap_selectionSets_directives]
  cases v.defaultValue with
  | none => rfl
  | some value =>
    rw [Option.toList_some, List.map_singleton, List.flatMap_singleton,
      selectionSets_of_isInput rfl]
    rfl

theorem selectionSets_ofDefinition (x : Definition) :
    (ofDefinition x).selectionSets = x.nested := by
  cases x with
  | operation o =>
    rw [ofDefinition, selectionSets_eq, children, List.flatMap_append, List.flatMap_append,
      flatMap_selectionSets_declarations, flatMap_selectionSets_directives, List.flatMap_map,
      Definition.nested, ← funext selectionSets_selectionSet]
    rfl
  | fragment f =>
    rw [ofDefinition, selectionSets_eq, children, List.flatMap_append,
      flatMap_selectionSets_directives, Definition.nested, ← selectionSets_selectionSet]
    exact List.flatMap_singleton ..
  | typeSystem t =>
    rw [ofDefinition, selectionSets_eq]
    rfl

end Node

namespace Document

/-- All selection sets of a document, those of operations, fields, inline fragments and fragment
definitions. -/
def nested (d : Document) : List SelectionSet :=
  d.definitions.flatMap Definition.nested

theorem selectionSets_eq_nested (d : Document) : d.selectionSets = d.nested := by
  have hroot := Node.selectionSets_eq d.root
  rw [root, Node.children, List.flatMap_map, funext Node.selectionSets_ofDefinition] at hroot
  exact hroot

end Document

namespace BestPractice

variable {c : Context} {before fs : List Field} {seen : List String}

/-! ## Repeated keys -/

/-- The fields whose response key a field at an earlier place of the list has. -/
def repeats (fields : List Field) : List Field :=
  (fields.zipIdx.filter fun e =>
    e.1.responseKey ∈ (fields.take e.2).map Field.responseKey).map Prod.fst

/-- What was seen are the keys of the fields before. -/
theorem repeatedKeys_eq (h : ∀ k, k ∈ seen ↔ k ∈ before.map Field.responseKey) :
    repeatedKeys seen fs = ((fs.zipIdx before.length).filter fun e =>
      e.1.responseKey ∈ ((before ++ fs).take e.2).map Field.responseKey).map Prod.fst := by
  induction fs generalizing before seen with
  | nil => rfl
  | cons f fs ih =>
    have hsplit : before ++ f :: fs = (before ++ [f]) ++ fs := by
      rw [List.append_assoc, List.singleton_append]
    have hlength : (before ++ [f]).length = before.length + 1 := List.length_append
    rw [repeatedKeys, List.zipIdx_cons, List.filter_cons, List.take_left]
    by_cases hf : f.responseKey ∈ before.map Field.responseKey
    · have hseen : ∀ k, k ∈ seen ↔ k ∈ (before ++ [f]).map Field.responseKey := by
        intro k
        rw [h, List.map_append, List.mem_append, List.map_singleton, List.mem_singleton]
        exact ⟨.inl, fun hk => hk.elim id (fun heq => heq ▸ hf)⟩
      rw [if_pos (List.contains_iff_mem.mpr ((h _).mpr hf)), if_pos (decide_eq_true hf),
        List.map_cons, ih hseen, hsplit, hlength]
    · have hseen : ∀ k, k ∈ f.responseKey :: seen ↔ k ∈ (before ++ [f]).map Field.responseKey := by
        intro k
        rw [List.mem_cons, h, List.map_append, List.mem_append, List.map_singleton,
          List.mem_singleton, or_comm]
      rw [if_neg (mt (fun hk => (h _).mp (List.contains_iff_mem.mp hk)) hf),
        if_neg (mt of_decide_eq_true hf), ih hseen, hsplit, hlength]

theorem repeatedKeys_nil_eq_repeats (fs : List Field) : repeatedKeys [] fs = repeats fs :=
  @repeatedKeys_eq [] fs [] fun _ => Iff.rfl

/-- Each field either repeats a key or has a key of its own. -/
theorem length_repeatedKeys_add_card (seen : List String) (fs : List Field) :
    (repeatedKeys seen fs).length + ((fs.map Field.responseKey).toFinset \ seen.toFinset).card
      = fs.length := by
  induction fs generalizing seen with
  | nil => simp [repeatedKeys]
  | cons f fs ih =>
    rw [repeatedKeys, List.map_cons, List.toFinset_cons, List.length_cons]
    by_cases hf : f.responseKey ∈ seen
    · rw [if_pos (List.contains_iff_mem.mpr hf), List.length_cons,
        Finset.insert_sdiff_of_mem _ (List.mem_toFinset.mpr hf), ← ih seen]
      omega
    · have hnew : insert f.responseKey (fs.map Field.responseKey).toFinset \ seen.toFinset
          = insert f.responseKey
            ((fs.map Field.responseKey).toFinset \ (f.responseKey :: seen).toFinset) := by
        ext k
        by_cases hk : k = f.responseKey <;> simp [hk, hf]
      rw [if_neg (mt List.contains_iff_mem.mp hf), hnew, Finset.card_insert_of_notMem (by simp),
        ← ih (f.responseKey :: seen)]
      omega

theorem length_repeats (fs : List Field) :
    (repeats fs).length = fs.length - (fs.map Field.responseKey).toFinset.card := by
  have hsum := length_repeatedKeys_add_card [] fs
  rw [repeatedKeys_nil_eq_repeats, List.toFinset_nil, Finset.sdiff_empty] at hsum
  omega

/-! ## Reports -/

/-- The errors about duplicates among what the rule reports. -/
def duplicateReports (handle : Nat) (c : Context) : List Diagnostic :=
  ((rule handle).run c).findings.filter fun e =>
    e.severity = .error ∧ "Duplicate field '".toList <+: e.message.toList

def duplicateError (text : List Char) (f : Field) : Diagnostic :=
  .onNode "BEST_PRACTICE" ("Duplicate field '" ++ f.responseKey ++ "' in selection set") .error text
    (.field f)

theorem duplicateReports_eq (handle : Nat) (c : Context) : duplicateReports handle c
    = (((findings c).filter (·.severity = .error)).filter fun f =>
        "Duplicate field '".toList <+: f.message.toList).map
          (Finding.toDiagnostic "BEST_PRACTICE" c.document.text) := by
  change ((findings c).map (Finding.toDiagnostic "BEST_PRACTICE" c.document.text)).filter _ = _
  rw [List.filter_map, List.filter_filter]
  refine congrArg _ (List.filter_congr fun f _ => ?_)
  rw [Function.comp_apply, severity_toDiagnostic, message_toDiagnostic, Bool.decide_and,
    Bool.and_comm]

theorem filter_error_selectionSets (c : Context) :
    (selectionSets c).filter (·.severity = .error)
      = c.document.selectionSets.flatMap fun s => (repeats s.fields).map duplicate := by
  rw [selectionSets, List.filter_flatMap]
  refine List.flatMap_congr fun s _ => ?_
  have hduplicates : ((repeatedKeys [] s.fields).map duplicate).filter (·.severity = .error)
      = (repeats s.fields).map duplicate := by
    rw [repeatedKeys_nil_eq_repeats]
    refine List.filter_eq_self.mpr fun f hf => ?_
    obtain ⟨field, -, rfl⟩ := List.mem_map.mp hf
    rfl
  simp only [selectionSetFindings, List.filter_append, hduplicates]
  split <;> split <;> simp

theorem not_prefix_of_mem_variableUse {f : Finding} (h : f ∈ variableUse c)
    (herror : f.severity = .error) : ¬ "Duplicate field '".toList <+: f.message.toList := by
  obtain ⟨o, -, h⟩ := List.mem_flatMap.mp h
  rw [variableFindings_eq, List.mem_append, List.mem_append] at h
  rcases h with (h | h) | h
  · obtain ⟨e, -, rfl⟩ := List.mem_map.mp h
    cases herror
  · obtain ⟨e, -, rfl⟩ := List.mem_map.mp h
    simp [undeclaredMessage]
  · obtain ⟨e, -, rfl⟩ := List.mem_map.mp h
    cases herror

/-- The rule reports an error for each field that repeats a response key, selection set by selection
set. The number of these errors is that of the fields less that of the keys, over all selection
sets of the document. -/
theorem duplicates_reported_once (handle : Nat) (c : Context) :
    duplicateReports handle c = c.document.nested.flatMap (fun s =>
        (repeats s.fields).map (duplicateError c.document.text)) ∧
      (duplicateReports handle c).length = (c.document.nested.map fun s =>
        s.fields.length - (s.fields.map Field.responseKey).toFinset.card).sum := by
  have hreports : duplicateReports handle c = c.document.nested.flatMap fun s =>
      (repeats s.fields).map (duplicateError c.document.text) := by
    have hvariables : ((variableUse c).filter (·.severity = .error)).filter
        (fun f => "Duplicate field '".toList <+: f.message.toList) = [] := by
      rw [List.filter_filter]
      refine List.filter_eq_nil_iff.mpr fun f hf h => ?_
      rw [Bool.and_eq_true, decide_eq_true_iff, decide_eq_true_iff] at h
      exact not_prefix_of_mem_variableUse hf h.2 h.1
    have hduplicates : ∀ s : SelectionSet, ((repeats s.fields).map duplicate).filter
        (fun f => "Duplicate field '".toList <+: f.message.toList)
          = (repeats s.fields).map duplicate := by
      intro s
      refine List.filter_eq_self.mpr fun f hf => ?_
      obtain ⟨field, -, rfl⟩ := List.mem_map.mp hf
      simp [duplicate, Finding.error]
    rw [duplicateReports_eq, filter_error_findings, List.filter_append, hvariables, List.append_nil,
      filter_error_selectionSets, List.filter_flatMap, List.map_flatMap,
      Document.selectionSets_eq_nested]
    refine List.flatMap_congr fun s _ => ?_
    rw [hduplicates, List.map_map]
    rfl
  refine ⟨hreports, ?_⟩
  rw [hreports, List.length_flatMap]
  simp only [List.length_map, length_repeats]

end BestPractice

end QueryLint
