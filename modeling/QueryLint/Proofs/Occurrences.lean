import Mathlib.Data.List.Flatten
import Mathlib.Data.List.Perm.Subperm
import QueryLint.Proofs.Descent
import QueryLint.Proofs.Reach

/-! # No field is counted twice on a way down

A way down enters a fragment at most once, so all the fields it picks stand at different places of
the document. A document is therefore never deeper than it has fields, even if its spreads lead
around in a circle.
-/

namespace QueryLint

/-! ## Fields under a node -/

theorem sublist_flatMap_of_mem {α β : Type} {a : α} {l : List α} (h : a ∈ l) (g : α → List β) :
    (g a).Sublist (l.flatMap g) := by
  have ha := (List.singleton_sublist.mpr h).flatMap g
  rwa [List.flatMap_singleton] at ha

theorem Node.fields_eq (n : Node) : n.fields = n.field?.toList ++ n.children.flatMap fields :=
  filterMap_walk field? n

/-- The fields under some selections; spreads are not followed. -/
def fieldsUnder (ss : List Selection) : List Field :=
  ss.flatMap fun x => (Node.ofSelection x).fields

section FieldsUnder

variable {n : Node} {ss : List Selection} {x : Selection} {f : Field} {body : SelectionSet}

theorem fields_sublist_fieldsUnder (h : x ∈ ss) :
    (Node.ofSelection x).fields.Sublist (fieldsUnder ss) :=
  sublist_flatMap_of_mem h fun x => (Node.ofSelection x).fields

theorem fieldsUnder_sublist_children (h : .selectionSet body ∈ n.children) :
    (fieldsUnder body.selections).Sublist (n.children.flatMap Node.fields) := by
  have hbody : (Node.selectionSet body).fields = fieldsUnder body.selections := by
    rw [Node.fields_eq, Node.children, List.flatMap_map]
    rfl
  exact hbody ▸ sublist_flatMap_of_mem h Node.fields

theorem fieldsUnder_sublist_fields (h : .selectionSet body ∈ n.children) :
    (fieldsUnder body.selections).Sublist n.fields := by
  rw [Node.fields_eq]
  exact (fieldsUnder_sublist_children h).trans (List.sublist_append_right _ _)

theorem cons_fieldsUnder_sublist (hf : .field f ∈ ss) (hb : f.selectionSet = some body) :
    (f :: fieldsUnder body.selections).Sublist (fieldsUnder ss) := by
  refine List.Sublist.trans ?_ (fields_sublist_fieldsUnder hf)
  rw [Node.ofSelection, Node.fields_eq]
  refine List.Sublist.cons_cons f (fieldsUnder_sublist_children ?_)
  simp [Node.children, hb]

end FieldsUnder

/-! ## Fields on a way -/

namespace Document

variable {d : Document} {entered : List String}

/-- The fields of the fragments that have not been entered. -/
def fieldsAhead (d : Document) (entered : List String) : List Field :=
  (d.fragments.filter fun g => g.name.value ∉ entered).flatMap fun g => (Node.fragment g).fields

/-- To enter a fragment is to leave behind its fields and those of all other definitions of its
name. -/
theorem fields_append_fieldsAhead_subperm {name : String} {g : Fragment} (hn : name ∉ entered)
    (hg : d.lastFragment? name = some g) :
    ((Node.fragment g).fields ++ d.fieldsAhead (name :: entered)).Subperm
      (d.fieldsAhead entered) := by
  obtain ⟨hmem, hname⟩ := mem_of_lastFragment? hg
  have hrest : (d.fragments.filter fun g => g.name.value ∉ entered).filter
      (fun g => !decide (g.name.value = name))
        = d.fragments.filter fun g => g.name.value ∉ name :: entered := by
    rw [List.filter_filter]
    refine List.filter_congr fun g _ => ?_
    simp
  have hfirst : g ∈ (d.fragments.filter fun g => g.name.value ∉ entered).filter
      (fun g => decide (g.name.value = name)) := by
    simp [hmem, hname, hn]
  have hperm := List.filter_append_perm (fun g : Fragment => decide (g.name.value = name))
    (d.fragments.filter fun g => g.name.value ∉ entered)
  rw [hrest] at hperm
  have hsub := ((List.singleton_sublist.mpr hfirst).append_right
    (d.fragments.filter fun g => g.name.value ∉ name :: entered)).flatMap
      fun g => (Node.fragment g).fields
  exact hsub.subperm.trans (hperm.flatMap_right _).subperm

end Document

/-- The fields on a way down are among those under its selections and in the fragments that were not
entered before, each as often as it stands there. -/
theorem Descent.fields_subperm {d : Document} {entered : List String} {ss way : List Selection}
    (h : Descent d entered ss way) :
    (way.filterMap Selection.field?).Subperm (fieldsUnder ss ++ d.fieldsAhead entered) := by
  induction h with
  | @stop entered ss x hx =>
    cases x with
    | field f =>
      refine List.singleton_subperm_iff.mpr (List.mem_append_left _ ?_)
      refine (fields_sublist_fieldsUnder hx).subset ?_
      rw [Node.ofSelection, Node.fields_eq]
      exact List.mem_cons_self
    | spread s => exact List.nil_subperm
    | inlineFragment i => exact List.nil_subperm
  | @field entered ss way f body hx hb _ ih =>
    have hcons := ((cons_fieldsUnder_sublist hx hb).append_right (d.fieldsAhead entered)).subperm
    exact ((List.subperm_cons f).mpr ih).trans hcons
  | @inlineFragment entered ss way i hx _ ih =>
    have hbody : (fieldsUnder i.selectionSet.selections).Sublist (fieldsUnder ss) :=
      (fieldsUnder_sublist_fields (by simp [Node.ofSelection, Node.children])).trans
        (fields_sublist_fieldsUnder hx)
    exact ih.trans (hbody.append_right _).subperm
  | @spread entered ss way s g hx hn hg _ ih =>
    have hbody : (fieldsUnder g.selectionSet.selections).Sublist (Node.fragment g).fields :=
      fieldsUnder_sublist_fields (by simp [Node.children])
    have henter := Document.fields_append_fieldsAhead_subperm hn hg
    refine ih.trans ((hbody.append_right _).subperm.trans (henter.trans ?_))
    exact (List.sublist_append_right _ _).subperm

/-! ## Fields of a document -/

namespace Document

variable {d : Document} {way : List Selection}

theorem fields_perm (d : Document) : d.fields.Perm
    (d.operations.flatMap (fun o => (Node.operation o).fields)
      ++ d.fragments.flatMap fun g => (Node.fragment g).fields) := by
  have hfields : d.fields = d.definitions.flatMap fun x => (Node.ofDefinition x).fields := by
    rw [fields, Node.fields_eq, root, Node.children, List.flatMap_map]
    rfl
  rw [hfields, operations, fragments]
  induction d.definitions with
  | nil => exact .refl _
  | cons x xs ih =>
    cases x with
    | operation o =>
      simp only [List.filterMap_cons, Definition.operation?, Definition.fragment?,
        List.flatMap_cons, List.append_assoc]
      exact ih.append_left _
    | fragment g =>
      simp only [List.filterMap_cons, Definition.operation?, Definition.fragment?,
        List.flatMap_cons]
      exact (ih.append_left _).trans (List.perm_append_comm_assoc _ _ _)
    | typeSystem t =>
      have hnone : (Node.ofDefinition (.typeSystem t)).fields = [] := by
        rw [Node.ofDefinition, Node.fields_eq]
        rfl
      simp only [List.filterMap_cons, Definition.operation?, Definition.fragment?,
        List.flatMap_cons, hnone, List.nil_append]
      exact ih

theorem Descends.fields_subperm (h : d.Descends way) :
    (way.filterMap Selection.field?).Subperm d.fields := by
  obtain ⟨o, ho, body, hb, hw⟩ := h
  have hahead : d.fieldsAhead [] = d.fragments.flatMap fun g => (Node.fragment g).fields := by
    simp [fieldsAhead]
  have hbody : (fieldsUnder body.selections).Sublist
      (d.operations.flatMap fun o => (Node.operation o).fields) :=
    (fieldsUnder_sublist_fields (by simp [Node.children, hb])).trans
      (sublist_flatMap_of_mem ho fun o => (Node.operation o).fields)
  have hway := hw.fields_subperm
  rw [hahead] at hway
  exact hway.trans ((hbody.append_right _).subperm.trans d.fields_perm.symm.subperm)

/-- A document with operations is no deeper than it has fields: a way down picks none of them
twice. -/
theorem maxDepth_le_fieldCount (h : d.operations ≠ []) : d.maxDepth ≤ d.fieldCount ∧
    ∀ way, d.Descends way → (way.filterMap Selection.field?).Subperm d.fields := by
  refine ⟨?_, fun way => Descends.fields_subperm⟩
  rcases exists_descends_or_maxDepth_eq_zero h with ⟨way, hw, hdepth⟩ | hzero
  · rw [← hdepth]
    exact hw.fields_subperm.length_le
  · rw [hzero]
    exact Nat.zero_le _

/-- A query of two fragments that spread each other under their only fields. -/
def interlocked : Document :=
  let spread (name : String) : Selection := .spread ⟨⟨name, none⟩, [], none⟩
  let fragment (name field next : String) : Definition :=
    .fragment ⟨⟨name, none⟩, ⟨⟨"T", none⟩, none⟩, [],
      ⟨[.field ⟨none, ⟨field, none⟩, [], [], some ⟨[spread next], none⟩, none⟩], none⟩, none⟩
  { definitions :=
      [.operation ⟨.query, none, [], [], some ⟨[spread "F"], none⟩, none⟩,
       fragment "F" "a" "G", fragment "G" "b" "F"] }

/-- The depth may be as large as the number of fields. -/
theorem maxDepth_le_fieldCount_interlocked : interlocked.operations ≠ [] ∧
    interlocked.maxDepth ≤ interlocked.fieldCount ∧ interlocked.maxDepth = 2 ∧
      interlocked.fieldCount = 2 := by
  have hne : interlocked.operations ≠ [] := by decide
  have hdepths :
      interlocked.depthRoots.map (selectionSetDepth interlocked.fragmentTable) = [2] := by
    simp [interlocked, depthRoots, operations, Definition.operation?, List.filterMap_cons,
      fragmentTable, fragments, Definition.fragment?, selectionSetDepth, selectionsDepth,
      selectionDepth, Table.ofList, Table.insert, Table.insertEntries, Table.get?, Table.find?,
      Table.erase]
  have hdepth : interlocked.maxDepth = 2 := by
    rw [maxDepth, hdepths]
    rfl
  have hcount : interlocked.fieldCount = 2 := by
    simp [interlocked, fieldCount, root, Node.fieldCount, Node.fields, Node.walk, Node.walkStack,
      Node.children, Node.ofDefinition, Node.ofSelection, Node.field?, List.filterMap_cons]
  exact ⟨hne, (maxDepth_le_fieldCount hne).1, hdepth, hcount⟩

end Document

end QueryLint
