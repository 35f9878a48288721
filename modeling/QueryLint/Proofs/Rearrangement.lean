import Mathlib.Data.List.Perm.Basic
import QueryLint.Proofs.Descent
import QueryLint.Proofs.Keys
import QueryLint.Proofs.Reach

/-! # Rearranged documents

The definitions of a document may stand in another order. If no two fragments share a name, a spread
then still leads to the same fragment, so that depths and what an operation reaches are unchanged;
the nodes below the root are the same, in another order.
-/

namespace QueryLint

section Lists

variable {l l' : List Nat}

theorem max?_eq_of_perm (h : l.Perm l') : l.max? = l'.max? := by
  refine Option.ext fun n => ?_
  rw [List.max?_eq_some_iff, List.max?_eq_some_iff]
  simp only [h.mem_iff]

end Lists

/-- Two tables that leave the same fragments to be entered give the same depth. -/
theorem selectionsDepth_eq_of_remaining {d : Document} {entered : List String}
    {available available' : Table Fragment} (h : Remaining d entered available)
    (h' : Remaining d entered available') (ss : List Selection) :
    selectionsDepth available ss = selectionsDepth available' ss := by
  by_cases hne : ss = []
  · rw [hne, selectionsDepth, selectionsDepth]
  · -- Each depth is attained on a way down, and the other table allows the same ways.
    obtain ⟨way, hw, he⟩ := exists_descent d available ss entered h hne
    obtain ⟨way', hw', he'⟩ := exists_descent d available' ss entered h' hne
    refine le_antisymm ?_ ?_
    · exact he ▸ hw.fieldsOn_le h'
    · exact he' ▸ hw'.fieldsOn_le h

namespace Document

theorem nodes_eq (d : Document) :
    d.nodes = d.root :: d.definitions.flatMap fun x => (Node.ofDefinition x).walk := by
  rw [nodes, Node.walk_eq, root, Node.children, List.flatMap_map]

theorem lastFragment?_eq_some_iff {d : Document} (h : (d.fragments.map (·.name.value)).Nodup)
    {name : String} {f : Fragment} :
    d.lastFragment? name = some f ↔ f ∈ d.fragments ∧ f.name.value = name := by
  refine ⟨mem_of_lastFragment?, ?_⟩
  rintro ⟨hf, rfl⟩
  cases hg : d.lastFragment? f.name.value with
  | none => exact absurd (List.mem_map_of_mem hf) (lastFragment?_eq_none_iff.mp hg)
  | some g =>
    obtain ⟨hmem, hname⟩ := mem_of_lastFragment? hg
    rw [List.inj_on_of_nodup_map h hmem hf hname]

/-- The same definitions in another order; no two fragments share a name. -/
structure Rearranged (d d' : Document) : Prop where
  perm : d.definitions.Perm d'.definitions
  nodup : (d.fragments.map (·.name.value)).Nodup

namespace Rearranged

variable {d d' : Document}

theorem symm (h : d.Rearranged d') : d'.Rearranged d :=
  ⟨h.perm.symm, ((h.perm.filterMap _).map _).nodup_iff.mp h.nodup⟩

variable (h : d.Rearranged d')

include h

theorem operations_perm : d.operations.Perm d'.operations :=
  h.perm.filterMap _

theorem fragments_perm : d.fragments.Perm d'.fragments :=
  h.perm.filterMap _

/-! ## Nodes -/

/-- What has nothing to say about the root says the same about all nodes. -/
theorem flatMap_nodes_perm {α : Type} {g : Node → List α} (hg : ∀ ds s, g (.document ds s) = []) :
    (d.nodes.flatMap g).Perm (d'.nodes.flatMap g) := by
  rw [nodes_eq, nodes_eq, root, root, List.flatMap_cons, List.flatMap_cons, hg, hg]
  exact (h.perm.flatMap_right _).flatMap_right g

theorem filterMap_nodes_perm {α : Type} {view : Node → Option α}
    (hview : ∀ ds s, view (.document ds s) = none) :
    (d.nodes.filterMap view).Perm (d'.nodes.filterMap view) := by
  rw [List.filterMap_eq_flatMap_toList, List.filterMap_eq_flatMap_toList]
  exact h.flatMap_nodes_perm fun ds s => by rw [hview, Option.toList_none]

theorem fields_perm : d.fields.Perm d'.fields :=
  h.filterMap_nodes_perm fun _ _ => rfl

theorem arguments_perm : d.arguments.Perm d'.arguments :=
  h.filterMap_nodes_perm fun _ _ => rfl

theorem directives_perm : d.directives.Perm d'.directives :=
  h.filterMap_nodes_perm fun _ _ => rfl

theorem spreads_perm : d.spreads.Perm d'.spreads :=
  h.filterMap_nodes_perm fun _ _ => rfl

theorem selectionSets_perm : d.selectionSets.Perm d'.selectionSets :=
  h.filterMap_nodes_perm fun _ _ => rfl

theorem fieldCount_eq : d.fieldCount = d'.fieldCount :=
  h.fields_perm.length_eq

theorem hasIntrospection_eq : d.hasIntrospection = d'.hasIntrospection :=
  h.fields_perm.any_eq

theorem maxBreadth_eq : d.maxBreadth = d'.maxBreadth := by
  rw [maxBreadth, maxBreadth, max?_eq_of_perm (h.selectionSets_perm.map _)]

/-! ## Fragments and depth -/

theorem lastFragment?_eq (name : String) : d.lastFragment? name = d'.lastFragment? name := by
  refine Option.ext fun f => ?_
  rw [lastFragment?_eq_some_iff h.nodup, lastFragment?_eq_some_iff h.symm.nodup,
    h.fragments_perm.mem_iff]

theorem get?_fragmentTable_eq (name : String) :
    d.fragmentTable.get? name = d'.fragmentTable.get? name := by
  rw [get?_fragmentTable, get?_fragmentTable, h.lastFragment?_eq]

theorem selectionSetDepth_eq (s : SelectionSet) :
    selectionSetDepth d.fragmentTable s = selectionSetDepth d'.fragmentTable s := by
  have hremaining : Remaining d [] d'.fragmentTable := by
    intro name
    rw [← h.get?_fragmentTable_eq]
    exact remaining_fragmentTable d name
  rw [QueryLint.selectionSetDepth_eq, QueryLint.selectionSetDepth_eq]
  exact selectionsDepth_eq_of_remaining (remaining_fragmentTable d) hremaining _

theorem fieldDepth_eq (f : Field) : d.fieldDepth f = d'.fieldDepth f := by
  unfold fieldDepth
  split
  · rw [h.selectionSetDepth_eq]
  · rfl

theorem depthRoots_perm : d.depthRoots.Perm d'.depthRoots := by
  have hentries : d.fragmentTable.entries.Perm d'.fragmentTable.entries :=
    (Table.distinct_ofList _).entries_perm (Table.distinct_ofList _) h.get?_fragmentTable_eq
  unfold depthRoots
  rw [h.operations_perm.isEmpty_eq]
  split
  · exact (hentries.map _).map _
  · exact h.operations_perm.filterMap _

theorem maxDepth_eq : d.maxDepth = d'.maxDepth := by
  have hdepths := h.depthRoots_perm.map (selectionSetDepth d.fragmentTable)
  rw [maxDepth, maxDepth, max?_eq_of_perm hdepths, funext h.selectionSetDepth_eq]

/-! ## Reach -/

theorem reaches {o : Operation} {n : Node} (hn : d.Reaches o n) : d'.Reaches o n := by
  induction hn with
  | own hc => exact .own hc
  | spread _ hf hc ih =>
    rw [h.lastFragment?_eq] at hf
    exact .spread ih hf hc

theorem mem_reach {o : Operation} {n : Node} : n ∈ d.reach o ↔ n ∈ d'.reach o := by
  rw [mem_reach_iff, mem_reach_iff]
  exact ⟨h.reaches, h.symm.reaches⟩

end Rearranged

end Document

end QueryLint
