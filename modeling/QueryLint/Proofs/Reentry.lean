import QueryLint.Proofs.Inlining
import QueryLint.Proofs.Keys

/-! # Depth without operations

In a document without operations depth is measured from the fragments. A way down from a fragment
may then come back to it once, which a query that spreads the fragment does not allow. The depth is
at least the largest depth of such a query and at most twice that, and it is the same exactly if
some longest way does not come back to the fragment where it begins.
-/

namespace QueryLint

/-! ## Ways that come back -/

/-- No spread of a name is picked on a way. -/
def Avoids (name : String) (way : List Selection) : Prop :=
  ∀ s : Spread, .spread s ∈ way → s.name.value ≠ name

section Avoids

variable {name : String} {way : List Selection}

@[simp] theorem avoids_field {f : Field} : Avoids name (.field f :: way) ↔ Avoids name way := by
  simp [Avoids]

@[simp] theorem avoids_inlineFragment {i : InlineFragment} :
    Avoids name (.inlineFragment i :: way) ↔ Avoids name way := by
  simp [Avoids]

@[simp] theorem avoids_spread {s : Spread} :
    Avoids name (.spread s :: way) ↔ s.name.value ≠ name ∧ Avoids name way := by
  simp [Avoids]

end Avoids

theorem fieldsOn_append (way way' : List Selection) :
    fieldsOn (way ++ way') = fieldsOn way + fieldsOn way' := by
  simp [fieldsOn]

namespace Descent

variable {d : Document} {entered entered' : List String} {ss way : List Selection} {name : String}

/-- The fewer fragments are entered, the more ways there are. -/
theorem anti (h : Descent d entered ss way) (hs : entered' ⊆ entered) :
    Descent d entered' ss way := by
  induction h generalizing entered' with
  | stop hx => exact .stop hx
  | field hx hb _ ih => exact .field hx hb (ih hs)
  | inlineFragment hx _ ih => exact .inlineFragment hx (ih hs)
  | spread hx hn hf _ ih =>
    exact .spread hx (fun hmem => hn (hs hmem)) hf (ih (List.cons_subset_cons _ hs))

theorem swap {a b : String} (h : Descent d (a :: b :: entered) ss way) :
    Descent d (b :: a :: entered) ss way :=
  h.anti (List.Perm.swap a b entered).subset

theorem of_avoids (h : Descent d entered ss way) (ha : Avoids name way) :
    Descent d (name :: entered) ss way := by
  induction h with
  | stop hx => exact .stop hx
  | field hx hb _ ih => exact .field hx hb (ih (avoids_field.mp ha))
  | inlineFragment hx _ ih => exact .inlineFragment hx (ih (avoids_inlineFragment.mp ha))
  | spread hx hn hf _ ih =>
    obtain ⟨hne, ha⟩ := avoids_spread.mp ha
    exact .spread hx (List.not_mem_cons_of_ne_of_not_mem hne hn) hf (ih ha).swap

/-- A way does not enter a fragment at all, or it falls into a part before it does so and a part
within that fragment. -/
theorem split (h : Descent d entered ss way) {f : Fragment} (hf : d.lastFragment? name = some f) :
    Descent d (name :: entered) ss way ∨
      ∃ before after, way = before ++ after ∧ Descent d (name :: entered) ss before ∧
        Descent d [name] f.selectionSet.selections after := by
  induction h with
  | stop hx => exact .inl (.stop hx)
  | field hx hb _ ih =>
    rcases ih with hw | ⟨before, after, rfl, hbefore, hafter⟩
    · exact .inl (.field hx hb hw)
    · exact .inr ⟨_, after, rfl, .field hx hb hbefore, hafter⟩
  | inlineFragment hx _ ih =>
    rcases ih with hw | ⟨before, after, rfl, hbefore, hafter⟩
    · exact .inl (.inlineFragment hx hw)
    · exact .inr ⟨_, after, rfl, .inlineFragment hx hbefore, hafter⟩
  | @spread entered ss way s g hx hn hg hw ih =>
    by_cases hs : s.name.value = name
    · subst hs
      obtain rfl := Option.some.inj (hf.symm.trans hg)
      exact .inr ⟨[.spread s], way, rfl, .stop hx, hw.anti (by simp)⟩
    · have hn : s.name.value ∉ name :: entered := List.not_mem_cons_of_ne_of_not_mem hs hn
      rcases ih with hw | ⟨before, after, rfl, hbefore, hafter⟩
      · exact .inl (.spread hx hn hg hw.swap)
      · exact .inr ⟨_, after, rfl, .spread hx hn hg hbefore.swap, hafter⟩

/-- A way may stop at a spread of a fragment that is entered. The same fields are picked without
that spread. -/
theorem exists_avoids (h : Descent d entered ss way) (hn : name ∈ entered)
    (hpos : 0 < fieldsOn way) :
    ∃ way', Descent d entered ss way' ∧ fieldsOn way' = fieldsOn way ∧ Avoids name way' := by
  induction h with
  | @stop entered ss x hx =>
    cases x with
    | field f => exact ⟨[.field f], .stop hx, rfl, by simp [Avoids]⟩
    | spread s => cases hpos
    | inlineFragment i => cases hpos
  | @field entered ss way f body hx hb _ ih =>
    rcases Nat.eq_zero_or_pos (fieldsOn way) with hzero | hpos
    · exact ⟨[.field f], .stop hx, by simp [hzero], by simp [Avoids]⟩
    · obtain ⟨way', hw, he, ha⟩ := ih hn hpos
      exact ⟨_, .field hx hb hw, by rw [fieldsOn_field, he, fieldsOn_field], avoids_field.mpr ha⟩
  | inlineFragment hx _ ih =>
    obtain ⟨way', hw, he, ha⟩ := ih hn hpos
    exact ⟨_, .inlineFragment hx hw, he, avoids_inlineFragment.mpr ha⟩
  | spread hx hns hf _ ih =>
    obtain ⟨way', hw, he, ha⟩ := ih (List.mem_cons_of_mem _ hn) hpos
    exact ⟨_, .spread hx hns hf hw, he,
      avoids_spread.mpr ⟨(ne_of_mem_of_not_mem hn hns).symm, ha⟩⟩

theorem leads {s : Spread} (h : Descent d entered ss way) (hs : .spread s ∈ way) :
    ∃ m, Spreads ss m ∧ Relation.ReflTransGen d.Leads m s.name.value := by
  induction h with
  | stop hx =>
    rw [List.mem_singleton] at hs
    subst hs
    exact ⟨_, spreads_spread hx, .refl⟩
  | field hx hb _ ih =>
    obtain ⟨m, hm, hlead⟩ := ih (by simpa using hs)
    exact ⟨m, hm.of_field hx hb, hlead⟩
  | inlineFragment hx _ ih =>
    obtain ⟨m, hm, hlead⟩ := ih (by simpa using hs)
    exact ⟨m, hm.of_inlineFragment hx, hlead⟩
  | @spread entered ss way t g hx hn hg _ ih =>
    refine ⟨t.name.value, spreads_spread hx, ?_⟩
    rcases List.mem_cons.mp hs with heq | hs
    · obtain rfl := Selection.spread.inj heq
      exact .refl
    · obtain ⟨m, hm, hlead⟩ := ih hs
      exact hlead.head ⟨g, hg, hm⟩

end Descent

/-! ## Queries of one spread -/

/-- The largest of some numbers is one of them, unless it is zero for want of any. -/
theorem getD_max?_mem {l : List Nat} (h : 0 < l.max?.getD 0) : l.max?.getD 0 ∈ l := by
  cases hm : l.max? with
  | none => simp [hm] at h
  | some m => exact List.max?_mem hm

/-- The query that does nothing but spread a fragment. -/
def Operation.spreading (name : String) : Operation :=
  { kind := .query, name := none, declarations := [], directives := []
    selectionSet := some ⟨[.spread ⟨{ value := name }, [], none⟩], none⟩, span := none }

namespace Document

variable {d : Document} {name : String} {f : Fragment} {way : List Selection}

def withOperation (d : Document) (o : Operation) : Document :=
  { d with definitions := d.definitions ++ [.operation o] }

/-- The largest depth that the document has with one query added, which spreads one of its
fragments. -/
def spreadDepth (d : Document) : Nat :=
  ((d.fragments.map fun f => (d.withOperation (.spreading f.name.value)).maxDepth).max?).getD 0

def DescendsFrom (d : Document) (name : String) (way : List Selection) : Prop :=
  ∃ f, d.lastFragment? name = some f ∧ Descent d [] f.selectionSet.selections way

theorem fragmentTable_withOperation (d : Document) (o : Operation) :
    (d.withOperation o).fragmentTable = d.fragmentTable := by
  have hfragments : (d.withOperation o).fragments = d.fragments := by
    rw [fragments, withOperation, List.filterMap_append]
    exact List.append_nil _
  rw [fragmentTable, hfragments, fragmentTable]

theorem depthRoots_withOperation (h : d.operations = []) (name : String) :
    (d.withOperation (.spreading name)).depthRoots
      = [⟨[.spread ⟨{ value := name }, [], none⟩], none⟩] := by
  have hoperations : (d.withOperation (.spreading name)).operations = [.spreading name] := by
    rw [operations] at h
    rw [operations, withOperation, List.filterMap_append, h]
    rfl
  rw [depthRoots, hoperations]
  rfl

theorem maxDepth_withOperation (h : d.operations = []) (hf : d.lastFragment? name = some f) :
    (d.withOperation (.spreading name)).maxDepth
      = selectionsDepth (d.fragmentTable.erase name) f.selectionSet.selections := by
  have hget : d.fragmentTable.get? name = some f := (d.get?_fragmentTable name).trans hf
  rw [maxDepth, depthRoots_withOperation h, fragmentTable_withOperation, List.map_singleton,
    selectionSetDepth_eq, selectionsDepth, selectionsDepth, selectionDepth_spread hget,
    Nat.max_zero]
  rfl

/-! ## The two depths and their ways -/

section Alone

variable (h : d.operations = [])

include h

theorem fieldsOn_le_spreadDepth (hf : d.lastFragment? name = some f)
    (hw : Descent d [name] f.selectionSet.selections way) : fieldsOn way ≤ d.spreadDepth := by
  obtain ⟨hmem, rfl⟩ := mem_of_lastFragment? hf
  have hle := hw.fieldsOn_le ((remaining_fragmentTable d).erase f.name.value)
  rw [← maxDepth_withOperation h hf] at hle
  exact hle.trans (List.le_max?_getD_of_mem (List.mem_map_of_mem hmem))

theorem exists_descent_eq_spreadDepth (hpos : 0 < d.spreadDepth) :
    ∃ name f way, d.lastFragment? name = some f ∧
      Descent d [name] f.selectionSet.selections way ∧ fieldsOn way = d.spreadDepth := by
  obtain ⟨g, hg, hdepth⟩ := List.mem_map.mp (getD_max?_mem hpos)
  obtain ⟨f, hf⟩ := Option.ne_none_iff_exists'.mp fun hnone =>
    lastFragment?_eq_none_iff.mp hnone (List.mem_map_of_mem hg)
  rw [maxDepth_withOperation h hf, ← spreadDepth] at hdepth
  have hne : f.selectionSet.selections ≠ [] := by
    intro hnil
    rw [hnil, selectionsDepth] at hdepth
    omega
  obtain ⟨way, hw, he⟩ :=
    exists_descent d _ _ _ ((remaining_fragmentTable d).erase g.name.value) hne
  exact ⟨_, f, way, hf, hw, he.trans hdepth⟩

theorem DescendsFrom.fieldsOn_le (hw : d.DescendsFrom name way) : fieldsOn way ≤ d.maxDepth := by
  obtain ⟨f, hf, hw⟩ := hw
  have hroot : f.selectionSet ∈ d.depthRoots := by
    rw [← get?_fragmentTable] at hf
    rw [depthRoots, h, Table.values, List.map_map]
    exact List.mem_map_of_mem (Table.mem_of_find? hf)
  have hle := hw.fieldsOn_le (remaining_fragmentTable d)
  rw [← selectionSetDepth_eq] at hle
  exact hle.trans (List.le_max?_getD_of_mem (List.mem_map_of_mem hroot))

theorem exists_descendsFrom_eq_maxDepth (hpos : 0 < d.maxDepth) :
    ∃ name way, d.DescendsFrom name way ∧ fieldsOn way = d.maxDepth := by
  obtain ⟨body, hbody, hdepth⟩ := List.mem_map.mp (getD_max?_mem hpos)
  rw [← maxDepth, selectionSetDepth_eq] at hdepth
  rw [depthRoots, h, Table.values, List.map_map] at hbody
  obtain ⟨⟨name, f⟩, he, rfl⟩ := List.mem_map.mp hbody
  have hf : d.lastFragment? name = some f :=
    (d.get?_fragmentTable name).symm.trans ((Table.distinct_ofList _).mem_entries_iff.mp he)
  have hne : f.selectionSet.selections ≠ [] := by
    intro hnil
    simp only [Function.comp_apply, hnil, selectionsDepth] at hdepth
    omega
  obtain ⟨way, hw, he⟩ := exists_descent d _ _ _ (remaining_fragmentTable d) hne
  exact ⟨name, way, ⟨f, hf, hw⟩, he.trans hdepth⟩

theorem spreadDepth_le_maxDepth : d.spreadDepth ≤ d.maxDepth := by
  rcases Nat.eq_zero_or_pos d.spreadDepth with hzero | hpos
  · rw [hzero]
    exact Nat.zero_le _
  · obtain ⟨name, f, way, hf, hw, he⟩ := exists_descent_eq_spreadDepth h hpos
    exact he ▸ DescendsFrom.fieldsOn_le h ⟨f, hf, hw.anti (List.nil_subset _)⟩

/-- A longest way comes back to its fragment at most once, and neither part is longer than a way
from a query. -/
theorem maxDepth_le_two_mul_spreadDepth : d.maxDepth ≤ 2 * d.spreadDepth := by
  rcases Nat.eq_zero_or_pos d.maxDepth with hzero | hpos
  · rw [hzero]
    exact Nat.zero_le _
  · obtain ⟨name, way, ⟨f, hf, hw⟩, he⟩ := exists_descendsFrom_eq_maxDepth h hpos
    rw [← he]
    rcases hw.split hf with hw | ⟨before, after, rfl, hbefore, hafter⟩
    · have hle := fieldsOn_le_spreadDepth h hf hw
      omega
    · have hle := fieldsOn_le_spreadDepth h hf hbefore
      have hle' := fieldsOn_le_spreadDepth h hf hafter
      rw [fieldsOn_append]
      omega

theorem maxDepth_le_spreadDepth_of_avoids (hw : d.DescendsFrom name way)
    (he : fieldsOn way = d.maxDepth) (ha : Avoids name way) : d.maxDepth ≤ d.spreadDepth := by
  obtain ⟨f, hf, hw⟩ := hw
  rw [← he]
  exact fieldsOn_le_spreadDepth h hf (hw.of_avoids ha)

theorem maxDepth_eq_spreadDepth_iff : d.maxDepth = d.spreadDepth ↔ d.maxDepth = 0 ∨
    ∃ name way, d.DescendsFrom name way ∧ fieldsOn way = d.maxDepth ∧ Avoids name way := by
  have hle := spreadDepth_le_maxDepth h
  constructor
  · intro heq
    rcases Nat.eq_zero_or_pos d.maxDepth with hzero | hpos
    · exact .inl hzero
    · rw [heq] at hpos
      obtain ⟨name, f, way, hf, hw, he⟩ := exists_descent_eq_spreadDepth h hpos
      obtain ⟨way', hw', he', ha⟩ := hw.exists_avoids List.mem_cons_self (he ▸ hpos)
      exact .inr ⟨name, way', ⟨f, hf, hw'.anti (List.nil_subset _)⟩, by rw [he', he, heq], ha⟩
  · rintro (hzero | ⟨name, way, hw, he, ha⟩)
    · omega
    · exact Nat.le_antisymm (maxDepth_le_spreadDepth_of_avoids h hw he ha) hle

end Alone

theorem Acyclic.avoids (hd : d.Acyclic) (hw : d.DescendsFrom name way) : Avoids name way := by
  obtain ⟨f, hf, hw⟩ := hw
  rintro s hs rfl
  obtain ⟨m, hm, hlead⟩ := hw.leads hs
  exact hd.not_leads_self (Relation.TransGen.head' ⟨f, hf, hm⟩ hlead)

theorem Acyclic.maxDepth_eq_spreadDepth (hd : d.Acyclic) (h : d.operations = []) :
    d.maxDepth = d.spreadDepth := by
  rw [maxDepth_eq_spreadDepth_iff h]
  rcases Nat.eq_zero_or_pos d.maxDepth with hzero | hpos
  · exact .inl hzero
  · obtain ⟨name, way, hw, he⟩ := exists_descendsFrom_eq_maxDepth h hpos
    exact .inr ⟨name, way, hw, he, hd.avoids hw⟩

/-- The depth of a document without operations against the largest depth of a query that spreads one
of its fragments: it is never smaller and at most twice as large, it is the same exactly if some
longest way does not come back to the fragment where it begins, and so it is where spreads do not
lead around in a circle. -/
theorem fragments_alone_depth (h : d.operations = []) :
    (d.spreadDepth ≤ d.maxDepth ∧ d.maxDepth ≤ 2 * d.spreadDepth) ∧
      (d.maxDepth = d.spreadDepth ↔ d.maxDepth = 0 ∨
        ∃ name way, d.DescendsFrom name way ∧ fieldsOn way = d.maxDepth ∧ Avoids name way) ∧
      (d.Acyclic → d.maxDepth = d.spreadDepth) := by
  refine ⟨⟨spreadDepth_le_maxDepth h, ?_⟩, maxDepth_eq_spreadDepth_iff h, fun hd => ?_⟩
  · exact maxDepth_le_two_mul_spreadDepth h
  · exact hd.maxDepth_eq_spreadDepth h

/-- A fragment that spreads itself under its only field. -/
def returning : Document :=
  { definitions := [.fragment ⟨{ value := "F" }, ⟨{ value := "T" }, none⟩, [],
      ⟨[.field ⟨none, { value := "a" }, [], [],
        some ⟨[.spread ⟨{ value := "F" }, [], none⟩], none⟩, none⟩], none⟩, none⟩] }

/-- The field is counted twice, and every way with two fields comes back to the fragment. -/
theorem fragments_alone_depth_returning : returning.operations = [] ∧ returning.maxDepth = 2 ∧
    returning.spreadDepth = 1 ∧
      ∀ name way, returning.DescendsFrom name way → fieldsOn way = 2 → ¬ Avoids name way := by
  have h : returning.operations = [] := rfl
  have hdepths : returning.depthRoots.map (selectionSetDepth returning.fragmentTable) = [2] := by
    simp [returning, depthRoots, operations, Definition.operation?, List.filterMap_cons,
      fragmentTable, fragments, Definition.fragment?, selectionSetDepth, selectionsDepth,
      selectionDepth, Table.ofList, Table.insert, Table.insertEntries, Table.get?, Table.find?,
      Table.erase, Table.values]
  have hdepth : returning.maxDepth = 2 := by
    rw [maxDepth, hdepths]
    rfl
  have hquery : (returning.withOperation (.spreading "F")).maxDepth = 1 := by
    rw [maxDepth_withOperation h rfl]
    simp [returning, fragmentTable, fragments, Definition.fragment?, selectionSetDepth,
      selectionsDepth, selectionDepth, Table.ofList, Table.insert, Table.insertEntries, Table.get?,
      Table.find?, Table.erase]
  have hspread : returning.spreadDepth = 1 := by
    change [(returning.withOperation (.spreading "F")).maxDepth].max?.getD 0 = 1
    rw [hquery]
    rfl
  refine ⟨h, hdepth, hspread, fun name way hw hfields ha => ?_⟩
  obtain ⟨-, heq_iff, -⟩ := fragments_alone_depth h
  have heq := heq_iff.mpr (.inr ⟨name, way, hw, hfields.trans hdepth.symm, ha⟩)
  rw [hdepth, hspread] at heq
  cases heq

end Document

end QueryLint
