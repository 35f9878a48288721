import QueryLint.Proofs.Reentry

/-! # The depth of the fields that are reached

The depth below a field is measured as if no fragment had been entered on the way to it. Where
spreads do not lead around in a circle, that makes no difference: the fields that an operation
reaches, through whatever chain of spreads, are no deeper than the document, and one of them is as
deep.
-/

namespace QueryLint

/-! ## Depth of selections -/

section Depth

variable {d : Document} {entered : List String} {available : Table Fragment}
  {ss ss' : List Selection}

theorem selectionsDepth_singleton (x : Selection) :
    selectionsDepth available [x] = selectionDepth available x := by
  rw [selectionsDepth, selectionsDepth, Nat.max_zero]

theorem selectionsDepth_mono (h : ss ⊆ ss') :
    selectionsDepth available ss ≤ selectionsDepth available ss' := by
  induction ss with
  | nil =>
    rw [selectionsDepth]
    exact Nat.zero_le _
  | cons x ss ih =>
    rw [selectionsDepth]
    exact max_le (selectionDepth_le (h List.mem_cons_self)) (ih (List.subset_of_cons_subset h))

/-- Without circles the depth does not depend on what was entered before, if nothing of it is led
to: inlining gives selections that are as deep under either table. -/
theorem Document.Acyclic.selectionsDepth_eq (hd : d.Acyclic) (hr : Remaining d entered available)
    (hu : Unentered d entered ss) :
    selectionsDepth available ss = selectionsDepth d.fragmentTable ss := by
  have hlost : ∀ name, d.lastFragment? name = none → d.fragmentTable.get? name = none := by
    intro name hn
    rw [d.get?_fragmentTable, hn]
  obtain ⟨ss', hss⟩ := exists_inlines hd available ss entered hr hu
  calc selectionsDepth available ss
      = selectionsDepth d.fragmentTable ss' := (hss.selectionsDepth_eq hd hr hu hlost).symm
    _ = selectionsDepth d.fragmentTable ss :=
        hss.selectionsDepth_eq hd (remaining_fragmentTable d) (fun _ _ _ _ => List.not_mem_nil)
          hlost

theorem Document.Acyclic.selectionDepth_spread (hd : d.Acyclic) {s : Spread} {f : Fragment}
    (hf : d.lastFragment? s.name.value = some f) :
    selectionDepth d.fragmentTable (.spread s)
      = selectionsDepth d.fragmentTable f.selectionSet.selections := by
  have hnone : Unentered d [] [.spread s] := fun _ _ _ _ => List.not_mem_nil
  rw [QueryLint.selectionDepth_spread ((d.get?_fragmentTable _).trans hf)]
  exact hd.selectionsDepth_eq ((remaining_fragmentTable d).erase _)
    (hnone.enter hd List.mem_cons_self hf)

end Depth

/-! ## Selections of a node -/

def Definition.selections : Definition → List Selection
  | .operation o => o.selectionSet.elim [] (·.selections)
  | .fragment f => f.selectionSet.selections
  | .typeSystem _ => []

namespace Node

def selections : Node → List Selection
  | .document ds _ => ds.flatMap Definition.selections
  | .operation o => o.selectionSet.elim [] (·.selections)
  | .fragment f => f.selectionSet.selections
  | .selectionSet s => s.selections
  | .field f => [.field f]
  | .spread s => [.spread s]
  | .inlineFragment i => [.inlineFragment i]
  | _ => []

variable {available : Table Fragment} {n m : Node}

theorem selections_ofSelection (x : Selection) : (ofSelection x).selections = [x] := by
  cases x <;> rfl

theorem selections_ofDefinition (x : Definition) : (ofDefinition x).selections = x.selections := by
  cases x <;> rfl

theorem selectionsDepth_le_of_mem_children (h : m ∈ n.children) :
    selectionsDepth available m.selections ≤ selectionsDepth available n.selections := by
  cases n with
  | document ds s =>
    obtain ⟨x, hx, rfl⟩ := List.mem_map.mp h
    rw [selections_ofDefinition]
    exact selectionsDepth_mono fun y hy => List.mem_flatMap.mpr ⟨x, hx, hy⟩
  | operation o =>
    simp only [children, List.mem_append, List.mem_map, Option.mem_toList] at h
    rcases h with (⟨v, -, rfl⟩ | ⟨r, -, rfl⟩) | ⟨s, hs, rfl⟩
    · exact selectionsDepth_mono (List.nil_subset _)
    · exact selectionsDepth_mono (List.nil_subset _)
    · rw [selections, selections, hs]
      exact le_rfl
  | fragment f =>
    simp only [children, List.mem_append, List.mem_map, List.mem_singleton] at h
    rcases h with ⟨r, -, rfl⟩ | rfl
    · exact selectionsDepth_mono (List.nil_subset _)
    · exact le_rfl
  | selectionSet s =>
    obtain ⟨x, hx, rfl⟩ := List.mem_map.mp h
    rw [selections_ofSelection, selectionsDepth_singleton]
    exact selectionDepth_le hx
  | field f =>
    simp only [children, List.mem_append, List.mem_map, Option.mem_toList] at h
    rcases h with (⟨a, -, rfl⟩ | ⟨r, -, rfl⟩) | ⟨s, hs, rfl⟩
    · exact selectionsDepth_mono (List.nil_subset _)
    · exact selectionsDepth_mono (List.nil_subset _)
    · rw [selections, selections, selectionsDepth_singleton, selectionDepth_field hs]
      exact Nat.le_add_left _ _
  | spread s =>
    obtain ⟨r, -, rfl⟩ := List.mem_map.mp h
    exact selectionsDepth_mono (List.nil_subset _)
  | inlineFragment i =>
    simp only [children, List.mem_append, List.mem_map, List.mem_singleton] at h
    rcases h with ⟨r, -, rfl⟩ | rfl
    · exact selectionsDepth_mono (List.nil_subset _)
    · rw [selections, selections, selectionsDepth_singleton, selectionDepth_inlineFragment]
  | typeSystem t => cases h
  | variableDefinition v =>
    simp only [children, List.mem_append, List.mem_map] at h
    rcases h with ⟨v, -, rfl⟩ | ⟨r, -, rfl⟩ <;> exact le_rfl
  | argument a =>
    obtain rfl := List.mem_singleton.mp h
    exact le_rfl
  | directive r =>
    obtain ⟨a, -, rfl⟩ := List.mem_map.mp h
    exact le_rfl
  | value v =>
    cases v with
    | list items s =>
      obtain ⟨v, -, rfl⟩ := List.mem_map.mp h
      exact le_rfl
    | object fields s =>
      obtain ⟨f, -, rfl⟩ := List.mem_map.mp h
      exact le_rfl
    | _ => cases h
  | objectField f =>
    obtain rfl := List.mem_singleton.mp h
    exact le_rfl

theorem Contains.selectionsDepth_le (h : n.Contains m) :
    selectionsDepth available m.selections ≤ selectionsDepth available n.selections := by
  induction h with
  | self n => exact le_rfl
  | child hm _ ih => exact ih.trans (selectionsDepth_le_of_mem_children hm)

end Node

/-! ## What an operation reaches -/

namespace Document

variable {d : Document} {o : Operation} {n : Node}

/-- Without circles nothing that an operation reaches is deeper than the operation. -/
theorem Reaches.selectionsDepth_le (h : d.Reaches o n) (hd : d.Acyclic) :
    selectionsDepth d.fragmentTable n.selections
      ≤ selectionsDepth d.fragmentTable (Node.operation o).selections := by
  induction h with
  | own hn => exact hn.selectionsDepth_le
  | @spread s f n _ hf hn ih =>
    have hspread : selectionsDepth d.fragmentTable (Node.spread s).selections
        = selectionsDepth d.fragmentTable (Node.fragment f).selections :=
      (selectionsDepth_singleton _).trans (hd.selectionDepth_spread hf)
    exact hn.selectionsDepth_le.trans (hspread.ge.trans ih)

theorem fieldDepth_eq (d : Document) (f : Field) :
    d.fieldDepth f = selectionDepth d.fragmentTable (.field f) := by
  unfold fieldDepth
  split
  next body hf => rw [selectionDepth_field hf, selectionSetDepth_eq]
  next hf => rw [selectionDepth_leaf hf]

theorem selectionsDepth_operation_le (ho : o ∈ d.operations) :
    selectionsDepth d.fragmentTable (Node.operation o).selections ≤ d.maxDepth := by
  rw [Node.selections]
  cases hb : o.selectionSet with
  | none =>
    rw [Option.elim_none, selectionsDepth]
    exact Nat.zero_le _
  | some body =>
    have hroot : body ∈ d.depthRoots :=
      (mem_depthRoots_iff (List.ne_nil_of_mem ho)).mpr ⟨o, ho, hb⟩
    rw [Option.elim_some, ← selectionSetDepth_eq]
    exact List.le_max?_getD_of_mem (List.mem_map_of_mem hroot)

/-- The first field on a way down is at least as deep as the way is long. -/
theorem exists_field_of_descent {entered : List String} {ss way : List Selection}
    (h : Descent d entered ss way) (hss : ∀ x ∈ ss, d.Reaches o (Node.ofSelection x))
    (hpos : 0 < fieldsOn way) :
    ∃ f, d.Reaches o (.field f) ∧ fieldsOn way ≤ d.fieldDepth f := by
  induction h with
  | @stop entered ss x hx =>
    cases x with
    | field f =>
      refine ⟨f, hss _ hx, ?_⟩
      rw [fieldDepth_eq]
      exact one_le_selectionDepth_field f
    | spread s => cases hpos
    | inlineFragment i => cases hpos
  | @field entered ss way f body hx hb hw ih =>
    have hle := (hw.anti (List.nil_subset _)).fieldsOn_le (remaining_fragmentTable d)
    refine ⟨f, hss _ hx, ?_⟩
    rw [fieldsOn_field, fieldDepth_eq, selectionDepth_field hb]
    omega
  | @inlineFragment entered ss way i hx _ ih =>
    refine ih (fun y hy => (hss _ hx).contains ?_) hpos
    refine .child (m := .selectionSet i.selectionSet) ?_ (.child (List.mem_map_of_mem hy) (.self _))
    simp [Node.ofSelection, Node.children]
  | @spread entered ss way s g hx _ hg _ ih =>
    refine ih (fun y hy => .spread (hss _ hx) hg ?_) hpos
    refine .child (m := .selectionSet g.selectionSet) ?_ (.child (List.mem_map_of_mem hy) (.self _))
    simp [Node.children]

theorem exists_maxDepth_le_fieldDepth (hne : d.operations ≠ []) (hpos : 0 < d.maxDepth) :
    ∃ o ∈ d.operations, ∃ f, d.Reaches o (.field f) ∧ d.maxDepth ≤ d.fieldDepth f := by
  rcases exists_descends_or_maxDepth_eq_zero hne with ⟨way, ⟨o, ho, body, hb, hw⟩, he⟩ | hzero
  · have hbody : ∀ x ∈ body.selections, d.Reaches o (Node.ofSelection x) := by
      intro x hx
      refine .own (.child (m := .selectionSet body) ?_ (.child (List.mem_map_of_mem hx) (.self _)))
      simp [Node.children, hb]
    obtain ⟨f, hf, hle⟩ := exists_field_of_descent hw hbody (he ▸ hpos)
    exact ⟨o, ho, f, hf, he ▸ hle⟩
  · omega

/-- Where spreads do not lead around in a circle, no field that an operation reaches is deeper than
the document, and some field is as deep as a document with operations, unless none is reached. -/
theorem fieldDepth_le_maxDepth (hd : d.Acyclic) :
    (∀ o ∈ d.operations, ∀ f, .field f ∈ d.reach o → d.fieldDepth f ≤ d.maxDepth) ∧
      (d.operations ≠ [] → 0 < d.maxDepth →
        ∃ o ∈ d.operations, ∃ f, .field f ∈ d.reach o ∧ d.fieldDepth f = d.maxDepth) := by
  have hle : ∀ o ∈ d.operations, ∀ f, .field f ∈ d.reach o → d.fieldDepth f ≤ d.maxDepth := by
    intro o ho f hf
    have hfield : d.fieldDepth f = selectionsDepth d.fragmentTable (Node.field f).selections :=
      (fieldDepth_eq d f).trans (selectionsDepth_singleton _).symm
    have hbelow := (mem_reach_iff.mp hf).selectionsDepth_le hd
    exact hfield.le.trans (hbelow.trans (selectionsDepth_operation_le ho))
  refine ⟨hle, fun hne hpos => ?_⟩
  obtain ⟨o, ho, f, hf, hge⟩ := exists_maxDepth_le_fieldDepth hne hpos
  exact ⟨o, ho, f, mem_reach_iff.mpr hf, (hle o ho f (mem_reach_iff.mpr hf)).antisymm hge⟩

/-- A field that stands in a fragment and spreads another one below it. -/
theorem fieldDepth_le_maxDepth_layered : layered.Acyclic ∧
    ∃ o ∈ layered.operations, ∃ f, .field f ∈ layered.reach o ∧
      layered.fieldDepth f = 2 ∧ layered.fieldDepth f ≤ layered.maxDepth := by
  let inner : Spread := ⟨⟨"Inner", none⟩, [], none⟩
  let outer : Spread := ⟨⟨"Outer", none⟩, [], none⟩
  let missing : Spread := ⟨⟨"Missing", none⟩, [], none⟩
  let a : Field :=
    ⟨none, ⟨"a", none⟩, [], [], some ⟨[.spread outer, .spread inner, .spread missing], none⟩, none⟩
  let b : Field := ⟨none, ⟨"b", none⟩, [], [], some ⟨[.spread inner], none⟩, none⟩
  let o : Operation := ⟨.query, none, [], [], some ⟨[.field a], none⟩, none⟩
  let f : Fragment := ⟨⟨"Outer", none⟩, ⟨⟨"T", none⟩, none⟩, [], ⟨[.field b], none⟩, none⟩
  let g : Fragment :=
    ⟨⟨"Inner", none⟩, ⟨⟨"T", none⟩, none⟩, [],
      ⟨[.field ⟨none, ⟨"c", none⟩, [], [], none, none⟩], none⟩, none⟩
  have ho : o ∈ layered.operations := List.mem_singleton.mpr rfl
  have houter : layered.Reaches o (.spread outer) := by
    refine .own (Node.mem_walk_iff.mp ?_)
    simp [o, a, Node.walk, Node.walkStack, Node.children, Node.ofSelection]
  have hf : layered.lastFragment? "Outer" = some f := rfl
  have hreach : .field b ∈ layered.reach o := by
    refine mem_reach_iff.mpr (.spread houter hf (Node.mem_walk_iff.mp ?_))
    simp [f, Node.walk, Node.walkStack, Node.children, Node.ofSelection]
  have hg : layered.lastFragment? "Inner" = some g := rfl
  have hb : b.selectionSet = some ⟨[.spread inner], none⟩ := rfl
  have hdepth : layered.fieldDepth b = 2 := by
    rw [fieldDepth_eq, selectionDepth_field hb, selectionsDepth_singleton,
      acyclic_layered.selectionDepth_spread hg, selectionsDepth_singleton, selectionDepth_leaf rfl]
  exact ⟨acyclic_layered, o, ho, b, hreach, hdepth,
    (fieldDepth_le_maxDepth acyclic_layered).1 o ho b hreach⟩

end Document

end QueryLint
