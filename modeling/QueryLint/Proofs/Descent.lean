import Mathlib.Order.Nat
import QueryLint.Proofs.Table

/-! # Depth as the longest way down

A way down picks a selection, goes on among what is selected under it and counts the fields it
picks. Spreads may lead around in a circle, but every fragment is entered at most once on a way: the
depth of a document is the largest number of fields on a way down from one of its operations.
-/

namespace QueryLint

/-- A way down from some selections, as the list of those picked on it. It may end anywhere. The
names of the fragments entered so far are kept; a spread of one of them, or of an undefined
fragment, leads nowhere. -/
inductive Descent (d : Document) : List String → List Selection → List Selection → Prop
  | stop {entered : List String} {ss : List Selection} {x : Selection} :
      x ∈ ss → Descent d entered ss [x]
  | field {entered : List String} {ss way : List Selection} {f : Field} {body : SelectionSet} :
      .field f ∈ ss → f.selectionSet = some body → Descent d entered body.selections way →
      Descent d entered ss (.field f :: way)
  | inlineFragment {entered : List String} {ss way : List Selection} {i : InlineFragment} :
      .inlineFragment i ∈ ss → Descent d entered i.selectionSet.selections way →
      Descent d entered ss (.inlineFragment i :: way)
  | spread {entered : List String} {ss way : List Selection} {s : Spread} {f : Fragment} :
      .spread s ∈ ss → s.name.value ∉ entered → d.lastFragment? s.name.value = some f →
      Descent d (s.name.value :: entered) f.selectionSet.selections way →
      Descent d entered ss (.spread s :: way)

def fieldsOn (way : List Selection) : Nat :=
  (way.filterMap Selection.field?).length

def Document.Descends (d : Document) (way : List Selection) : Prop :=
  ∃ o ∈ d.operations, ∃ body, o.selectionSet = some body ∧ Descent d [] body.selections way

@[simp] theorem fieldsOn_field (f : Field) (way : List Selection) :
    fieldsOn (.field f :: way) = 1 + fieldsOn way := by
  simp [fieldsOn, Selection.field?, Nat.add_comm]

@[simp] theorem fieldsOn_spread (s : Spread) (way : List Selection) :
    fieldsOn (.spread s :: way) = fieldsOn way := rfl

@[simp] theorem fieldsOn_inlineFragment (i : InlineFragment) (way : List Selection) :
    fieldsOn (.inlineFragment i :: way) = fieldsOn way := rfl

@[simp] theorem fieldsOn_nil : fieldsOn [] = 0 := rfl

section Depth

variable {available : Table Fragment} {f : Field} {body : SelectionSet} {s : Spread} {x : Selection}
  {ss : List Selection}

theorem selectionSetDepth_eq (available : Table Fragment) (body : SelectionSet) :
    selectionSetDepth available body = selectionsDepth available body.selections := by
  obtain ⟨items, span⟩ := body
  rw [selectionSetDepth]

theorem selectionDepth_field (h : f.selectionSet = some body) :
    selectionDepth available (.field f) = 1 + selectionsDepth available body.selections := by
  obtain ⟨_, _, _, _, _, _⟩ := f
  obtain rfl := h
  rw [selectionDepth, selectionSetDepth_eq]

theorem selectionDepth_leaf (h : f.selectionSet = none) :
    selectionDepth available (.field f) = 1 := by
  obtain ⟨_, _, _, _, _, _⟩ := f
  obtain rfl := h
  rw [selectionDepth]

theorem selectionDepth_inlineFragment (i : InlineFragment) :
    selectionDepth available (.inlineFragment i)
      = selectionsDepth available i.selectionSet.selections := by
  obtain ⟨_, _, _, _⟩ := i
  rw [selectionDepth, selectionSetDepth_eq]

theorem selectionDepth_spread {f : Fragment} (h : available.get? s.name.value = some f) :
    selectionDepth available (.spread s)
      = selectionsDepth (available.erase s.name.value) f.selectionSet.selections := by
  rw [selectionDepth]
  split
  · rename_i g hg
    rw [h] at hg
    obtain rfl := Option.some.inj hg
    exact selectionSetDepth_eq _ _
  · rename_i hg
    rw [h] at hg
    cases hg

theorem selectionDepth_lost (h : available.get? s.name.value = none) :
    selectionDepth available (.spread s) = 0 := by
  rw [selectionDepth]
  split
  · rename_i g hg
    rw [h] at hg
    cases hg
  · rfl

theorem selectionDepth_le (h : x ∈ ss) :
    selectionDepth available x ≤ selectionsDepth available ss := by
  induction ss with
  | nil => cases h
  | cons y ss ih =>
    rw [selectionsDepth]
    rcases List.mem_cons.mp h with rfl | h
    · exact Nat.le_max_left _ _
    · exact (ih h).trans (Nat.le_max_right _ _)

theorem one_le_selectionDepth_field (f : Field) : 1 ≤ selectionDepth available (.field f) := by
  cases h : f.selectionSet with
  | none => exact (selectionDepth_leaf h).ge
  | some body => exact selectionDepth_field h ▸ Nat.le_add_right 1 _

end Depth

/-- The fragments still to be entered are those of the document less the ones entered. -/
def Remaining (d : Document) (entered : List String) (available : Table Fragment) : Prop :=
  ∀ name, available.get? name = if name ∈ entered then none else d.lastFragment? name

section Descent

variable {d : Document} {entered : List String} {available : Table Fragment}
  {ss way : List Selection} {x : Selection}

theorem remaining_fragmentTable (d : Document) : Remaining d [] d.fragmentTable := by
  intro name
  rw [d.get?_fragmentTable, if_neg List.not_mem_nil]

theorem Remaining.erase (h : Remaining d entered available) (key : String) :
    Remaining d (key :: entered) (available.erase key) := by
  intro name
  rw [Table.get?_erase, h name]
  by_cases hk : name = key <;> simp [hk]

theorem Remaining.get?_of_not_mem (h : Remaining d entered available) {name : String}
    (hn : name ∉ entered) : available.get? name = d.lastFragment? name := by
  rw [h name, if_neg hn]

theorem Remaining.not_mem_of_get? (h : Remaining d entered available) {name : String}
    {f : Fragment} (hf : available.get? name = some f) :
    name ∉ entered ∧ d.lastFragment? name = some f := by
  rw [h name] at hf
  split at hf
  · cases hf
  · exact ⟨‹_›, hf⟩

theorem Descent.subset (h : Descent d entered ss way) {ss' : List Selection} (hs : ss ⊆ ss') :
    Descent d entered ss' way := by
  cases h with
  | stop hx => exact .stop (hs hx)
  | field hx hb hw => exact .field (hs hx) hb hw
  | inlineFragment hx hw => exact .inlineFragment (hs hx) hw
  | spread hx hn hf hw => exact .spread (hs hx) hn hf hw

/-- No way down has more fields than the depth says. -/
theorem Descent.fieldsOn_le (h : Descent d entered ss way) (hr : Remaining d entered available) :
    fieldsOn way ≤ selectionsDepth available ss := by
  induction h generalizing available with
  | @stop entered ss x hx =>
    refine le_trans ?_ (selectionDepth_le hx)
    cases x with
    | field f => exact one_le_selectionDepth_field f
    | spread s => exact Nat.zero_le _
    | inlineFragment i => exact Nat.zero_le _
  | field hx hb _ ih =>
    refine le_trans ?_ (selectionDepth_le hx)
    rw [fieldsOn_field, selectionDepth_field hb]
    exact Nat.add_le_add_left (ih hr) 1
  | inlineFragment hx _ ih =>
    refine le_trans ?_ (selectionDepth_le hx)
    rw [fieldsOn_inlineFragment, selectionDepth_inlineFragment]
    exact ih hr
  | spread hx hn hf _ ih =>
    refine le_trans ?_ (selectionDepth_le hx)
    rw [fieldsOn_spread, selectionDepth_spread ((hr.get?_of_not_mem hn).trans hf)]
    exact ih (hr.erase _)

/-- A way down with as many fields as the depth says. The induction is that of the depth itself: a
selection set, the selections in it, one selection. -/
theorem exists_descent (d : Document) (available : Table Fragment) (ss : List Selection) :
    ∀ entered, Remaining d entered available → ss ≠ [] →
      ∃ way, Descent d entered ss way ∧ fieldsOn way = selectionsDepth available ss := by
  refine (selectionSetDepth.mutual_induct
    (fun available body => ∀ entered, Remaining d entered available → body.selections ≠ [] →
      ∃ way, Descent d entered body.selections way ∧
        fieldsOn way = selectionsDepth available body.selections)
    (fun available ss => ∀ entered, Remaining d entered available → ss ≠ [] →
      ∃ way, Descent d entered ss way ∧ fieldsOn way = selectionsDepth available ss)
    (fun available x => ∀ entered, Remaining d entered available → ∀ ss, x ∈ ss →
      ∃ way, Descent d entered ss way ∧ fieldsOn way = selectionDepth available x)
    ?set ?nil ?cons ?field ?leaf ?inlineFragment ?spread ?lost).2.1 available ss
  case set => exact fun available items span ih => ih
  case nil => exact fun available entered hr hne => absurd rfl hne
  case cons =>
    intro available x rest ihx ihrest entered hr _
    rw [selectionsDepth]
    by_cases hle : selectionsDepth available rest ≤ selectionDepth available x
    · rw [max_eq_left hle]
      exact ihx entered hr _ List.mem_cons_self
    · have hne : rest ≠ [] := by
        rintro rfl
        exact hle (by simp [selectionsDepth])
      obtain ⟨way, hw, he⟩ := ihrest entered hr hne
      rw [max_eq_right (le_of_not_ge hle)]
      exact ⟨way, hw.subset (List.subset_cons_self x rest), he⟩
  case field =>
    intro available aliasName name arguments directives body span ih entered hr ss hx
    rw [selectionDepth_field rfl]
    by_cases hne : body.selections = []
    · exact ⟨_, .stop hx, by simp [hne, selectionsDepth]⟩
    · obtain ⟨way, hw, he⟩ := ih entered hr hne
      exact ⟨_, .field hx rfl hw, by rw [fieldsOn_field, he]⟩
  case leaf =>
    intro available aliasName name arguments directives span entered hr ss hx
    exact ⟨_, .stop hx, by rw [selectionDepth_leaf rfl]; rfl⟩
  case inlineFragment =>
    intro available condition directives body span ih entered hr ss hx
    rw [selectionDepth_inlineFragment]
    by_cases hne : body.selections = []
    · exact ⟨_, .stop hx, by simp [hne, selectionsDepth]⟩
    · obtain ⟨way, hw, he⟩ := ih entered hr hne
      exact ⟨_, .inlineFragment hx hw, he⟩
  case spread =>
    intro available s f hf ih entered hr ss hx
    rw [selectionDepth_spread hf]
    by_cases hne : f.selectionSet.selections = []
    · exact ⟨_, .stop hx, by simp [hne, selectionsDepth]⟩
    · obtain ⟨way, hw, he⟩ := ih _ (hr.erase _) hne
      obtain ⟨hn, hl⟩ := hr.not_mem_of_get? hf
      exact ⟨_, .spread hx hn hl hw, he⟩
  case lost =>
    intro available s hn entered hr ss hx
    exact ⟨_, .stop hx, by rw [selectionDepth_lost hn]; rfl⟩

end Descent

namespace Document

variable {d : Document}

theorem mem_depthRoots_iff (h : d.operations ≠ []) {body : SelectionSet} :
    body ∈ d.depthRoots ↔ ∃ o ∈ d.operations, o.selectionSet = some body := by
  rw [depthRoots, if_neg (by simpa using h), List.mem_filterMap]

/-- The depth is attained at a root, unless there is none. -/
theorem maxDepth_cases (d : Document) :
    d.depthRoots = [] ∧ d.maxDepth = 0 ∨
      (∃ body ∈ d.depthRoots, selectionSetDepth d.fragmentTable body = d.maxDepth) ∧
        ∀ body ∈ d.depthRoots, selectionSetDepth d.fragmentTable body ≤ d.maxDepth := by
  unfold maxDepth
  cases hm : (d.depthRoots.map (selectionSetDepth d.fragmentTable)).max? with
  | none =>
    rw [List.max?_eq_none_iff, List.map_eq_nil_iff] at hm
    exact .inl ⟨hm, rfl⟩
  | some m =>
    obtain ⟨hmem, hle⟩ := List.max?_eq_some_iff.mp hm
    exact .inr ⟨List.mem_map.mp hmem, fun body hb => hle _ (List.mem_map_of_mem hb)⟩

theorem Descends.fieldsOn_le {way : List Selection} (h : d.operations ≠ [])
    (hw : d.Descends way) : fieldsOn way ≤ d.maxDepth := by
  obtain ⟨o, ho, body, hb, hw⟩ := hw
  have hroot : body ∈ d.depthRoots := (mem_depthRoots_iff h).mpr ⟨o, ho, hb⟩
  rcases d.maxDepth_cases with ⟨hnil, -⟩ | ⟨-, hle⟩
  · rw [hnil] at hroot
    cases hroot
  · have hbound := hw.fieldsOn_le (remaining_fragmentTable d)
    rw [← selectionSetDepth_eq] at hbound
    exact hbound.trans (hle body hroot)

theorem exists_descends_or_maxDepth_eq_zero (h : d.operations ≠ []) :
    (∃ way, d.Descends way ∧ fieldsOn way = d.maxDepth) ∨ d.maxDepth = 0 := by
  rcases d.maxDepth_cases with ⟨-, hzero⟩ | ⟨⟨body, hroot, he⟩, -⟩
  · exact .inr hzero
  · obtain ⟨o, ho, hb⟩ := (mem_depthRoots_iff h).mp hroot
    rw [selectionSetDepth_eq] at he
    by_cases hne : body.selections = []
    · rw [hne, selectionsDepth] at he
      exact .inr he.symm
    · obtain ⟨way, hw, hf⟩ := exists_descent d _ _ [] (remaining_fragmentTable d) hne
      exact .inl ⟨way, ⟨o, ho, body, hb, hw⟩, hf.trans he⟩

/-- The depth of a document with operations is the largest number of fields on a way down from one
of them, and zero if there is no way at all. -/
theorem maxDepth_eq_longest_descent (h : d.operations ≠ []) :
    (∀ way, d.Descends way → fieldsOn way ≤ d.maxDepth) ∧
      ((∃ way, d.Descends way ∧ fieldsOn way = d.maxDepth) ∨
        (∀ way, ¬ d.Descends way) ∧ d.maxDepth = 0) := by
  refine ⟨fun way hw => hw.fieldsOn_le h, ?_⟩
  rcases exists_descends_or_maxDepth_eq_zero h with hex | hzero
  · exact .inl hex
  · by_cases hany : ∃ way, d.Descends way
    · obtain ⟨way, hw⟩ := hany
      have hle := hw.fieldsOn_le h
      exact .inl ⟨way, hw, by omega⟩
    · exact .inr ⟨fun way hw => hany ⟨way, hw⟩, hzero⟩

/-- A query whose fragment is defined twice, spreads itself in its last definition and stands beside
an undefined one. -/
def circular : Document :=
  let leaf (name : String) (body : List Selection) : Selection :=
    .field ⟨none, ⟨name, none⟩, [], [], if body.isEmpty then none else some ⟨body, none⟩, none⟩
  let spread (name : String) : Selection := .spread ⟨⟨name, none⟩, [], none⟩
  let fragment (body : List Selection) : Definition :=
    .fragment ⟨⟨"F", none⟩, ⟨⟨"T", none⟩, none⟩, [], ⟨body, none⟩, none⟩
  { definitions :=
      [.operation ⟨.query, none, [], [],
        some ⟨[leaf "a" [spread "F", spread "Missing"]], none⟩, none⟩,
       fragment [leaf "x" [leaf "y" [leaf "z" []]]],
       fragment [leaf "b" [spread "F"]]] }

theorem maxDepth_circular : circular.operations ≠ [] ∧ circular.maxDepth = 2 ∧
    (∀ way, circular.Descends way → fieldsOn way ≤ 2) ∧
      ∃ way, circular.Descends way ∧ fieldsOn way = 2 := by
  have hne : circular.operations ≠ [] := by decide
  have hdepths : circular.depthRoots.map (selectionSetDepth circular.fragmentTable) = [2] := by
    simp [circular, depthRoots, operations, Definition.operation?, List.filterMap_cons,
      fragmentTable, fragments, Definition.fragment?, selectionSetDepth, selectionsDepth,
      selectionDepth, Table.ofList, Table.insert, Table.insertEntries, Table.get?, Table.find?,
      Table.erase]
  have hdepth : circular.maxDepth = 2 := by
    rw [maxDepth, hdepths]
    rfl
  obtain ⟨hle, hex⟩ := maxDepth_eq_longest_descent hne
  rw [hdepth] at hle hex
  refine ⟨hne, hdepth, hle, ?_⟩
  rcases hex with hex | ⟨-, hzero⟩
  · exact hex
  · cases hzero

end Document

end QueryLint
