import Mathlib.Data.List.Basic
import QueryLint.Rule.Injection
import QueryLint.Rule.Term

/-! # Vocabularies of texts

A vocabulary that holds only texts can always be searched. It speaks about a name if one of its
terms occurs in it, unless it holds the empty term: that one comes first, occurs everywhere and says
nothing. So more terms speak about more names, except that the empty term silences the others.
-/

namespace QueryLint

def Data.AllTexts (vocabulary : List Data) : Prop :=
  ∀ x ∈ vocabulary, x.asText?.isSome

theorem Data.mem_filterMap_asText? {vocabulary : List Data} {t : String} :
    t ∈ vocabulary.filterMap asText? ↔ .text t ∈ vocabulary := by
  constructor
  · intro h
    obtain ⟨x, hx, ht⟩ := List.mem_filterMap.mp h
    cases x <;> simp_all [asText?]
  · exact fun h => List.mem_filterMap.mpr ⟨_, h, rfl⟩

theorem Data.AllTexts.exists_text {vocabulary : List Data} (h : AllTexts vocabulary) {x : Data}
    (hx : x ∈ vocabulary) : ∃ t, x = .text t := by
  have := h x hx
  cases x <;> simp_all [asText?]

theorem Data.AllTexts.all_isText {vocabulary : List Data} (h : AllTexts vocabulary) :
    vocabulary.all isText = true := by
  refine List.all_eq_true.mpr fun x hx => ?_
  obtain ⟨t, rfl⟩ := h.exists_text hx
  rfl

namespace Data

variable {items : List Data} {x : Data}

theorem equal_text_iff {y : Data} {t : String} : equal y (.text t) = true ↔ y = .text t := by
  cases y <;> simp [equal, scalarEqual, toInt?]

theorem text_equal_iff {y : Data} {t : String} : equal (.text t) y = true ↔ y = .text t := by
  cases y <;> simp [equal, scalarEqual, toInt?]
  exact eq_comm

theorem mem_of_mem_dedup (h : x ∈ dedup items) : x ∈ items := by
  suffices hfold : ∀ kept : List Data, x ∈ items.foldl
      (fun kept x => if kept.any (fun y => equal y x) then kept else x :: kept) kept →
        x ∈ kept ∨ x ∈ items by
    exact (hfold [] (List.mem_reverse.mp h)).resolve_left List.not_mem_nil
  clear h
  induction items with
  | nil => exact fun kept h => .inl h
  | cons y items ih =>
    intro kept h
    rw [List.mem_cons]
    rcases ih _ h with hkept | hx
    · dsimp only at hkept
      split at hkept
      · exact .inl hkept
      · rcases List.mem_cons.mp hkept with rfl | hkept
        · exact .inr (.inl rfl)
        · exact .inl hkept
    · exact .inr (.inr hx)

theorem exists_mem_dedup (h : x ∈ items) : ∃ y ∈ dedup items, y = x ∨ equal y x = true := by
  suffices hfold : ∀ kept : List Data, x ∈ items ∨ (∃ y ∈ kept, y = x ∨ equal y x = true) →
      ∃ y ∈ items.foldl
        (fun kept x => if kept.any (fun y => equal y x) then kept else x :: kept) kept,
          y = x ∨ equal y x = true by
    obtain ⟨y, hy, hxy⟩ := hfold [] (.inl h)
    exact ⟨y, List.mem_reverse.mpr hy, hxy⟩
  clear h
  induction items with
  | nil => exact fun kept h => h.resolve_left List.not_mem_nil
  | cons z items ih =>
    intro kept h
    refine ih _ ?_
    dsimp only
    rcases h with h | ⟨y, hy, hxy⟩
    · rcases List.mem_cons.mp h with rfl | hx
      · right
        split
        · obtain ⟨y, hy, hxy⟩ := List.any_eq_true.mp ‹_›
          exact ⟨y, hy, .inr hxy⟩
        · exact ⟨x, List.mem_cons_self, .inl rfl⟩
      · exact .inl hx
    · right
      split
      · exact ⟨y, hy, hxy⟩
      · exact ⟨y, List.mem_cons_of_mem _ hy, hxy⟩

theorem mem_dedup (h : AllTexts items) {x : Data} : x ∈ dedup items ↔ x ∈ items := by
  constructor
  · exact mem_of_mem_dedup
  · intro hx
    obtain ⟨t, rfl⟩ := h.exists_text hx
    obtain ⟨y, hy, rfl | hxy⟩ := exists_mem_dedup hx
    · exact hy
    · rwa [equal_text_iff.mp hxy] at hy

theorem allTexts_dedup (h : AllTexts items) : AllTexts (dedup items) :=
  fun x hx => h x ((mem_dedup h).mp hx)

end Data

namespace Term

variable {terms : List String} {vocabulary vocabulary' : List Data} {name : String}

theorem occursIn_empty (name : String) : occursIn "" name = true :=
  Text.occurs_iff.mpr List.nil_infix

theorem occursIn_self (name : String) : occursIn name name = true :=
  Text.occurs_iff.mpr List.infix_rfl

theorem empty_le (t : String) : "" ≤ t :=
  List.nil_le t.toList

theorem sortTexts_pairwise (terms : List String) : (Data.sortTexts terms).Pairwise (· ≤ ·) := by
  refine (List.pairwise_mergeSort (fun a b c => ?_) (fun a b => ?_) terms).imp (by simp)
  · simpa using String.le_trans
  · simpa using String.le_total a b

theorem find?_isSome_iff : (find? terms name).isSome ↔ ∃ t ∈ terms, occursIn t name = true := by
  simp [find?, Data.sortTexts, List.find?_isSome]

theorem mem_of_find? {t : String} (h : find? terms name = some t) : t ∈ terms := by
  have := List.mem_of_find?_eq_some h
  rwa [Data.sortTexts, List.mem_mergeSort] at this

/-- The empty term is found before all others. -/
theorem find?_of_empty_mem (h : "" ∈ terms) : find? terms name = some "" := by
  have hmem : "" ∈ Data.sortTexts terms := List.mem_mergeSort.mpr h
  have hsorted := sortTexts_pairwise terms
  unfold find?
  cases hs : Data.sortTexts terms with
  | nil => simp [hs] at hmem
  | cons t ts =>
    rw [hs] at hmem hsorted
    have ht : t = "" := by
      rcases List.mem_cons.mp hmem with h | h
      · exact h.symm
      · exact String.le_antisymm ((List.pairwise_cons.mp hsorted).1 "" h) (empty_le t)
    subst ht
    exact List.find?_cons_of_pos (occursIn_empty name)

def speaks (vocabulary : List Data) (name : String) : Bool :=
  (find? (vocabulary.filterMap Data.asText?) name).any (· ≠ "")

theorem concerns_of_allTexts (h : Data.AllTexts vocabulary) (name : String) :
    concerns vocabulary name = .ok (speaks vocabulary name) := by
  simp only [concerns, search, terms?, h.all_isText, if_true, Except.map, speaks]

theorem speaks_iff : speaks vocabulary name = true ↔
    .text "" ∉ vocabulary ∧ ∃ t, .text t ∈ vocabulary ∧ occursIn t name = true := by
  unfold speaks
  by_cases he : "" ∈ vocabulary.filterMap Data.asText?
  · rw [find?_of_empty_mem he]
    simp [Data.mem_filterMap_asText?.mp he]
  · have hany : ∀ o : Option String, (∀ t, o = some t → t ≠ "") → (o.any (· ≠ "") = o.isSome) := by
      intro o ho
      cases o with
      | none => rfl
      | some t => simpa using ho t rfl
    rw [hany _ fun t ht => ne_of_mem_of_not_mem (mem_of_find? ht) he, find?_isSome_iff]
    simp only [Data.mem_filterMap_asText?] at he ⊢
    simp [he]

theorem speaks_nil (name : String) : speaks [] name = false := by
  simp [Bool.eq_false_iff, speaks_iff]

/-- A vocabulary with the empty term, put in the place of one that had something to say. -/
def Silences (vocabulary' vocabulary : List Data) : Prop :=
  .text "" ∈ vocabulary' ∧ .text "" ∉ vocabulary ∧ vocabulary ≠ []

theorem silences_congr {a a' b b' : List Data} (h : ∀ x, x ∈ a ↔ x ∈ b)
    (h' : ∀ x, x ∈ a' ↔ x ∈ b') : Silences a' a ↔ Silences b' b := by
  have hnil : a ≠ [] ↔ b ≠ [] := by
    simp only [ne_eq, List.eq_nil_iff_forall_not_mem, h]
  rw [Silences, Silences, h, h', hnil]

theorem speaks_mono (hsub : vocabulary ⊆ vocabulary') (hs : ¬ Silences vocabulary' vocabulary)
    (h : speaks vocabulary name = true) : speaks vocabulary' name = true := by
  obtain ⟨he, t, ht, ho⟩ := speaks_iff.mp h
  exact speaks_iff.mpr ⟨fun he' => hs ⟨he', he, List.ne_nil_of_mem ht⟩, t, hsub ht, ho⟩

theorem Silences.speaks_eq_false (h : Silences vocabulary' vocabulary) (name : String) :
    speaks vocabulary' name = false := by
  refine Bool.eq_false_iff.mpr fun hs => ?_
  exact (speaks_iff.mp hs).1 h.1

theorem Silences.exists_speaks (h : Silences vocabulary' vocabulary)
    (ht : Data.AllTexts vocabulary) : ∃ name, speaks vocabulary name = true := by
  obtain ⟨-, he, hne⟩ := h
  obtain ⟨x, hx⟩ := List.exists_mem_of_ne_nil _ hne
  obtain ⟨t, rfl⟩ := ht.exists_text hx
  exact ⟨t, speaks_iff.mpr ⟨he, t, hx, occursIn_self t⟩⟩

end Term

namespace Injection

variable {vocabulary vocabulary' : List Data}

def keywords (vocabulary : List Data) : List String :=
  (vocabulary.filterMap Data.asText?).filter (· ≠ "")

theorem mapM_keyword?_of_allTexts (h : Data.AllTexts vocabulary) :
    (vocabulary.filter Data.isTruthy).mapM keyword? = .ok ((keywords vocabulary).map some) := by
  unfold keywords
  induction vocabulary with
  | nil => rfl
  | cons x xs ih =>
    obtain ⟨t, rfl⟩ := h.exists_text List.mem_cons_self
    have ih := ih fun y hy => h y (List.mem_cons_of_mem _ hy)
    by_cases ht : t = ""
    · rw [List.filter_cons_of_neg (by simp [Data.isTruthy, ht]), ih]
      simp [Data.asText?, ht]
    · rw [List.filter_cons_of_pos (by simp [Data.isTruthy, ht]), List.mapM_cons, ih]
      simp [Data.asText?, keyword?, ht, bind, Except.bind, pure, Except.pure]

theorem keywords?_of_allTexts (h : Data.AllTexts vocabulary) :
    keywords? vocabulary = .ok (keywords vocabulary) := by
  rw [keywords?, mapM_keyword?_of_allTexts h]
  simp [Except.map, List.filterMap_map]

theorem keywords_subset (h : vocabulary ⊆ vocabulary') :
    keywords vocabulary ⊆ keywords vocabulary' := by
  intro k hk
  rw [keywords, List.mem_filter, Data.mem_filterMap_asText?] at hk ⊢
  exact ⟨h hk.1, hk.2⟩

end Injection

end QueryLint
