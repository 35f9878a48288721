import Mathlib.Data.List.Induction
import QueryLint.Document.Depth

/-! # Looking things up in tables

A table answers with the last value inserted under a key. For the fragments of a document this is
the last definition of a name, and a fragment that was taken out is no longer answered.
-/

namespace QueryLint

namespace Table

variable {α : Type} {t : Table α} {key k : String} {value : α}

theorem find?_eq_none_iff {es : List (String × α)} : find? key es = none ↔ key ∉ es.map (·.1) := by
  induction es with
  | nil => simp [find?]
  | cons e es ih =>
    obtain ⟨k, v⟩ := e
    by_cases h : key = k
    · simp [find?, h]
    · simp [find?, h, ih]

theorem mem_of_find? {es : List (String × α)} (h : find? key es = some value) :
    (key, value) ∈ es := by
  induction es with
  | nil => cases h
  | cons e es ih =>
    obtain ⟨k, v⟩ := e
    by_cases hk : key = k
    · simp only [find?, hk, if_true, Option.some.injEq] at h
      simp [hk, h]
    · simp only [find?, hk, if_false] at h
      exact List.mem_cons_of_mem _ (ih h)

theorem contains_iff : t.contains key = true ↔ key ∈ t.keys := by
  rw [contains, Option.isSome_iff_ne_none, ne_eq, get?, find?_eq_none_iff, not_not, keys]

theorem find?_filter_ne (key k : String) (es : List (String × α)) :
    find? k (es.filter fun e => key != e.1) = if k = key then none else find? k es := by
  induction es with
  | nil => simp [find?]
  | cons e es ih =>
    obtain ⟨k', v⟩ := e
    by_cases hk : key = k'
    · subst hk
      by_cases h : k = key <;> simp_all [find?]
    · rw [List.filter_cons_of_pos (by simpa using hk), find?, find?, ih]
      by_cases h : k = k'
      · simp [h, Ne.symm hk]
      · simp [h]

@[simp] theorem get?_erase (t : Table α) (key k : String) :
    (t.erase key).get? k = if k = key then none else t.get? k :=
  find?_filter_ne key k t.entries

theorem get?_ofList (es : List (String × α)) (key : String) :
    (ofList es).get? key = ((es.filter (·.1 = key)).getLast?).map (·.2) := by
  induction es using List.reverseRecOn with
  | nil => rfl
  | append_singleton es e ih =>
    have hstep : ofList (es ++ [e]) = (ofList es).insert e.1 e.2 := by
      simp [ofList]
    rw [hstep, get?_insert, ih, List.filter_append]
    by_cases h : e.1 = key
    · simp [h]
    · simp [h, Ne.symm h]

end Table

namespace Document

/-- The last definition of a fragment name. -/
def lastFragment? (d : Document) (name : String) : Option Fragment :=
  (d.fragments.filter (·.name.value = name)).getLast?

theorem lastFragment?_eq_none_iff {d : Document} {name : String} :
    d.lastFragment? name = none ↔ name ∉ d.fragments.map (·.name.value) := by
  rw [lastFragment?, List.getLast?_eq_none_iff, List.filter_eq_nil_iff]
  simp [List.mem_map]

theorem mem_of_lastFragment? {d : Document} {name : String} {f : Fragment}
    (h : d.lastFragment? name = some f) : f ∈ d.fragments ∧ f.name.value = name := by
  have hmem := List.mem_of_getLast? h
  rwa [List.mem_filter, decide_eq_true_eq] at hmem

theorem get?_fragmentTable (d : Document) (name : String) :
    d.fragmentTable.get? name = d.lastFragment? name := by
  rw [fragmentTable, Table.get?_ofList, List.filter_map, List.getLast?_map, Option.map_map,
    lastFragment?]
  exact Option.map_id'

end Document

end QueryLint
