import Mathlib.Data.List.Nodup
import QueryLint.Proofs.Table

/-! # Tables with distinct keys

Insertion never gives a key a second entry. A table whose keys are distinct is determined, up to the
order of its entries, by what it answers, and laying it over another table lets its answers win.
-/

namespace QueryLint.Table

variable {α : Type} {t t' : Table α} {key k : String} {value v : α}

/-- No key has two entries. -/
def Distinct (t : Table α) : Prop :=
  t.keys.Nodup

theorem distinct_empty : ({} : Table α).Distinct :=
  List.nodup_nil

theorem keys_insert (t : Table α) (key : String) (value : α) :
    (t.insert key value).keys = if key ∈ t.keys then t.keys else t.keys ++ [key] := by
  obtain ⟨es⟩ := t
  change (insertEntries key value es).map (·.1)
    = if key ∈ es.map (·.1) then es.map (·.1) else es.map (·.1) ++ [key]
  induction es with
  | nil => rfl
  | cons e es ih =>
    obtain ⟨k, v⟩ := e
    by_cases h : key = k
    · simp [insertEntries, h]
    · rw [insertEntries, if_neg h, List.map_cons, ih]
      by_cases hk : key ∈ es.map (·.1) <;> simp [h, hk]

theorem Distinct.insert (h : t.Distinct) (key : String) (value : α) :
    (t.insert key value).Distinct := by
  unfold Distinct
  rw [keys_insert]
  split
  · exact h
  · rw [← List.concat_eq_append]
    exact h.concat ‹_›

theorem Distinct.foldl_insert (h : t.Distinct) (es : List (String × α)) :
    (es.foldl (fun t e => t.insert e.1 e.2) t).Distinct := by
  induction es generalizing t with
  | nil => exact h
  | cons e es ih => exact ih (h.insert e.1 e.2)

theorem distinct_ofList (es : List (String × α)) : (ofList es).Distinct :=
  distinct_empty.foldl_insert es

theorem mem_keys_ofList {es : List (String × α)} : key ∈ (ofList es).keys ↔ key ∈ es.map (·.1) := by
  rw [← contains_iff, contains, get?_ofList, Option.isSome_map, List.getLast?_isSome]
  simp [List.filter_eq_nil_iff]

/-- The keys stand in the order in which they were first inserted. -/
theorem keys_ofList_pairwise (es : List (String × α)) :
    (ofList es).keys.Pairwise fun a b => (es.map (·.1)).idxOf a < (es.map (·.1)).idxOf b := by
  induction es using List.reverseRecOn with
  | nil => exact .nil
  | append_singleton es e ih =>
    have hstep : ofList (es ++ [e]) = (ofList es).insert e.1 e.2 := by
      simp [ofList]
    have hold : ∀ a ∈ (ofList es).keys,
        ((es ++ [e]).map (·.1)).idxOf a = (es.map (·.1)).idxOf a := by
      intro a ha
      rw [List.map_append, List.idxOf_append_of_mem (mem_keys_ofList.mp ha)]
    have hkeep : (ofList es).keys.Pairwise fun a b =>
        ((es ++ [e]).map (·.1)).idxOf a < ((es ++ [e]).map (·.1)).idxOf b :=
      ih.imp_of_mem fun ha hb hab => by rwa [hold _ ha, hold _ hb]
    rw [hstep, keys_insert]
    split
    · exact hkeep
    · -- A new key comes after all keys so far.
      rename_i hnew
      rw [mem_keys_ofList] at hnew
      refine List.pairwise_append.mpr ⟨hkeep, List.pairwise_singleton _ _, fun a ha b hb => ?_⟩
      rw [List.mem_singleton] at hb
      subst hb
      have hlt := List.idxOf_lt_length_of_mem (mem_keys_ofList.mp ha)
      rw [hold a ha, List.map_append, List.idxOf_append_of_notMem hnew]
      omega

theorem Distinct.insertAll (h : t.Distinct) (other : Table α) : (t.insertAll other).Distinct :=
  h.foldl_insert other.entries

theorem Distinct.mem_entries_iff (h : t.Distinct) : (k, v) ∈ t.entries ↔ t.get? k = some v := by
  obtain ⟨es⟩ := t
  change (k, v) ∈ es ↔ find? k es = some v
  refine ⟨fun hmem => ?_, mem_of_find?⟩
  induction es with
  | nil => cases hmem
  | cons e es ih =>
    obtain ⟨k', v'⟩ := e
    obtain ⟨hk', hes⟩ := List.nodup_cons.mp h
    rcases List.mem_cons.mp hmem with he | htail
    · obtain ⟨rfl, rfl⟩ := Prod.mk.inj he
      rw [find?, if_pos rfl]
    · have hne : k ≠ k' := by
        rintro rfl
        exact hk' (List.mem_map.mpr ⟨_, htail, rfl⟩)
      rw [find?, if_neg hne]
      exact ih hes htail

theorem get?_insertAll (h : t'.Distinct) (t : Table α) (k : String) :
    (t.insertAll t').get? k = (t'.get? k).or (t.get? k) := by
  obtain ⟨es⟩ := t'
  change (es.foldl (fun t e => t.insert e.1 e.2) t).get? k = (find? k es).or (t.get? k)
  induction es generalizing t with
  | nil => rfl
  | cons e es ih =>
    obtain ⟨k', v'⟩ := e
    obtain ⟨hk', hes⟩ := List.nodup_cons.mp h
    rw [List.foldl_cons, ih _ hes, get?_insert, find?]
    by_cases hk : k = k'
    · subst hk
      simp [find?_eq_none_iff.mpr hk']
    · simp [hk]

theorem Distinct.entries_perm (h : t.Distinct) (h' : t'.Distinct)
    (hget : ∀ k, t.get? k = t'.get? k) : t.entries.Perm t'.entries := by
  have hnodup : t.entries.Nodup := List.Nodup.of_map _ h
  have hnodup' : t'.entries.Nodup := List.Nodup.of_map _ h'
  rw [List.perm_ext_iff_of_nodup hnodup hnodup']
  rintro ⟨k, v⟩
  rw [h.mem_entries_iff, h'.mem_entries_iff, hget]

end QueryLint.Table
