/-! # Tables

Values under text keys. A key keeps the place of its first insertion and the value of its last.
-/

namespace QueryLint

structure Table (α : Type) where
  entries : List (String × α) := []
  deriving Repr, Inhabited

namespace Table

variable {α : Type}

def empty : Table α := {}

def find? (key : String) : List (String × α) → Option α
  | [] => none
  | (k, v) :: r => if key = k then some v else find? key r

def get? (t : Table α) (key : String) : Option α :=
  find? key t.entries

def contains (t : Table α) (key : String) : Bool :=
  (t.get? key).isSome

/-- Replaces the value in place, or adds the key at the end. -/
def insertEntries (key : String) (value : α) : List (String × α) → List (String × α)
  | [] => [(key, value)]
  | (k, v) :: r => if key = k then (k, value) :: r else (k, v) :: insertEntries key value r

def insert (t : Table α) (key : String) (value : α) : Table α :=
  ⟨insertEntries key value t.entries⟩

def erase (t : Table α) (key : String) : Table α :=
  ⟨t.entries.filter fun e => key != e.1⟩

def keys (t : Table α) : List String :=
  t.entries.map (·.1)

def values (t : Table α) : List α :=
  t.entries.map (·.2)

def size (t : Table α) : Nat :=
  t.entries.length

def ofList (entries : List (String × α)) : Table α :=
  entries.foldl (fun t e => t.insert e.1 e.2) {}

def insertAll (t other : Table α) : Table α :=
  other.entries.foldl (fun t e => t.insert e.1 e.2) t

@[simp] theorem get?_empty (key : String) : (empty : Table α).get? key = none := rfl

theorem find?_insertEntries (key k : String) (value : α) (es : List (String × α)) :
    find? k (insertEntries key value es) = if k = key then some value else find? k es := by
  induction es with
  | nil => simp [insertEntries, find?]
  | cons e r ih => obtain ⟨k', v'⟩ := e; grind [insertEntries, find?]

@[simp] theorem get?_insert (t : Table α) (key k : String) (value : α) :
    (t.insert key value).get? k = if k = key then some value else t.get? k :=
  find?_insertEntries key k value t.entries

theorem size_erase_lt {t : Table α} {key : String} {value : α} (h : t.get? key = some value) :
    (t.erase key).size < t.size := by
  obtain ⟨es⟩ := t
  change find? key es = some value at h
  change (es.filter fun e => key != e.1).length < es.length
  induction es with
  | nil => simp [find?] at h
  | cons e r ih =>
    obtain ⟨k, v⟩ := e
    by_cases hk : key = k
    · subst hk
      simpa using Nat.lt_succ_of_le (List.length_filter_le _ r)
    · simpa [hk] using ih (by simpa [find?, hk] using h)

end Table

end QueryLint
