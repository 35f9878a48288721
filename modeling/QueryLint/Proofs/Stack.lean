import QueryLint.Proofs.Descent
import QueryLint.Proofs.Reach
import QueryLint.Proofs.Screening

/-! # When the stack is large enough

On a way down the calls stand one inside the other, as many as there are fields, fragments in place
and fragments entered, and one for the beginning. Where no way asks for more calls than the stack
has room for, depth comes out as on a stack without bounds; otherwise the computation breaks off.
-/

namespace QueryLint

mutual
/-- So many calls stand one inside the other on a way down through what is selected. The names of
the fragments entered so far are kept. -/
inductive Calls (d : Document) : List String → Option SelectionSet → Nat → Prop
  | alone {entered : List String} {body : Option SelectionSet} : Calls d entered body 1
  | inside {entered : List String} {s : SelectionSet} {x : Selection} {n : Nat} :
      x ∈ s.selections → Opens d entered x n → Calls d entered (some s) (n + 1)

/-- So many calls stand one inside the other on a way down from a selection. A spread of a fragment
that is entered already or not defined asks for none. -/
inductive Opens (d : Document) : List String → Selection → Nat → Prop
  | field {entered : List String} {f : Field} {n : Nat} :
      Calls d entered f.selectionSet n → Opens d entered (.field f) n
  | inlineFragment {entered : List String} {i : InlineFragment} {n : Nat} :
      Calls d entered (some i.selectionSet) n → Opens d entered (.inlineFragment i) n
  | spread {entered : List String} {s : Spread} {f : Fragment} {n : Nat} :
      s.name.value ∉ entered → d.lastFragment? s.name.value = some f →
      Calls d (s.name.value :: entered) (some f.selectionSet) n → Opens d entered (.spread s) n
end

/-- The depth of what is selected, if something is. -/
def bodyDepth (available : Table Fragment) : Option SelectionSet → Nat
  | none => 0
  | some s => selectionSetDepth available s

/-- A computation comes to its value if the calls it asks for fit on the stack, and breaks off if
they do not. -/
def Settles (calls : Nat → Prop) (room value : Nat) (result : Except String Nat) : Prop :=
  (∀ n, calls n → n ≤ room) ∧ result = .ok value ∨
    (∃ n, calls n ∧ room < n) ∧ result = .error stackExhausted

section Settles

variable {α : Type} {calls calls' : Nat → Prop} {room value : Nat} {result : Except String Nat}

theorem Settles.congr (h : Settles calls room value result) (hcalls : ∀ n, calls' n ↔ calls n) :
    Settles calls' room value result := by
  simpa only [Settles, hcalls] using h

theorem Settles.map (h : Settles calls room value result) (g : Nat → Nat) :
    Settles calls room (g value) (result.map g) := by
  rcases h with ⟨hfits, rfl⟩ | ⟨hasks, rfl⟩
  · exact .inl ⟨hfits, rfl⟩
  · exact .inr ⟨hasks, rfl⟩

/-- Of several computations, one after the other, the first that breaks off breaks off all. -/
theorem mapM_settles {xs : List α} {f : α → Except String Nat} {asks : α → Nat → Prop}
    {depth : α → Nat} (h : ∀ x ∈ xs, Settles (asks x) room (depth x) (f x)) :
    (∀ x ∈ xs, ∀ n, asks x n → n ≤ room) ∧ xs.mapM f = .ok (xs.map depth) ∨
      (∃ x ∈ xs, ∃ n, asks x n ∧ room < n) ∧ xs.mapM f = .error stackExhausted := by
  induction xs with
  | nil => exact .inl ⟨by simp, rfl⟩
  | cons x xs ih =>
    obtain ⟨hx, hxs⟩ := List.forall_mem_cons.mp h
    rw [List.mapM_cons]
    rcases hx with ⟨hfits, hx⟩ | ⟨hasks, hx⟩
    · rcases ih hxs with ⟨hrest, heq⟩ | ⟨⟨y, hy, hasks⟩, heq⟩
      · exact .inl ⟨List.forall_mem_cons.mpr ⟨hfits, hrest⟩, by rw [hx, heq]; rfl⟩
      · exact .inr ⟨⟨y, .tail x hy, hasks⟩, by rw [hx, heq]; rfl⟩
    · exact .inr ⟨⟨x, .head xs, hasks⟩, by rw [hx]; rfl⟩

end Settles

section Depth

variable {d : Document} {entered : List String} {available : Table Fragment} {room : Nat}

theorem getD_max?_cons (n : Nat) (ns : List Nat) :
    ((n :: ns).max?).getD 0 = max n (ns.max?.getD 0) := by
  rw [List.max?_cons]
  cases ns.max? <;> simp

theorem getD_max?_selections (available : Table Fragment) (ss : List Selection) :
    ((ss.map (selectionDepth available)).max?).getD 0 = selectionsDepth available ss := by
  induction ss with
  | nil => rw [selectionsDepth]; rfl
  | cons x ss ih => rw [selectionsDepth, ← ih, List.map_cons, getD_max?_cons]

theorem getD_max?_bodies (available : Table Fragment) (bodies : List (Option SelectionSet)) :
    ((bodies.map (bodyDepth available)).max?).getD 0
      = (((bodies.filterMap id).map (selectionSetDepth available)).max?).getD 0 := by
  induction bodies with
  | nil => rfl
  | cons body bodies ih =>
    rw [List.map_cons, getD_max?_cons, ih]
    cases body with
    | none => simp [bodyDepth]
    | some s => exact (getD_max?_cons _ _).symm

theorem calls_none_iff {n : Nat} : Calls d entered none n ↔ n = 1 := by
  constructor
  · rintro ⟨⟩
    rfl
  · rintro rfl
    exact .alone

theorem opens_field_iff {f : Field} {n : Nat} :
    Opens d entered (.field f) n ↔ Calls d entered f.selectionSet n :=
  ⟨fun | .field h => h, .field⟩

theorem opens_inlineFragment_iff {i : InlineFragment} {n : Nat} :
    Opens d entered (.inlineFragment i) n ↔ Calls d entered (some i.selectionSet) n :=
  ⟨fun | .inlineFragment h => h, .inlineFragment⟩

theorem opens_spread_iff (hr : Remaining d entered available) {s : Spread} {f : Fragment} {n : Nat}
    (h : available.get? s.name.value = some f) : Opens d entered (.spread s) n ↔
      Calls d (s.name.value :: entered) (some f.selectionSet) n := by
  obtain ⟨hn, hf⟩ := hr.not_mem_of_get? h
  constructor
  · rintro (_ | _ | ⟨-, hf', hcalls⟩)
    obtain rfl := Option.some.inj (hf.symm.trans hf')
    exact hcalls
  · exact .spread hn hf

theorem not_opens_lost (hr : Remaining d entered available) {s : Spread} {n : Nat}
    (h : available.get? s.name.value = none) : ¬ Opens d entered (.spread s) n := by
  rintro (_ | _ | ⟨hn, hf, -⟩)
  rw [hr.get?_of_not_mem hn, hf] at h
  cases h

theorem selectionDepth_field_eq (available : Table Fragment) (f : Field) :
    selectionDepth available (.field f) = 1 + bodyDepth available f.selectionSet := by
  cases h : f.selectionSet with
  | none => rw [selectionDepth_leaf h]; rfl
  | some body => rw [selectionDepth_field h, bodyDepth, selectionSetDepth_eq]

/-- Depth on a stack is the depth itself, as long as the calls fit. The induction is on the room,
since a fragment that is entered is no part of what is selected. -/
theorem bodyDepthWithin_settles (room : Nat) (hr : Remaining d entered available)
    (body : Option SelectionSet) : Settles (Calls d entered body) room (bodyDepth available body)
      (bodyDepthWithin room available body) := by
  induction room generalizing entered available body with
  | zero => exact .inr ⟨⟨1, .alone, Nat.one_pos⟩, rfl⟩
  | succ room ih =>
    cases body with
    | none => exact .inl ⟨by simp [calls_none_iff], rfl⟩
    | some s =>
      obtain ⟨f, hf, heq⟩ : ∃ f : Selection → Except String Nat,
          (∀ x, Settles (Opens d entered x) room (selectionDepth available x) (f x)) ∧
            bodyDepthWithin (room + 1) available (some s)
              = (do return (← s.selections.mapM f).max?.getD 0) := by
        refine ⟨_, fun x => ?_, rfl⟩
        cases x with
        | field f =>
          rw [selectionDepth_field_eq]
          exact ((ih hr f.selectionSet).map (1 + ·)).congr fun n => opens_field_iff
        | inlineFragment i =>
          rw [selectionDepth_inlineFragment, ← selectionSetDepth_eq]
          exact (ih hr (some i.selectionSet)).congr fun n => opens_inlineFragment_iff
        | spread x =>
          dsimp only
          cases hx : available.get? x.name.value with
          | some f =>
            rw [selectionDepth_spread hx, ← selectionSetDepth_eq]
            exact (ih (hr.erase _) (some f.selectionSet)).congr fun n => opens_spread_iff hr hx
          | none =>
            rw [selectionDepth_lost hx]
            exact .inl ⟨fun n hn => absurd hn (not_opens_lost hr hx), rfl⟩
      rw [heq]
      rcases mapM_settles fun x (_ : x ∈ s.selections) => hf x with ⟨hfits, hmap⟩ | ⟨hasks, hmap⟩
      · refine .inl ⟨?_, ?_⟩
        · rintro _ (_ | ⟨hx, hopens⟩)
          · omega
          · exact Nat.succ_le_succ (hfits _ hx _ hopens)
        · rw [hmap, bodyDepth, selectionSetDepth_eq, ← getD_max?_selections]
          rfl
      · obtain ⟨x, hx, n, hn, hlt⟩ := hasks
        exact .inr ⟨⟨n + 1, .inside hx hn, Nat.succ_lt_succ hlt⟩, by rw [hmap]; rfl⟩

end Depth

/-! ## Documents on a stack -/

namespace Document

variable {d : Document} {room : Nat}

/-- The stack has room for the calls that the depth of a document asks for. -/
structure RootsFit (d : Document) (room : Nat) : Prop where
  pos : 0 < room
  lt : ∀ body ∈ d.depthBodies, ∀ n, Calls d [] body n → n < room

/-- The stack has room for the calls that the depth of a document and of any field in it ask for. -/
structure Fits (d : Document) (room : Nat) : Prop extends RootsFit d room where
  le : ∀ f, d.root.Contains (.field f) → f.selectionSet.isSome = true →
    ∀ n, Calls d [] f.selectionSet n → n ≤ room

theorem getD_max?_depthBodies (d : Document) :
    ((d.depthBodies.map (bodyDepth d.fragmentTable)).max?).getD 0 = d.maxDepth := by
  rw [getD_max?_bodies, maxDepth, depthBodies, depthRoots]
  split <;> simp [List.filterMap_map, Function.comp_def]

theorem maxDepthWithin_settles (d : Document) (room : Nat) :
    d.RootsFit room ∧ d.maxDepthWithin room = .ok d.maxDepth ∨
      ¬ d.RootsFit room ∧ d.maxDepthWithin room = .error stackExhausted := by
  cases room with
  | zero => exact .inr ⟨fun h => absurd h.pos (Nat.lt_irrefl 0), rfl⟩
  | succ room =>
    rw [maxDepthWithin]
    rcases mapM_settles fun body (_ : body ∈ d.depthBodies) =>
      bodyDepthWithin_settles room (remaining_fragmentTable d) body with
      ⟨hfits, heq⟩ | ⟨⟨body, hbody, n, hn, hlt⟩, heq⟩
    · refine .inl ⟨⟨Nat.succ_pos room, fun body hbody n hn => ?_⟩, ?_⟩
      · exact Nat.lt_succ_of_le (hfits body hbody n hn)
      · rw [heq, ← getD_max?_depthBodies]
        rfl
    · refine .inr ⟨fun h => ?_, by rw [heq]; rfl⟩
      exact absurd (h.lt body hbody n hn) (by omega)

theorem fieldDepth_eq_bodyDepth (d : Document) (f : Field) :
    d.fieldDepth f = 1 + bodyDepth d.fragmentTable f.selectionSet := by
  rw [fieldDepth]
  cases f.selectionSet <;> rfl

theorem fieldDepthWithin_settles (d : Document) (room : Nat) (f : Field) :
    Settles (Calls d [] f.selectionSet) room (d.fieldDepth f) (d.fieldDepthWithin room f) := by
  rw [fieldDepth_eq_bodyDepth]
  exact (bodyDepthWithin_settles room (remaining_fragmentTable d) f.selectionSet).map (1 + ·)

theorem rootsFit_iff : d.RootsFit room ↔ (d.maxDepthWithin room).toOption.isSome = true := by
  rcases d.maxDepthWithin_settles room with ⟨hfits, heq⟩ | ⟨hnot, heq⟩
  · exact iff_of_true hfits (by rw [heq]; rfl)
  · exact iff_of_false hnot (by rw [heq]; exact Bool.false_ne_true)

theorem fits_iff : d.Fits room ↔ d.RootsFit room ∧
    ∀ f ∈ d.fields.filter fun f => f.selectionSet.isSome,
      (d.fieldDepthWithin room f).toOption.isSome = true := by
  have hfield : ∀ f, (d.fieldDepthWithin room f).toOption.isSome = true ↔
      ∀ n, Calls d [] f.selectionSet n → n ≤ room := by
    intro f
    rcases d.fieldDepthWithin_settles room f with ⟨hfits, heq⟩ | ⟨⟨n, hn, hlt⟩, heq⟩
    · exact iff_of_true (by rw [heq]; rfl) hfits
    · exact iff_of_false (by rw [heq]; exact Bool.false_ne_true) fun h => by have := h n hn; omega
  simp only [hfield, List.mem_filter, mem_fields_iff]
  exact ⟨fun h => ⟨h.toRootsFit, fun f hf => h.le f hf.1 hf.2⟩,
    fun h => ⟨h.1, fun f hf hbody => h.2 f ⟨hf, hbody⟩⟩⟩

instance (d : Document) (room : Nat) : Decidable (d.RootsFit room) :=
  decidable_of_iff _ rootsFit_iff.symm

instance (d : Document) (room : Nat) : Decidable (d.Fits room) :=
  decidable_of_iff _ fits_iff.symm

end Document

/-! ## Rules on a stack -/

namespace Performance

variable {c : Context} {room : Nat}

end Performance

namespace Security

variable {c : Context} {room : Nat}

end Security

end QueryLint
