import QueryLint.Document.Reach
import QueryLint.Proofs.Table

/-! # Containment and reach

The walk of a node meets exactly the nodes it contains. An operation reaches what it contains and
what is contained in the fragments spread there, spread by spread; the search, which takes every
fragment out of its table when it first comes to it, finds exactly that.
-/

namespace QueryLint

/-! ## Containment -/

/-- A node contains itself and all that its children contain. -/
inductive Node.Contains : Node → Node → Prop
  | self (n : Node) : Contains n n
  | child {root m n : Node} : m ∈ root.children → Contains m n → Contains root n

namespace Node

variable {root n : Node}

theorem contains_iff : root.Contains n ↔ n = root ∨ ∃ m ∈ root.children, m.Contains n := by
  constructor
  · rintro (_ | ⟨hm, hn⟩)
    · exact .inl rfl
    · exact .inr ⟨_, hm, hn⟩
  · rintro (rfl | ⟨m, hm, hn⟩)
    · exact .self n
    · exact .child hm hn

theorem Contains.trans {m : Node} (h : root.Contains m) (h' : m.Contains n) : root.Contains n := by
  induction h with
  | self m => exact h'
  | child hm _ ih => exact .child hm (ih h')

theorem mem_walkStack_iff {stack : List Node} :
    n ∈ walkStack stack ↔ ∃ m ∈ stack, m.Contains n := by
  fun_induction walkStack stack with
  | case1 => simp
  | case2 m rest ih =>
    have hm : (∃ x, x = m ∧ x.Contains n) ↔ n = m ∨ ∃ x ∈ m.children, x.Contains n := by
      rw [exists_eq_left, contains_iff]
    simp only [List.mem_cons, ih, List.mem_append, or_and_right, exists_or, hm, or_assoc]

theorem mem_walk_iff : n ∈ root.walk ↔ root.Contains n := by
  simp [walk, mem_walkStack_iff]

theorem walkStack_append (a b : List Node) : walkStack (a ++ b) = walkStack a ++ walkStack b := by
  fun_induction walkStack a with
  | case1 => rfl
  | case2 n rest ih => rw [List.cons_append, walkStack, ← List.append_assoc, ih, List.cons_append]

theorem walkStack_eq_flatMap (stack : List Node) : walkStack stack = stack.flatMap walk := by
  induction stack with
  | nil => rw [walkStack, List.flatMap_nil]
  | cons n rest ih => rw [← List.singleton_append, walkStack_append, ih]; rfl

theorem walk_eq (n : Node) : n.walk = n :: n.children.flatMap walk := by
  rw [walk, walkStack, List.append_nil, walkStack_eq_flatMap]

/-- What a view finds under a node is what it makes of the node and what it finds under the
children. -/
theorem filterMap_walk {α : Type} (view : Node → Option α) (n : Node) : n.walk.filterMap view
    = (view n).toList ++ n.children.flatMap fun m => m.walk.filterMap view := by
  rw [walk_eq, List.filterMap_cons, List.filterMap_flatMap]
  cases view n <;> rfl

theorem mem_filterMap_view {α : Type} {view : Node → Option α} (make : α → Node)
    (h : ∀ n a, view n = some a ↔ n = make a) {nodes : List Node} {a : α} :
    a ∈ nodes.filterMap view ↔ make a ∈ nodes := by
  simp [List.mem_filterMap, h]

end Node

namespace Document

variable {d : Document}

theorem mem_fields_iff {f : Field} : f ∈ d.fields ↔ d.root.Contains (.field f) := by
  rw [← Node.mem_walk_iff]
  exact Node.mem_filterMap_view .field fun n a => by cases n <;> simp [Node.field?]

theorem mem_arguments_iff {a : Argument} : a ∈ d.arguments ↔ d.root.Contains (.argument a) := by
  rw [← Node.mem_walk_iff]
  exact Node.mem_filterMap_view .argument fun n a => by cases n <;> simp [Node.argument?]

theorem mem_directives_iff {r : Directive} : r ∈ d.directives ↔ d.root.Contains (.directive r) := by
  rw [← Node.mem_walk_iff]
  exact Node.mem_filterMap_view .directive fun n a => by cases n <;> simp [Node.directive?]

theorem mem_selectionSets_iff {s : SelectionSet} :
    s ∈ d.selectionSets ↔ d.root.Contains (.selectionSet s) := by
  rw [← Node.mem_walk_iff]
  exact Node.mem_filterMap_view .selectionSet fun n a => by cases n <;> simp [Node.selectionSet?]

end Document

/-! ## Taking fragments out of a table -/

namespace Node

variable {n : Node} {pending : List Node} {table : Table Fragment}

theorem mem_takeFragments_fst {names : List String} {f : Fragment} :
    f ∈ (takeFragments table names).1 ↔ ∃ k ∈ names, table.get? k = some f := by
  induction names generalizing table with
  | nil => simp [takeFragments]
  | cons n ns ih =>
    rw [takeFragments]
    cases hn : table.get? n with
    | none =>
      rw [ih]
      simp [hn]
    | some g =>
      simp only [List.mem_cons, ih, Table.get?_erase, exists_eq_or_imp, hn, Option.some.injEq]
      constructor
      · rintro (rfl | ⟨k, hk, hf⟩)
        · exact .inl rfl
        · split at hf
          · cases hf
          · exact .inr ⟨k, hk, hf⟩
      · rintro (rfl | ⟨k, hk, hf⟩)
        · exact .inl rfl
        · by_cases hkn : k = n
          · rw [hkn, hn, Option.some.injEq] at hf
            exact .inl hf.symm
          · exact .inr ⟨k, hk, by rw [if_neg hkn, hf]⟩

theorem get?_takeFragments_snd (names : List String) (k : String) :
    (takeFragments table names).2.get? k = if k ∈ names then none else table.get? k := by
  induction names generalizing table with
  | nil => simp [takeFragments]
  | cons n ns ih =>
    rw [takeFragments]
    cases hn : table.get? n with
    | none =>
      rw [ih]
      by_cases hk : k = n
      · simp [hk, hn]
      · simp [hk]
    | some g =>
      simp only [ih, Table.get?_erase]
      by_cases hk : k = n <;> simp [hk]

/-! ## The search -/

theorem mem_spreadNames_iff {nodes : List Node} {name : String} :
    name ∈ spreadNames nodes ↔ ∃ s : Spread, .spread s ∈ nodes ∧ s.name.value = name := by
  have hspread : ∀ n s, spread? n = some s ↔ n = .spread s := by
    intro n s
    cases n <;> simp [spread?]
  simp only [spreadNames, List.mem_filterMap, Option.map_eq_some_iff, hspread]
  constructor
  · rintro ⟨_, hn, s, rfl, rfl⟩
    exact ⟨s, hn, rfl⟩
  · rintro ⟨s, hs, rfl⟩
    exact ⟨_, hs, s, rfl, rfl⟩

theorem mem_reachFrom_of_mem_pending {m : Node} (hm : m ∈ pending) (hn : n ∈ m.walk) :
    n ∈ reachFrom table pending := by
  fun_induction reachFrom table pending with
  | case1 => cases hm
  | case2 table p pending found ih =>
    rw [List.mem_append]
    rcases List.mem_cons.mp hm with rfl | hm
    · exact .inl hn
    · exact .inr (ih (List.mem_append_right _ hm))

theorem mem_reachFrom_of_spread {s : Spread} {f : Fragment}
    (hs : .spread s ∈ reachFrom table pending) (hf : table.get? s.name.value = some f)
    (hn : n ∈ (fragment f).walk) : n ∈ reachFrom table pending := by
  fun_induction reachFrom table pending with
  | case1 => cases hs
  | case2 table p pending found ih =>
    rw [List.mem_append] at hs ⊢
    right
    by_cases hname : s.name.value ∈ spreadNames p.walk
    · -- The fragment is taken out now and pending from here on.
      have hfound : f ∈ found.1 := mem_takeFragments_fst.mpr ⟨_, hname, hf⟩
      refine mem_reachFrom_of_mem_pending (List.mem_append_left _ ?_) hn
      exact List.mem_map_of_mem (List.mem_reverse.mpr hfound)
    · have hs : .spread s ∈ reachFrom found.2 (found.1.reverse.map fragment ++ pending) :=
        hs.resolve_left fun h => hname (mem_spreadNames_iff.mpr ⟨s, h, rfl⟩)
      refine ih hs ?_
      rw [get?_takeFragments_snd, if_neg hname, hf]

/-- Whatever holds of the pending nodes and passes from a spread to its fragment holds of all that
is found. -/
theorem forall_mem_reachFrom {P : Node → Prop}
    (hspread : ∀ s f n, P (.spread s) → table.get? s.name.value = some f → n ∈ (fragment f).walk →
      P n)
    (hpending : ∀ m ∈ pending, ∀ n ∈ m.walk, P n) : ∀ n ∈ reachFrom table pending, P n := by
  fun_induction reachFrom table pending with
  | case1 => exact fun n hn => nomatch hn
  | case2 table p pending found ih =>
    intro n hn
    rcases List.mem_append.mp hn with hn | hn
    · exact hpending p List.mem_cons_self n hn
    · refine ih ?_ ?_ n hn
      · intro s f n hs hf
        rw [get?_takeFragments_snd] at hf
        split at hf
        · cases hf
        · exact hspread s f n hs hf
      · intro m hm n hn
        rcases List.mem_append.mp hm with hm | hm
        · obtain ⟨f, hf, rfl⟩ := List.mem_map.mp hm
          obtain ⟨k, hk, hget⟩ := mem_takeFragments_fst.mp (List.mem_reverse.mp hf)
          obtain ⟨s, hs, rfl⟩ := mem_spreadNames_iff.mp hk
          exact hspread s f n (hpending p List.mem_cons_self _ hs) hget hn
        · exact hpending m (List.mem_cons_of_mem p hm) n hn

end Node

/-! ## Reach -/

/-- What an operation reaches: the nodes it contains and, from a spread it reaches, those that the
last definition of the fragment contains. -/
inductive Document.Reaches (d : Document) (o : Operation) : Node → Prop
  | own {n : Node} : (Node.operation o).Contains n → Reaches d o n
  | spread {s : Spread} {f : Fragment} {n : Node} : Reaches d o (.spread s) →
      d.lastFragment? s.name.value = some f → (Node.fragment f).Contains n → Reaches d o n

theorem Document.Reaches.contains {d : Document} {o : Operation} {n m : Node} (h : d.Reaches o n)
    (hm : n.Contains m) : d.Reaches o m := by
  cases h with
  | own hn => exact .own (hn.trans hm)
  | spread hs hf hn => exact .spread hs hf (hn.trans hm)

theorem Document.mem_reach_iff {d : Document} {o : Operation} {n : Node} :
    n ∈ d.reach o ↔ d.Reaches o n := by
  constructor
  · refine fun hn => Node.forall_mem_reachFrom (fun s f n hs hf hn => ?_) (fun m hm n hn => ?_) n hn
    · rw [get?_fragmentTable] at hf
      exact .spread hs hf (Node.mem_walk_iff.mp hn)
    · rw [List.mem_singleton] at hm
      subst hm
      exact .own (Node.mem_walk_iff.mp hn)
  · intro h
    induction h with
    | own hn =>
      exact Node.mem_reachFrom_of_mem_pending List.mem_cons_self (Node.mem_walk_iff.mpr hn)
    | spread _ hf hn ih =>
      rw [← get?_fragmentTable] at hf
      exact Node.mem_reachFrom_of_spread ih hf (Node.mem_walk_iff.mpr hn)

end QueryLint
