import Mathlib.Data.List.Perm.Basic
import QueryLint.Proofs.Reach

/-! # Every fragment that is reached is walked once

An operation reaches the defined fragments whose names are spread in it or in a fragment it reaches.
What the search yields is the walk of the operation and, once for each name that is reached, the
walk of its last definition, however the spreads repeat, share or lead around in a circle.
-/

namespace QueryLint

/-! ## Names that are reached -/

/-- A fragment name that an operation reaches: it is defined, and it is spread in the operation or
in the last definition of a name that is reached. -/
inductive Document.Reachable (d : Document) (o : Operation) : String → Prop
  | own {s : Spread} : (Node.operation o).Contains (.spread s) →
      (d.lastFragment? s.name.value).isSome → Reachable d o s.name.value
  | through {name : String} {f : Fragment} {s : Spread} : Reachable d o name →
      d.lastFragment? name = some f → (Node.fragment f).Contains (.spread s) →
      (d.lastFragment? s.name.value).isSome → Reachable d o s.name.value

namespace Document

variable {d : Document} {o : Operation} {n : Node} {name : String}

theorem Reaches.cases (h : d.Reaches o n) : (Node.operation o).Contains n ∨
    ∃ name f, d.Reachable o name ∧ d.lastFragment? name = some f ∧
      (Node.fragment f).Contains n := by
  induction h with
  | own hn => exact .inl hn
  | @spread s f n _ hf hn ih =>
    have hdefined : (d.lastFragment? s.name.value).isSome := by rw [hf]; rfl
    refine .inr ⟨s.name.value, f, ?_, hf, hn⟩
    rcases ih with hs | ⟨name, g, hname, hg, hs⟩
    · exact .own hs hdefined
    · exact .through hname hg hs hdefined

theorem Reachable.exists_spread (h : d.Reachable o name) : (d.lastFragment? name).isSome ∧
    ∃ s : Spread, d.Reaches o (.spread s) ∧ s.name.value = name := by
  induction h with
  | @own s hs hdefined => exact ⟨hdefined, s, .own hs, rfl⟩
  | @through name f s _ hf hs hdefined ih =>
    obtain ⟨-, t, ht, rfl⟩ := ih
    exact ⟨hdefined, s, .spread ht hf hs, rfl⟩

theorem reaches_iff : d.Reaches o n ↔ (Node.operation o).Contains n ∨
    ∃ name f, d.Reachable o name ∧ d.lastFragment? name = some f ∧
      (Node.fragment f).Contains n := by
  constructor
  · exact Reaches.cases
  · rintro (hn | ⟨name, f, hname, hf, hn⟩)
    · exact .own hn
    · obtain ⟨-, s, hs, rfl⟩ := hname.exists_spread
      exact .spread hs hf hn

theorem reachable_iff : d.Reachable o name ↔
    (d.lastFragment? name).isSome ∧ name ∈ Node.spreadNames (d.reach o) := by
  simp only [Node.mem_spreadNames_iff, mem_reach_iff]
  constructor
  · exact Reachable.exists_spread
  · rintro ⟨hdefined, s, hs, rfl⟩
    rcases hs.cases with hs | ⟨name, f, hname, hf, hs⟩
    · exact .own hs hdefined
    · exact .through hname hf hs hdefined

end Document

/-! ## The search -/

namespace Node

variable {table : Table Fragment}

/-- The fragments that are taken out are those of some distinct names: the ones that are asked for
and that the table has. -/
theorem exists_takeFragments (table : Table Fragment) (names : List String) :
    ∃ taken : List String, taken.Nodup ∧
      (∀ k, k ∈ taken ↔ k ∈ names ∧ (table.get? k).isSome) ∧
      (takeFragments table names).1 = taken.filterMap table.get? := by
  induction names generalizing table with
  | nil => exact ⟨[], List.nodup_nil, by simp, rfl⟩
  | cons n ns ih =>
    rw [takeFragments]
    cases hn : table.get? n with
    | none =>
      obtain ⟨taken, hnodup, hmem, heq⟩ := ih table
      refine ⟨taken, hnodup, fun k => ?_, heq⟩
      rw [hmem, List.mem_cons, or_and_right]
      have hk : ¬ (k = n ∧ (table.get? k).isSome) := by
        rintro ⟨rfl, hk⟩
        simp [hn] at hk
      simp [hk]
    | some f =>
      obtain ⟨taken, hnodup, hmem, heq⟩ := ih (table.erase n)
      have hnew : n ∉ taken := by
        rw [hmem, Table.get?_erase]
        simp
      refine ⟨n :: taken, List.nodup_cons.mpr ⟨hnew, hnodup⟩, fun k => ?_, ?_⟩
      · rw [List.mem_cons, hmem, Table.get?_erase, List.mem_cons]
        by_cases hk : k = n
        · simp [hk, hn]
        · simp [hk]
      · have hrest : taken.filterMap (table.erase n).get? = taken.filterMap table.get? := by
          refine List.filterMap_congr fun k hk => ?_
          rw [Table.get?_erase, if_neg (ne_of_mem_of_not_mem hk hnew)]
        rw [List.filterMap_cons_some hn, ← hrest, ← heq]

theorem spreadNames_append (a b : List Node) :
    spreadNames (a ++ b) = spreadNames a ++ spreadNames b :=
  List.filterMap_append

/-- The walks of the fragments that a table has under some names. -/
def walksOf (table : Table Fragment) (names : List String) : List Node :=
  (names.filterMap table.get?).flatMap fun f => (fragment f).walk

theorem walksOf_append (table : Table Fragment) (names names' : List String) :
    walksOf table (names ++ names') = walksOf table names ++ walksOf table names' := by
  rw [walksOf, List.filterMap_append, List.flatMap_append]
  rfl

/-- The search walks what is pending and, once for each name that it finds spread and that the table
has, the fragment of that name. -/
theorem exists_reachFrom_perm (table : Table Fragment) (pending : List Node) :
    ∃ names : List String, names.Nodup ∧
      (∀ k, k ∈ names ↔ (table.get? k).isSome ∧ k ∈ spreadNames (reachFrom table pending)) ∧
      (reachFrom table pending).Perm (pending.flatMap walk ++ walksOf table names) := by
  fun_induction reachFrom table pending with
  | case1 => exact ⟨[], List.nodup_nil, by simp [spreadNames], .refl _⟩
  | case2 table p pending found ih =>
    obtain ⟨taken, htaken, hmemTaken, hfound⟩ := exists_takeFragments table (spreadNames p.walk)
    obtain ⟨names, hnames, hmemNames, hperm⟩ := ih
    have hget : ∀ k, found.2.get? k = if k ∈ spreadNames p.walk then none else table.get? k :=
      get?_takeFragments_snd (spreadNames p.walk)
    -- What is found later is not spread in the node that is walked now.
    have hlater : ∀ k ∈ names, k ∉ spreadNames p.walk := by
      intro k hk hspread
      have hsome := ((hmemNames k).mp hk).1
      rw [hget, if_pos hspread] at hsome
      cases hsome
    refine ⟨taken ++ names, ?nodup, fun k => ?mem, ?perm⟩
    case nodup =>
      rw [List.nodup_append]
      refine ⟨htaken, hnames, fun k hk k' hk' heq => ?_⟩
      exact hlater k' hk' (heq ▸ ((hmemTaken k).mp hk).1)
    case mem =>
      rw [List.mem_append, hmemTaken, hmemNames, hget, spreadNames_append, List.mem_append]
      by_cases hk : k ∈ spreadNames p.walk
      · simp [hk]
      · simp [hk]
    case perm =>
      have hnow : ((found.1.reverse.map fragment).flatMap walk).Perm (walksOf table taken) := by
        rw [List.flatMap_map, walksOf, ← hfound]
        exact (List.reverse_perm found.1).flatMap_right _
      have hthen : walksOf found.2 names = walksOf table names := by
        rw [walksOf, walksOf, List.filterMap_congr fun k hk => by rw [hget, if_neg (hlater k hk)]]
      rw [List.flatMap_append, hthen] at hperm
      rw [List.flatMap_cons, List.append_assoc, walksOf_append]
      refine .append_left _ (hperm.trans ?_)
      rw [List.append_assoc]
      exact (hnow.append_right _).trans (List.perm_append_comm_assoc _ _ _)

end Node

namespace Document

/-- What is found from an operation is its walk with one walk for each fragment name it reaches, and
no name is walked twice. -/
theorem reach_walks_each_fragment_once (d : Document) (o : Operation) :
    ∃ names : List String, names.Nodup ∧ (∀ name, name ∈ names ↔ d.Reachable o name) ∧
      (d.reach o).Perm ((Node.operation o).walk
        ++ (names.filterMap d.lastFragment?).flatMap fun f => (Node.fragment f).walk) := by
  have hget : d.fragmentTable.get? = d.lastFragment? := funext d.get?_fragmentTable
  obtain ⟨names, hnodup, hmem, hperm⟩ := Node.exists_reachFrom_perm d.fragmentTable [.operation o]
  refine ⟨names, hnodup, fun name => ?_, ?_⟩
  · rw [hmem, hget, reachable_iff]
    rfl
  · rw [Node.walksOf, hget, List.flatMap_singleton] at hperm
    exact hperm

end Document

end QueryLint
