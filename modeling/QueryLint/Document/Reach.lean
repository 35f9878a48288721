import QueryLint.Document.Depth

/-! # What an operation reaches

The nodes of an operation and of every fragment it spreads, directly or through other fragments.
Each fragment is visited once: the first spread of its name takes it out of those to be visited.
-/

namespace QueryLint

/-- Takes the named fragments out of a table, each at most once, in the order of the names. -/
def takeFragments (table : Table Fragment) : List String → List Fragment × Table Fragment
  | [] => ([], table)
  | n :: ns =>
    match table.get? n with
    | some f =>
      let (found, rest) := takeFragments (table.erase n) ns
      (f :: found, rest)
    | none => takeFragments table ns

theorem takeFragments_size (table : Table Fragment) (names : List String) :
    (takeFragments table names).1.length + (takeFragments table names).2.size ≤ table.size := by
  induction names generalizing table with
  | nil => simp [takeFragments]
  | cons n ns ih =>
    unfold takeFragments
    split
    · rename_i f h
      have h1 := ih (table.erase n)
      have h2 := Table.size_erase_lt h
      simp only [List.length_cons]
      omega
    · exact ih table

namespace Node

def spreadNames (nodes : List Node) : List String :=
  nodes.filterMap fun n => n.spread?.map (·.name.value)

/-- Walks the pending nodes, last found first, with the fragments their spreads lead to. -/
def reachFrom (table : Table Fragment) : List Node → List Node
  | [] => []
  | n :: pending =>
    let found := takeFragments table (spreadNames n.walk)
    n.walk ++ reachFrom found.2 (found.1.reverse.map fragment ++ pending)
termination_by pending => (table.size, pending.length)
decreasing_by
  have h := takeFragments_size table (spreadNames n.walk)
  by_cases he : (takeFragments table (spreadNames n.walk)).1.length = 0
  · rcases Nat.lt_or_eq_of_le (by omega :
      (takeFragments table (spreadNames n.walk)).2.size ≤ table.size) with hlt | heq
    · exact Prod.Lex.left _ _ hlt
    · simp only [heq, List.length_append, List.length_map, List.length_reverse, he,
        List.length_cons]
      right; omega
  · left; omega

end Node

def Document.reach (d : Document) (o : Operation) : List Node :=
  Node.reachFrom d.fragmentTable [.operation o]

end QueryLint
