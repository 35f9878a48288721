import Mathlib.Algebra.Ring.Nat
import Mathlib.Logic.Function.Iterate
import QueryLint.Document.Tree
import QueryLint.Proofs.Occurrences

/-! # The walk is the pre-order traversal

The nodes that wait on the stack, walked one after the other from the top, are what is still to be
met; a step moves the first of them to those that were met. So the loop ends with the recursive
traversal, which comes to every place of a tree once: to a node before the nodes below it, and to
these child by child. This holds of trees with any gaps, and documents are such trees.
-/

namespace QueryLint

/-! ## Places -/

/-- The node at a place: each number leads on to one of the children. -/
def nodeAt? {α : Type} (children : α → List α) (n : α) : List Nat → Option α
  | [] => some n
  | i :: place => (children n)[i]?.bind fun m => nodeAt? children m place

/-- A place comes before those below it, and what is below one child of a node comes before what is
below a later one. -/
inductive Precedes : List Nat → List Nat → Prop
  | below (place : List Nat) (i : Nat) (rest : List Nat) : Precedes place (place ++ i :: rest)
  | aside (place : List Nat) {i j : Nat} (h : i < j) (rest rest' : List Nat) :
      Precedes (place ++ i :: rest) (place ++ j :: rest')

namespace Precedes

variable {place place' : List Nat}

theorem ne (h : Precedes place place') : place ≠ place' := by
  cases h with
  | below => simp
  | aside place h rest rest' =>
    intro heq
    exact Nat.ne_of_lt h (List.cons.inj (List.append_cancel_left heq)).1

theorem cons (h : Precedes place place') (i : Nat) : Precedes (i :: place) (i :: place') := by
  cases h with
  | below place j rest => exact .below (i :: place) j rest
  | aside place h rest rest' => exact .aside (i :: place) h rest rest'

end Precedes

/-! ## The traversal -/

/-- What a walk in pre-order does. -/
structure WalksInPreorder {α : Type} (children walk : α → List α) : Prop where
  /-- The loop comes to its end, with one step for each node that is met. -/
  ends (n : α) : (Walker.step children)^[(walk n).length] { waiting := [n] }
    = { waiting := [], met := walk n }
  /-- A node is met and then what is below its children, and nothing else is a walk. -/
  recursive (f : α → List α) : (∀ n, f n = n :: (children n).flatMap f) ↔ f = walk
  /-- The walk comes to every place below a node, to each once and in their order. -/
  places (n : α) : ∃ places : List (List Nat), places.Nodup ∧ places.Pairwise Precedes ∧
    (∀ place, place ∈ places ↔ (nodeAt? children n place).isSome) ∧
    places.map (nodeAt? children n) = (walk n).map some

section Recursion

variable {α : Type} {children walk : α → List α}

theorem exists_places_below {n : α} {before after : List α} (hn : children n = before ++ after)
    (h : ∀ m ∈ after, ∃ places : List (List Nat), places.Pairwise Precedes ∧
      (∀ place, place ∈ places ↔ (nodeAt? children m place).isSome) ∧
      places.map (nodeAt? children m) = (walk m).map some) :
    ∃ places : List (List Nat), places.Pairwise Precedes ∧
      (∀ place, place ∈ places ↔ ∃ i rest, place = i :: rest ∧ before.length ≤ i ∧
        (nodeAt? children n place).isSome) ∧
      places.map (nodeAt? children n) = (after.flatMap walk).map some := by
  induction after generalizing before with
  | nil =>
    refine ⟨[], .nil, fun place => ?_, rfl⟩
    rw [List.append_nil] at hn
    simp only [List.not_mem_nil, false_iff]
    rintro ⟨i, rest, rfl, hi, hsome⟩
    rw [nodeAt?, hn, List.getElem?_eq_none hi] at hsome
    cases hsome
  | cons m after ih =>
    have hm : (children n)[before.length]? = some m := by
      rw [hn, List.getElem?_append_right le_rfl, Nat.sub_self]
      rfl
    obtain ⟨own, hown, hmemOwn, hmapOwn⟩ := h m List.mem_cons_self
    obtain ⟨later, hlater, hmemLater, hmapLater⟩ := @ih (before ++ [m])
      (by rw [hn, List.append_assoc, List.singleton_append])
      fun m' hm' => h m' (List.mem_cons_of_mem m hm')
    have hat : ∀ place, nodeAt? children n (before.length :: place) = nodeAt? children m place := by
      intro place
      rw [nodeAt?, hm, Option.bind_some]
    refine ⟨own.map (before.length :: ·) ++ later, ?order, fun place => ?mem, ?map⟩
    case order =>
      refine List.pairwise_append.mpr ⟨?_, hlater, ?_⟩
      · exact List.pairwise_map.mpr (hown.imp fun h => h.cons _)
      · intro place hplace place' hplace'
        obtain ⟨rest, -, rfl⟩ := List.mem_map.mp hplace
        obtain ⟨i, rest', rfl, hi, -⟩ := (hmemLater place').mp hplace'
        rw [List.length_append, List.length_singleton] at hi
        exact .aside [] (Nat.lt_of_succ_le hi) rest rest'
    case mem =>
      rw [List.mem_append, hmemLater, List.mem_map, List.length_append, List.length_singleton]
      constructor
      · rintro (⟨rest, hrest, rfl⟩ | ⟨i, rest, rfl, hi, hsome⟩)
        · exact ⟨_, rest, rfl, le_rfl, hat rest ▸ (hmemOwn rest).mp hrest⟩
        · exact ⟨i, rest, rfl, Nat.le_of_succ_le hi, hsome⟩
      · rintro ⟨i, rest, rfl, hi, hsome⟩
        rcases Nat.eq_or_lt_of_le hi with rfl | hi
        · exact .inl ⟨rest, (hmemOwn rest).mpr (hat rest ▸ hsome), rfl⟩
        · exact .inr ⟨i, rest, rfl, hi, hsome⟩
    case map =>
      rw [List.map_append, List.map_map, hmapLater, List.flatMap_cons, List.map_append, ← hmapOwn]
      exact congrArg (· ++ _) (List.map_congr_left fun place _ => hat place)

variable (hwalk : ∀ n, walk n = n :: (children n).flatMap walk)

include hwalk

theorem length_walk_lt {n m : α} (hm : m ∈ children n) : (walk m).length < (walk n).length := by
  rw [hwalk n, List.length_cons, Nat.lt_succ_iff]
  exact (sublist_flatMap_of_mem hm walk).length_le

theorem exists_places (n : α) : ∃ places : List (List Nat), places.Pairwise Precedes ∧
    (∀ place, place ∈ places ↔ (nodeAt? children n place).isSome) ∧
    places.map (nodeAt? children n) = (walk n).map some := by
  induction hk : (walk n).length using Nat.strong_induction_on generalizing n with
  | _ k ih =>
    subst hk
    obtain ⟨later, hlater, hmem, hmap⟩ := @exists_places_below α children walk n [] (children n)
      rfl fun m hm => ih _ (length_walk_lt hwalk hm) m rfl
    refine ⟨[] :: later, List.pairwise_cons.mpr ⟨fun place hplace => ?_, hlater⟩, ?_, ?_⟩
    · obtain ⟨i, rest, rfl, -⟩ := (hmem place).mp hplace
      exact .below [] i rest
    · rintro (_ | ⟨i, rest⟩)
      · simp [nodeAt?]
      · simp [hmem]
    · rw [List.map_cons, hmap, hwalk n]
      rfl

/-- The steps of a walk come to an end when all that was ahead is met. -/
theorem iterate_step_length_ahead (w : Walker α) :
    (Walker.step children)^[(w.ahead walk).length] w
      = { waiting := [], met := w.met ++ w.ahead walk } := by
  induction hk : (w.ahead walk).length generalizing w with
  | zero =>
    cases hlast : w.waiting.getLast? with
    | none =>
      obtain ⟨waiting, met⟩ := w
      obtain rfl := List.getLast?_eq_none_iff.mp hlast
      simp [Walker.ahead]
    | some n =>
      rw [Walker.ahead_eq_cons hwalk hlast] at hk
      cases hk
  | succ k ih =>
    cases hlast : w.waiting.getLast? with
    | none =>
      rw [Walker.ahead, List.getLast?_eq_none_iff.mp hlast] at hk
      cases hk
    | some n =>
      have hahead := Walker.ahead_eq_cons hwalk hlast
      have hmet : (w.step children).met = w.met ++ [n] := by rw [Walker.step_eq hlast]
      rw [hahead, List.length_cons, Nat.succ.injEq] at hk
      rw [Function.iterate_succ_apply, ih _ hk, hmet, hahead, List.append_assoc,
        List.singleton_append]

theorem walksInPreorder : WalksInPreorder children walk where
  ends n := by
    have hahead : ({ waiting := [n] } : Walker α).ahead walk = walk n := List.flatMap_singleton ..
    simpa only [hahead, List.nil_append] using iterate_step_length_ahead hwalk { waiting := [n] }
  recursive f := by
    constructor
    · intro hf
      funext n
      induction hk : (walk n).length using Nat.strong_induction_on generalizing n with
      | _ k ih =>
        subst hk
        rw [hf, hwalk n]
        exact congrArg _ (List.flatMap_congr fun m hm => ih _ (length_walk_lt hwalk hm) m rfl)
    · rintro rfl
      exact hwalk
  places n := by
    obtain ⟨places, horder, hmem, hmap⟩ := exists_places hwalk n
    exact ⟨places, horder.imp Precedes.ne, horder, hmem, hmap⟩

end Recursion

/-! ## Trees with gaps -/

namespace SyntaxTree

theorem children_node (kind : String) (attributes : List (String × Slot)) :
    (node kind attributes).children = ((childAttributes.lookup kind).getD []).flatMap fun name =>
      ((attributes.lookup name).getD .missing).trees := rfl

theorem run_eq (w : Walker SyntaxTree) :
    run w = { waiting := [], met := w.met ++ w.ahead preorder } := by
  fun_induction run w with
  | case1 w hlast =>
    obtain ⟨waiting, met⟩ := w
    obtain rfl := List.getLast?_eq_none_iff.mp hlast
    simp [Walker.ahead]
  | case2 w n hlast ih =>
    have hmet : (w.step children).met = w.met ++ [n] := by rw [Walker.step_eq hlast]
    rw [ih, hmet, Walker.ahead_eq_cons preorder_eq hlast, List.append_assoc,
      List.singleton_append]

theorem walk_some (t : SyntaxTree) : walk (some t) = t.preorder := by
  rw [walk, run_eq]
  exact List.flatMap_singleton ..

theorem countKind_some (t : SyntaxTree) (kind : String) : countKind (some t) kind
    = (t.children.map fun c => countKind (some c) kind).sum
      + if t.kind = kind then 1 else 0 := by
  have hbelow : (t.children.map fun c => countKind (some c) kind).sum
      = ((t.children.flatMap preorder).filter fun t => t.kind = kind).length := by
    simp only [List.filter_flatMap, List.length_flatMap, countKind, walk_some]
  rw [hbelow, countKind, walk_some, preorder_eq]
  by_cases h : t.kind = kind <;> simp [h]

end SyntaxTree

/-! ## Documents -/

theorem Value.itemTrees_eq (vs : List Value) : itemTrees vs = vs.map tree := by
  induction vs with
  | nil => rfl
  | cons v vs ih => rw [itemTrees, ih, List.map_cons]

theorem Value.fieldTrees_eq (fs : List ObjectField) : fieldTrees fs = fs.map ObjectField.tree := by
  induction fs with
  | nil => rfl
  | cons f fs ih => rw [fieldTrees, ih, List.map_cons]

theorem SelectionSet.selectionTrees_eq (ss : List Selection) :
    selectionTrees ss = ss.map Selection.tree := by
  induction ss with
  | nil => rfl
  | cons s ss ih => rw [selectionTrees, ih, List.map_cons]

theorem ObjectField.tree_eq (f : ObjectField) : f.tree
    = .node "object_field" [("name", .one f.name.tree), ("value", .one f.value.tree)] := by
  cases f
  rw [tree]

theorem SelectionSet.tree_eq (s : SelectionSet) : s.tree
    = .node "selection_set" [("selections", .all (s.selections.map Selection.tree))] := by
  cases s
  rw [tree, selectionTrees_eq]

theorem Field.tree_eq (f : Field) : f.tree
    = .node "field"
      [("alias", .ofOption (f.aliasName.map Name.tree)), ("name", .one f.name.tree),
       ("arguments", .all (f.arguments.map Argument.tree)),
       ("directives", .all (f.directives.map Directive.tree)),
       ("selection_set", .ofOption (f.selectionSet.map SelectionSet.tree))] := by
  obtain ⟨aliasName, name, arguments, directives, body, span⟩ := f
  rw [tree]
  cases body <;> rfl

theorem InlineFragment.tree_eq (i : InlineFragment) : i.tree
    = .node "inline_fragment"
      [("type_condition", .ofOption (i.condition.map NamedType.tree)),
       ("directives", .all (i.directives.map Directive.tree)),
       ("selection_set", .one i.selectionSet.tree)] := by
  cases i
  rw [tree]

theorem TypeSystemDefinition.lookup_kind (t : TypeSystemDefinition) :
    childAttributes.lookup t.kind = none := by
  obtain ⟨description, isExtension, body, span⟩ := t
  cases body <;> cases isExtension <;> rfl

namespace Node

theorem tree_ofDefinition (x : Definition) : (ofDefinition x).tree = x.tree := by
  cases x <;> rfl

theorem tree_ofSelection (x : Selection) : (ofSelection x).tree = x.tree := by
  cases x <;> rw [Selection.tree] <;> rfl

theorem kind_tree (n : Node) : n.tree.kind = n.kind := by
  cases n with
  | selectionSet s => rw [tree, SelectionSet.tree_eq]; rfl
  | field f => rw [tree, Field.tree_eq]; rfl
  | inlineFragment i => rw [tree, InlineFragment.tree_eq]; rfl
  | objectField f => rw [tree, ObjectField.tree_eq]; rfl
  | value v => cases v <;> rfl
  | _ => rfl

theorem children_tree (n : Node) : n.tree.children = n.children.map tree := by
  have hdefinition : tree ∘ ofDefinition = Definition.tree := funext tree_ofDefinition
  have hselection : tree ∘ ofSelection = Selection.tree := funext tree_ofSelection
  cases n with
  | typeSystem t =>
    rw [tree, TypeSystemDefinition.tree, SyntaxTree.children_node, t.lookup_kind]
    rfl
  | value v =>
    cases v <;> simp [tree, children, SyntaxTree.children_node, childAttributes, List.lookup_cons,
      Value.tree, Value.itemTrees_eq, Value.fieldTrees_eq, Variable.tree]
  | operation _ | variableDefinition _ | field _ =>
    simp only [tree, children, Operation.tree, VariableDefinition.tree, Field.tree_eq,
      SyntaxTree.children_node, childAttributes, List.map_append, List.map_map]
    simp [List.lookup_cons, Option.toList_map]
    rfl
  | _ =>
    simp [tree, children, SyntaxTree.children_node, childAttributes, List.lookup_cons, hdefinition,
      hselection, Fragment.tree, SelectionSet.tree_eq, Spread.tree, InlineFragment.tree_eq,
      Argument.tree, Directive.tree, ObjectField.tree_eq]

theorem walk_tree (n : Node) : SyntaxTree.walk (some n.tree) = n.walk.map tree := by
  rw [SyntaxTree.walk_some]
  induction hk : n.walk.length using Nat.strong_induction_on generalizing n with
  | _ k ih =>
    subst hk
    rw [SyntaxTree.preorder_eq, children_tree, walk_eq, List.map_cons, List.map_flatMap,
      List.flatMap_map]
    exact congrArg _ (List.flatMap_congr fun m hm => ih _ (length_walk_lt walk_eq hm) m rfl)

theorem isSome_field?_iff (n : Node) : n.field?.isSome = true ↔ n.kind = "field" := by
  cases n with
  | typeSystem t =>
    -- A field has children in the table, a definition of the type system has none.
    refine iff_of_false Bool.false_ne_true fun hkind => ?_
    have hnone := t.lookup_kind
    rw [show t.kind = "field" from hkind] at hnone
    cases hnone
  | value v => cases v <;> simp [field?, kind, Value.kind]
  | _ => simp [field?, kind]

theorem fieldCount_eq_countKind (n : Node) :
    n.fieldCount = SyntaxTree.countKind (some n.tree) "field" := by
  rw [fieldCount, fields, SyntaxTree.countKind, walk_tree, List.filter_map, List.length_map,
    List.length_filterMap_eq_countP, List.countP_eq_length_filter]
  refine congrArg List.length (List.filter_congr fun m _ => ?_)
  rw [Function.comp_apply, kind_tree, Bool.eq_iff_iff, isSome_field?_iff, decide_eq_true_iff]

end Node

/-! ## The walk -/

/-- The loop is the traversal in pre-order, for trees with any gaps and for the nodes of documents,
which are laid out as such trees. So the nodes of a kind are those below the children, and the
node itself if it is of the kind. -/
theorem walks_in_preorder :
    WalksInPreorder SyntaxTree.children (fun t => SyntaxTree.walk (some t)) ∧
    (∀ t : SyntaxTree, SyntaxTree.walk (some t) = t.preorder ∧
      ∀ kind, SyntaxTree.countKind (some t) kind
        = (t.children.map fun c => SyntaxTree.countKind (some c) kind).sum
          + if t.kind = kind then 1 else 0) ∧
    WalksInPreorder Node.children Node.walk ∧
    ∀ n : Node, n.tree.kind = n.kind ∧ n.tree.children = n.children.map Node.tree ∧
      SyntaxTree.walk (some n.tree) = n.walk.map Node.tree ∧
      n.fieldCount = SyntaxTree.countKind (some n.tree) "field" := by
  have hwalk : (fun t => SyntaxTree.walk (some t)) = SyntaxTree.preorder :=
    funext SyntaxTree.walk_some
  refine ⟨?_, ?_, walksInPreorder Node.walk_eq, ?_⟩
  · rw [hwalk]
    exact walksInPreorder SyntaxTree.preorder_eq
  · intro t
    exact ⟨t.walk_some, t.countKind_some⟩
  · intro n
    exact ⟨n.kind_tree, n.children_tree, n.walk_tree, n.fieldCount_eq_countKind⟩

end QueryLint
