import QueryLint.Proofs.Invariance

/-! # Which strings are scanned

The security check looks for strings in the arguments of fields and of directives, each value
searched on its own. The strings that it scans are those that the walk of the document meets below
an argument, each once, however deep they lie in lists and objects and wherever the directive
stands. So the findings about values can be counted on the walk.
-/

namespace QueryLint

structure StringLiteral where
  content : String
  block : Bool
  span : Option Span
  deriving DecidableEq

namespace Node

def stringLiteral? : Node → Option StringLiteral
  | value (.string content block span) => some ⟨content, block, span⟩
  | _ => none

def isArgument : Node → Bool
  | argument _ => true
  | _ => false

/-! ## The walk with marks -/

/-- The walk with a mark on every node that tells whether it lies below an argument. -/
def markedStack : List (Bool × Node) → List (Bool × Node)
  | [] => []
  | (below, n) :: rest =>
    (below, n) :: markedStack (n.children.map (Prod.mk (below || n.isArgument)) ++ rest)
termination_by stack => weight (stack.map Prod.snd)
decreasing_by
  have := weight_children_lt n
  simp only [List.map_append, List.map_map, Function.comp_def, List.map_id', weight_append,
    List.map_cons, weight_cons]
  omega

def markedWalk (root : Node) : List (Bool × Node) :=
  markedStack [(false, root)]

theorem map_snd_markedStack (stack : List (Bool × Node)) :
    (markedStack stack).map Prod.snd = walkStack (stack.map Prod.snd) := by
  fun_induction markedStack stack with
  | case1 => rw [List.map_nil, walkStack]
  | case2 below n rest ih =>
    rw [List.map_cons, List.map_cons, walkStack, ih, List.map_append, List.map_map]
    simp only [Function.comp_def, List.map_id']

theorem map_snd_markedWalk (root : Node) : root.markedWalk.map Prod.snd = root.walk :=
  map_snd_markedStack [(false, root)]

def markedStrings (nodes : List (Bool × Node)) : List StringLiteral :=
  (nodes.filter (·.1)).filterMap fun e => e.2.stringLiteral?

def strings (n : Node) : List StringLiteral :=
  n.walk.filterMap stringLiteral?

theorem strings_eq (n : Node) :
    n.strings = n.stringLiteral?.toList ++ n.children.flatMap strings :=
  filterMap_walk stringLiteral? n

/-! ## Arguments -/

def isInput : Node → Bool
  | argument _ | value _ | objectField _ => true
  | _ => false

variable {n m : Node}

theorem isInput_of_mem_children (h : m ∈ n.children) (hn : n.isInput = true) :
    m.isInput = true := by
  cases n with
  | argument a =>
    obtain rfl := List.mem_singleton.mp h
    rfl
  | value v =>
    cases v with
    | list items s =>
      obtain ⟨v, -, rfl⟩ := List.mem_map.mp h
      rfl
    | object fields s =>
      obtain ⟨f, -, rfl⟩ := List.mem_map.mp h
      rfl
    | _ => cases h
  | objectField f =>
    obtain rfl := List.mem_singleton.mp h
    rfl
  | _ => cases hn

theorem Contains.isInput (h : n.Contains m) (hn : n.isInput = true) : m.isInput = true := by
  induction h with
  | self n => exact hn
  | child hm _ ih => exact ih (isInput_of_mem_children hm hn)

theorem arguments_of_isInput (h : n.isInput = true) : n.arguments = [] := by
  cases n with
  | field f => cases h
  | directive r => cases h
  | _ => rfl

theorem filterMap_argument?_children (n : Node) : n.children.filterMap argument? = n.arguments := by
  cases n with
  | document ds s =>
    refine List.filterMap_eq_nil_iff.mpr fun m hm => ?_
    obtain ⟨x, -, rfl⟩ := List.mem_map.mp hm
    cases x <;> rfl
  | selectionSet s =>
    refine List.filterMap_eq_nil_iff.mpr fun m hm => ?_
    obtain ⟨x, -, rfl⟩ := List.mem_map.mp hm
    cases x <;> rfl
  | value v =>
    cases v <;> simp [children, arguments, argument?, List.filterMap_map, Function.comp_def]
  | _ => simp [children, arguments, argument?, List.filterMap_map, Function.comp_def]

def stringsOf (a : Argument) : List StringLiteral :=
  (value a.value).strings

def argumentStrings (n : Node) : List StringLiteral :=
  n.walk.flatMap fun m => m.arguments.flatMap stringsOf

theorem argumentStrings_eq (n : Node) : n.argumentStrings
    = n.arguments.flatMap stringsOf ++ n.children.flatMap argumentStrings := by
  rw [argumentStrings, walk_eq, List.flatMap_cons, List.flatMap_assoc]
  rfl

theorem argumentStrings_of_isInput (h : n.isInput = true) : n.argumentStrings = [] := by
  refine List.flatMap_eq_nil_iff.mpr fun m hm => ?_
  rw [arguments_of_isInput ((mem_walk_iff.mp hm).isInput h), List.flatMap_nil]

/-! ## The invariant of the stack -/

/-- The strings that a pending node has still to yield. -/
def pendingStrings : Bool × Node → List StringLiteral
  | (true, n) => n.strings
  | (false, n) => n.argument?.toList.flatMap stringsOf ++ n.argumentStrings

/-- A node yields itself, if it is marked, and what its children yield. -/
theorem pendingStrings_perm (below : Bool) (n : Node) :
    ((if below then n.stringLiteral?.toList else [])
      ++ n.children.flatMap fun m => pendingStrings (below || n.isArgument, m)).Perm
        (pendingStrings (below, n)) := by
  cases below with
  | true => exact .of_eq (strings_eq n).symm
  | false =>
    cases hn : n.isArgument with
    | true =>
      obtain ⟨a, rfl⟩ : ∃ a, n = argument a := by
        cases n <;> first | exact ⟨_, rfl⟩ | cases hn
      rw [pendingStrings, argumentStrings_of_isInput rfl, List.append_nil]
      simp [children, argument?, pendingStrings, stringsOf]
    | false =>
      -- the arguments among the children yield what the node yields for its own arguments
      have hnone : n.argument? = none := by
        cases n <;> first | rfl | cases hn
      have hown : n.children.flatMap (fun m => m.argument?.toList.flatMap stringsOf)
          = n.arguments.flatMap stringsOf := by
        rw [← filterMap_argument?_children, List.filterMap_eq_flatMap_toList, List.flatMap_assoc]
      have hsplit := List.flatMap_append_perm n.children
        (fun m => m.argument?.toList.flatMap stringsOf) argumentStrings
      rw [hown, ← argumentStrings_eq] at hsplit
      rw [pendingStrings, hnone]
      exact hsplit.symm

/-- What is below an argument is yielded for every pending node. -/
theorem markedStrings_markedStack_perm (stack : List (Bool × Node)) :
    (markedStrings (markedStack stack)).Perm (stack.flatMap pendingStrings) := by
  fun_induction markedStack stack with
  | case1 => exact .refl _
  | case2 below n rest ih =>
    rw [List.flatMap_append, List.flatMap_map] at ih
    have hhead : markedStrings ((below, n) :: markedStack
        (n.children.map (Prod.mk (below || n.isArgument)) ++ rest))
          = (if below then n.stringLiteral?.toList else []) ++ markedStrings (markedStack
            (n.children.map (Prod.mk (below || n.isArgument)) ++ rest)) := by
      cases below with
      | false => rfl
      | true =>
        rw [markedStrings, List.filter_cons_of_pos rfl, List.filterMap_cons]
        cases n.stringLiteral? <;> rfl
    rw [hhead, List.flatMap_cons]
    refine (ih.append_left _).trans ?_
    rw [← List.append_assoc]
    exact (pendingStrings_perm below n).append_right _

end Node

namespace Document

def stringsBelowArguments (d : Document) : List StringLiteral :=
  Node.markedStrings d.root.markedWalk

theorem stringsBelowArguments_perm (d : Document) :
    d.stringsBelowArguments.Perm d.root.argumentStrings := by
  have hroot : [(false, d.root)].flatMap Node.pendingStrings = d.root.argumentStrings := by
    rw [List.flatMap_singleton]
    rfl
  exact hroot ▸ Node.markedStrings_markedStack_perm [(false, d.root)]

theorem argumentStrings_root_perm (d : Document) : d.root.argumentStrings.Perm
    ((d.fields.flatMap fun f => f.arguments.flatMap Node.stringsOf)
      ++ d.directives.flatMap fun r => r.arguments.flatMap Node.stringsOf) := by
  have howner : ∀ n : Node, n.arguments.flatMap Node.stringsOf
      = (n.field?.toList.flatMap fun f => f.arguments.flatMap Node.stringsOf)
        ++ n.directive?.toList.flatMap fun r => r.arguments.flatMap Node.stringsOf := by
    intro n
    cases n <;> simp [Node.arguments, Node.field?, Node.directive?]
  have hsplit := List.flatMap_append_perm d.nodes
    (fun n => n.field?.toList.flatMap fun f => f.arguments.flatMap Node.stringsOf)
    (fun n => n.directive?.toList.flatMap fun r => r.arguments.flatMap Node.stringsOf)
  simp only [← howner] at hsplit
  simp only [fields, Node.fields, directives, List.filterMap_eq_flatMap_toList, List.flatMap_assoc]
  exact hsplit.symm

end Document

/-! ## What is scanned -/

namespace Security

mutual
/-- The strings inside a value as they are written, under the labels they are scanned with. -/
def literalsIn (label : String) : Value → List (String × StringLiteral)
  | .string content block span => [(label, ⟨content, block, span⟩)]
  | .list items _ => literalsInItems label items
  | .object fields _ => literalsInFields label fields
  | _ => []

def literalsInItems (label : String) : List Value → List (String × StringLiteral)
  | [] => []
  | v :: vs => literalsIn label v ++ literalsInItems label vs

def literalsInFields (label : String) : List ObjectField → List (String × StringLiteral)
  | [] => []
  | ⟨n, v, _⟩ :: fs => literalsIn (label ++ "." ++ n.value) v ++ literalsInFields label fs
end

/-- What is scanned of a string is its content. -/
def scannedPart (e : String × StringLiteral) : String × String :=
  (e.1, e.2.content)

mutual
theorem stringsIn_eq (label : String) : (v : Value) →
    stringsIn label v = (literalsIn label v).map scannedPart
  | .string content block span => by simp [stringsIn, literalsIn, scannedPart]
  | .list items span => by rw [stringsIn, literalsIn, stringsInItems_eq label items]
  | .object fields span => by rw [stringsIn, literalsIn, stringsInFields_eq label fields]
  | .var _ | .int .. | .float .. | .boolean .. | .null _ | .enum .. => by
    simp [stringsIn, literalsIn]

theorem stringsInItems_eq (label : String) : (vs : List Value) →
    stringsInItems label vs = (literalsInItems label vs).map scannedPart
  | [] => by rw [stringsInItems, literalsInItems, List.map_nil]
  | v :: vs => by
    rw [stringsInItems, literalsInItems, List.map_append, stringsIn_eq label v,
      stringsInItems_eq label vs]

theorem stringsInFields_eq (label : String) : (fs : List ObjectField) →
    stringsInFields label fs = (literalsInFields label fs).map scannedPart
  | [] => by rw [stringsInFields, literalsInFields, List.map_nil]
  | ⟨n, v, span⟩ :: fs => by
    rw [stringsInFields, literalsInFields, List.map_append, stringsIn_eq _ v,
      stringsInFields_eq label fs]
end

mutual
/-- The search of a value meets the same strings as the walk, in the same order. -/
theorem map_snd_literalsIn (label : String) : (v : Value) →
    (literalsIn label v).map Prod.snd = (Node.value v).strings
  | .string content block span => by
    rw [Node.strings_eq]
    simp [literalsIn, Node.children, Node.stringLiteral?]
  | .list items span => by
    rw [Node.strings_eq, literalsIn, map_snd_literalsInItems label items]
    simp [Node.children, Node.stringLiteral?, List.flatMap_map]
  | .object fields span => by
    rw [Node.strings_eq, literalsIn, map_snd_literalsInFields label fields]
    simp [Node.children, Node.stringLiteral?, List.flatMap_map]
  | .var _ | .int .. | .float .. | .boolean .. | .null _ | .enum .. => by
    rw [Node.strings_eq]
    simp [literalsIn, Node.children, Node.stringLiteral?]

theorem map_snd_literalsInItems (label : String) : (vs : List Value) →
    (literalsInItems label vs).map Prod.snd = vs.flatMap fun v => (Node.value v).strings
  | [] => by rw [literalsInItems, List.map_nil, List.flatMap_nil]
  | v :: vs => by
    rw [literalsInItems, List.map_append, List.flatMap_cons, map_snd_literalsIn label v,
      map_snd_literalsInItems label vs]

theorem map_snd_literalsInFields (label : String) : (fs : List ObjectField) →
    (literalsInFields label fs).map Prod.snd = fs.flatMap fun f => (Node.objectField f).strings
  | [] => by rw [literalsInFields, List.map_nil, List.flatMap_nil]
  | ⟨n, v, span⟩ :: fs => by
    have hfield : (Node.objectField ⟨n, v, span⟩).strings = (Node.value v).strings := by
      rw [Node.strings_eq]
      simp [Node.children, Node.stringLiteral?]
    rw [literalsInFields, List.map_append, List.flatMap_cons, hfield, map_snd_literalsIn _ v,
      map_snd_literalsInFields label fs]
end

/-- One string that is scanned: the argument it stands in, what that belongs to, and the label under
which the string is reported. -/
structure Scan where
  owner : String
  argument : Argument
  label : String
  literal : StringLiteral

def scansOf (owner : String) (a : Argument) : List Scan :=
  (literalsIn a.name.value a.value).map fun e => ⟨owner, a, e.1, e.2⟩

/-- All strings that are scanned, in this order. -/
def scans (d : Document) : List Scan :=
  (d.fields.flatMap fun f => f.arguments.flatMap (scansOf "Argument"))
    ++ d.directives.flatMap fun r => r.arguments.flatMap (scansOf "Directive argument")

theorem map_literal_scansOf (owner : String) (a : Argument) :
    (scansOf owner a).map (·.literal) = Node.stringsOf a := by
  rw [scansOf, List.map_map, Node.stringsOf, ← map_snd_literalsIn a.name.value]
  rfl

theorem map_literal_scans_perm (d : Document) :
    ((scans d).map (·.literal)).Perm d.stringsBelowArguments := by
  have hscans : (scans d).map (·.literal)
      = (d.fields.flatMap fun f => f.arguments.flatMap Node.stringsOf)
        ++ d.directives.flatMap fun r => r.arguments.flatMap Node.stringsOf := by
    simp only [scans, List.map_append, List.map_flatMap, map_literal_scansOf]
  rw [hscans]
  exact (d.stringsBelowArguments_perm.trans d.argumentStrings_root_perm).symm

end Security

/-! ## Checks of nested items -/

namespace Checked

variable {α β : Type}

theorem append_assoc (a b c : Checked) : (a.append b).append c = a.append (b.append c) := by
  obtain ⟨fs, failure⟩ := a
  obtain ⟨gs, failure'⟩ := b
  cases failure <;> cases failure' <;> simp [append]

theorem sequence_append (ks ks' : List Checked) :
    sequence (ks ++ ks') = (sequence ks).append (sequence ks') := by
  induction ks with
  | nil => rfl
  | cons k ks ih =>
    change k.append (sequence (ks ++ ks')) = (k.append (sequence ks)).append (sequence ks')
    rw [ih, append_assoc]

theorem each_append (l l' : List α) (f : α → Checked) :
    each (l ++ l') f = (each l f).append (each l' f) := by
  rw [each, List.map_append, sequence_append]
  rfl

theorem each_map (l : List α) (g : α → β) (f : β → Checked) :
    each (l.map g) f = each l fun a => f (g a) := by
  rw [each, List.map_map]
  rfl

theorem each_flatMap (l : List α) (g : α → List β) (f : β → Checked) :
    each (l.flatMap g) f = each l fun a => each (g a) f := by
  induction l with
  | nil => rfl
  | cons a l ih =>
    rw [List.flatMap_cons, each_append, ih]
    rfl

theorem ends_of_mem_sequence {ks : List Checked} (h : (sequence ks).failure = none) {k : Checked}
    (hk : k ∈ ks) : k.failure = none := by
  induction ks with
  | nil => cases hk
  | cons k' ks ih =>
    obtain ⟨hends, hrest⟩ := ends_of_append h
    rcases List.mem_cons.mp hk with rfl | hk
    · exact hends
    · exact ih hrest hk

theorem ends_of_mem_each {items : List α} {check : α → Checked}
    (h : (each items check).failure = none) {x : α} (hx : x ∈ items) : (check x).failure = none :=
  ends_of_mem_sequence h (List.mem_map_of_mem hx)

end Checked

namespace Security

def Scan.check (vocabulary : List Data) (s : Scan) : Checked :=
  .ofExcept (stringFindings vocabulary s.owner s.argument s.label s.literal.content)

theorem scanArgument_eq (vocabulary : List Data) (owner : String) (a : Argument) :
    scanArgument vocabulary owner a = .each (scansOf owner a) (Scan.check vocabulary) := by
  rw [scanArgument, stringsIn_eq, scansOf, Checked.each_map, Checked.each_map]
  rfl

/-- The check of all arguments is one check for each string that is scanned. -/
theorem argumentValues_eq (d : Document) (c : Config) : argumentValues ⟨d, c⟩
    = .each (scans d) (Scan.check (c.vocabulary .sqlKeywords)) := by
  have hscan : ∀ owner, scanArgument (c.vocabulary .sqlKeywords) owner
      = fun a => .each (scansOf owner a) (Scan.check (c.vocabulary .sqlKeywords)) :=
    fun owner => funext (scanArgument_eq _ owner)
  simp only [argumentValues, scans, Checked.each_append, Checked.each_flatMap, hscan]

end Security

end QueryLint
