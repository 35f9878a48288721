import QueryLint.Proofs.Gist
import QueryLint.Proofs.Visits

/-! # What is said of variables

Of every operation it is said, once for each name, which variables it declares without a reference
to them and which it refers to without a declaration. References count wherever they stand in the
operation or in a fragment it reaches; nothing is said because of other operations.
-/

namespace QueryLint

/-! ## Saying something once of each name -/

def Finding.Says (f : Finding) (severity : Severity) (message : String) : Prop :=
  f.severity = severity ∧ f.message = message

instance (f : Finding) (severity : Severity) (message : String) :
    Decidable (f.Says severity message) :=
  inferInstanceAs (Decidable (_ ∧ _))

def told (fs : List Finding) (severity : Severity) (message : String) : Nat :=
  fs.countP fun f => f.Says severity message

/-- Findings give a message about exactly the names with a property, and about each of them once. -/
def TellOnce (fs : List Finding) (severity : Severity) (message : String → String)
    (P : String → Prop) : Prop :=
  ∀ name, told fs severity (message name) ≤ 1 ∧ (told fs severity (message name) = 1 ↔ P name)

section TellOnce

variable {α : Type} {fs gs : List Finding} {severity : Severity} {message : String → String}
  {P Q : String → Prop}

theorem told_append (fs gs : List Finding) (severity : Severity) (text : String) :
    told (fs ++ gs) severity text = told fs severity text + told gs severity text :=
  List.countP_append

theorem told_eq_zero {text : String} (h : ∀ f ∈ fs, ¬ f.Says severity text) :
    told fs severity text = 0 :=
  List.countP_eq_zero.mpr fun f hf => by simpa using h f hf

theorem told_map_eq_zero {text : String} {l : List α} {g : α → Finding}
    (h : ∀ a, ¬ (g a).Says severity text) : told (l.map g) severity text = 0 := by
  refine told_eq_zero fun f hf => ?_
  obtain ⟨a, -, rfl⟩ := List.mem_map.mp hf
  exact h a

theorem TellOnce.congr (h : TellOnce fs severity message P) (hPQ : ∀ name, P name ↔ Q name) :
    TellOnce fs severity message Q :=
  fun name => ⟨(h name).1, (h name).2.trans (hPQ name)⟩

theorem TellOnce.append_silent (h : TellOnce fs severity message P)
    (hgs : ∀ name, told gs severity (message name) = 0) :
    TellOnce (fs ++ gs) severity message P := by
  intro name
  rw [told_append, hgs name]
  exact h name

theorem TellOnce.silent_append (h : TellOnce fs severity message P)
    (hgs : ∀ name, told gs severity (message name) = 0) :
    TellOnce (gs ++ fs) severity message P := by
  intro name
  rw [told_append, hgs name, Nat.zero_add]
  exact h name

/-- One finding for each selected entry of a table with distinct keys tells of the selected keys. -/
theorem tellOnce_entries {t : Table α} (ht : t.Distinct) (hmessage : message.Injective)
    (select : String → Bool) (node : String × α → Node) :
    TellOnce ((t.entries.filter fun e => select e.1).map fun e =>
        (⟨severity, message e.1, .node (node e)⟩ : Finding))
      severity message fun name => t.contains name = true ∧ select name = true := by
  intro name
  have hkeys : (t.entries.filter fun e => select e.1).map (·.1) = t.keys.filter select := by
    rw [Table.keys, List.filter_map]
    rfl
  have hcount : told ((t.entries.filter fun e => select e.1).map fun e =>
      (⟨severity, message e.1, .node (node e)⟩ : Finding)) severity (message name)
        = (t.keys.filter select).count name := by
    rw [told, ← hkeys, List.count, List.countP_map, List.countP_map]
    refine List.countP_congr fun e _ => ?_
    simp [Finding.Says, hmessage.eq_iff]
  have hnodup : (t.keys.filter select).Nodup := List.Nodup.filter _ ht
  rw [hcount]
  refine ⟨List.nodup_iff_count_le_one.mp hnodup name, ?_⟩
  dsimp only
  rw [Table.contains_iff, ← List.mem_filter]
  constructor
  · intro hone
    exact List.count_pos_iff.mp (by omega)
  · exact List.count_eq_one_of_mem hnodup

end TellOnce

/-! ## Variables -/

def Document.Refers (d : Document) (o : Operation) (name : String) : Prop :=
  ∃ v : Variable, v.name.value = name ∧ ((Node.operation o).Contains (.value (.var v)) ∨
    ∃ fragment f, d.Reachable o fragment ∧ d.lastFragment? fragment = some f ∧
      (Node.fragment f).Contains (.value (.var v)))

namespace BestPractice

variable {d d' : Document} {o : Operation} {name : String}

def declaredNames (o : Operation) : List String :=
  o.declarations.map fun v => v.ref.name.value

def unusedMessage (name : String) : String :=
  "Variable '$" ++ name ++ "' is defined but never used"

def undeclaredMessage (name : String) : String :=
  "Variable '$" ++ name ++ "' is used but not defined"

theorem unusedMessage_injective : unusedMessage.Injective := by
  intro a b h
  simpa [unusedMessage] using h

theorem undeclaredMessage_injective : undeclaredMessage.Injective := by
  intro a b h
  simpa [undeclaredMessage] using h

theorem contains_declared_iff_mem : (declared o).contains name = true ↔ name ∈ declaredNames o := by
  rw [contains_declared_iff, declaredNames, List.mem_map]

theorem contains_used_iff_refers :
    (used (d.reach o)).contains name = true ↔ d.Refers o name := by
  simp only [contains_used_iff, Document.mem_reach_iff, Document.reaches_iff, Document.Refers,
    and_comm]

/-! ### The three kinds of findings -/

def unusedFindings (d : Document) (o : Operation) : List Finding :=
  ((declared o).entries.filter fun e => !(used (d.reach o)).contains e.1).map fun e =>
    ⟨.warning, unusedMessage e.1, .node (.variableDefinition e.2)⟩

def undeclaredFindings (d : Document) (o : Operation) : List Finding :=
  ((used (d.reach o)).entries.filter fun e => !(declared o).contains e.1).map fun e =>
    ⟨.error, undeclaredMessage e.1, .node (.value (.var e.2))⟩

def namingFindings (o : Operation) : List Finding :=
  ((declared o).entries.filter fun e => !NameCase.isCamel e.1).map fun e =>
    .warning ("Variable name '$" ++ e.1 ++ "' should follow camelCase convention")
      (.variableDefinition e.2)

theorem variableFindings_eq (d : Document) (o : Operation) :
    variableFindings d o = unusedFindings d o ++ undeclaredFindings d o ++ namingFindings o :=
  rfl

theorem not_says_unused_of_mem_undeclared {f : Finding} (hf : f ∈ undeclaredFindings d o)
    (name : String) : ¬ f.Says .warning (unusedMessage name) := by
  obtain ⟨e, -, rfl⟩ := List.mem_map.mp hf
  exact fun h => nomatch h.1

theorem not_says_unused_of_mem_naming {f : Finding} (hf : f ∈ namingFindings o) (name : String) :
    ¬ f.Says .warning (unusedMessage name) := by
  obtain ⟨e, -, rfl⟩ := List.mem_map.mp hf
  intro h
  have hchars := congrArg String.toList h.2
  simp [Finding.warning, unusedMessage] at hchars

theorem tellOnce_unused (d : Document) (o : Operation) :
    TellOnce (variableFindings d o) .warning unusedMessage
      fun name => name ∈ declaredNames o ∧ ¬ d.Refers o name := by
  have hown : TellOnce (unusedFindings d o) .warning unusedMessage fun name =>
      (declared o).contains name = true ∧ (!(used (d.reach o)).contains name) = true :=
    tellOnce_entries (Table.distinct_ofList _) unusedMessage_injective
      (fun name => !(used (d.reach o)).contains name) fun e => .variableDefinition e.2
  have hnames : ∀ name, (declared o).contains name = true ∧
      (!(used (d.reach o)).contains name) = true ↔ name ∈ declaredNames o ∧ ¬ d.Refers o name := by
    intro name
    rw [contains_declared_iff_mem, ← contains_used_iff_refers, Bool.not_eq_true', Bool.not_eq_true]
  rw [variableFindings_eq]
  refine ((hown.congr hnames).append_silent fun name => ?_).append_silent fun name => ?_
  · exact told_eq_zero fun f hf => not_says_unused_of_mem_undeclared hf name
  · exact told_eq_zero fun f hf => not_says_unused_of_mem_naming hf name

theorem tellOnce_undeclared (d : Document) (o : Operation) :
    TellOnce (variableFindings d o) .error undeclaredMessage
      fun name => d.Refers o name ∧ name ∉ declaredNames o := by
  have hown : TellOnce (undeclaredFindings d o) .error undeclaredMessage fun name =>
      (used (d.reach o)).contains name = true ∧ (!(declared o).contains name) = true :=
    tellOnce_entries (entered_used _).distinct undeclaredMessage_injective
      (fun name => !(declared o).contains name) fun e => .value (.var e.2)
  have hnames : ∀ name, (used (d.reach o)).contains name = true ∧
      (!(declared o).contains name) = true ↔ d.Refers o name ∧ name ∉ declaredNames o := by
    intro name
    rw [← contains_declared_iff_mem, contains_used_iff_refers, Bool.not_eq_true', Bool.not_eq_true]
  rw [variableFindings_eq]
  refine ((hown.congr hnames).silent_append fun name => ?_).append_silent fun name => ?_
  · exact told_map_eq_zero fun e h => nomatch h.1
  · exact told_map_eq_zero fun e h => nomatch h.1

/-- A finding about an unused variable stands before another if its name is declared first. -/
def DeclaredBefore (o : Operation) (f g : Finding) : Prop :=
  ∀ a b, f.Says .warning (unusedMessage a) → g.Says .warning (unusedMessage b) →
    (declaredNames o).idxOf a < (declaredNames o).idxOf b

theorem unusedFindings_pairwise (d : Document) (o : Operation) :
    (unusedFindings d o).Pairwise (DeclaredBefore o) := by
  have hkeys := Table.keys_ofList_pairwise (o.declarations.map fun v => (v.ref.name.value, v))
  rw [List.map_map, ← declared, Table.keys, List.pairwise_map] at hkeys
  refine List.pairwise_map.mpr ((hkeys.filter _).imp fun {e e'} hlt a b ha hb => ?_)
  rw [← unusedMessage_injective ha.2, ← unusedMessage_injective hb.2]
  exact hlt

theorem variableFindings_pairwise (d : Document) (o : Operation) :
    (variableFindings d o).Pairwise (DeclaredBefore o) := by
  have hrest : ∀ f ∈ undeclaredFindings d o ++ namingFindings o, ∀ name,
      ¬ f.Says .warning (unusedMessage name) := by
    intro f hf
    rcases List.mem_append.mp hf with hf | hf
    · exact not_says_unused_of_mem_undeclared hf
    · exact not_says_unused_of_mem_naming hf
  rw [variableFindings_eq, List.append_assoc, List.pairwise_append]
  refine ⟨unusedFindings_pairwise d o, ?_, ?_⟩
  · exact List.pairwise_of_forall_mem_list fun f hf g _ a b ha => absurd ha (hrest f hf a)
  · exact fun f _ g hg a b _ hb => absurd hb (hrest g hg b)

/-! ### Other operations -/

theorem variableFindings_of_fragments (h : d'.fragments = d.fragments) :
    variableFindings d' = variableFindings d := by
  have htable : d'.fragmentTable = d.fragmentTable := by
    rw [Document.fragmentTable, h, Document.fragmentTable]
  funext o
  have hreach : d'.reach o = d.reach o := by
    rw [Document.reach, htable, Document.reach]
  rw [variableFindings, hreach, variableFindings]

/-- The findings about variables are those about each operation, which depend on the operation and
the fragments alone. They name every variable that is declared and not referred to, in the order of
declaration, and every one that is referred to and not declared, each once. -/
theorem variables_told_once (d : Document) :
    (∀ d' c, d'.fragments = d.fragments →
      variableUse ⟨d', c⟩ = d'.operations.flatMap (variableFindings d)) ∧
    ∀ o, TellOnce (variableFindings d o) .warning unusedMessage
        (fun name => name ∈ declaredNames o ∧ ¬ d.Refers o name) ∧
      (variableFindings d o).Pairwise (DeclaredBefore o) ∧
      TellOnce (variableFindings d o) .error undeclaredMessage
        (fun name => d.Refers o name ∧ name ∉ declaredNames o) := by
  constructor
  · intro d' c h
    rw [variableUse, variableFindings_of_fragments h]
  · intro o
    exact ⟨tellOnce_unused d o, variableFindings_pairwise d o, tellOnce_undeclared d o⟩

end BestPractice

/-- A query that declares a variable twice without a use and spreads a fragment, which refers to
another variable and spreads itself. -/
def Operation.sparing : Operation :=
  let declaration (name : String) : VariableDefinition :=
    ⟨⟨{ value := name }, none⟩, .named ⟨{ value := "ID" }, none⟩, none, [], none⟩
  let argument : Argument := ⟨{ value := "id" }, .var ⟨{ value := "key" }, none⟩, none⟩
  { kind := .query, name := none
    declarations := [declaration "spare", declaration "key", declaration "spare"]
    directives := []
    selectionSet := some ⟨[.field ⟨none, { value := "item" }, [argument], [], none, none⟩,
      .spread ⟨{ value := "Part" }, [], none⟩], none⟩
    span := none }

def Fragment.part : Fragment :=
  let argument : Argument :=
    ⟨{ value := "ids" }, .list [.var ⟨{ value := "nested" }, none⟩] none, none⟩
  { name := { value := "Part" }, condition := ⟨{ value := "Any" }, none⟩, directives := []
    selectionSet := ⟨[.field ⟨none, { value := "part" }, [argument], [], none, none⟩,
      .spread ⟨{ value := "Part" }, [], none⟩], none⟩
    span := none }

/-- The variable that is declared twice and the one of the fragment are told of once. That does not
change when a second operation, which declares the latter, stands in front. -/
theorem BestPractice.variables_told_once_sparing :
    let d : Document := { definitions := [.operation .sparing, .fragment .part] }
    let d' : Document := { definitions :=
      [.operation { Operation.sparing with
        declarations := [⟨⟨{ value := "nested" }, none⟩, .named ⟨{ value := "ID" }, none⟩, none, [],
          none⟩] },
       .fragment .part, .operation .sparing] }
    d'.fragments = d.fragments ∧
      variableUse ⟨d', .standard⟩ = d'.operations.flatMap (variableFindings d) ∧
      told (variableFindings d .sparing) .warning (unusedMessage "spare") = 1 ∧
      told (variableFindings d .sparing) .warning (unusedMessage "key") ≠ 1 ∧
      told (variableFindings d .sparing) .error (undeclaredMessage "nested") = 1 := by
  intro d d'
  have htable : d.fragmentTable = ⟨[("Part", .part)]⟩ := rfl
  have hkeys : (used (d.reach .sparing)).keys = ["key", "nested"] := by
    simp [Document.reach, htable, Operation.sparing, Fragment.part, Node.reachFrom, Node.walk,
      Node.walkStack, Node.children, Node.ofSelection, Node.spreadNames, Node.spread?,
      List.filterMap_cons, takeFragments, Table.erase, Table.get?, Table.find?, used,
      Node.reference?, Table.contains, Table.insert, Table.insertEntries, Table.keys]
  have hrefers : ∀ name, d.Refers .sparing name ↔ name ∈ ["key", "nested"] := by
    intro name
    rw [← contains_used_iff_refers, Table.contains_iff, hkeys]
  obtain ⟨hscope, htold⟩ := variables_told_once d
  obtain ⟨hunused, -, hundeclared⟩ := htold .sparing
  refine ⟨rfl, hscope d' .standard rfl, (hunused "spare").2.mpr ?_, ?_,
    (hundeclared "nested").2.mpr ?_⟩
  · simp only [hrefers]
    decide
  · rw [ne_eq, (hunused "key").2]
    simp only [hrefers]
    decide
  · simp only [hrefers]
    decide

end QueryLint
