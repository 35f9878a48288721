import QueryLint.Proofs.Variables

/-! # Suggested aliases

Where a name is selected repeatedly and somewhere without an alias, best practice suggests one. It
goes through the fields once and remembers the names it has reported, so of each name there is one
suggestion, on the first field without an alias. How often the name is selected is counted over the
whole document, with the fields that have an alias.
-/

namespace QueryLint

def Field.isBare (name : String) (f : Field) : Bool :=
  f.aliasName.isNone && f.name.value = name

namespace BestPractice

variable {c : Context} {fields fs : List Field} {enforce : Bool} {reported : List String}
  {name name' : String} {count count' : Nat} {f : Field} {g : Finding}

/-! ## Messages -/

def aliasMessage (name : String) (count : Nat) : String :=
  "Consider using alias for field '" ++ name ++ "' to avoid conflicts (selected " ++ toString count
    ++ " times)"

def SuggestsAlias (name : String) (g : Finding) : Prop :=
  ∃ count, g.Says .warning (aliasMessage name count)

theorem takeWhile_isDigit_reverse (s : List Char) (n : Nat) :
    (s ++ [' '] ++ (toString n).toList).reverse.takeWhile Char.isDigit
      = (toString n).toList.reverse := by
  have hdigits : ∀ c ∈ (toString n).toList.reverse, c.isDigit = true := by
    intro c hc
    exact Nat.isDigit_of_mem_toDigits (b := 10) (n := n) (by decide) (by decide) (by simpa using hc)
  rw [List.reverse_append, List.reverse_append, List.reverse_singleton, List.singleton_append,
    List.takeWhile_append_of_pos hdigits, List.takeWhile_cons_of_neg (by decide), List.append_nil]

/-- A number behind a blank can be told from what stands before. -/
theorem append_toString_inj {s t words : List Char} {m n : Nat} (hwords : words.getLast? = some ' ')
    (h : s ++ words ++ (toString m).toList = t ++ words ++ (toString n).toList) :
    s = t ∧ m = n := by
  obtain ⟨front, rfl⟩ := List.getLast?_eq_some_iff.mp hwords
  have hdigits : (toString m).toList = (toString n).toList := by
    rw [← List.append_assoc, ← List.append_assoc] at h
    rw [← List.reverse_inj, ← takeWhile_isDigit_reverse (s ++ front), h, takeWhile_isDigit_reverse]
  rw [hdigits] at h
  refine ⟨List.append_cancel_right (List.append_cancel_right h), ?_⟩
  simp only [Nat.toString_eq_ofList_toDigits, String.toList_ofList] at hdigits
  rw [← Nat.ofDigitChars_ten_toDigits (n := m), hdigits, Nat.ofDigitChars_ten_toDigits]

theorem toList_aliasMessage (name : String) (count : Nat) : (aliasMessage name count).toList
    = "Consider using alias for field '".toList ++ name.toList
      ++ "' to avoid conflicts (selected ".toList ++ (toString count).toList
      ++ " times)".toList := by
  -- Folded rather than unfolded: the equation of a definition with such literals is slow to make.
  simp only [← String.toList_append]
  rfl

theorem aliasMessage_inj (h : aliasMessage name count = aliasMessage name' count') :
    name = name' ∧ count = count' := by
  have hchars := congrArg String.toList h
  rw [toList_aliasMessage, toList_aliasMessage] at hchars
  obtain ⟨hname, hcount⟩ := append_toString_inj (by decide) (List.append_cancel_right hchars)
  exact ⟨String.toList_inj.mp (List.append_cancel_left hname), hcount⟩

theorem suggestsAlias_missingAlias_iff : SuggestsAlias name (missingAlias count f) ↔
    f.name.value = name := by
  constructor
  · rintro ⟨_, -, h⟩
    exact (aliasMessage_inj h).1
  · rintro rfl
    exact ⟨count, rfl, rfl⟩

/-- What is found on an alias itself is information. -/
theorem not_suggestsAlias_of_mem_ownAlias (h : g ∈ ownAlias f) : ¬ SuggestsAlias name g := by
  rintro ⟨_, hseverity, -⟩
  have hinfo : g.severity = .info := by
    cases ha : f.aliasName with
    | none =>
      rw [ownAlias, ha, Option.elim_none] at h
      cases h
    | some a =>
      rw [ownAlias, ha, Option.elim_some, aliasFindings, List.mem_append] at h
      rcases h with h | h <;> split at h <;> simp_all [Finding.info]
  rw [hinfo] at hseverity
  cases hseverity

/-! ## One pass over the fields -/

def lacksAliasAs (fields : List Field) (enforce : Bool) (name : String) (f : Field) : Bool :=
  lacksAlias fields enforce f && f.name.value = name

theorem lacksAliasAs_iff : lacksAliasAs fields enforce name f = true ↔ f.isBare name = true ∧
    enforce = true ∧ ¬ "__".toList <+: name.toList ∧ 2 ≤ occurrences fields name := by
  simp only [lacksAliasAs, lacksAlias, Field.isBare, Field.isIntrospection, Bool.and_eq_true,
    decide_eq_true_iff, Bool.not_eq_true', Bool.eq_false_iff, ne_eq, List.isPrefixOf_iff_prefix]
  constructor
  · rintro ⟨⟨⟨⟨hbare, henforce⟩, hprefix⟩, hcount⟩, rfl⟩
    exact ⟨⟨hbare, rfl⟩, henforce, hprefix, hcount⟩
  · rintro ⟨⟨hbare, rfl⟩, henforce, hprefix, hcount⟩
    exact ⟨⟨⟨⟨hbare, henforce⟩, hprefix⟩, hcount⟩, rfl⟩

open scoped Classical in
/-- Of a name that is not yet reported, the first field that lacks an alias is. -/
theorem filter_aliasesFrom (fields : List Field) (enforce : Bool) (reported : List String)
    (fs : List Field) (name : String) :
    (aliasesFrom fields enforce reported fs).filter (SuggestsAlias name)
      = if name ∈ reported then []
        else (fs.find? (lacksAliasAs fields enforce name)).toList.map
          (missingAlias (occurrences fields name)) := by
  induction fs generalizing reported with
  | nil => simp [aliasesFrom]
  | cons f fs ih =>
    have hown : (ownAlias f).filter (SuggestsAlias name) = [] :=
      List.filter_eq_nil_iff.mpr fun g hg => by simpa using not_suggestsAlias_of_mem_ownAlias hg
    rw [aliasesFrom_cons, List.filter_append, hown, List.nil_append]
    by_cases hf : (lacksAlias fields enforce f && !reported.contains f.name.value) = true
    · obtain ⟨hlacks, hnew⟩ : lacksAlias fields enforce f = true ∧ f.name.value ∉ reported := by
        simpa using hf
      rw [if_pos hf, List.filter_cons]
      simp only [suggestsAlias_missingAlias_iff, decide_eq_true_iff]
      by_cases hname : f.name.value = name
      · subst hname
        rw [if_pos rfl, ih, if_pos List.mem_cons_self, if_neg hnew,
          List.find?_cons_of_pos (by simp [lacksAliasAs, hlacks])]
        rfl
      · have hmem : name ∈ f.name.value :: reported ↔ name ∈ reported := by
          rw [List.mem_cons, or_iff_right (Ne.symm hname)]
        rw [if_neg hname, ih, List.find?_cons_of_neg (by simp [lacksAliasAs, hname])]
        simp only [hmem]
    · rw [if_neg hf, ih]
      by_cases hname : name ∈ reported
      · rw [if_pos hname, if_pos hname]
      · have hother : ¬ lacksAliasAs fields enforce name f = true := by
          intro h
          obtain ⟨hlacks, rfl⟩ : lacksAlias fields enforce f = true ∧ f.name.value = name := by
            simpa [lacksAliasAs] using h
          exact hf (by simp [hlacks, hname])
        rw [if_neg hname, if_neg hname, List.find?_cons_of_neg hother]

/-! ## All fields -/

/-- Aliases are asked for, and a name that is not one of the schema's own is selected repeatedly and
somewhere without an alias. -/
structure WantsAlias (c : Context) (name : String) : Prop where
  enforced : c.config.flag .aliasUsage = true
  not_prefix : ¬ "__".toList <+: name.toList
  repeated : 2 ≤ occurrences c.document.fields name
  bare : ∃ f ∈ c.document.fields, f.isBare name = true

theorem wantsAlias_iff_isSome : WantsAlias c name ↔ (c.document.fields.find?
    (lacksAliasAs c.document.fields (c.config.flag .aliasUsage) name)).isSome := by
  simp only [List.find?_isSome, lacksAliasAs_iff]
  constructor
  · rintro ⟨henforced, hprefix, hrepeated, f, hf, hbare⟩
    exact ⟨f, hf, hbare, henforced, hprefix, hrepeated⟩
  · rintro ⟨f, hf, hbare, henforced, hprefix, hrepeated⟩
    exact ⟨henforced, hprefix, hrepeated, f, hf, hbare⟩

theorem WantsAlias.lacksAliasAs_eq (h : WantsAlias c name) :
    lacksAliasAs c.document.fields (c.config.flag .aliasUsage) name = Field.isBare name := by
  funext f
  rw [Bool.eq_iff_iff, lacksAliasAs_iff]
  exact and_iff_left ⟨h.enforced, h.not_prefix, h.repeated⟩

open scoped Classical in
/-- An alias is suggested for exactly the names for which one is wanted. Each is suggested once, on
the first field of the name without an alias, with the number of all its fields. -/
theorem alias_suggested_once (c : Context) (name : String) :
    ((∃ g ∈ aliases c, SuggestsAlias name g) ↔ WantsAlias c name) ∧
      (WantsAlias c name → ∃ f, c.document.fields.find? (Field.isBare name) = some f ∧
        (aliases c).filter (SuggestsAlias name)
          = [.warning (aliasMessage name (occurrences c.document.fields name)) (.field f)]) := by
  have hfilter : (aliases c).filter (SuggestsAlias name) = (c.document.fields.find?
      (lacksAliasAs c.document.fields (c.config.flag .aliasUsage) name)).toList.map
        (missingAlias (occurrences c.document.fields name)) := by
    rw [aliases, filter_aliasesFrom, if_neg List.not_mem_nil]
  constructor
  · have hnonempty : (∃ g ∈ aliases c, SuggestsAlias name g)
        ↔ (aliases c).filter (SuggestsAlias name) ≠ [] := by
      simp [List.filter_eq_nil_iff]
    rw [hnonempty, hfilter, wantsAlias_iff_isSome, ne_eq, List.map_eq_nil_iff,
      Option.toList_eq_nil_iff, Option.isSome_iff_ne_none]
  · intro h
    obtain ⟨f, hf⟩ := Option.isSome_iff_exists.mp (wantsAlias_iff_isSome.mp h)
    rw [h.lacksAliasAs_eq] at hf
    have hbare : f.isBare name = true := List.find?_some hf
    refine ⟨f, hf, ?_⟩
    obtain rfl : f.name.value = name := of_decide_eq_true (Bool.and_eq_true_iff.mp hbare).2
    rw [hfilter, h.lacksAliasAs_eq, hf]
    rfl

end BestPractice

def Field.item (aliasName : Option Name) (selectionSet : Option SelectionSet) : Field :=
  ⟨aliasName, { value := "item" }, [], [], selectionSet, none⟩

def SelectionSet.item : SelectionSet :=
  ⟨[.field (.item none none)], none⟩

/-- A query that selects items three times, first under an alias and last inside others. -/
def Document.items : Document :=
  let body : SelectionSet := ⟨[.field (.item (some { value := "first" }) none),
    .field (.item none (some .item))], none⟩
  { definitions := [.operation ⟨.query, none, [], [], some body, none⟩] }

open scoped Classical in
/-- The alias is suggested on the field that encloses the other one without an alias. -/
theorem BestPractice.alias_suggested_once_items :
    WantsAlias ⟨.items, .standard⟩ "item" ∧
      (aliases ⟨.items, .standard⟩).filter (SuggestsAlias "item")
        = [.warning (aliasMessage "item" 3) (.field (.item none (some .item)))] := by
  have hfields : Document.items.fields = [.item (some { value := "first" }) none,
      .item none (some .item), .item none none] := by
    simp [Document.fields, Node.fields, Node.walk, Node.walkStack, Document.root, Document.items,
      Node.children, Node.ofDefinition, Node.ofSelection, Field.item, SelectionSet.item,
      Node.field?, List.filterMap_cons]
  have hcount : occurrences Document.items.fields "item" = 3 := by
    rw [hfields]
    decide
  have hwants : WantsAlias ⟨.items, .standard⟩ "item" := by
    refine ⟨by decide +kernel, by decide, hcount.ge.trans' (by decide), ?_⟩
    rw [hfields]
    exact ⟨_, List.mem_cons_of_mem _ List.mem_cons_self, by decide⟩
  obtain ⟨f, hfirst, hsuggested⟩ := (alias_suggested_once ⟨.items, .standard⟩ "item").2 hwants
  rw [hfields] at hfirst
  obtain rfl := Option.some.inj hfirst
  rw [hcount] at hsuggested
  exact ⟨hwants, hsuggested⟩

end QueryLint
