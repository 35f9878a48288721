import QueryLint.Proofs.Reach
import QueryLint.Proofs.Screening

/-! # Which checks find errors

Style and performance find none. Best practice finds an error exactly for a repeated response key
and for an undeclared variable that an operation reaches. What the security check finds is an error
exactly in six of its parts.
-/

namespace QueryLint

/-! ## Style and performance -/

theorem Style.error_not_mem_camelFindings {owner name : String} {camelCase reserved : Bool}
    {n : Node} : .error ∉ severities (camelFindings owner name camelCase reserved n) := by
  simp [camelFindings]

theorem Style.error_not_mem_pascalFindings {owner name : String} {n : Node} :
    .error ∉ severities (pascalFindings owner name n) := by
  simp [pascalFindings]

theorem Style.error_not_mem_naming (c : Context) : .error ∉ severities (naming c) := by
  rw [naming, severities_flatMap, List.mem_flatMap]
  rintro ⟨n, -, hn⟩
  revert hn
  unfold nameFindings
  split
  · dsimp only
    split
    · exact List.not_mem_nil
    · exact error_not_mem_camelFindings
  · exact error_not_mem_camelFindings
  · exact error_not_mem_camelFindings
  · exact error_not_mem_pascalFindings
  · split
    · exact error_not_mem_pascalFindings
    · exact List.not_mem_nil
  · exact List.not_mem_nil

theorem Style.error_not_mem_firstFaults (seen : List SpacingFault)
    (faults : List (SpacingFault × Token)) : .error ∉ severities (firstFaults seen faults) := by
  induction faults generalizing seen with
  | nil => exact List.not_mem_nil
  | cons e faults ih =>
    obtain ⟨f, t⟩ := e
    rw [firstFaults]
    split
    · exact ih seen
    · rw [severities_cons, List.mem_cons, not_or]
      exact ⟨by cases f <;> exact nofun, ih _⟩

theorem Style.error_not_mem_layout (c : Context) (text : List Char) (tokens : List Token) :
    .error ∉ severities (layout c text tokens) := by
  have hlevel : .error ∉ severities (nestingLevel c) := by
    unfold nestingLevel
    dsimp only
    split <;> simp
  have hlength : .error ∉ severities (lineLength c text) := by
    unfold lineLength
    dsimp only
    split <;> simp
  simp [layout, spacing, consistency, error_not_mem_firstFaults, hlevel, hlength]

theorem Style.error_not_mem_check (c : Context) : .error ∉ severities (check c).findings := by
  have hnaming := error_not_mem_naming c
  unfold check
  dsimp only
  split
  · simp [Checked.append, hnaming, error_not_mem_layout]
  · simpa [Checked.append] using hnaming

theorem Performance.error_not_mem_findings (c : Context) : .error ∉ severities (findings c) := by
  simp [findings, depth, depthFindings, fieldCount, fragmentUsage, complexity, argumentValues,
    nesting, nestingFindings, selectionMix, ofOneKind]

/-! ## Best practice -/

namespace BestPractice

theorem error_not_mem_aliasesFrom (fields : List Field) (enforce : Bool) (reported : List String)
    (fs : List Field) : .error ∉ severities (aliasesFrom fields enforce reported fs) := by
  induction fs generalizing reported with
  | nil => exact List.not_mem_nil
  | cons f fs ih =>
    rw [aliasesFrom]
    split
    · simp [aliasFindings, ih]
    · dsimp only
      split
      · exact ih reported
      · simp [missingAlias, ih]

theorem repeatedKeys_eq_nil_iff (seen : List String) (fs : List Field) :
    repeatedKeys seen fs = [] ↔
      (fs.map Field.responseKey).Nodup ∧ ∀ k ∈ fs.map Field.responseKey, k ∉ seen := by
  induction fs generalizing seen with
  | nil => simp [repeatedKeys]
  | cons f fs ih =>
    rw [repeatedKeys, List.map_cons, List.nodup_cons]
    by_cases h : f.responseKey ∈ seen
    · simp [h]
    · rw [if_neg (by simpa using h), ih]
      constructor
      · rintro ⟨hnodup, hseen⟩
        refine ⟨⟨fun hf => hseen _ hf List.mem_cons_self, hnodup⟩, ?_⟩
        intro k hk hks
        rcases List.mem_cons.mp hk with rfl | hk
        · exact h hks
        · exact hseen k hk (List.mem_cons_of_mem _ hks)
      · rintro ⟨⟨hf, hnodup⟩, hseen⟩
        refine ⟨hnodup, fun k hk hks => ?_⟩
        rcases List.mem_cons.mp hks with rfl | hks
        · exact hf hk
        · exact hseen k (List.mem_cons_of_mem _ hk) hks

theorem error_mem_selectionSets_iff (c : Context) : .error ∈ severities (selectionSets c) ↔
    ∃ s ∈ c.document.selectionSets, ¬ (s.fields.map Field.responseKey).Nodup := by
  have hset : ∀ s : SelectionSet,
      .error ∈ severities (selectionSetFindings (c.config.limit .selectionSetSize) s)
        ↔ ¬ (s.fields.map Field.responseKey).Nodup := by
    intro s
    have hrepeated := repeatedKeys_eq_nil_iff [] s.fields
    simp only [List.not_mem_nil, not_false_eq_true, implies_true, and_true] at hrepeated
    rw [← hrepeated]
    simp only [selectionSetFindings, duplicate, severities_append, severities_ite, severities_map,
      severities_cons, severities_nil, severity_error, severity_warning, severity_info,
      List.mem_append, List.mem_ite_nil_right, List.mem_singleton, List.mem_map, reduceCtorEq,
      and_false, false_or, or_false, and_true]
    exact ⟨fun ⟨f, hf⟩ => List.ne_nil_of_mem hf, List.exists_mem_of_ne_nil _⟩
  simp only [selectionSets, severities_flatMap, List.mem_flatMap, hset]

theorem contains_declared_iff (o : Operation) (name : String) :
    (declared o).contains name = true ↔ ∃ v ∈ o.declarations, v.ref.name.value = name := by
  rw [declared, Table.contains, Table.get?_ofList, Option.isSome_map, List.getLast?_isSome]
  simp [List.filter_eq_nil_iff]

theorem contains_foldl_iff (vs : List Variable) (t : Table Variable) (name : String) :
    (vs.foldl (fun t v => if t.contains v.name.value then t else t.insert v.name.value v)
        t).contains name = true
      ↔ t.contains name = true ∨ ∃ v ∈ vs, v.name.value = name := by
  induction vs generalizing t with
  | nil => simp
  | cons v vs ih =>
    rw [List.foldl_cons, ih]
    by_cases hv : v.name.value = name
    · subst hv
      by_cases ht : t.contains v.name.value = true
      · simp [ht]
      · rw [if_neg ht]
        simp [Table.contains]
    · have hstep : (if t.contains v.name.value then t else t.insert v.name.value v).contains name
          = t.contains name := by
        split
        · rfl
        · simp [Table.contains, Ne.symm hv]
      simp [hstep, hv]

theorem contains_used_iff (nodes : List Node) (name : String) :
    (used nodes).contains name = true
      ↔ ∃ v : Variable, .value (.var v) ∈ nodes ∧ v.name.value = name := by
  have hreference : ∀ v : Variable,
      v ∈ nodes.filterMap Node.reference? ↔ .value (.var v) ∈ nodes := by
    intro v
    refine Node.mem_filterMap_view (fun v => .value (.var v)) fun n v => ?_
    unfold Node.reference?
    split <;> simp_all
  rw [used, contains_foldl_iff]
  simp [hreference, Table.contains, Table.get?, Table.find?]

theorem error_mem_variableUse_iff (c : Context) : .error ∈ severities (variableUse c) ↔
    ∃ o ∈ c.document.operations, ∃ v : Variable, c.document.Reaches o (.value (.var v)) ∧
      ∀ w ∈ o.declarations, w.ref.name.value ≠ v.name.value := by
  have hfindings : ∀ o : Operation, .error ∈ severities (variableFindings c.document o) ↔
      ∃ k ∈ (used (c.document.reach o)).keys, ¬ (declared o).contains k = true := by
    intro o
    simp only [variableFindings, severities_append, severities_map, severity_warning,
      severity_error, List.mem_append, List.mem_map, reduceCtorEq, and_false, exists_false,
      false_or, or_false, and_true, Table.keys, exists_exists_and_eq_and, List.mem_filter]
    simp
  simp only [variableUse, severities_flatMap, List.mem_flatMap, hfindings]
  refine exists_congr fun o => and_congr_right fun _ => ?_
  simp only [← Table.contains_iff, contains_used_iff, contains_declared_iff, Document.mem_reach_iff,
    not_exists, not_and]
  constructor
  · rintro ⟨k, ⟨v, hv, rfl⟩, hk⟩
    exact ⟨v, hv, hk⟩
  · rintro ⟨v, hv, hk⟩
    exact ⟨_, ⟨v, hv, rfl⟩, hk⟩

theorem error_not_mem_shortName (owner name : String) (n : Node) :
    .error ∉ severities (shortName owner name n) := by
  unfold shortName
  split
  · exact List.not_mem_cons_of_ne_of_not_mem nofun List.not_mem_nil
  · exact List.not_mem_nil

/-- Errors of best practice are made for selection sets and for variables. -/
theorem filter_error_findings (c : Context) :
    (findings c).filter (·.severity = .error)
      = (selectionSets c).filter (·.severity = .error)
        ++ (variableUse c).filter (·.severity = .error) := by
  have hnone : ∀ fs : List Finding, .error ∉ severities fs → fs.filter (·.severity = .error) = [] :=
    fun fs hfs => List.filter_eq_nil_iff.mpr fun f hf herror =>
      hfs (of_decide_eq_true herror ▸ List.mem_map_of_mem hf)
  have hnames : .error ∉ severities (operationNames c) := by
    rw [operationNames, severities_flatMap, List.mem_flatMap]
    rintro ⟨o, -, ho⟩
    revert ho
    unfold operationName
    split <;> simp [error_not_mem_shortName]
  have hselections : .error ∉ severities (fieldSelections c) := by
    simp only [fieldSelections, severities_ite, severities_flatMap, severities_nil,
      List.mem_ite_nil_right, List.mem_flatMap, not_and, not_exists]
    rintro - f -
    unfold fieldSelection
    split <;> simp
  have haliases : .error ∉ severities (aliases c) := error_not_mem_aliasesFrom _ _ _ _
  have hfragments : .error ∉ severities (fragments c) := by
    simp [fragments, fragmentCount, fragmentUse, fragmentSize]
  have harguments : .error ∉ severities (arguments c) := by simp [arguments]
  have hdirectives : .error ∉ severities (directives c) := by simp [directives]
  have hshort : .error ∉ severities (fragmentNames c) := by
    simp [fragmentNames, error_not_mem_shortName]
  have hshape : .error ∉ severities (documentShape c) := by simp [documentShape]
  simp only [findings, List.filter_append, hnone _ haliases, hnone _ hfragments, hnone _ hnames,
    hnone _ hselections, hnone _ harguments, hnone _ hdirectives, hnone _ hshort, hnone _ hshape,
    List.nil_append, List.append_nil]

theorem error_mem_findings_iff (c : Context) : .error ∈ severities (findings c) ↔
    .error ∈ severities (selectionSets c) ∨ .error ∈ severities (variableUse c) := by
  have hfilter : ∀ fs : List Finding,
      .error ∈ severities fs ↔ fs.filter (·.severity = .error) ≠ [] := by
    intro fs
    simp [severities, List.filter_eq_nil_iff]
  simp only [hfilter, filter_error_findings, ne_eq, List.append_eq_nil_iff, not_and_or]

end BestPractice

/-! ## Security -/

def Node.HoldsText (n : Node) (content : String) : Prop :=
  ∃ block span, n.Contains (.value (.string content block span))

namespace Security

theorem holdsText_iff {n : Node} {content : String} : n.HoldsText content ↔
    (∃ block span, n = .value (.string content block span))
      ∨ ∃ m ∈ n.children, m.HoldsText content := by
  constructor
  · rintro ⟨block, span, h⟩
    rcases Node.contains_iff.mp h with h | ⟨m, hm, h⟩
    · exact .inl ⟨block, span, h.symm⟩
    · exact .inr ⟨m, hm, block, span, h⟩
  · rintro (⟨block, span, rfl⟩ | ⟨m, hm, block, span, h⟩)
    · exact ⟨block, span, .self _⟩
    · exact ⟨block, span, .child hm h⟩

mutual
theorem mem_stringsIn_iff (label content : String) : (v : Value) →
    (content ∈ (stringsIn label v).map (·.2) ↔ (Node.value v).HoldsText content)
  | .string t block span => by
    rw [holdsText_iff]
    simp [stringsIn, Node.children, eq_comm]
  | .list items span => by
    rw [holdsText_iff, stringsIn, mem_stringsInItems_iff label content items]
    simp [Node.children]
  | .object fields span => by
    rw [holdsText_iff, stringsIn, mem_stringsInFields_iff label content fields]
    simp [Node.children]
  | .var _ | .int .. | .float .. | .boolean .. | .null _ | .enum .. => by
    rw [holdsText_iff]
    simp [stringsIn, Node.children]

theorem mem_stringsInItems_iff (label content : String) : (vs : List Value) →
    (content ∈ (stringsInItems label vs).map (·.2) ↔ ∃ v ∈ vs, (Node.value v).HoldsText content)
  | [] => by simp [stringsInItems]
  | v :: vs => by
    rw [stringsInItems, List.map_append, List.mem_append, mem_stringsIn_iff label content v,
      mem_stringsInItems_iff label content vs]
    simp

theorem mem_stringsInFields_iff (label content : String) : (fs : List ObjectField) →
    (content ∈ (stringsInFields label fs).map (·.2)
      ↔ ∃ f ∈ fs, (Node.objectField f).HoldsText content)
  | [] => by simp [stringsInFields]
  | ⟨n, v, span⟩ :: fs => by
    have hfield : (Node.objectField ⟨n, v, span⟩).HoldsText content
        ↔ (Node.value v).HoldsText content := by
      rw [holdsText_iff]
      simp [Node.children]
    rw [stringsInFields, List.map_append, List.mem_append, mem_stringsIn_iff _ content v,
      mem_stringsInFields_iff label content fs]
    simp [hfield]
end

variable {c : Context}

theorem error_mem_introspection_iff : .error ∈ severities (introspection c) ↔
    c.config.flag .forbiddenIntrospection = true ∧
      ∃ f ∈ c.document.fields, f.isIntrospection = true := by
  simp only [introspection, severities_ite, severities_nil, List.mem_ite_nil_right,
    severities_append, List.mem_append, Document.hasIntrospection, List.any_eq_true]
  refine and_congr_right fun _ => ⟨?_, fun h => ?_⟩
  · rintro (h | h)
    · rw [severities_flatMap, List.mem_flatMap] at h
      obtain ⟨f, hf, -⟩ := h
      exact ⟨f, List.mem_filter.mp hf⟩
    · exact h.1
  · exact .inr ⟨h, List.mem_singleton.mpr rfl⟩

theorem error_mem_argumentLevels_iff {config : Config} {a : Argument} :
    .error ∈ argumentLevels config a ↔
      ∃ content, (Node.argument a).HoldsText content ∧ patterns config content ≠ [] := by
  have hvalue : ∀ content, (Node.argument a).HoldsText content ↔
      ∃ s ∈ stringsIn a.name.value a.value, s.2 = content := by
    intro content
    rw [holdsText_iff, ← List.mem_map, mem_stringsIn_iff a.name.value]
    simp [Node.children]
  have hwarning : ∀ b, .error ∉ warnIf b := fun b h => nomatch eq_warning_of_mem_warnIf h
  simp only [argumentLevels, List.mem_flatMap, List.mem_append, List.mem_map, hwarning, or_false,
    and_true, hvalue]
  constructor
  · rintro ⟨s, hs, p, hp⟩
    exact ⟨s.2, ⟨s, hs, rfl⟩, List.ne_nil_of_mem hp⟩
  · rintro ⟨_, ⟨s, hs, rfl⟩, hp⟩
    exact ⟨s, hs, List.exists_mem_of_ne_nil _ hp⟩

theorem error_mem_nameLevels_iff : .error ∈ nameLevels c ↔
    ∃ s ∈ scannedNames c.document, patterns c.config s.2.1 ≠ [] := by
  simp only [nameLevels, List.mem_flatMap, List.mem_map, and_true]
  refine exists_congr fun s => and_congr_right fun _ => ?_
  exact ⟨fun ⟨p, hp⟩ => List.ne_nil_of_mem hp, List.exists_mem_of_ne_nil _⟩

theorem error_mem_depth_iff : .error ∈ severities (depth c) ↔
    c.config.limit .securityDepth < (c.document.maxDepth : Int)
      ∨ c.config.limit .exhaustionDepth < (c.document.maxDepth : Int) := by
  simp [depth, depthFindings]

theorem error_mem_complexity_iff : .error ∈ severities (complexity c) ↔
    c.config.limit .queryComplexity < (totalCost c.document : Int)
      ∨ c.config.limit .exhaustionDepth < (c.document.maxDepth : Int)
        ∧ c.config.limit .exponentialBreadth < (c.document.maxBreadth : Int) := by
  simp [complexity, costFindings, growthFindings]

theorem error_mem_directives_iff : .error ∈ severities (directives c) ↔
    ∃ r ∈ c.document.directives,
      .text r.name.value ∈ c.config.vocabulary .forbiddenDirectives := by
  have hmember : ∀ name, isMember (c.config.vocabulary .forbiddenDirectives) name = true ↔
      .text name ∈ c.config.vocabulary .forbiddenDirectives := by
    intro name
    rw [isMember, List.any_eq_true, ← Data.mem_filterMap_asText?, List.mem_filterMap]
    simp
  simp [directives, hmember]

theorem error_mem_levels_iff : .error ∈ levels c ↔
    .error ∈ severities (introspection c)
      ∨ (c.config.flag .inputValidation = true ∧ (.error ∈ valueLevels c ∨ .error ∈ nameLevels c))
      ∨ .error ∈ severities (depth c) ∨ .error ∈ severities (complexity c)
      ∨ .error ∈ severities (directives c) := by
  have hsensitive : .error ∉ sensitiveLevels c := fun h =>
    nomatch eq_warning_of_mem_sensitiveLevels h
  have hfragments : .error ∉ fragmentLevels c := fun h =>
    nomatch eq_warning_of_mem_fragmentLevels h
  have haccess : .error ∉ accessLevels c := fun h => nomatch eq_warning_of_mem_accessLevels h
  have hmutations : .error ∉ severities (mutations c) := by
    rw [mutations, severities_flatMap, List.mem_flatMap]
    rintro ⟨o, -, ho⟩
    revert ho
    split <;> simp
  simp only [levels, List.mem_append, List.mem_ite_nil_right, hsensitive, hfragments, haccess,
    hmutations, and_false, or_false, false_or]

end Security

end QueryLint
