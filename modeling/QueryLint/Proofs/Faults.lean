import Mathlib.Algebra.Ring.Nat
import QueryLint.Proofs.Errors

/-! # When a document fails

Under the built-in rules at their own severities, a text that can be read has an error exactly if
its document has one of the listed faults. Only the executable part of a document counts: what
stands in definitions of the type system is no fault.
-/

namespace QueryLint

/-! ## Faults -/

def Node.arguments : Node → List Argument
  | .field f => f.arguments
  | .directive r => r.arguments
  | _ => []

/-- The names that are scanned for signs of injection. -/
inductive Document.Names (d : Document) : String → Prop
  | argument {a : Argument} : d.root.Contains (.argument a) → Names d a.name.value
  | fragment {f : Fragment} : f ∈ d.fragments → Names d f.name.value
  | operation {o : Operation} {n : Name} : o ∈ d.operations → o.name = some n → Names d n.value

/-- Signs of injection are found in the text. -/
def Config.Suspects (c : Config) (text : String) : Prop :=
  ∃ labels, Injection.labels? (c.vocabulary .sqlKeywords) text = .ok labels ∧ labels ≠ []

/-- A field with its arguments, directives and immediate selections. -/
def Field.extent (f : Field) : Nat :=
  1 + f.arguments.length + f.directives.length + f.selectionSet.elim 0 (·.selections.length)

/-- What makes a document fail under a configuration. -/
inductive Document.Faulty (d : Document) (c : Config) : Prop
  | repeatedKey {s : SelectionSet} : d.root.Contains (.selectionSet s) →
      ¬ (s.fields.map Field.responseKey).Nodup → Faulty d c
  | undeclared {o : Operation} {v : Variable} : o ∈ d.operations → d.Reaches o (.value (.var v)) →
      (∀ w ∈ o.declarations, w.ref.name.value ≠ v.name.value) → Faulty d c
  | introspection {f : Field} : c.flag .forbiddenIntrospection = true → d.root.Contains (.field f) →
      f.isIntrospection = true → Faulty d c
  | suspiciousString {n : Node} {a : Argument} {content : String} :
      c.flag .inputValidation = true → d.root.Contains n → a ∈ n.arguments →
      (Node.argument a).HoldsText content → c.Suspects content → Faulty d c
  | suspiciousName {name : String} : c.flag .inputValidation = true → d.Names name →
      c.Suspects name → Faulty d c
  | deep : c.limit .securityDepth < (d.maxDepth : Int)
      ∨ c.limit .exhaustionDepth < (d.maxDepth : Int) → Faulty d c
  | costly : c.limit .queryComplexity < ((d.fields.map Field.extent).sum : Int) → Faulty d c
  | forbidden {r : Directive} : d.root.Contains (.directive r) →
      .text r.name.value ∈ c.vocabulary .forbiddenDirectives → Faulty d c

/-! ## Errors are faults -/

variable {d : Document} {c : Config}

theorem Config.suspects_iff (h : c.TextsOnly) {text : String} :
    c.Suspects text ↔ Security.patterns c text ≠ [] := by
  rw [Suspects, Injection.labels?_of_allTexts (h _)]
  simp [Security.patterns]

theorem foldl_add_eq_sum {α : Type} (f : α → Nat) (l : List α) :
    l.foldl (fun n a => n + f a) 0 = (l.map f).sum := by
  rw [List.sum_eq_foldl, List.foldl_map]

theorem totalCost_eq (d : Document) : Security.totalCost d = (d.fields.map Field.extent).sum := by
  have hcost : Security.fieldCost = Field.extent := by
    funext f
    rw [Security.fieldCost, Field.extent]
    cases f.selectionSet <;> rfl
  rw [Security.totalCost, foldl_add_eq_sum, hcost]

theorem mem_scannedNames_iff {name : String} :
    name ∈ (Security.scannedNames d).map (·.2.1) ↔ d.Names name := by
  simp only [Security.scannedNames, List.map_append, List.map_map, List.mem_append, List.mem_map,
    List.mem_filterMap, Option.map_eq_some_iff, Function.comp_apply]
  constructor
  · rintro ((⟨a, ha, rfl⟩ | ⟨f, hf, rfl⟩) | ⟨_, ⟨o, ho, n, hn, rfl⟩, rfl⟩)
    · exact .argument (Document.mem_arguments_iff.mp ha)
    · exact .fragment hf
    · exact .operation ho hn
  · rintro (ha | hf | ⟨ho, hn⟩)
    · exact .inl (.inl ⟨_, Document.mem_arguments_iff.mpr ha, rfl⟩)
    · exact .inl (.inr ⟨_, hf, rfl⟩)
    · exact .inr ⟨_, ⟨_, ho, _, hn, rfl⟩, rfl⟩

theorem error_mem_valueLevels_iff : .error ∈ Security.valueLevels ⟨d, c⟩ ↔
    ∃ n a content, d.root.Contains n ∧ a ∈ n.arguments ∧ (Node.argument a).HoldsText content ∧
      Security.patterns c content ≠ [] := by
  simp only [Security.valueLevels, List.mem_append, List.mem_flatMap,
    Security.error_mem_argumentLevels_iff, Document.mem_fields_iff, Document.mem_directives_iff]
  constructor
  · rintro (⟨f, hf, a, ha, content, hc, hp⟩ | ⟨r, hr, a, ha, content, hc, hp⟩)
    · exact ⟨.field f, a, content, hf, ha, hc, hp⟩
    · exact ⟨.directive r, a, content, hr, ha, hc, hp⟩
  · rintro ⟨n, a, content, hn, ha, hc, hp⟩
    cases n with
    | field f => exact .inl ⟨f, hn, a, ha, content, hc, hp⟩
    | directive r => exact .inr ⟨r, hn, a, ha, content, hc, hp⟩
    | _ => cases ha

theorem Document.faulty_iff (h : c.TextsOnly) : d.Faulty c ↔
    .error ∈ severities (BestPractice.findings ⟨d, c⟩) ∨ .error ∈ Security.levels ⟨d, c⟩ := by
  have hnames : .error ∈ Security.nameLevels ⟨d, c⟩ ↔
      ∃ name, d.Names name ∧ Security.patterns c name ≠ [] := by
    simp only [Security.error_mem_nameLevels_iff, ← mem_scannedNames_iff, List.mem_map,
      exists_exists_and_eq_and]
  rw [BestPractice.error_mem_findings_iff, BestPractice.error_mem_selectionSets_iff,
    BestPractice.error_mem_variableUse_iff, Security.error_mem_levels_iff,
    Security.error_mem_introspection_iff, error_mem_valueLevels_iff, hnames,
    Security.error_mem_depth_iff, Security.error_mem_complexity_iff, totalCost_eq,
    Security.error_mem_directives_iff]
  simp only [mem_selectionSets_iff, mem_fields_iff, mem_directives_iff, ← Config.suspects_iff h]
  constructor
  · rintro (⟨hs, hk⟩ | ⟨ho, hv, hw⟩ | ⟨hflag, hf, hi⟩ | ⟨hflag, hn, ha, hc, hp⟩ | ⟨hflag, hn, hp⟩ |
      hd | hc | ⟨hr, hf⟩)
    · exact .inl (.inl ⟨_, hs, hk⟩)
    · exact .inl (.inr ⟨_, ho, _, hv, hw⟩)
    · exact .inr (.inl ⟨hflag, _, hf, hi⟩)
    · exact .inr (.inr (.inl ⟨hflag, .inl ⟨_, _, _, hn, ha, hc, hp⟩⟩))
    · exact .inr (.inr (.inl ⟨hflag, .inr ⟨_, hn, hp⟩⟩))
    · exact .inr (.inr (.inr (.inl hd)))
    · exact .inr (.inr (.inr (.inr (.inl (.inl hc)))))
    · exact .inr (.inr (.inr (.inr (.inr ⟨_, hr, hf⟩))))
  · rintro ((⟨s, hs, hk⟩ | ⟨o, ho, v, hv, hw⟩) | ⟨hflag, f, hf, hi⟩ |
      ⟨hflag, ⟨n, a, content, hn, ha, hc, hp⟩ | ⟨name, hn, hp⟩⟩ | hd | (hc | ⟨hd, -⟩) | ⟨r, hr, hf⟩)
    · exact .repeatedKey hs hk
    · exact .undeclared ho hv hw
    · exact .introspection hflag hf hi
    · exact .suspiciousString hflag hn ha hc hp
    · exact .suspiciousName hflag hn hp
    · exact .deep hd
    · exact .costly hc
    · exact .deep (.inr hd)
    · exact .forbidden hr hf

/-! ## Reports -/

namespace Linter

theorem error_mem_reportedUnder_iff (k : Checked) :
    .error ∈ reportedUnder {} k ↔ .error ∈ severities k.findings := by
  simp [reportedUnder]

theorem hasErrors_builtinRules_iff (hc : c.TextsOnly)
    (hswitch : ∀ r ∈ builtinRules, c.ruleSwitch r.key = {}) :
    (runRules builtinRules ⟨d, c⟩).hasErrors = true ↔ d.Faulty c := by
  have hstyle : c.ruleSwitch "STYLE" = {} := hswitch (Style.rule 0) (by simp [builtinRules])
  have hpractice : c.ruleSwitch "BEST_PRACTICE" = {} :=
    hswitch (BestPractice.rule 0) (by simp [builtinRules])
  have hperformance : c.ruleSwitch "PERFORMANCE" = {} :=
    hswitch (Performance.rule 0) (by simp [builtinRules])
  have hsecurity : c.ruleSwitch "SECURITY" = {} :=
    hswitch (Security.rule 0) (by simp [builtinRules])
  have hyields := Security.yields_check (c := ⟨d, c⟩) hc
  rw [Report.hasErrors_iff, ← List.length_pos_iff, length_ofSeverity_builtinRules,
    List.count_pos_iff, Document.faulty_iff hc, ← hyields.severities_eq]
  simp only [builtinChecks, List.flatMap_cons, List.flatMap_nil, List.append_nil, List.mem_append,
    hstyle, hpractice, hperformance, hsecurity, error_mem_reportedUnder_iff,
    Style.error_not_mem_check, false_or, Checked.findings_ofFindings,
    Performance.error_not_mem_findings]

theorem error_mem_of_mem_contribution {title id description : String} {handle : Nat}
    {check : Context → Checked} (hid : id ≠ "") {c : Context}
    (hswitch : c.config.ruleSwitch id = {}) {e : Diagnostic}
    (he : e ∈ contribution (.ofCheck title id description handle check) c)
    (hs : e.severity = .error) : .error ∈ severities (check c).findings := by
  have hmem := (severities_contribution_perm hid c).mem_iff.mp
    (List.mem_map.mpr ⟨e, he, hs⟩)
  rwa [hswitch, error_mem_reportedUnder_iff] at hmem

/-- Errors are reported by best practice and security only. -/
theorem ruleId_of_mem_errors (hswitch : ∀ r ∈ builtinRules, c.ruleSwitch r.key = {})
    {e : Diagnostic} (he : e ∈ (runRules builtinRules ⟨d, c⟩).errors) :
    e.ruleId = "BEST_PRACTICE" ∨ e.ruleId = "SECURITY" := by
  have hfilter : e ∈ (runRules builtinRules ⟨d, c⟩).ofSeverity .error := he
  rw [runRules_eq_ofList, Report.ofSeverity_ofList, List.mem_filter, List.mem_flatMap,
    decide_eq_true_eq] at hfilter
  obtain ⟨⟨r, hr, he⟩, hs⟩ := hfilter
  have hkey := hswitch r hr
  simp only [builtinRules, List.mem_cons, List.not_mem_nil, or_false] at hr
  rcases hr with rfl | rfl | rfl | rfl
  · exact absurd (error_mem_of_mem_contribution (by decide) hkey he hs)
      (Style.error_not_mem_check _)
  · exact .inl (ruleId_of_mem_contribution (by decide) he)
  · exact absurd (error_mem_of_mem_contribution (by decide) hkey he hs)
      (Performance.error_not_mem_findings _)
  · exact .inr (ruleId_of_mem_contribution (by decide) he)

/-- A text that can be read has an error exactly if its document is faulty, and no error is one of
style or performance. -/
theorem lint_hasErrors_iff_faulty {s : List Char} (hs : Document.parse s = .ok d)
    (hc : c.TextsOnly) (hswitch : ∀ r ∈ builtinRules, c.ruleSwitch r.key = {}) :
    (((withBuiltinRules c).lint (.text s)).hasErrors = true ↔ d.Faulty c) ∧
      ∀ e ∈ ((withBuiltinRules c).lint (.text s)).errors,
        e.ruleId ≠ "STYLE" ∧ e.ruleId ≠ "PERFORMANCE" := by
  have hlint : (withBuiltinRules c).lint (.text s) = runRules builtinRules ⟨d, c⟩ := by
    rw [lint, prepare_text_of_parse hs]
    rfl
  rw [hlint]
  refine ⟨hasErrors_builtinRules_iff hc hswitch, fun e he => ?_⟩
  rcases ruleId_of_mem_errors hswitch he with h | h <;> rw [h] <;> decide

theorem textsOnly_standard : Config.standard.TextsOnly := by
  have hall : ∀ v, (Config.standard.vocabulary v).all (fun x => x.asText?.isSome) = true := by
    intro v
    cases v <;> decide +kernel
  exact fun v => List.all_eq_true.mp (hall v)

theorem parse_of_any {s : List Char} {located : Bool} {p : Document → Bool}
    (h : (Document.parse s located).toOption.any p = true) :
    ∃ d, Document.parse s located = .ok d ∧ p d = true := by
  cases hd : Document.parse s located with
  | error f => simp [hd, Except.toOption] at h
  | ok d => exact ⟨d, rfl, by simpa [hd, Except.toOption] using h⟩

/-- Two fields under one response key make a query fail. -/
theorem lint_hasErrors_of_repeated_key :
    ∃ d, Document.parse "query GetPair \x7b x: a x: b \x7d".toList = .ok d ∧ d.Faulty .standard ∧
      ((withBuiltinRules .standard).lint
        (.text "query GetPair \x7b x: a x: b \x7d".toList)).hasErrors = true := by
  have hparse : (Document.parse "query GetPair \x7b x: a x: b \x7d".toList).toOption.any (fun d =>
      d.selectionSets.any fun s => !decide (s.fields.map Field.responseKey).Nodup) = true := by
    decide +kernel
  obtain ⟨d, hd, hrepeated⟩ := parse_of_any hparse
  obtain ⟨s, hs, hk⟩ := List.any_eq_true.mp hrepeated
  have hfaulty : d.Faulty .standard :=
    .repeatedKey (Document.mem_selectionSets_iff.mp hs) (by simpa using hk)
  exact ⟨d, hd, hfaulty,
    (lint_hasErrors_iff_faulty hd textsOnly_standard (by decide)).1.mpr hfaulty⟩

/-- A scalar definition with one directive, which is forbidden by default. -/
def isForbiddenScalar : Definition → Bool
  | .typeSystem { body := .scalar _ [r], .. } =>
    Security.isMember (Config.standard.vocabulary .forbiddenDirectives) r.name.value
  | _ => false

/-- A forbidden directive on a definition of the type system is no error. -/
theorem lint_forbidden_on_scalar :
    ∃ d, Document.parse "scalar Date @auth".toList = .ok d ∧
      d.definitions.any isForbiddenScalar = true ∧
      ((withBuiltinRules .standard).lint (.text "scalar Date @auth".toList)).hasErrors = false := by
  have hparse : (Document.parse "scalar Date @auth".toList).toOption.any
      (fun d => d.definitions.any isForbiddenScalar) = true := by
    decide +kernel
  have hlint : ((withBuiltinRules .standard).lint
      (.text "scalar Date @auth".toList)).hasErrors = false := by
    decide +kernel
  obtain ⟨d, hd, hforbidden⟩ := parse_of_any hparse
  exact ⟨d, hd, hforbidden, hlint⟩

end Linter

end QueryLint
