import Mathlib.Data.List.Flatten
import QueryLint.Proofs.Screening

/-! # Tighter configurations

Lower limits, more flags and larger vocabularies lead to no fewer findings of any severity, with one
exception: the empty term, added to a vocabulary that names are searched for, silences it. This is
the only way in which findings are lost.
-/

namespace QueryLint

/-- No limit of the second configuration is higher, and no flag is taken back. -/
structure Config.Stricter (c c' : Config) : Prop where
  limit_le : ∀ l, c'.limit l ≤ c.limit l
  flag_of_flag : ∀ f, c.flag f = true → c'.flag f = true

/-- The second configuration switches the same rules and is stricter, with larger vocabularies. -/
structure Config.Tighter (c c' : Config) : Prop extends c.Stricter c' where
  vocabulary_subset : ∀ v, c.vocabulary v ⊆ c'.vocabulary v
  ruleSwitch_eq : ∀ id, c'.ruleSwitch id = c.ruleSwitch id

variable {c c' : Config} {d : Document}

theorem Config.Stricter.exceeds (h : c.Stricter c') {l : Limit} {n : Int} (hn : c.limit l < n) :
    c'.limit l < n :=
  Int.lt_of_le_of_lt (h.limit_le l) hn

theorem sublist_ite {α : Type} {p q : Prop} [Decidable p] [Decidable q] {l l' : List α}
    (hpq : p → q) (hl : l.Sublist l') :
    (if p then l else []).Sublist (if q then l' else []) := by
  by_cases hp : p
  · rwa [if_pos hp, if_pos (hpq hp)]
  · rw [if_neg hp]
    exact List.nil_sublist _

/-! ## Best practice -/

namespace BestPractice

/-- Asking for aliases leaves the other findings as they are. -/
theorem aliasesFrom_false_sublist (fields : List Field) (enforce : Bool)
    (reported reported' : List String) (fs : List Field) :
    (aliasesFrom fields false reported fs).Sublist (aliasesFrom fields enforce reported' fs) := by
  induction fs generalizing reported reported' with
  | nil => exact .refl _
  | cons f fs ih =>
    rw [aliasesFrom, aliasesFrom]
    cases f.aliasName with
    | some a => exact (ih reported reported').append_left _
    | none =>
      simp only [Bool.not_false, Bool.true_or, if_true]
      split
      · exact ih reported reported'
      · exact (ih reported _).cons _

theorem aliases_sublist (h : c.Stricter c') : (aliases ⟨d, c⟩).Sublist (aliases ⟨d, c'⟩) := by
  unfold aliases
  dsimp only
  cases hf : c.flag .aliasUsage with
  | false => exact aliasesFrom_false_sublist _ _ _ _ _
  | true => rw [h.flag_of_flag _ hf]

theorem fragments_sublist (h : c.Stricter c') :
    (severities (fragments ⟨d, c⟩)).Sublist (severities (fragments ⟨d, c'⟩)) := by
  simp only [fragments, fragmentCount, fragmentSize, severities_append, severities_ite,
    severities_flatMap, severities_cons, severity_warning, severities_nil]
  refine ((sublist_ite h.exceeds (.refl _)).append (.refl _)).append ?_
  exact List.Sublist.flatMap_right _ fun f _ => sublist_ite h.exceeds (.refl _)

theorem selectionSets_sublist (h : c.Stricter c') :
    (severities (selectionSets ⟨d, c⟩)).Sublist (severities (selectionSets ⟨d, c'⟩)) := by
  simp only [selectionSets, severities_flatMap]
  refine List.Sublist.flatMap_right _ fun s _ => ?_
  simp only [selectionSetFindings, severities_append, severities_ite, severities_cons,
    severity_warning, severity_info, severities_nil]
  exact ((sublist_ite h.exceeds (.refl _)).append (.refl _)).append (.refl _)

theorem fieldSelections_sublist (h : c.Stricter c') :
    (fieldSelections ⟨d, c⟩).Sublist (fieldSelections ⟨d, c'⟩) :=
  sublist_ite (h.flag_of_flag _) (.refl _)

theorem arguments_sublist (h : c.Stricter c') :
    (arguments ⟨d, c⟩).Sublist (arguments ⟨d, c'⟩) := by
  refine (List.monotone_filter_right _ fun f hf => ?_).map _
  simpa using h.exceeds (by simpa using hf)

theorem findings_sublist (h : c.Stricter c') :
    (severities (findings ⟨d, c⟩)).Sublist (severities (findings ⟨d, c'⟩)) := by
  simp only [findings, severities_append]
  have haliases := (aliases_sublist (d := d) h).map (·.severity)
  have hselections := (fieldSelections_sublist (d := d) h).map (·.severity)
  have harguments := (arguments_sublist (d := d) h).map (·.severity)
  exact (((((((((haliases.append (fragments_sublist h)).append (selectionSets_sublist h)).append
    (.refl _)).append (.refl _)).append hselections).append harguments).append (.refl _)).append
    (.refl _)).append (.refl _))

end BestPractice

/-! ## Performance -/

namespace Performance

theorem findings_sublist (h : c.Stricter c') :
    (severities (findings ⟨d, c⟩)).Sublist (severities (findings ⟨d, c'⟩)) := by
  have hdepth : (severities (depth ⟨d, c⟩)).Sublist (severities (depth ⟨d, c'⟩)) := by
    simp only [depth, depthFindings, severities_append, severities_ite, severities_cons,
      severity_warning, severity_info, severities_nil]
    exact (sublist_ite h.exceeds (.refl _)).append (.refl _)
  have hcount : (severities (fieldCount ⟨d, c⟩)).Sublist (severities (fieldCount ⟨d, c'⟩)) := by
    simp only [fieldCount, severities_ite, severities_cons, severity_warning, severities_nil]
    exact sublist_ite h.exceeds (.refl _)
  have husage : (fragmentUsage ⟨d, c⟩).Sublist (fragmentUsage ⟨d, c'⟩) :=
    sublist_ite (h.flag_of_flag _) (.refl _)
  have hcost : (severities (complexity ⟨d, c⟩)).Sublist (severities (complexity ⟨d, c'⟩)) := by
    simp only [complexity, severities_ite, severities_cons, severity_warning, severities_nil]
    exact sublist_ite h.exceeds (.refl _)
  simp only [findings, severities_append]
  exact (((((hdepth.append hcount).append (husage.map _)).append hcost).append (.refl _)).append
    (.refl _)).append (.refl _)

end Performance

/-! ## Style -/

namespace Style

theorem camelFindings_sublist {camelCase camelCase' : Bool}
    (h : camelCase = true → camelCase' = true) (owner name : String) (reserved : Bool) (n : Node) :
    (camelFindings owner name camelCase reserved n).Sublist
      (camelFindings owner name camelCase' reserved n) := by
  refine ((List.Sublist.append ?_ (.refl _)).append (.refl _)).append (.refl _)
  refine sublist_ite ?_ (.refl _)
  simpa using fun hc => fun hn => ⟨h hc, hn⟩

theorem nameFindings_sublist {camelCase camelCase' : Bool}
    (h : camelCase = true → camelCase' = true) (n : Node) :
    (nameFindings camelCase n).Sublist (nameFindings camelCase' n) := by
  unfold nameFindings
  split
  · dsimp only
    split
    · exact .refl _
    · exact camelFindings_sublist h ..
  · exact camelFindings_sublist h ..
  · exact camelFindings_sublist h ..
  all_goals exact .refl _

theorem naming_sublist (h : c.Stricter c') : (naming ⟨d, c⟩).Sublist (naming ⟨d, c'⟩) :=
  List.Sublist.flatMap_right _ fun n _ => nameFindings_sublist (h.flag_of_flag _) n

theorem isSome_find?_mono {α : Type} {p q : α → Bool} (hpq : ∀ a, p a → q a) {l : List α}
    (h : (l.find? p).isSome) : (l.find? q).isSome := by
  obtain ⟨a, ha, hp⟩ := List.find?_isSome.mp h
  exact List.find?_isSome.mpr ⟨a, ha, hpq a hp⟩

-- Only the first line beyond a limit is reported, so under a lower limit another one may be.
theorem nestingLevel_sublist (h : c.Stricter c') :
    (severities (nestingLevel ⟨d, c⟩)).Sublist (severities (nestingLevel ⟨d, c'⟩)) := by
  have hs : ∀ c : Config, severities (nestingLevel ⟨d, c⟩)
      = if ((((Text.lines d.printed).filter fun l => !Text.allBlank l).map levelOf).find?
          fun (level : Nat) => c.limit .indentationLevel < (level : Int)).isSome
        then [.warning] else [] := by
    intro c
    unfold nestingLevel
    dsimp only
    cases List.find? _ _ <;> rfl
  rw [hs, hs]
  refine sublist_ite (isSome_find?_mono fun level hl => ?_) (.refl _)
  simpa using h.exceeds (by simpa using hl)

theorem lineLength_sublist (h : c.Stricter c') (text : List Char) :
    (severities (lineLength ⟨d, c⟩ text)).Sublist (severities (lineLength ⟨d, c'⟩ text)) := by
  have hs : ∀ c : Config, severities (lineLength ⟨d, c⟩ text)
      = if (((Text.lines text).zipIdx 1).find?
          fun e => c.limit .lineLength < (e.1.length : Int)).isSome then [.warning] else [] := by
    intro c
    unfold lineLength
    dsimp only
    cases List.find? _ _ <;> rfl
  rw [hs, hs]
  refine sublist_ite (isSome_find?_mono fun line hl => ?_) (.refl _)
  simpa using h.exceeds (by simpa using hl)

theorem layout_sublist (h : c.Stricter c') (text : List Char) (tokens : List Token) :
    (severities (layout ⟨d, c⟩ text tokens)).Sublist (severities (layout ⟨d, c'⟩ text tokens)) := by
  simp only [layout, severities_append, severities_ite]
  refine .append (.append (sublist_ite (h.flag_of_flag _) (.refl _)) ?_) (lineLength_sublist h text)
  exact sublist_ite (h.flag_of_flag _) (.append (.refl _) (nestingLevel_sublist h))

/-- The layout is read, or fails to be read, whatever the configuration. -/
theorem check_failure (c c' : Config) : (check ⟨d, c'⟩).failure = (check ⟨d, c⟩).failure := by
  simp only [check]
  cases (tokenize d.sourceText).toList <;> simp [Checked.append]

theorem check_sublist (h : c.Stricter c') :
    (severities (check ⟨d, c⟩).findings).Sublist (severities (check ⟨d, c'⟩).findings) := by
  have hnaming := (naming_sublist (d := d) h).map (·.severity)
  simp only [check]
  cases (tokenize d.sourceText).toList with
  | error f => simpa [Checked.append, severities] using hnaming
  | ok tokens =>
    simp only [Checked.append, Checked.failure_ofFindings, Checked.findings_ofFindings,
      Option.isSome_none, Bool.false_eq_true, if_false, severities_append]
    exact hnaming.append (layout_sublist h _ tokens)

end Style

/-! ## Security -/

namespace Security

open Term (speaks)

/-- The vocabularies whose terms are searched for in names. -/
def termVocabularies : List Vocabulary :=
  [.sensitiveFields, .sensitivePatterns, .adminFieldPatterns, .internalFieldPatterns]

/-- No vocabulary of terms is silenced by the second configuration. -/
def KeepsTerms (c c' : Config) : Prop :=
  ∀ v ∈ termVocabularies, ¬ Term.Silences (c'.vocabulary v) (c.vocabulary v)

theorem speaks_of_keepsTerms (h : c.Tighter c') (hk : KeepsTerms c c') {v : Vocabulary}
    (hv : v ∈ termVocabularies) {name : String} (hs : speaks (c.vocabulary v) name = true) :
    speaks (c'.vocabulary v) name = true :=
  Term.speaks_mono (h.vocabulary_subset v) (hk v hv) hs

theorem warnIf_sublist {a b : Bool} (h : a = true → b = true) : (warnIf a).Sublist (warnIf b) :=
  sublist_ite h (.refl _)

theorem sensitiveLevels_sublist (h : c.Tighter c') (hk : KeepsTerms c c') :
    (sensitiveLevels ⟨d, c⟩).Sublist (sensitiveLevels ⟨d, c'⟩) := by
  refine List.Sublist.flatMap_right _ fun n _ => List.Sublist.flatMap_right _ fun s _ => ?_
  refine warnIf_sublist fun hs => ?_
  rw [Bool.or_eq_true] at hs ⊢
  exact hs.imp (speaks_of_keepsTerms h hk (by decide)) (speaks_of_keepsTerms h hk (by decide))

theorem fragmentLevels_sublist (h : c.Tighter c') (hk : KeepsTerms c c') :
    (fragmentLevels ⟨d, c⟩).Sublist (fragmentLevels ⟨d, c'⟩) := by
  refine List.Sublist.flatMap_right _ fun n _ => List.Sublist.flatMap_right _ fun f _ => ?_
  exact warnIf_sublist (speaks_of_keepsTerms h hk (by decide))

theorem accessLevels_sublist (h : c.Tighter c') (hk : KeepsTerms c c') :
    (accessLevels ⟨d, c⟩).Sublist (accessLevels ⟨d, c'⟩) := by
  refine List.Sublist.flatMap_right _ fun f _ => .append ?_ ?_
  · exact warnIf_sublist (speaks_of_keepsTerms h hk (by decide))
  · exact warnIf_sublist (speaks_of_keepsTerms h hk (by decide))

/-- Searching names leads to warnings only, so other severities cannot be lost there. -/
theorem filter_sublist_of_warnings {p : Severity → Bool} {l l' : List Severity}
    (hl : ∀ s ∈ l, s = .warning) (h : p .warning = true → l.Sublist l') :
    (l.filter p).Sublist (l'.filter p) := by
  by_cases hp : p .warning = true
  · exact (h hp).filter p
  · have hnil : l.filter p = [] := List.filter_eq_nil_iff.mpr fun s hs => hl s hs ▸ hp
    rw [hnil]
    exact List.nil_sublist _

theorem patterns_sublist (h : c.Tighter c') (text : String) :
    (patterns c text).Sublist (patterns c' text) :=
  Injection.labels_sublist (Injection.keywords_subset (h.vocabulary_subset .sqlKeywords)) text

theorem argumentLevels_sublist (h : c.Tighter c') (a : Argument) :
    (argumentLevels c a).Sublist (argumentLevels c' a) :=
  List.Sublist.flatMap_right _ fun s _ => ((patterns_sublist h s.2).map _).append (.refl _)

theorem valueLevels_sublist (h : c.Tighter c') :
    (valueLevels ⟨d, c⟩).Sublist (valueLevels ⟨d, c'⟩) := by
  refine .append ?_ ?_
  · refine List.Sublist.flatMap_right _ fun f _ => ?_
    exact List.Sublist.flatMap_right _ fun a _ => argumentLevels_sublist h a
  · refine List.Sublist.flatMap_right _ fun r _ => ?_
    exact List.Sublist.flatMap_right _ fun a _ => argumentLevels_sublist h a

theorem nameLevels_sublist (h : c.Tighter c') :
    (nameLevels ⟨d, c⟩).Sublist (nameLevels ⟨d, c'⟩) :=
  List.Sublist.flatMap_right _ fun s _ => (patterns_sublist h s.2.1).map _

theorem introspection_sublist (h : c.Stricter c') :
    (introspection ⟨d, c⟩).Sublist (introspection ⟨d, c'⟩) :=
  sublist_ite (h.flag_of_flag _) (.refl _)

theorem depth_sublist (h : c.Stricter c') :
    (severities (depth ⟨d, c⟩)).Sublist (severities (depth ⟨d, c'⟩)) := by
  simp only [depth, depthFindings, severities_append, severities_ite, severities_cons,
    severity_error, severities_nil]
  exact (sublist_ite h.exceeds (.refl _)).append (sublist_ite h.exceeds (.refl _))

theorem complexity_sublist (h : c.Stricter c') :
    (severities (complexity ⟨d, c⟩)).Sublist (severities (complexity ⟨d, c'⟩)) := by
  simp only [complexity, costFindings, growthFindings, severities_append, severities_ite,
    severities_cons, severity_error, severities_nil]
  refine (sublist_ite h.exceeds (.refl _)).append (sublist_ite (fun hb => ?_) (.refl _))
  simp only [Bool.and_eq_true, decide_eq_true_eq] at hb ⊢
  exact ⟨h.exceeds hb.1, h.exceeds hb.2⟩

theorem directives_sublist (h : c.Tighter c') :
    (directives ⟨d, c⟩).Sublist (directives ⟨d, c'⟩) := by
  refine (List.monotone_filter_right _ fun r hr => ?_).map _
  obtain ⟨x, hx, he⟩ := List.any_eq_true.mp hr
  exact List.any_eq_true.mpr ⟨x, h.vocabulary_subset _ hx, he⟩

/-- The severities singled out by `p` are kept; warnings may be among them if no vocabulary is
silenced. -/
theorem levels_sublist (h : c.Tighter c') {p : Severity → Bool}
    (hp : p .warning = true → KeepsTerms c c') :
    ((levels ⟨d, c⟩).filter p).Sublist ((levels ⟨d, c'⟩).filter p) := by
  have hsensitive := filter_sublist_of_warnings
    (fun _ => eq_warning_of_mem_sensitiveLevels (c := ⟨d, c⟩))
    fun hw => sensitiveLevels_sublist h (hp hw)
  have hfragments := filter_sublist_of_warnings
    (fun _ => eq_warning_of_mem_fragmentLevels (c := ⟨d, c⟩))
    fun hw => fragmentLevels_sublist h (hp hw)
  have haccess := filter_sublist_of_warnings
    (fun _ => eq_warning_of_mem_accessLevels (c := ⟨d, c⟩))
    fun hw => accessLevels_sublist h (hp hw)
  have hvalidation := ((valueLevels_sublist (d := d) h).filter p).append
    ((nameLevels_sublist (d := d) h).filter p)
  simp only [levels, List.filter_append, apply_ite (List.filter p), List.filter_nil]
  refine (((introspection_sublist h.toStricter).map _).filter p).append (hsensitive.append ?_)
  refine (sublist_ite (h.flag_of_flag _) hvalidation).append ?_
  refine ((depth_sublist h.toStricter).filter p).append
    (((complexity_sublist h.toStricter).filter p).append ?_)
  refine (((directives_sublist h).map _).filter p).append (hfragments.append (.append (.refl _) ?_))
  exact sublist_ite (h.flag_of_flag _) haccess

end Security

/-! ## Reports -/

namespace Linter

theorem count_reportedUnder (switch : RuleSwitch) (k : Checked) (s : Severity) :
    (reportedUnder switch k).count s = if switch.enabled then
      (severities k.findings).countP (fun t => switch.severity.getD t == s)
        + (k.failure.map fun _ => Severity.warning).toList.count s else 0 := by
  unfold reportedUnder
  split
  · rw [List.count_append, List.count, List.countP_map]
    rfl
  · rfl

theorem count_reportedUnder_le {switch : RuleSwitch} {k k' : Checked} {s : Severity}
    (hfailure : k'.failure = k.failure)
    (h : ((severities k.findings).filter fun t => switch.severity.getD t == s).Sublist
      ((severities k'.findings).filter fun t => switch.severity.getD t == s)) :
    (reportedUnder switch k).count s ≤ (reportedUnder switch k').count s := by
  rw [count_reportedUnder, count_reportedUnder, hfailure]
  split
  · rw [List.countP_eq_length_filter, List.countP_eq_length_filter]
    exact Nat.add_le_add_right h.length_le _
  · exact Nat.le_refl _

def warnedAt (c : Config) : Severity :=
  (c.ruleSwitch "SECURITY").severity.getD .warning

theorem count_security_le (hc : c.TextsOnly) (hc' : c'.TextsOnly) (h : c.Tighter c') {s : Severity}
    (hs : s = warnedAt c → Security.KeepsTerms c c') :
    (reportedUnder (c.ruleSwitch "SECURITY") (Security.check ⟨d, c⟩)).count s
      ≤ (reportedUnder (c.ruleSwitch "SECURITY") (Security.check ⟨d, c'⟩)).count s := by
  have hy := Security.yields_check (c := ⟨d, c⟩) hc
  have hy' := Security.yields_check (c := ⟨d, c'⟩) hc'
  refine count_reportedUnder_le (by rw [hy.ends, hy'.ends]) ?_
  rw [hy.severities_eq, hy'.severities_eq]
  refine Security.levels_sublist h fun hw => hs ?_
  rw [beq_iff_eq] at hw
  exact hw.symm

theorem count_others_le (h : c.Stricter c') (s : Severity) (switch : String → RuleSwitch) :
    (reportedUnder (switch "STYLE") (Style.check ⟨d, c⟩)).count s
        ≤ (reportedUnder (switch "STYLE") (Style.check ⟨d, c'⟩)).count s ∧
      (reportedUnder (switch "BEST_PRACTICE") (.ofFindings (BestPractice.findings ⟨d, c⟩))).count s
        ≤ (reportedUnder (switch "BEST_PRACTICE")
          (.ofFindings (BestPractice.findings ⟨d, c'⟩))).count s ∧
      (reportedUnder (switch "PERFORMANCE") (.ofFindings (Performance.findings ⟨d, c⟩))).count s
        ≤ (reportedUnder (switch "PERFORMANCE")
          (.ofFindings (Performance.findings ⟨d, c'⟩))).count s := by
  refine ⟨?_, ?_, ?_⟩
  · exact count_reportedUnder_le (Style.check_failure c c') ((Style.check_sublist h).filter _)
  · exact count_reportedUnder_le (by simp) ((BestPractice.findings_sublist h).filter _)
  · exact count_reportedUnder_le (by simp) ((Performance.findings_sublist h).filter _)

def findingCount (c : Config) (s : Severity) (input : Input) : Nat :=
  (((withBuiltinRules c).lint input).ofSeverity s).length

theorem findingCount_document (c : Config) (s : Severity) (d : Document) :
    findingCount c s (.document d)
      = (reportedUnder (c.ruleSwitch "STYLE") (Style.check ⟨d, c⟩)).count s
        + (reportedUnder (c.ruleSwitch "BEST_PRACTICE")
          (.ofFindings (BestPractice.findings ⟨d, c⟩))).count s
        + (reportedUnder (c.ruleSwitch "PERFORMANCE")
          (.ofFindings (Performance.findings ⟨d, c⟩))).count s
        + (reportedUnder (c.ruleSwitch "SECURITY") (Security.check ⟨d, c⟩)).count s := by
  rw [findingCount, lint_of_document? _ rfl]
  refine (length_ofSeverity_builtinRules ⟨d, c⟩ s).trans ?_
  simp only [builtinChecks, List.flatMap_cons, List.flatMap_nil, List.count_append, List.count_nil]
  omega

theorem findingCount_document_le (hc : c.TextsOnly) (hc' : c'.TextsOnly) (h : c.Tighter c')
    {s : Severity} (hs : s = warnedAt c → Security.KeepsTerms c c') (d : Document) :
    findingCount c s (.document d) ≤ findingCount c' s (.document d) := by
  obtain ⟨hstyle, hpractice, hperformance⟩ := count_others_le (d := d) h.toStricter s c.ruleSwitch
  have hsecurity := count_security_le (d := d) hc hc' h hs
  simp only [findingCount_document, h.ruleSwitch_eq]
  omega

theorem findingCount_le (hc : c.TextsOnly) (hc' : c'.TextsOnly) (h : c.Tighter c') {s : Severity}
    (hs : s = warnedAt c → Security.KeepsTerms c c') (input : Input) :
    findingCount c s input ≤ findingCount c' s input := by
  unfold findingCount lint
  cases prepare input with
  | ok d => exact findingCount_document_le hc hc' h hs d
  | error report => exact Nat.le_refl _

theorem hasErrors_iff_findingCount {input : Input} :
    ((withBuiltinRules c).lint input).hasErrors = true ↔ 0 < findingCount c .error input := by
  rw [Report.hasErrors_iff, findingCount, List.length_pos_iff]

end Linter

end QueryLint
