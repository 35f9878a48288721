import Mathlib.Data.List.Basic
import QueryLint.Proofs.Isolation

/-! # Severities given by the configuration

A severity that the configuration gives a rule moves the findings of that rule between the lists of
a report. It neither loses, adds nor changes any of them: but for severities, the report is the one
under the same configuration without them. The warning about a failure is not moved.
-/

namespace QueryLint

/-! ## What rules read of a configuration -/

theorem Table.find?_map {α β : Type} (f : α → β) (key : String) (es : List (String × α)) :
    find? key (es.map fun e => (e.1, f e.2)) = (find? key es).map f := by
  induction es with
  | nil => rfl
  | cons e es ih =>
    obtain ⟨k, v⟩ := e
    by_cases h : key = k <;> simp [find?, h, ih]

def RuleSwitch.withoutSeverity (s : RuleSwitch) : RuleSwitch :=
  { s with severity := none }

namespace Config

def withoutSeverities (c : Config) : Config :=
  { c with rules := ⟨c.rules.entries.map fun e => (e.1, e.2.withoutSeverity)⟩ }

theorem withoutSeverities_idem (c : Config) :
    c.withoutSeverities.withoutSeverities = c.withoutSeverities := by
  simp [withoutSeverities, RuleSwitch.withoutSeverity]

theorem ruleSwitch_withoutSeverities (c : Config) (id : String) :
    c.withoutSeverities.ruleSwitch id = (c.ruleSwitch id).withoutSeverity := by
  have hfind := Table.find?_map RuleSwitch.withoutSeverity id c.rules.entries
  rw [ruleSwitch, withoutSeverities, Table.get?, hfind, ruleSwitch, Table.get?]
  cases Table.find? id c.rules.entries <;> rfl

end Config

namespace Rule

/-- The rule answers the same under configurations that differ in severities only. -/
def IgnoresSeverities (r : Rule) : Prop :=
  ∀ (d : Document) (c c' : Config), c.withoutSeverities = c'.withoutSeverities →
    r.enabled ⟨d, c⟩ = r.enabled ⟨d, c'⟩ ∧ r.run ⟨d, c⟩ = r.run ⟨d, c'⟩

/-- The rule has an id by which it is switched on and off, and reads nothing else of a configuration
than its settings. -/
structure Switched (r : Rule) : Prop where
  id_ne : r.id ≠ ""
  enabled_eq : r.enabled = enabledByConfig r.id
  run_eq : ∀ (d : Document) (c c' : Config), c.settings = c'.settings →
    r.run ⟨d, c⟩ = r.run ⟨d, c'⟩

variable {r : Rule}

theorem Switched.key_eq (h : r.Switched) : r.key = r.id :=
  if_neg h.id_ne

theorem Switched.ignoresSeverities (h : r.Switched) : r.IgnoresSeverities := by
  intro d c c' hc
  have henabled : (c.ruleSwitch r.id).enabled = (c'.ruleSwitch r.id).enabled := by
    have hswitch := congrArg (fun x => (x.ruleSwitch r.id).enabled) hc
    simp only [Config.ruleSwitch_withoutSeverities] at hswitch
    exact hswitch
  have hsettings : c.withoutSeverities.settings = c'.withoutSeverities.settings := by
    rw [hc]
  constructor
  · rw [h.enabled_eq, enabledByConfig, enabledByConfig, henabled]
  · exact h.run_eq d c c' hsettings

theorem switched_ofCheck {id : String} (hid : id ≠ "") (title description : String) (handle : Nat)
    {check : Context → Checked}
    (h : ∀ (d : Document) (settings : Table Data) (explicit explicit' : List String)
      (rules rules' : Table RuleSwitch),
      check ⟨d, settings, explicit, rules⟩ = check ⟨d, settings, explicit', rules'⟩) :
    (ofCheck title id description handle check).Switched where
  id_ne := hid
  enabled_eq := rfl
  run_eq := by
    rintro d ⟨settings, explicit, rules⟩ ⟨_, explicit', rules'⟩ rfl
    exact congrArg (Checked.toOutcome id d.text) (h d settings explicit explicit' rules rules')

/-- Limits, flags and vocabularies are all that the built-in rules ask a configuration for. -/
theorem switched_of_mem_builtinRules (h : r ∈ builtinRules) : r.Switched := by
  simp only [builtinRules, List.mem_cons, List.not_mem_nil, or_false] at h
  rcases h with rfl | rfl | rfl | rfl <;>
    exact switched_ofCheck (by decide) _ _ _ fun _ _ _ _ _ _ => rfl

end Rule

def Diagnostic.substance (d : Diagnostic) :
    String × String × Option Node × Option String × Option Int × Option Int :=
  (d.ruleId, d.message, d.node, d.path, d.line, d.column)

namespace Linter

/-! ## Nothing is lost -/

variable {r : Rule} {rules : List Rule}

theorem map_substance_reissue (override : Option Severity) (findings : List Diagnostic) :
    (reissue override findings).map Diagnostic.substance
      = (Report.ofList findings).toList.map Diagnostic.substance := by
  rw [reissue, List.map_map]
  cases override <;> rfl

theorem outcome_withoutSeverities (h : r.IgnoresSeverities) (d : Document) (config : Config) :
    outcome r ⟨d, config.withoutSeverities⟩ = outcome r ⟨d, config⟩ := by
  obtain ⟨henabled, hrun⟩ := h d _ _ config.withoutSeverities_idem
  rw [outcome, outcome, henabled, hrun]

theorem map_substance_contribution (h : r.IgnoresSeverities) (d : Document) (config : Config) :
    (contribution r ⟨d, config⟩).map Diagnostic.substance
      = (contribution r ⟨d, config.withoutSeverities⟩).map Diagnostic.substance := by
  simp only [contribution, List.map_append, map_substance_reissue, outcome_withoutSeverities h]

theorem substance_lintContext_perm (h : ∀ r ∈ rules, r.IgnoresSeverities) (own : Config)
    (d : Document) (config : Config) :
    ((lintContext ⟨own, rules⟩ ⟨d, config⟩).toList.map Diagnostic.substance).Perm
      ((lintContext ⟨own, rules⟩ ⟨d, config.withoutSeverities⟩).toList.map
        Diagnostic.substance) := by
  have hall : (rules.flatMap fun r => contribution r ⟨d, config⟩).map Diagnostic.substance
      = (rules.flatMap fun r => contribution r ⟨d, config.withoutSeverities⟩).map
        Diagnostic.substance := by
    rw [List.map_flatMap, List.map_flatMap]
    exact List.flatMap_congr fun r hr => map_substance_contribution (h r hr) d config
  have hleft := (Report.toList_ofList_perm
    (rules.flatMap fun r => contribution r ⟨d, config⟩)).map Diagnostic.substance
  have hright := (Report.toList_ofList_perm
    (rules.flatMap fun r => contribution r ⟨d, config.withoutSeverities⟩)).map
      Diagnostic.substance
  rw [lintContext, lintContext, runRules_eq_ofList, runRules_eq_ofList]
  exact hleft.trans (hall ▸ hright.symm)

/-! ## Where the findings of a rule go -/

/-- The findings that a rule brings into the list of a severity. Under an override there is one list
for all of them, its own errors first. -/
def share (override : Option Severity) (findings : List Diagnostic) (s : Severity) :
    List Diagnostic :=
  match override with
  | none => findings.filter (·.severity = s)
  | some t =>
    if t = s then
      (findings.filter (·.severity = .error) ++ findings.filter (·.severity = .warning)
        ++ findings.filter (·.severity = .info)).map (·.withSeverity t)
    else []

def failureShare (r : Rule) (failure : Option String) (s : Severity) : List Diagnostic :=
  if s = .warning then (failure.map (failureWarning r)).toList else []

theorem filter_reissue (override : Option Severity) (findings : List Diagnostic) (s : Severity) :
    (reissue override findings).filter (·.severity = s) = share override findings s := by
  have hlist := Report.ofSeverity_ofList findings
  cases override with
  | none =>
    have hsame := ofList_reissue none findings
    rw [share, ← hlist, ← Report.ofSeverity_ofList, hsame, reissued]
  | some t =>
    have hall : (Report.ofList findings).toList
        = findings.filter (·.severity = .error) ++ findings.filter (·.severity = .warning)
          ++ findings.filter (·.severity = .info) := by
      rw [← hlist, ← hlist, ← hlist]
      rfl
    rw [reissue, share, hall, List.filter_map]
    by_cases h : t = s
    · rw [if_pos h, List.filter_eq_self.mpr]
      intro d _
      exact decide_eq_true h
    · rw [if_neg h, List.filter_eq_nil_iff.mpr, List.map_nil]
      intro d _
      exact fun hd => h (of_decide_eq_true hd)

theorem filter_contribution (r : Rule) (c : Context) (s : Severity) :
    (contribution r c).filter (·.severity = s)
      = share (c.config.ruleSwitch r.key).severity (outcome r c).findings s
        ++ failureShare r (outcome r c).failure s := by
  rw [contribution, List.filter_append, filter_reissue, failureShare]
  congr 1
  cases (outcome r c).failure with
  | none => split <;> rfl
  | some reason => cases s <;> rfl

theorem ofSeverity_lintContext (own : Config) (before after : List Rule) (r : Rule) (c : Context)
    (s : Severity) :
    (lintContext ⟨own, before ++ r :: after⟩ c).ofSeverity s
      = (lintContext ⟨own, before⟩ c).ofSeverity s
        ++ (share (c.config.ruleSwitch r.key).severity (outcome r c).findings s
          ++ failureShare r (outcome r c).failure s)
        ++ (lintContext ⟨own, after⟩ c).ofSeverity s := by
  simp only [lintContext, runRules_eq_ofList, Report.ofSeverity_ofList, List.flatMap_append,
    List.flatMap_cons, List.filter_append, filter_contribution, List.append_assoc]

/-- But for severities, a report is the same when the severities that the configuration gives are
cleared. The findings of each rule stand together in the lists of the severities they were given,
and the warning about its failure among the warnings. -/
theorem overrides_keep_findings (h : ∀ r ∈ rules, r.IgnoresSeverities) (config : Config) :
    (∀ input : Input,
      ((lint ⟨config, rules⟩ input).toList.map Diagnostic.substance).Perm
        ((lint ⟨config.withoutSeverities, rules⟩ input).toList.map Diagnostic.substance)) ∧
      (∀ (own : Config) (d : Document),
        ((lintContext ⟨own, rules⟩ ⟨d, config⟩).toList.map Diagnostic.substance).Perm
            ((lintContext ⟨own, rules⟩ ⟨d, config.withoutSeverities⟩).toList.map
              Diagnostic.substance) ∧
          ∀ (before after : List Rule) (r : Rule) (s : Severity), rules = before ++ r :: after →
            (lintContext ⟨own, rules⟩ ⟨d, config⟩).ofSeverity s
              = (lintContext ⟨own, before⟩ ⟨d, config⟩).ofSeverity s
                ++ (share (config.ruleSwitch r.key).severity (outcome r ⟨d, config⟩).findings s
                  ++ failureShare r (outcome r ⟨d, config⟩).failure s)
                ++ (lintContext ⟨own, after⟩ ⟨d, config⟩).ofSeverity s) ∧
      ∀ r ∈ builtinRules, r.IgnoresSeverities := by
  refine ⟨fun input => ?_, fun own d => ⟨substance_lintContext_perm h own d config, ?_⟩,
    fun r hr => (Rule.switched_of_mem_builtinRules hr).ignoresSeverities⟩
  · rw [lint, lint]
    split
    · exact substance_lintContext_perm h config _ config
    · exact .refl _
  · rintro before after r s rfl
    exact ofSeverity_lintContext own before after r ⟨d, config⟩ s

/-- Both findings of the second rule are errors under its override, what was an error from the start
first, and those of the first rule have become hints. -/
theorem overrides_keep_explosive :
    let config := Config.standard.setRules
      [("EXPLODE", { severity := some .error }), ("STYLE", { severity := some .info })]
    let rules := [Style.rule 0, explosive]
    let input : Input := .text "query q \x7b User \x7d".toList
    (∀ r ∈ rules, r.IgnoresSeverities) ∧
      (((lint ⟨config, rules⟩ input).toList.map Diagnostic.substance).Perm
        ((lint ⟨config.withoutSeverities, rules⟩ input).toList.map Diagnostic.substance)) ∧
      (lint ⟨config, rules⟩ input).errors.map (·.message) = ["found", "hint"] ∧
      (lint ⟨config, rules⟩ input).warnings.map (·.message) = ["Rule execution failed: boom"] ∧
      (lint ⟨config, rules⟩ input).infos.map (·.ruleId) = ["STYLE", "STYLE"] ∧
      (lint ⟨config.withoutSeverities, rules⟩ input).warnings.map (·.ruleId)
        = ["STYLE", "STYLE", "EXPLODE"] := by
  intro config rules input
  have hrules : ∀ r ∈ rules, r.IgnoresSeverities := by
    intro r hr
    simp only [rules, List.mem_cons, List.not_mem_nil, or_false] at hr
    rcases hr with rfl | rfl
    · exact (Rule.switched_of_mem_builtinRules (by simp [builtinRules])).ignoresSeverities
    · have hswitched : explosive.Switched := ⟨by decide, rfl, fun _ _ _ _ => rfl⟩
      exact hswitched.ignoresSeverities
  refine ⟨hrules, (overrides_keep_findings hrules config).1 input, ?_, ?_, ?_, ?_⟩ <;>
    decide +kernel

end Linter

end QueryLint
