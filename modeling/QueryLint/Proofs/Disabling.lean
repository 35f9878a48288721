import QueryLint.Command.Lint
import QueryLint.Proofs.Overrides

/-! # Disabled rules

Switching a rule off in the configuration is as good as not registering it: the rule contributes
nothing, and no other rule notices. So the rules that a request disables can be taken for removed.
-/

namespace QueryLint

namespace Config

theorem settings_disableRules (c : Config) (ids : List String) :
    (c.disableRules ids).settings = c.settings := by
  unfold disableRules
  induction ids generalizing c with
  | nil => rfl
  | cons id ids ih => exact ih (c.disableRule id)

theorem ruleSwitch_disableRule (c : Config) (id k : String) :
    (c.disableRule id).ruleSwitch k
      = { c.ruleSwitch k with enabled := (c.ruleSwitch k).enabled && k ≠ id } := by
  unfold disableRule setRule ruleSwitch
  rw [Table.get?_insert]
  by_cases h : k = id <;> simp [h]

/-- A disabled rule keeps its severity, and every other rule its switch. -/
theorem ruleSwitch_disableRules (c : Config) (ids : List String) (k : String) :
    (c.disableRules ids).ruleSwitch k
      = { c.ruleSwitch k with enabled := (c.ruleSwitch k).enabled && k ∉ ids } := by
  unfold disableRules
  induction ids generalizing c with
  | nil => simp
  | cons id ids ih =>
    rw [List.foldl_cons, ih, ruleSwitch_disableRule]
    simp [Bool.and_assoc]

end Config

namespace Linter

theorem foldl_removeRule (l : Linter) (ids : List String) :
    ids.foldl removeRule l = { l with rules := l.rules.filter fun r => r.key ∉ ids } := by
  induction ids generalizing l with
  | nil => simp
  | cons id ids ih =>
    rw [List.foldl_cons, ih, removeRule]
    simp [List.filter_filter, Bool.and_comm]

variable {r : Rule} {rules : List Rule}

theorem contribution_disableRules (h : r.Switched) (d : Document) (c : Config)
    (ids : List String) :
    contribution r ⟨d, c.disableRules ids⟩
      = if r.key ∈ ids then [] else contribution r ⟨d, c⟩ := by
  have hrun := h.run_eq d _ _ (c.settings_disableRules ids)
  have hswitch := c.ruleSwitch_disableRules ids r.key
  unfold contribution outcome
  simp only [h.enabled_eq, Rule.enabledByConfig, ← h.key_eq, hswitch, hrun]
  by_cases hk : r.key ∈ ids
  · simp only [hk, not_true_eq_false, decide_false, Bool.and_false, if_true]
    cases (c.ruleSwitch r.key).severity <;> rfl
  · simp only [hk, not_false_eq_true, decide_true, Bool.and_true, if_false]

theorem flatMap_contribution_disableRules (h : ∀ r ∈ rules, r.Switched) (d : Document) (c : Config)
    (ids : List String) :
    (rules.flatMap fun r => contribution r ⟨d, c.disableRules ids⟩)
      = (rules.filter fun r => r.key ∉ ids).flatMap fun r => contribution r ⟨d, c⟩ := by
  induction rules with
  | nil => rfl
  | cons r rules ih =>
    rw [List.flatMap_cons, contribution_disableRules (h r List.mem_cons_self),
      ih fun r hr => h r (List.mem_cons_of_mem _ hr)]
    by_cases hk : r.key ∈ ids
    · simp [hk]
    · simp [hk]

theorem lintContext_disableRules (h : ∀ r ∈ rules, r.Switched) (own : Config) (d : Document)
    (c : Config) (ids : List String) :
    lintContext ⟨own, rules⟩ ⟨d, c.disableRules ids⟩
      = lintContext (ids.foldl removeRule ⟨own, rules⟩) ⟨d, c⟩ := by
  rw [foldl_removeRule, lintContext, lintContext, runRules_eq_ofList, runRules_eq_ofList,
    flatMap_contribution_disableRules h]

theorem lint_disableRules (h : ∀ r ∈ rules, r.Switched) (c : Config) (ids : List String)
    (input : Input) :
    lint ⟨c.disableRules ids, rules⟩ input = lint (ids.foldl removeRule ⟨c, rules⟩) input := by
  unfold lint
  cases prepare input with
  | error report => rfl
  | ok d =>
    have hconfig : (ids.foldl removeRule ⟨c, rules⟩).config = c := by rw [foldl_removeRule]
    simp only [hconfig]
    exact lintContext_disableRules h c d c ids

end Linter

namespace Command

open Linter

/-- A part of the text between commas spells the id, in any case and with blanks around it. -/
def Mentions (text id : String) : Prop :=
  ∃ part ∈ Text.splitAt ',' text.toList,
    Text.strip part ≠ [] ∧ String.ofList (Text.upper (Text.strip part)) = id

instance (text id : String) : Decidable (Mentions text id) :=
  inferInstanceAs (Decidable (∃ part ∈ _, _))

theorem mem_disabledIds_iff {text id : String} : id ∈ disabledIds text ↔ Mentions text id := by
  simp only [disabledIds, Data.sortTexts, List.mem_eraseDups, List.mem_mergeSort, List.mem_map,
    List.mem_filter, Mentions]
  constructor
  · rintro ⟨_, ⟨⟨part, hpart, rfl⟩, hne⟩, rfl⟩
    exact ⟨part, hpart, by simpa using hne, rfl⟩
  · rintro ⟨part, hpart, hne, rfl⟩
    exact ⟨_, ⟨⟨part, hpart, rfl⟩, by simpa using hne⟩, rfl⟩

def keptRules (disable : String) : List Rule :=
  builtinRules.filter fun r => ¬ Mentions disable r.id

theorem filter_builtinRules_key (disable : String) :
    (builtinRules.filter fun r => r.key ∉ disabledIds disable) = keptRules disable := by
  refine List.filter_congr fun r hr => ?_
  rw [(Rule.switched_of_mem_builtinRules hr).key_eq]
  simp only [mem_disabledIds_iff]

variable {w : World} {request : LintRequest} {job : LintJob}

theorem readJob_eq_ok (h : readJob w request = .ok job) :
    readConfig w request = .ok job.config ∧ job.disabled = disabledIds request.disable := by
  unfold readJob at h
  cases hs : readSeverity request.severity with
  | error s => simp [hs, bind, Except.bind] at h
  | ok lowest =>
    cases hf : readFormat request.format with
    | error s => simp [hs, hf, bind, Except.bind] at h
    | ok format =>
      cases hc : readConfig w request with
      | error s => simp [hs, hf, hc, bind, Except.bind] at h
      | ok config =>
        simp only [hs, hf, hc, bind, Except.bind, pure, Except.pure, Except.ok.injEq] at h
        subst h
        exact ⟨rfl, rfl⟩

theorem reports_eq (h : readJob w request = .ok job) (documents : List (String × List Char)) :
    job.reports documents = documents.map fun (name, text) =>
      (name, Linter.lint ⟨job.config, keptRules request.disable⟩ (.text text)) := by
  have hlinter : ∀ input, job.linter.lint input
      = Linter.lint ⟨job.config, keptRules request.disable⟩ input := by
    intro input
    rw [LintJob.linter, withBuiltinRules,
      lint_disableRules fun r hr => Rule.switched_of_mem_builtinRules hr, foldl_removeRule,
      (readJob_eq_ok h).2, filter_builtinRules_key]
  simp only [LintJob.reports, hlinter]

end Command

namespace Linter

open Command

/-- Linting under a configuration with some rules disabled is linting under the configuration with
the rules removed. The lint command reports what the built-in rules say that are left when those
are removed whose ids it was given. -/
theorem disabling_eq_removing :
    (∀ rules : List Rule, (∀ r ∈ rules, r.Switched) → ∀ (config : Config) (ids : List String),
      (∀ input : Input, lint ⟨config.disableRules ids, rules⟩ input
        = lint (ids.foldl removeRule ⟨config, rules⟩) input) ∧
      ∀ (own : Config) (d : Document),
        lintContext ⟨own, rules⟩ ⟨d, config.disableRules ids⟩
          = lintContext (ids.foldl removeRule ⟨own, rules⟩) ⟨d, config⟩) ∧
    (∀ r ∈ builtinRules, r.Switched) ∧
    ∀ (w : World) (request : LintRequest) (job : LintJob), readJob w request = .ok job →
      readConfig w request = .ok job.config ∧
      ∀ documents, readDocuments w.tree w.input request.files = .ok documents →
        let reports := documents.map fun (name, text) =>
          (name, lint ⟨job.config, keptRules request.disable⟩ (.text text))
        Command.lint w request
          = .ofItems w.page (unknownNotice (disabledIds request.disable)
              ++ reportItems job.format job.lowest reports) (exitCodeOf reports) := by
  refine ⟨fun rules h config ids => ⟨lint_disableRules h config ids, fun own d =>
    lintContext_disableRules h own d config ids⟩, fun r => Rule.switched_of_mem_builtinRules,
    fun w request job hjob => ⟨(readJob_eq_ok hjob).1, fun documents hdocuments => ?_⟩⟩
  rw [Command.lint, hjob]
  simp only [hdocuments, (readJob_eq_ok hjob).2, reports_eq hjob]

/-- Ids that are given twice or unknown, a rule that fails, and a rule that keeps its severity. -/
theorem disabling_eq_removing_strict :
    let rules := [Style.rule 0, explosive]
    let ids := ["EXPLODE", "NONE", "EXPLODE"]
    let input : Input := .text "query q \x7b User \x7d".toList
    let request : LintRequest := { files := ["-"], disable := " style,,None , style" }
    let w : World := { input := "query q \x7b User \x7d" }
    (∀ r ∈ rules, r.Switched) ∧
      lint ⟨Preset.strict.disableRules ids, rules⟩ input
        = lint (ids.foldl removeRule ⟨Preset.strict, rules⟩) input ∧
      (lint ⟨Preset.strict, rules⟩ input).toList.map (·.ruleId)
        = ["STYLE", "STYLE", "EXPLODE", "EXPLODE", "EXPLODE"] ∧
      (lint (ids.foldl removeRule ⟨Preset.strict, rules⟩) input).errors.map (·.ruleId)
        = ["STYLE", "STYLE"] ∧
      (keptRules request.disable).map (·.id) = ["BEST_PRACTICE", "PERFORMANCE", "SECURITY"] ∧
      ∃ job documents reports, readJob w request = .ok job ∧
        readDocuments w.tree w.input request.files = .ok documents ∧
        Command.lint w request = .ofItems w.page (unknownNotice (disabledIds request.disable)
          ++ reportItems job.format job.lowest reports) (exitCodeOf reports) := by
  intro rules ids input request w
  have hrules : ∀ r ∈ rules, r.Switched := by
    intro r hr
    simp only [rules, List.mem_cons, List.not_mem_nil, or_false] at hr
    rcases hr with rfl | rfl
    · exact Rule.switched_of_mem_builtinRules (by simp [builtinRules])
    · exact ⟨by decide, rfl, fun _ _ _ _ => rfl⟩
  have hreads : (readJob w request).toOption.isSome = true := by decide +kernel
  refine ⟨hrules, (disabling_eq_removing.1 rules hrules Preset.strict ids).1 input, by
    decide +kernel, by decide +kernel, by decide +kernel, ?_⟩
  cases hjob : readJob w request with
  | error stop => simp [hjob, Except.toOption] at hreads
  | ok job =>
    have hcommand := (disabling_eq_removing.2.2 w request job hjob).2 _ rfl
    exact ⟨job, _, _, rfl, rfl, hcommand⟩

end Linter

end QueryLint
