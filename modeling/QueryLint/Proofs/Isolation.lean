import QueryLint.Proofs.Input
import QueryLint.Proofs.Report
import QueryLint.Rule.Scripted

/-! # Rules do not disturb each other

A run is the merge of what its rules contribute one by one, so a rule that fails takes nothing away
from the others. Its own contribution is what it found before, with one warning about the failure.
-/

namespace QueryLint

/-- An input that is there but cannot be read as a document. -/
inductive Input.Unreadable : Input → Prop
  | blank {s : List Char} : Text.allBlank s = true → Unreadable (.text s)
  | faulty {s : List Char} {f : FaultAt} : Document.parse s = .error f → Unreadable (.text s)
  | unsupported (typeName : String) : Unreadable (.unsupported typeName)

namespace Input

variable {input : Input}

theorem Unreadable.ne_nothing (h : input.Unreadable) : input ≠ .nothing := by
  cases h <;> exact nofun

theorem Unreadable.document?_eq_none (h : input.Unreadable) : input.document? = none := by
  cases h with
  | blank h =>
    obtain ⟨f, hf⟩ := Document.parse_of_allBlank h
    rw [document?, hf, Except.toOption]
  | faulty h => rw [document?, h, Except.toOption]
  | unsupported => rfl

theorem nothing_or_document_or_unreadable (input : Input) :
    input = .nothing ∨ (∃ d, input.document? = some d) ∨ input.Unreadable := by
  cases input with
  | nothing => exact .inl rfl
  | document d => exact .inr (.inl ⟨d, rfl⟩)
  | unsupported typeName => exact .inr (.inr (.unsupported typeName))
  | text s =>
    right
    cases h : Document.parse s with
    | ok d => exact .inl ⟨d, by rw [document?, h, Except.toOption]⟩
    | error f => exact .inr (.faulty h)

end Input

namespace Linter

/-- Findings as a report of their own: as they were made or, under an override, the gravest first
and all at the severity it gives. -/
def reissued (override : Option Severity) (findings : List Diagnostic) : Report :=
  match override with
  | none => .ofList findings
  | some s => .ofList ((Report.ofList findings).toList.map fun d => d.withSeverity s)

/-- What a rule adds to a report, by the way it ends. -/
inductive Contributes (r : Rule) (c : Context) : Report → Prop
  | off : r.enabled c = .ok false → Contributes r c {}
  | undecided {reason : String} : r.enabled c = .error reason →
      Contributes r c { warnings := [failureWarning r reason] }
  | finished : r.enabled c = .ok true → (r.run c).failure = none →
      Contributes r c (reissued (c.config.ruleSwitch r.key).severity (r.run c).findings)
  | broken {reason : String} : r.enabled c = .ok true → (r.run c).failure = some reason →
      Contributes r c ((reissued (c.config.ruleSwitch r.key).severity (r.run c).findings).add
        (failureWarning r reason))

variable {r : Rule} {c : Context} {input : Input}

theorem ofList_reissue (override : Option Severity) (findings : List Diagnostic) :
    Report.ofList (reissue override findings) = reissued override findings := by
  cases override with
  | none =>
    simp only [reissue, reissued, List.map_id']
    exact Report.ofList_toList_ofList findings
  | some s => rfl

theorem contributes_contribution (r : Rule) (c : Context) :
    Contributes r c (.ofList (contribution r c)) := by
  unfold contribution outcome
  cases he : r.enabled c with
  | error reason => exact .undecided he
  | ok on =>
    cases on with
    | false =>
      simp only [Option.map_none, Option.toList_none, List.append_nil, ofList_reissue]
      cases (c.config.ruleSwitch r.key).severity <;> exact .off he
    | true =>
      cases hf : (r.run c).failure with
      | none =>
        simp only [hf, Option.map_none, Option.toList_none, List.append_nil, ofList_reissue]
        exact .finished he hf
      | some reason =>
        simp only [hf, Option.map_some, Option.toList_some, Report.ofList_append, ofList_reissue,
          ← Report.addAll_eq_merge]
        exact .broken he hf

/-- A run is the report of all that its rules contribute, in their order. -/
theorem runRules_eq_ofList (rules : List Rule) (c : Context) :
    runRules rules c = .ofList (rules.flatMap fun r => contribution r c) := by
  suffices h : ∀ report : Report,
      rules.foldl (fun report r => report.addAll (contribution r c)) report
        = report.addAll (rules.flatMap fun r => contribution r c) from h {}
  induction rules with
  | nil => intro report; rfl
  | cons r rules ih =>
    intro report
    rw [List.foldl_cons, ih, List.flatMap_cons, Report.addAll, Report.addAll, Report.addAll,
      List.foldl_append]

theorem runRules_append (rules₁ rules₂ : List Rule) (c : Context) :
    runRules (rules₁ ++ rules₂) c = (runRules rules₁ c).merge (runRules rules₂ c) := by
  simp only [runRules_eq_ofList, List.flatMap_append, Report.ofList_append]

theorem lintContext_append (config : Config) (rules₁ rules₂ : List Rule) (c : Context) :
    lintContext ⟨config, rules₁ ++ rules₂⟩ c
      = (lintContext ⟨config, rules₁⟩ c).merge (lintContext ⟨config, rules₂⟩ c) :=
  runRules_append rules₁ rules₂ c

theorem contributes_lintContext (config : Config) (r : Rule) (c : Context) :
    Contributes r c (lintContext ⟨config, [r]⟩ c) := by
  rw [lintContext, runRules_eq_ofList, List.flatMap_singleton]
  exact contributes_contribution r c

theorem lint_of_unreadable (h : input.Unreadable) :
    ∃ e : Diagnostic, e.severity = .error ∧ ∀ l : Linter, l.lint input = { errors := [e] } := by
  obtain ⟨e, he, hp⟩ := prepare_of_document?_eq_none h.document?_eq_none h.ne_nothing
  refine ⟨e, he, fun l => ?_⟩
  rw [lint, hp]
  simp [Report.ofList, Report.addAll, Report.add, he, Report.empty]

/-- Every input gives a report. Under a context, and on an input that is a document, the reports of
two lists of rules merge into that of both together, and a single rule contributes by the way it
ends; the configuration of the linter matters only where it becomes that of the context. -/
theorem lint_isolates_rules (config : Config) (rules₁ rules₂ : List Rule) :
    (∀ c : Context,
      lintContext ⟨config, rules₁ ++ rules₂⟩ c
          = (lintContext ⟨config, rules₁⟩ c).merge (lintContext ⟨config, rules₂⟩ c) ∧
        (∀ r, Contributes r c (lintContext ⟨config, [r]⟩ c)) ∧
        ∀ config', lintContext ⟨config', rules₁⟩ c = lintContext ⟨config, rules₁⟩ c) ∧
      ∀ input : Input,
        (input = .nothing ∨ (∃ d, input.document? = some d) ∨ input.Unreadable) ∧
          (input = .nothing → lint ⟨config, rules₁⟩ input = {}) ∧
          (∀ d, input.document? = some d →
            lint ⟨config, rules₁⟩ input = lintContext ⟨config, rules₁⟩ ⟨d, config⟩ ∧
              lint ⟨config, rules₁ ++ rules₂⟩ input
                = (lint ⟨config, rules₁⟩ input).merge (lint ⟨config, rules₂⟩ input)) ∧
          (input.Unreadable →
            ∃ e : Diagnostic, e.severity = .error ∧
              ∀ l : Linter, l.lint input = { errors := [e] }) := by
  refine ⟨fun c => ⟨lintContext_append config rules₁ rules₂ c,
    fun r => contributes_lintContext config r c, fun _ => rfl⟩, fun input => ?_⟩
  refine ⟨input.nothing_or_document_or_unreadable, ?_, fun d hd => ?_, lint_of_unreadable⟩
  · rintro rfl
    rfl
  · refine ⟨lint_of_document? _ hd, ?_⟩
    simp only [lint_of_document? _ hd]
    exact lintContext_append config rules₁ rules₂ ⟨d, config⟩

/-- A rule that reports a hint and an error and fails then. -/
def explosive : Rule :=
  Script.toRule { id := "EXPLODE", failure := some "boom", emissions :=
    [{ severity := .info, message := "hint" }, { severity := .error, message := "found" }] } 0

theorem lint_isolates_explosive :
    ∃ d, (Input.text "\x7b a \x7d".toList).document? = some d ∧
      lint ⟨{}, [explosive] ++ builtinRules⟩ (.text "\x7b a \x7d".toList)
        = (lint ⟨{}, [explosive]⟩ (.text "\x7b a \x7d".toList)).merge
          (lint ⟨{}, builtinRules⟩ (.text "\x7b a \x7d".toList)) ∧
      Contributes explosive ⟨d, {}⟩ (lint ⟨{}, [explosive]⟩ (.text "\x7b a \x7d".toList)) ∧
      Input.Unreadable (.text [' ', '\n']) ∧
      ∃ e : Diagnostic, lint ⟨{}, builtinRules⟩ (.text [' ', '\n']) = { errors := [e] } := by
  obtain ⟨d, hd⟩ : ∃ d, (Input.text "\x7b a \x7d".toList).document? = some d :=
    Option.isSome_iff_exists.mp (by decide +kernel)
  have hb : Input.Unreadable (.text [' ', '\n']) := .blank (by decide)
  have hl := lint_isolates_rules {} [explosive] builtinRules
  obtain ⟨hrun, happend⟩ := (hl.2 (.text "\x7b a \x7d".toList)).2.2.1 d hd
  obtain ⟨e, -, he⟩ := (hl.2 (.text [' ', '\n'])).2.2.2 hb
  exact ⟨d, hd, happend, hrun ▸ (hl.1 ⟨d, {}⟩).2.1 explosive, hb, e, he _⟩

end Linter

end QueryLint
