import QueryLint.Proofs.Isolation

/-! # What a check finds

A check that runs to its end finds what its parts find, one after the other. The counts of a report
depend on nothing but the severities of what the checks find.
-/

namespace QueryLint

/-! ## Severities of findings -/

def severities (fs : List Finding) : List Severity :=
  fs.map (·.severity)

@[simp] theorem severity_error (message : String) (n : Node) :
    (Finding.error message n).severity = .error := rfl

@[simp] theorem severity_warning (message : String) (n : Node) :
    (Finding.warning message n).severity = .warning := rfl

@[simp] theorem severity_info (message : String) (n : Node) :
    (Finding.info message n).severity = .info := rfl

section Severities

variable {α : Type}

@[simp] theorem severities_nil : severities [] = [] := rfl

@[simp] theorem severities_cons (f : Finding) (fs : List Finding) :
    severities (f :: fs) = f.severity :: severities fs := rfl

@[simp] theorem severities_append (fs gs : List Finding) :
    severities (fs ++ gs) = severities fs ++ severities gs :=
  List.map_append

@[simp] theorem severities_flatMap (l : List α) (g : α → List Finding) :
    severities (l.flatMap g) = l.flatMap fun a => severities (g a) :=
  List.map_flatMap

@[simp] theorem severities_map (l : List α) (g : α → Finding) :
    severities (l.map g) = l.map fun a => (g a).severity :=
  List.map_map

@[simp] theorem severities_ite (p : Prop) [Decidable p] (fs gs : List Finding) :
    severities (if p then fs else gs) = if p then severities fs else severities gs :=
  apply_ite severities p fs gs

theorem severity_toDiagnostic (id : String) (text : List Char) (f : Finding) :
    (f.toDiagnostic id text).severity = f.severity := by
  unfold Finding.toDiagnostic
  split <;> rfl

end Severities

theorem message_toDiagnostic (id : String) (text : List Char) (f : Finding) :
    (f.toDiagnostic id text).message = f.message := by
  unfold Finding.toDiagnostic
  split <;> rfl

/-! ## Checks that run to their end -/

namespace Checked

@[simp] theorem failure_ofFindings (fs : List Finding) : (ofFindings fs).failure = none := rfl

@[simp] theorem findings_ofFindings (fs : List Finding) : (ofFindings fs).findings = fs := rfl

/-- The check runs to its end, and its findings have these severities. -/
structure Yields (k : Checked) (ss : List Severity) : Prop where
  ends : k.failure = none
  severities_eq : severities k.findings = ss

variable {a b : Checked} {ss ts : List Severity}

theorem yields_ofFindings (fs : List Finding) : (ofFindings fs).Yields (severities fs) :=
  ⟨rfl, rfl⟩

theorem Yields.append (ha : a.Yields ss) (hb : b.Yields ts) : (a.append b).Yields (ss ++ ts) := by
  constructor
  · simp [Checked.append, ha.ends, hb.ends]
  · simp [Checked.append, ha.ends, ha.severities_eq, hb.severities_eq]

theorem yields_sequence_nil : (sequence []).Yields [] :=
  ⟨rfl, rfl⟩

theorem Yields.sequence_cons {ks : List Checked} (hk : a.Yields ss)
    (hks : (sequence ks).Yields ts) : (sequence (a :: ks)).Yields (ss ++ ts) :=
  hk.append hks

theorem yields_each {α : Type} {items : List α} {check : α → Checked} {g : α → List Severity}
    (h : ∀ x ∈ items, (check x).Yields (g x)) : (each items check).Yields (items.flatMap g) := by
  unfold each
  induction items with
  | nil => exact yields_sequence_nil
  | cons x items ih =>
    have hx := h x List.mem_cons_self
    exact hx.sequence_cons (ih fun y hy => h y (List.mem_cons_of_mem x hy))

theorem Yields.ite (h : a.Yields ss) (on : Bool) :
    (if on then a else {}).Yields (if on then ss else []) := by
  cases on
  · exact ⟨rfl, rfl⟩
  · exact h

end Checked

/-! ## The severities of a run -/

namespace Linter

/-- The severities at which a check is reported under a switch, the warning that it broke off
included. -/
def reportedUnder (switch : RuleSwitch) (k : Checked) : List Severity :=
  if switch.enabled then
    (severities k.findings).map (fun s => switch.severity.getD s)
      ++ (k.failure.map fun _ => Severity.warning).toList
  else []

def builtinChecks : List (String × (Context → Checked)) :=
  [("STYLE", Style.check),
   ("BEST_PRACTICE", fun c => .ofFindings (BestPractice.findings c)),
   ("PERFORMANCE", fun c => .ofFindings (Performance.findings c)),
   ("SECURITY", Security.check)]

theorem severities_reissue_perm (override : Option Severity) (findings : List Diagnostic) :
    ((reissue override findings).map (·.severity)).Perm
      ((findings.map (·.severity)).map fun s => override.getD s) := by
  have h := (Report.toList_ofList_perm findings).map fun d => override.getD d.severity
  rw [reissue, List.map_map, List.map_map]
  cases override <;> exact h

variable {title id description : String} {handle : Nat} {check : Context → Checked}

theorem severities_contribution_perm (hid : id ≠ "") (c : Context) :
    ((contribution (.ofCheck title id description handle check) c).map (·.severity)).Perm
      (reportedUnder (c.config.ruleSwitch id) (check c)) := by
  have hkey : (Rule.ofCheck title id description handle check).key = id := if_neg hid
  unfold reportedUnder contribution outcome
  rw [hkey, List.map_append]
  cases he : (c.config.ruleSwitch id).enabled with
  | false =>
    simp only [Rule.ofCheck, Rule.enabledByConfig, he]
    cases (c.config.ruleSwitch id).severity <;> exact .refl _
  | true =>
    simp only [Rule.ofCheck, Rule.enabledByConfig, he, Checked.toOutcome, if_true]
    refine List.Perm.append ((severities_reissue_perm _ _).trans ?_) ?_
    · simp [severities, Function.comp_def, severity_toDiagnostic]
    · cases (check c).failure <;> exact .refl _

theorem ruleId_of_mem_contribution (hid : id ≠ "") {c : Context} {e : Diagnostic}
    (he : e ∈ contribution (.ofCheck title id description handle check) c) : e.ruleId = id := by
  have hkey : (Rule.ofCheck title id description handle check).key = id := if_neg hid
  have houtcome : ∀ d ∈ (outcome (.ofCheck title id description handle check) c).findings,
      d.ruleId = id := by
    intro d hd
    unfold outcome at hd
    split at hd
    · obtain ⟨f, -, rfl⟩ := List.mem_map.mp hd
      unfold Finding.toDiagnostic
      split <;> rfl
    · cases hd
    · cases hd
  rcases List.mem_append.mp he with he | he
  · obtain ⟨d, hd, rfl⟩ := List.mem_map.mp he
    have hd := houtcome d ((Report.toList_ofList_perm _).mem_iff.mp hd)
    split
    · exact hd
    · exact hd
  · obtain ⟨reason, -, rfl⟩ := Option.map_eq_some_iff.mp (Option.mem_toList.mp he)
    exact hkey

theorem severities_builtinRules_perm (c : Context) :
    ((builtinRules.flatMap fun r => contribution r c).map (·.severity)).Perm
      (builtinChecks.flatMap fun e => reportedUnder (c.config.ruleSwitch e.1) (e.2 c)) := by
  simp only [builtinRules, builtinChecks, List.flatMap_cons, List.flatMap_nil, List.map_append]
  exact (severities_contribution_perm (by decide) c).append
    ((severities_contribution_perm (by decide) c).append
      ((severities_contribution_perm (by decide) c).append
        ((severities_contribution_perm (by decide) c).append (.refl _))))

/-- A run counts, severity by severity, what its checks report. -/
theorem length_ofSeverity_builtinRules (c : Context) (s : Severity) :
    ((runRules builtinRules c).ofSeverity s).length
      = (builtinChecks.flatMap fun e =>
          reportedUnder (c.config.ruleSwitch e.1) (e.2 c)).count s := by
  rw [← (severities_builtinRules_perm c).count_eq, runRules_eq_ofList, Report.ofSeverity_ofList,
    List.count, List.countP_map, List.countP_eq_length_filter]
  congr 1

end Linter

end QueryLint
