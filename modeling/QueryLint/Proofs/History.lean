import Mathlib.Algebra.BigOperators.Group.List.Basic
import Mathlib.Algebra.Ring.Nat
import Mathlib.Logic.Function.Basic
import QueryLint.Command.Lint
import QueryLint.Proofs.Report

/-! # The history of a report

Reports are filled diagnostic by diagnostic and by merging one into another, or into itself. At any
time a report tells the diagnostics it was given so far, sorted by severity, and all that can be
asked of it is a question about that log.
-/

namespace QueryLint

theorem Severity.le_antisymm {a b : Severity} (hab : a ≤ b) (hba : b ≤ a) : a = b := by
  have hrank : a.rank = b.rank := Nat.le_antisymm hab hba
  cases a <;> cases b <;> simp_all [rank]

/-! ## Sorting by severity -/

section Sorting

variable {ds : List Diagnostic} {s : Severity}

def mayPrecede (d e : Diagnostic) : Bool :=
  decide (e.severity ≤ d.severity)

/-- The gravest first, those of one severity in their order. -/
def bySeverity (ds : List Diagnostic) : List Diagnostic :=
  ds.mergeSort mayPrecede

theorem mayPrecede_iff {d e : Diagnostic} : mayPrecede d e = true ↔ e.severity ≤ d.severity :=
  decide_eq_true_iff

theorem mayPrecede_trans (a b c : Diagnostic) (hab : mayPrecede a b = true)
    (hbc : mayPrecede b c = true) : mayPrecede a c = true := by
  rw [mayPrecede_iff] at hab hbc ⊢
  exact Nat.le_trans hbc hab

theorem mayPrecede_total (a b : Diagnostic) : (mayPrecede a b || mayPrecede b a) = true := by
  rw [Bool.or_eq_true, mayPrecede_iff, mayPrecede_iff]
  exact Nat.le_total b.severity.rank a.severity.rank

theorem pairwise_bySeverity (ds : List Diagnostic) :
    (bySeverity ds).Pairwise fun d e => mayPrecede d e = true :=
  List.pairwise_mergeSort mayPrecede_trans mayPrecede_total ds

/-- The diagnostics of one severity come out of sorting in their old order. -/
theorem filter_bySeverity (ds : List Diagnostic) (s : Severity) :
    (bySeverity ds).filter (·.severity = s) = ds.filter (·.severity = s) := by
  have hsame : (ds.filter (·.severity = s)).Pairwise fun d e => mayPrecede d e = true := by
    refine List.pairwise_of_forall_mem_list fun d hd e he => ?_
    rw [List.mem_filter, decide_eq_true_eq] at hd he
    rw [mayPrecede_iff, hd.2, he.2]
    exact Nat.le_refl s.rank
  have hsub : (ds.filter (·.severity = s)).Sublist (bySeverity ds) :=
    List.sublist_mergeSort mayPrecede_trans mayPrecede_total hsame List.filter_sublist
  have hlength : ((bySeverity ds).filter (·.severity = s)).length
      = (ds.filter (·.severity = s)).length :=
    ((List.mergeSort_perm ds mayPrecede).filter _).length_eq
  have hfilter := hsub.filter (·.severity = s)
  simp only [List.filter_filter, Bool.and_self] at hfilter
  exact (hfilter.eq_of_length hlength.symm).symm

/-- A sorted list holds first its errors, then its warnings, then its hints. -/
theorem eq_append_of_sorted (h : ds.Pairwise fun d e => mayPrecede d e = true) :
    ds = ds.filter (·.severity = .error) ++ ds.filter (·.severity = .warning)
      ++ ds.filter (·.severity = .info) := by
  induction ds with
  | nil => rfl
  | cons d ds ih =>
    obtain ⟨hd, hds⟩ := List.pairwise_cons.mp h
    have hgraver : ∀ s, ¬ s ≤ d.severity → ds.filter (·.severity = s) = [] := by
      intro s hs
      rw [List.filter_eq_nil_iff]
      intro e he hes
      rw [decide_eq_true_eq] at hes
      exact hs (hes ▸ mayPrecede_iff.mp (hd e he))
    have ih := ih hds
    cases hs : d.severity with
    | error => simpa [hs] using ih
    | warning =>
      rw [hgraver .error (by rw [hs]; decide)] at ih
      simpa [hs, hgraver .error (by rw [hs]; decide)] using ih
    | info =>
      rw [hgraver .error (by rw [hs]; decide), hgraver .warning (by rw [hs]; decide)] at ih
      simpa [hs, hgraver .error (by rw [hs]; decide), hgraver .warning (by rw [hs]; decide)]
        using ih

/-- What is graver than something stands in front of it. -/
theorem filter_eq_takeWhile_of_sorted (h : ds.Pairwise fun d e => mayPrecede d e = true)
    (s : Severity) : ds.filter (s ≤ ·.severity) = ds.takeWhile (s ≤ ·.severity) := by
  induction ds with
  | nil => rfl
  | cons d ds ih =>
    obtain ⟨hd, hds⟩ := List.pairwise_cons.mp h
    by_cases hs : s ≤ d.severity
    · simp [hs, ih hds]
    · have hnone : ds.filter (s ≤ ·.severity) = [] := by
        rw [List.filter_eq_nil_iff]
        intro e he hes
        rw [decide_eq_true_eq] at hes
        exact hs (Nat.le_trans hes (mayPrecede_iff.mp (hd e he)))
      simp [hs, hnone]

end Sorting

/-! ## What a report tells -/

def countOf (log : List Diagnostic) (s : Severity) : Nat :=
  log.countP (·.severity = s)

/-- Every question to a report is answered from a log. -/
structure Report.Tells (r : Report) (log : List Diagnostic) : Prop where
  toList : r.toList = bySeverity log
  lists : r.errors = log.filter (·.severity = .error) ∧
    r.warnings = log.filter (·.severity = .warning) ∧ r.infos = log.filter (·.severity = .info)
  ofSeverity : ∀ s, r.ofSeverity s = log.filter (·.severity = s)
  atLeast : ∀ s, r.atLeast s <+: r.toList ∧
    (r.atLeast s).length = ((Severity.all.filter (s ≤ ·)).map (countOf log)).sum
  maxSeverity? : (r.maxSeverity? = none ↔ log = []) ∧
    ∀ s, r.maxSeverity? = some s ↔ (∃ d ∈ log, d.severity = s) ∧ ∀ d ∈ log, d.severity ≤ s
  size : r.size = log.length
  counts : ∀ lowest name, Command.reportJson lowest name r = .object
    [⟨"file", .text name⟩, ⟨"summary", .text r.summary⟩, ⟨"errors", .int (countOf log .error)⟩,
     ⟨"warnings", .int (countOf log .warning)⟩, ⟨"info", .int (countOf log .info)⟩,
     ⟨"issues", .array ((r.atLeast lowest).map Command.findingJson)⟩]

namespace Report

variable {log : List Diagnostic} {r : Report} {s : Severity}

theorem toList_ofList (log : List Diagnostic) : (ofList log).toList = bySeverity log := by
  have hlist : ∀ s, (ofList log).ofSeverity s = (bySeverity log).filter (·.severity = s) := by
    intro s
    rw [ofSeverity_ofList, filter_bySeverity]
  have he := hlist .error
  have hw := hlist .warning
  have hi := hlist .info
  simp only [ofSeverity] at he hw hi
  rw [toList, he, hw, hi, ← eq_append_of_sorted (pairwise_bySeverity log)]

theorem countP_eq_sum (log : List Diagnostic) (s : Severity) :
    log.countP (s ≤ ·.severity) = ((Severity.all.filter (s ≤ ·)).map (countOf log)).sum := by
  have hone : ∀ t : Severity, (if s ≤ t then 1 else 0)
      = ((Severity.all.filter (s ≤ ·)).map fun u => if t = u then 1 else 0).sum := by
    intro t
    cases s <;> cases t <;> rfl
  induction log with
  | nil => cases s <;> rfl
  | cons d log ih =>
    have hcons : countOf (d :: log)
        = fun t => countOf log t + if d.severity = t then 1 else 0 := by
      funext t
      simp [countOf, List.countP_cons]
    rw [List.countP_cons, hcons, List.sum_map_add, ih, ← hone]
    simp only [decide_eq_true_eq]

theorem atLeast_ofList (log : List Diagnostic) (s : Severity) :
    (ofList log).atLeast s <+: (ofList log).toList ∧
      ((ofList log).atLeast s).length
        = ((Severity.all.filter (s ≤ ·)).map (countOf log)).sum := by
  rw [atLeast, toList_ofList]
  constructor
  · rw [filter_eq_takeWhile_of_sorted (pairwise_bySeverity log)]
    exact List.takeWhile_prefix _
  · rw [← List.countP_eq_length_filter, ← countP_eq_sum]
    exact (List.mergeSort_perm log mayPrecede).countP_eq _

theorem maxSeverity?_eq_head? (hr : ∀ s, ∀ d ∈ r.ofSeverity s, d.severity = s) :
    r.maxSeverity? = r.toList.head?.map (·.severity) := by
  obtain ⟨errors, warnings, infos⟩ := r
  have he := hr .error
  have hw := hr .warning
  have hi := hr .info
  simp only [ofSeverity] at he hw hi
  unfold maxSeverity? toList
  cases errors with
  | cons d ds => simp [he d List.mem_cons_self]
  | nil =>
    cases warnings with
    | cons d ds => simp [hw d List.mem_cons_self]
    | nil =>
      cases infos with
      | cons d ds => simp [hi d List.mem_cons_self]
      | nil => rfl

theorem maxSeverity?_ofList (log : List Diagnostic) :
    (ofList log).maxSeverity? = (bySeverity log).head?.map (·.severity) := by
  rw [maxSeverity?_eq_head?, toList_ofList]
  intro s d hd
  rw [ofSeverity_ofList, List.mem_filter, decide_eq_true_eq] at hd
  exact hd.2

theorem maxSeverity?_ofList_eq_some_iff : (ofList log).maxSeverity? = some s ↔
    (∃ d ∈ log, d.severity = s) ∧ ∀ d ∈ log, d.severity ≤ s := by
  have hmem : ∀ d, d ∈ bySeverity log ↔ d ∈ log := fun d => List.mem_mergeSort
  have hsorted := pairwise_bySeverity log
  rw [maxSeverity?_ofList]
  simp only [← hmem]
  cases hd : bySeverity log with
  | nil => simp
  | cons d ds =>
    rw [hd] at hsorted
    have hmax : ∀ e ∈ d :: ds, e.severity ≤ d.severity := by
      intro e he
      rcases List.mem_cons.mp he with rfl | he
      · exact Nat.le_refl _
      · exact mayPrecede_iff.mp ((List.pairwise_cons.mp hsorted).1 e he)
    rw [List.head?_cons, Option.map_some, Option.some.injEq]
    constructor
    · rintro rfl
      exact ⟨⟨d, List.mem_cons_self, rfl⟩, hmax⟩
    · rintro ⟨⟨e, he, rfl⟩, hall⟩
      exact Severity.le_antisymm (hall d List.mem_cons_self) (hmax e he)

theorem tells_ofList (log : List Diagnostic) : (ofList log).Tells log where
  toList := toList_ofList log
  lists := ⟨ofSeverity_ofList log .error, ofSeverity_ofList log .warning,
    ofSeverity_ofList log .info⟩
  ofSeverity := ofSeverity_ofList log
  atLeast := atLeast_ofList log
  maxSeverity? := by
    refine ⟨?_, fun s => maxSeverity?_ofList_eq_some_iff⟩
    rw [maxSeverity?_ofList, Option.map_eq_none_iff, List.head?_eq_none_iff]
    rw [← List.length_eq_zero_iff, bySeverity, List.length_mergeSort, List.length_eq_zero_iff]
  size := by
    have h := (toList_ofList_perm log).length_eq
    rwa [Report.toList, List.length_append, List.length_append] at h
  counts := by
    intro lowest name
    have hcount : ∀ s, countOf log s = ((ofList log).ofSeverity s).length := by
      intro s
      rw [ofSeverity_ofList, countOf, List.countP_eq_length_filter]
    rw [hcount, hcount, hcount]
    rfl

end Report

/-! ## Histories -/

/-- What can be done to reports that go by names. -/
inductive Act (ι : Type)
  /-- A diagnostic is made of its parts, on a node of a text or on nothing, and added. -/
  | report (on : ι) (severity : Severity) (ruleId message : String) (text : List Char)
      (node : Option Node)
  | add (on : ι) (d : Option Diagnostic)
  | merge (on : ι) (other : Option ι)

namespace Act

variable {ι σ : Type} [DecidableEq ι]

/-- What an act does, when it is known how to add a diagnostic and how to merge. -/
def perform (add : σ → Diagnostic → σ) (merge : σ → σ → σ) (state : ι → σ) : Act ι → ι → σ
  | .report on severity ruleId message _ none =>
    Function.update state on (add (state on) { ruleId, message, severity })
  | .report on severity ruleId message text (some node) =>
    Function.update state on (add (state on) (.onNode ruleId message severity text node))
  | .add on (some d) => Function.update state on (add (state on) d)
  | .merge on (some other) => Function.update state on (merge (state on) (state other))
  | .add _ none => state
  | .merge _ none => state

def reports (acts : List (Act ι)) : ι → Report :=
  acts.foldl (perform Report.add Report.merge) fun _ => {}

/-- The diagnostics that each report was given, in their order; a merge brings all that the other
report was given. -/
def logs (acts : List (Act ι)) : ι → List Diagnostic :=
  acts.foldl (perform (fun log d => log ++ [d]) (· ++ ·)) fun _ => []

/-- An act keeps reports in step with their logs. -/
theorem perform_ofList (log : ι → List Diagnostic) (a : Act ι) :
    perform Report.add Report.merge (fun i => Report.ofList (log i)) a
      = fun i => Report.ofList (perform (fun log d => log ++ [d]) (· ++ ·) log a i) := by
  have hadd : ∀ (on : ι) (d : Diagnostic),
      Function.update (fun i => Report.ofList (log i)) on ((Report.ofList (log on)).add d)
        = fun i => Report.ofList (Function.update log on (log on ++ [d]) i) := by
    intro on d
    have hsnoc : (Report.ofList (log on)).add d = Report.ofList (log on ++ [d]) := by
      simp [Report.ofList, Report.addAll]
    rw [hsnoc]
    exact (Function.comp_update Report.ofList log on _).symm
  cases a with
  | report on severity ruleId message text node => cases node <;> exact hadd on _
  | add on d =>
    cases d with
    | none => rfl
    | some d => exact hadd on d
  | merge on other =>
    cases other with
    | none => rfl
    | some other =>
      simp only [perform, ← Report.ofList_append]
      exact (Function.comp_update Report.ofList log on _).symm

theorem reports_eq_ofList_logs (acts : List (Act ι)) (i : ι) :
    reports acts i = Report.ofList (logs acts i) := by
  suffices h : ∀ log : ι → List Diagnostic,
      acts.foldl (perform Report.add Report.merge) (fun i => Report.ofList (log i))
        = fun i => Report.ofList
          (acts.foldl (perform (fun log d => log ++ [d]) (· ++ ·)) log i) from
    congrFun (h fun _ => []) i
  induction acts with
  | nil => exact fun _ => rfl
  | cons a acts ih =>
    intro log
    rw [List.foldl_cons, List.foldl_cons, perform_ofList, ih]

/-- Whatever is done to some reports, each of them tells what it was given. -/
theorem reports_tell_logs (acts : List (Act ι)) (i : ι) : (reports acts i).Tells (logs acts i) := by
  rw [reports_eq_ofList_logs]
  exact Report.tells_ofList (logs acts i)

end Act

end QueryLint
