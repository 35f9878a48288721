import QueryLint.Report

/-! # The three lists of a report

A report is determined by its list of each severity. Adding diagnostics appends, to every list, the
diagnostics of its severity, so that a report of several contributions is the merge of their
reports.
-/

namespace QueryLint.Report

variable {r q : Report} {s : Severity}

theorem ext_ofSeverity (h : ∀ s, r.ofSeverity s = q.ofSeverity s) : r = q := by
  obtain ⟨e, w, i⟩ := r
  obtain ⟨e', w', i'⟩ := q
  have he : e = e' := h .error
  have hw : w = w' := h .warning
  have hi : i = i' := h .info
  rw [he, hw, hi]

@[simp] theorem ofSeverity_empty (s : Severity) : ({} : Report).ofSeverity s = [] := by
  cases s <;> rfl

@[simp] theorem ofSeverity_merge (r q : Report) (s : Severity) :
    (r.merge q).ofSeverity s = r.ofSeverity s ++ q.ofSeverity s := by
  cases s <;> rfl

theorem ofSeverity_add (r : Report) (d : Diagnostic) (s : Severity) :
    (r.add d).ofSeverity s = r.ofSeverity s ++ if d.severity = s then [d] else [] := by
  unfold add
  cases hd : d.severity <;> cases s <;> simp [ofSeverity]

theorem ofSeverity_addAll (r : Report) (ds : List Diagnostic) (s : Severity) :
    (r.addAll ds).ofSeverity s = r.ofSeverity s ++ ds.filter (·.severity = s) := by
  unfold addAll
  induction ds generalizing r with
  | nil => simp
  | cons d ds ih =>
    rw [List.foldl_cons, ih, ofSeverity_add]
    by_cases h : d.severity = s <;> simp [h]

@[simp] theorem ofSeverity_ofList (ds : List Diagnostic) (s : Severity) :
    (ofList ds).ofSeverity s = ds.filter (·.severity = s) := by
  rw [ofList, empty, ofSeverity_addAll, ofSeverity_empty, List.nil_append]

theorem addAll_eq_merge (r : Report) (ds : List Diagnostic) : r.addAll ds = r.merge (ofList ds) :=
  ext_ofSeverity fun s => by rw [ofSeverity_addAll, ofSeverity_merge, ofSeverity_ofList]

theorem ofList_append (xs ys : List Diagnostic) :
    ofList (xs ++ ys) = (ofList xs).merge (ofList ys) :=
  ext_ofSeverity fun s => by simp

/-- The lists of a report hold diagnostics of their own severity only. -/
theorem toList_filter_of_sorted (hr : ∀ s, ∀ d ∈ r.ofSeverity s, d.severity = s) (s : Severity) :
    r.toList.filter (·.severity = s) = r.ofSeverity s := by
  have keeps : ∀ t, (r.ofSeverity t).filter (·.severity = s)
      = if t = s then r.ofSeverity t else [] := by
    intro t
    by_cases h : t = s
    · rw [if_pos h, List.filter_eq_self]
      intro d hd
      simpa [h] using hr t d hd
    · rw [if_neg h, List.filter_eq_nil_iff]
      intro d hd
      simpa [hr t d hd] using h
  have he := keeps .error
  have hw := keeps .warning
  have hi := keeps .info
  simp only [ofSeverity] at he hw hi
  rw [toList, List.filter_append, List.filter_append, he, hw, hi]
  cases s <;> simp [ofSeverity]

/-- Going through the diagnostics of a report by severity loses nothing of their order within a
severity. -/
theorem ofList_toList_ofList (ds : List Diagnostic) : ofList (ofList ds).toList = ofList ds := by
  refine ext_ofSeverity fun s => ?_
  rw [ofSeverity_ofList]
  refine toList_filter_of_sorted (fun t d hd => ?_) s
  rw [ofSeverity_ofList, List.mem_filter] at hd
  simpa using hd.2

theorem toList_add_perm (r : Report) (d : Diagnostic) : (r.add d).toList.Perm (d :: r.toList) := by
  unfold add toList
  cases d.severity with
  | error =>
    simp only [List.append_assoc, List.singleton_append]
    exact List.perm_middle
  | warning =>
    simp only [← List.append_assoc, List.append_assoc _ [d], List.singleton_append]
    exact List.perm_middle
  | info =>
    rw [← List.append_assoc, ← List.cons_append]
    exact List.perm_append_singleton d _

theorem toList_addAll_perm (r : Report) (ds : List Diagnostic) :
    (r.addAll ds).toList.Perm (ds ++ r.toList) := by
  unfold addAll
  induction ds generalizing r with
  | nil => exact .refl _
  | cons d ds ih =>
    have hd : (ds ++ (r.add d).toList).Perm (ds ++ d :: r.toList) :=
      (toList_add_perm r d).append_left ds
    exact ((ih (r.add d)).trans hd).trans List.perm_middle

theorem toList_ofList_perm (ds : List Diagnostic) : (ofList ds).toList.Perm ds := by
  have h := toList_addAll_perm empty ds
  rwa [show empty.toList = [] from rfl, List.append_nil] at h

theorem hasErrors_iff : r.hasErrors = true ↔ r.ofSeverity .error ≠ [] := by
  simp [hasErrors, ofSeverity]

end QueryLint.Report
