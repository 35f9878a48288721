import QueryLint.Proofs.Faults
import QueryLint.Proofs.Gist

/-! # The order of definitions does not matter

What performance finds depends on the nodes of a document, whatever their order, and on a few
numbers that rearranging keeps. The parts of the security check search one node after the other and
would stop at a vocabulary that cannot be searched; over texts they run to their end, and so the
order in which they come to the nodes is not seen. Together with best practice this gives that three
of the built-in rules say the same about a document and its rearrangements.
-/

namespace QueryLint

variable {d d' : Document}

/-! ## Performance -/

namespace Performance

theorem depth_alike (h : d.Rearranged d') (c : Config) : Alike (depth ⟨d, c⟩) (depth ⟨d', c⟩) := by
  unfold depth
  dsimp only
  rw [h.maxDepth_eq]
  exact .append ((Alike.root ..).ite _) ((Alike.root ..).ite _)

theorem fieldCount_alike (h : d.Rearranged d') (c : Config) :
    Alike (fieldCount ⟨d, c⟩) (fieldCount ⟨d', c⟩) := by
  unfold fieldCount
  dsimp only
  rw [h.fieldCount_eq]
  exact (Alike.root ..).ite _

theorem complexity_alike (h : d.Rearranged d') (c : Config) :
    Alike (complexity ⟨d, c⟩) (complexity ⟨d', c⟩) := by
  unfold complexity
  dsimp only
  rw [foldl_add_eq_sum, foldl_add_eq_sum, (h.fields_perm.map fieldComplexity).sum_nat]
  exact (Alike.root ..).ite _

theorem nesting_alike (h : d.Rearranged d') (c : Config) :
    Alike (nesting ⟨d, c⟩) (nesting ⟨d', c⟩) := by
  refine .flatMap (h.fields_perm.filter _) fun f _ => ?_
  dsimp only
  rw [h.fieldDepth_eq]
  exact .refl _

theorem findings_alike (h : d.Rearranged d') (c : Config) :
    Alike (findings ⟨d, c⟩) (findings ⟨d', c⟩) := by
  have husage : Alike (fragmentUsage ⟨d, c⟩) (fragmentUsage ⟨d', c⟩) := by
    refine .ite (.append ?_ ?_) _
    · exact .of_perm ((h.selectionSets_perm.filter _).map _)
    · exact .of_perm (h.fragments_perm.flatMap_right _)
  refine .append (.append (.append (.append (.append (.append (depth_alike h c)
    (fieldCount_alike h c)) husage) (complexity_alike h c)) ?values) (nesting_alike h c)) ?mix
  case values => exact .of_perm ((h.arguments_perm.filter _).map _)
  case mix => exact .of_perm (h.selectionSets_perm.flatMap_right _)

end Performance

/-! ## Checks that run to their end -/

namespace Checked

variable {α : Type} {a b : Checked}

theorem ends_of_append (h : (a.append b).failure = none) : a.failure = none ∧ b.failure = none := by
  unfold append at h
  split at h
  next ha => simp [h] at ha
  next ha => exact ⟨by simpa using ha, h⟩

theorem findings_append (h : (a.append b).failure = none) :
    (a.append b).findings = a.findings ++ b.findings := by
  simp [append, (ends_of_append h).1]

theorem findings_sequence {ks : List Checked} (h : (sequence ks).failure = none) :
    (sequence ks).findings = ks.flatMap (·.findings) := by
  induction ks with
  | nil => rfl
  | cons k ks ih =>
    change (k.append (sequence ks)).failure = none at h
    change (k.append (sequence ks)).findings = _
    rw [findings_append h, ih (ends_of_append h).2, List.flatMap_cons]

theorem findings_each {items : List α} {check : α → Checked}
    (h : (each items check).failure = none) :
    (each items check).findings = items.flatMap fun x => (check x).findings := by
  rw [each, findings_sequence h, List.flatMap_map]

theorem each_alike {items items' : List α} (hp : items.Perm items') {check : α → Checked}
    (h : (each items check).failure = none) (h' : (each items' check).failure = none) :
    Alike (each items check).findings (each items' check).findings := by
  rw [findings_each h, findings_each h']
  exact .of_perm (hp.flatMap_right _)

theorem append_alike {a' b' : Checked} (h : (a.append b).failure = none)
    (h' : (a'.append b').failure = none) (ha : Alike a.findings a'.findings)
    (hb : Alike b.findings b'.findings) :
    Alike (a.append b).findings (a'.append b').findings := by
  rw [findings_append h, findings_append h']
  exact ha.append hb

theorem ite_alike (h : Alike a.findings b.findings) (on : Bool) :
    Alike (if on then a else {}).findings (if on then b else {}).findings := by
  cases on
  · exact .refl _
  · exact h

end Checked

/-! ## Security -/

namespace Security

theorem introspection_alike (h : d.Rearranged d') (c : Config) :
    Alike (introspection ⟨d, c⟩) (introspection ⟨d', c⟩) := by
  have hfields : Alike ((d.fields.filter Field.isIntrospection).flatMap introspectionField)
      ((d'.fields.filter Field.isIntrospection).flatMap introspectionField) :=
    .of_perm ((h.fields_perm.filter _).flatMap_right _)
  unfold introspection
  dsimp only
  rw [h.hasIntrospection_eq]
  exact (hfields.append ((Alike.root ..).ite _)).ite _

theorem depth_alike (h : d.Rearranged d') (c : Config) : Alike (depth ⟨d, c⟩) (depth ⟨d', c⟩) := by
  unfold depth
  dsimp only
  rw [h.maxDepth_eq]
  exact .append ((Alike.root ..).ite _) ((Alike.root ..).ite _)

theorem complexity_alike (h : d.Rearranged d') (c : Config) :
    Alike (complexity ⟨d, c⟩) (complexity ⟨d', c⟩) := by
  have hcost : totalCost d = totalCost d' := by
    rw [totalCost_eq, totalCost_eq, (h.fields_perm.map Field.extent).sum_nat]
  unfold complexity costFindings growthFindings
  dsimp only
  rw [hcost, h.maxDepth_eq, h.maxBreadth_eq]
  exact .append ((Alike.root ..).ite _) ((Alike.root ..).ite _)

theorem scannedNames_perm (h : d.Rearranged d') : (scannedNames d).Perm (scannedNames d') :=
  ((h.arguments_perm.map _).append (h.fragments_perm.map _)).append (h.operations_perm.filterMap _)

variable {c : Config}

theorem sensitiveNames_alike (h : d.Rearranged d') (hc : c.TextsOnly) :
    Alike (sensitiveNames ⟨d, c⟩).findings (sensitiveNames ⟨d', c⟩).findings := by
  have hends := (yields_sensitiveNames (c := ⟨d, c⟩) hc).ends
  have hends' := (yields_sensitiveNames (c := ⟨d', c⟩) hc).ends
  unfold sensitiveNames at hends hends' ⊢
  rw [Checked.findings_each hends, Checked.findings_each hends']
  exact .of_perm (h.flatMap_nodes_perm fun _ _ => rfl)

theorem argumentValues_alike (h : d.Rearranged d') (hc : c.TextsOnly) :
    Alike (argumentValues ⟨d, c⟩).findings (argumentValues ⟨d', c⟩).findings := by
  have hends := (yields_argumentValues (c := ⟨d, c⟩) hc).ends
  have hends' := (yields_argumentValues (c := ⟨d', c⟩) hc).ends
  obtain ⟨hfields, hdirectives⟩ := Checked.ends_of_append hends
  obtain ⟨hfields', hdirectives'⟩ := Checked.ends_of_append hends'
  exact Checked.append_alike hends hends' (Checked.each_alike h.fields_perm hfields hfields')
    (Checked.each_alike h.directives_perm hdirectives hdirectives')

theorem validation_alike (h : d.Rearranged d') (hc : c.TextsOnly) :
    Alike ((argumentValues ⟨d, c⟩).append (nameInjection ⟨d, c⟩)).findings
      ((argumentValues ⟨d', c⟩).append (nameInjection ⟨d', c⟩)).findings := by
  have hends (e : Document) := (yields_nameInjection (c := ⟨e, c⟩) hc)
  have hboth (e : Document) := (yields_argumentValues (c := ⟨e, c⟩) hc).append (hends e)
  exact Checked.append_alike (hboth d).ends (hboth d').ends (argumentValues_alike h hc)
    (Checked.each_alike (scannedNames_perm h) (hends d).ends (hends d').ends)

theorem fragments_alike (h : d.Rearranged d') (hc : c.TextsOnly) :
    Alike (fragments ⟨d, c⟩).findings (fragments ⟨d', c⟩).findings :=
  Checked.each_alike h.fragments_perm (yields_fragments (c := ⟨d, c⟩) hc).ends
    (yields_fragments (c := ⟨d', c⟩) hc).ends

theorem accessControl_alike (h : d.Rearranged d') (hc : c.TextsOnly) :
    Alike (accessControl ⟨d, c⟩).findings (accessControl ⟨d', c⟩).findings :=
  Checked.each_alike h.fields_perm (yields_accessControl (c := ⟨d, c⟩) hc).ends
    (yields_accessControl (c := ⟨d', c⟩) hc).ends

theorem check_alike (h : d.Rearranged d') (hc : c.TextsOnly) :
    Alike (check ⟨d, c⟩).findings (check ⟨d', c⟩).findings := by
  have hends := (yields_check (c := ⟨d, c⟩) hc).ends
  have hends' := (yields_check (c := ⟨d', c⟩) hc).ends
  unfold check checkBy at hends hends' ⊢
  rw [Checked.findings_sequence hends, Checked.findings_sequence hends']
  simp only [List.flatMap_cons, List.flatMap_nil, List.append_nil, Checked.findings_ofFindings]
  refine (introspection_alike h c).append ((sensitiveNames_alike h hc).append
    ((Checked.ite_alike (validation_alike h hc) _).append ((depth_alike h c).append
    ((complexity_alike h c).append (.append ?directives ((fragments_alike h hc).append
    (.append ?mutations (Checked.ite_alike (accessControl_alike h hc) _))))))))
  case directives => exact .of_perm ((h.directives_perm.filter _).map _)
  case mutations => exact .of_perm ((h.operations_perm.filter _).flatMap_right _)

end Security

/-! ## Reports -/

namespace Linter

theorem gists_reissue_perm (override : Option Severity) (findings : List Diagnostic) :
    ((reissue override findings).map Diagnostic.gist).Perm
      ((findings.map Diagnostic.gist).map fun g => (override.getD g.1, g.2)) := by
  have h := (Report.toList_ofList_perm findings).map fun e => (override.getD e.severity, e.gist.2)
  rw [reissue, List.map_map, List.map_map]
  cases override <;> exact h

variable {r : Rule} {c : Config}

theorem gists_contribution_perm (henabled : r.enabled ⟨d, c⟩ = r.enabled ⟨d', c⟩)
    (hfailure : (r.run ⟨d, c⟩).failure = (r.run ⟨d', c⟩).failure)
    (h : ((r.run ⟨d, c⟩).findings.map Diagnostic.gist).Perm
      ((r.run ⟨d', c⟩).findings.map Diagnostic.gist)) :
    ((contribution r ⟨d, c⟩).map Diagnostic.gist).Perm
      ((contribution r ⟨d', c⟩).map Diagnostic.gist) := by
  have houtcome : (outcome r ⟨d, c⟩).failure = (outcome r ⟨d', c⟩).failure ∧
      ((outcome r ⟨d, c⟩).findings.map Diagnostic.gist).Perm
        ((outcome r ⟨d', c⟩).findings.map Diagnostic.gist) := by
    unfold outcome
    rw [henabled]
    split
    · exact ⟨hfailure, h⟩
    · exact ⟨rfl, .refl _⟩
    · exact ⟨rfl, .refl _⟩
  obtain ⟨hfailure, hfindings⟩ := houtcome
  unfold contribution
  dsimp only
  rw [hfailure, List.map_append, List.map_append]
  refine List.Perm.append_right _ ?_
  exact (gists_reissue_perm _ _).trans ((hfindings.map _).trans (gists_reissue_perm _ _).symm)

end Linter

namespace Rule

theorem gists_run_ofCheck (title id description : String) (handle : Nat)
    (check : Context → Checked) (c : Context) :
    ((ofCheck title id description handle check).run c).findings.map Diagnostic.gist
      = (check c).findings.map Finding.gist := by
  change ((check c).findings.map _).map _ = _
  rw [List.map_map]
  exact List.map_congr_left fun f _ => gist_toDiagnostic id _ f

/-- A rule says of two documents what its check finds, by itself and in a report. -/
theorem gists_perm_of_alike {title id description : String} {handle : Nat}
    {check : Context → Checked} {c : Config} (hends : (check ⟨d, c⟩).failure = none)
    (hends' : (check ⟨d', c⟩).failure = none)
    (h : Alike (check ⟨d, c⟩).findings (check ⟨d', c⟩).findings) {r : Rule}
    (hr : r = ofCheck title id description handle check) :
    (r.run ⟨d, c⟩).failure = none ∧ (r.run ⟨d', c⟩).failure = none ∧
      ((r.run ⟨d, c⟩).findings.map Diagnostic.gist).Perm
        ((r.run ⟨d', c⟩).findings.map Diagnostic.gist) ∧
      ((Linter.contribution r ⟨d, c⟩).map Diagnostic.gist).Perm
        ((Linter.contribution r ⟨d', c⟩).map Diagnostic.gist) := by
  subst hr
  have hrun : (((ofCheck title id description handle check).run ⟨d, c⟩).findings.map
      Diagnostic.gist).Perm
      (((ofCheck title id description handle check).run ⟨d', c⟩).findings.map Diagnostic.gist) := by
    rw [gists_run_ofCheck, gists_run_ofCheck]
    exact h
  refine ⟨hends, hends', hrun, Linter.gists_contribution_perm rfl ?_ hrun⟩
  exact hends.trans hends'.symm

/-- Best practice, performance and security run to their end on a document and on any rearrangement
of its definitions, and say the same, also at the severities that a report gives them. -/
theorem rearranging_keeps_gists {c : Config} (h : d.Rearranged d') (hc : c.TextsOnly)
    (handle : Nat) :
    ∀ r ∈ [BestPractice.rule handle, Performance.rule handle, Security.rule handle],
      (r.run ⟨d, c⟩).failure = none ∧ (r.run ⟨d', c⟩).failure = none ∧
        ((r.run ⟨d, c⟩).findings.map Diagnostic.gist).Perm
          ((r.run ⟨d', c⟩).findings.map Diagnostic.gist) ∧
        ((Linter.contribution r ⟨d, c⟩).map Diagnostic.gist).Perm
          ((Linter.contribution r ⟨d', c⟩).map Diagnostic.gist) := by
  intro r hr
  simp only [List.mem_cons, List.not_mem_nil, or_false] at hr
  rcases hr with hr | hr | hr
  · exact gists_perm_of_alike rfl rfl (BestPractice.findings_alike h c) hr
  · exact gists_perm_of_alike rfl rfl (Performance.findings_alike h c) hr
  · exact gists_perm_of_alike (Security.yields_check (c := ⟨d, c⟩) hc).ends
      (Security.yields_check (c := ⟨d', c⟩) hc).ends (Security.check_alike h hc) hr

end Rule

/-- Two operations and the fragments they spread, with fields that lack an alias, undeclared
variables in both and a sensitive name. -/
def Document.entangled : Document :=
  let argument (name : String) : Argument :=
    ⟨{ value := "id" }, .var ⟨{ value := name }, none⟩, none⟩
  let field (name : String) (body : List Selection) : Selection :=
    .field ⟨none, { value := name }, [argument name], [],
      if body.isEmpty then none else some ⟨body, none⟩, none⟩
  let spread (name : String) : Selection := .spread ⟨{ value := name }, [], none⟩
  let operation (name : String) (body : List Selection) : Definition :=
    .operation ⟨.query, some { value := name }, [], [], some ⟨body, none⟩, none⟩
  let fragment (name : String) (body : List Selection) : Definition :=
    .fragment ⟨{ value := name }, ⟨{ value := "Any" }, none⟩, [], ⟨body, none⟩, none⟩
  { definitions :=
      [operation "Users" [field "user" [spread "Login"], field "name" []],
       fragment "Login" [field "password" [], field "name" [], spread "Rest"],
       operation "Names" [field "user" [spread "Rest"], spread "Rest"],
       fragment "Rest" [field "name" [field "user" []]]] }

/-- The names that lack an alias are found in another order. -/
theorem Rule.rearranging_keeps_gists_entangled :
    let d := Document.entangled
    let d' : Document := { definitions := d.definitions.reverse }
    d.Rearranged d' ∧ Config.standard.TextsOnly ∧
      (BestPractice.aliases ⟨d, .standard⟩).map Finding.gist
        ≠ (BestPractice.aliases ⟨d', .standard⟩).map Finding.gist ∧
      ∀ r ∈ [BestPractice.rule 0, Performance.rule 0, Security.rule 0],
        (r.run ⟨d, .standard⟩).failure = none ∧ (r.run ⟨d', .standard⟩).failure = none ∧
          ((r.run ⟨d, .standard⟩).findings.map Diagnostic.gist).Perm
            ((r.run ⟨d', .standard⟩).findings.map Diagnostic.gist) ∧
          ((Linter.contribution r ⟨d, .standard⟩).map Diagnostic.gist).Perm
            ((Linter.contribution r ⟨d', .standard⟩).map Diagnostic.gist) := by
  intro d d'
  have hrearranged : d.Rearranged d' := ⟨(List.reverse_perm d.definitions).symm, by decide⟩
  have hdiffer : (BestPractice.aliases ⟨d, .standard⟩).map Finding.gist
      ≠ (BestPractice.aliases ⟨d', .standard⟩).map Finding.gist := by
    decide +kernel
  exact ⟨hrearranged, Linter.textsOnly_standard, hdiffer,
    Rule.rearranging_keeps_gists hrearranged Linter.textsOnly_standard 0⟩

end QueryLint
