import QueryLint.Proofs.Checked
import QueryLint.Proofs.Signs

/-! # What the security check yields

Over vocabularies of texts the check runs to its end. The parts that search a vocabulary are
described by the severities they yield: a warning for every name that a vocabulary speaks about, an
error for every class of patterns that is found in a text.
-/

namespace QueryLint

/-- All vocabularies of the configuration hold only texts. -/
def Config.TextsOnly (c : Config) : Prop :=
  ∀ v, Data.AllTexts (c.vocabulary v)

namespace Security

open Term (speaks)

def warnIf (b : Bool) : List Severity :=
  if b then [.warning] else []

theorem eq_warning_of_mem_warnIf {b : Bool} {s : Severity} (h : s ∈ warnIf b) : s = .warning := by
  cases b with
  | false => cases h
  | true => exact List.mem_singleton.mp h

/-! ## Names -/

def sensitiveLevels (c : Context) : List Severity :=
  c.document.nodes.flatMap fun n => (sensitiveSubject? n).toList.flatMap fun s =>
    warnIf (speaks (c.config.vocabulary .sensitiveFields) s.2.2
      || speaks (c.config.vocabulary .sensitivePatterns) s.2.2)

def fragmentLevels (c : Context) : List Severity :=
  c.document.fragments.flatMap fun fragment => (Node.fragment fragment).fields.flatMap fun f =>
    warnIf (speaks (c.config.vocabulary .sensitiveFields) f.name.value)

def accessLevels (c : Context) : List Severity :=
  c.document.fields.flatMap fun f =>
    warnIf (speaks (c.config.vocabulary .adminFieldPatterns) f.name.value)
      ++ warnIf (speaks (c.config.vocabulary .internalFieldPatterns) f.name.value)

section Names

variable {c : Context} {s : Severity}

theorem eq_warning_of_mem_sensitiveLevels (h : s ∈ sensitiveLevels c) : s = .warning := by
  obtain ⟨n, -, hn⟩ := List.mem_flatMap.mp h
  obtain ⟨subject, -, hs⟩ := List.mem_flatMap.mp hn
  exact eq_warning_of_mem_warnIf hs

theorem eq_warning_of_mem_fragmentLevels (h : s ∈ fragmentLevels c) : s = .warning := by
  obtain ⟨fragment, -, hn⟩ := List.mem_flatMap.mp h
  obtain ⟨f, -, hs⟩ := List.mem_flatMap.mp hn
  exact eq_warning_of_mem_warnIf hs

theorem eq_warning_of_mem_accessLevels (h : s ∈ accessLevels c) : s = .warning := by
  obtain ⟨f, -, hf⟩ := List.mem_flatMap.mp h
  exact (List.mem_append.mp hf).elim eq_warning_of_mem_warnIf eq_warning_of_mem_warnIf

theorem yields_sensitiveNames (h : c.config.TextsOnly) :
    (sensitiveNames c).Yields (sensitiveLevels c) := by
  refine Checked.yields_each fun n _ => ?_
  unfold sensitiveName
  rcases sensitiveSubject? n with _ | ⟨capital, label, name⟩
  · exact ⟨rfl, rfl⟩
  · simp only [Term.concerns_of_allTexts (h _), Option.toList_some, List.flatMap_singleton]
    cases speaks (c.config.vocabulary .sensitiveFields) name
    · cases speaks (c.config.vocabulary .sensitivePatterns) name <;> exact ⟨rfl, rfl⟩
    · exact ⟨rfl, rfl⟩

theorem yields_fragments (h : c.config.TextsOnly) : (fragments c).Yields (fragmentLevels c) := by
  refine Checked.yields_each fun fragment _ => Checked.yields_each fun f _ => ?_
  rw [sensitiveFragmentField, Term.concerns_of_allTexts (h _)]
  cases speaks (c.config.vocabulary .sensitiveFields) f.name.value <;> exact ⟨rfl, rfl⟩

theorem yields_concerned {vocabulary : List Data} (h : Data.AllTexts vocabulary) (f : Field)
    (concern : String) :
    (Checked.ofExcept (concerned vocabulary f concern)).Yields
      (warnIf (speaks vocabulary f.name.value)) := by
  rw [concerned, Term.concerns_of_allTexts h]
  cases speaks vocabulary f.name.value <;> exact ⟨rfl, rfl⟩

theorem yields_accessControl (h : c.config.TextsOnly) :
    (accessControl c).Yields (accessLevels c) :=
  Checked.yields_each fun f _ => (yields_concerned (h _) f _).append (yields_concerned (h _) f _)

end Names

/-! ## Injection -/

def patterns (c : Config) (text : String) : List String :=
  Injection.labels (Injection.keywords (c.vocabulary .sqlKeywords)) text

def argumentLevels (c : Config) (a : Argument) : List Severity :=
  (stringsIn a.name.value a.value).flatMap fun s =>
    (patterns c s.2).map (fun _ => .error) ++ warnIf (Injection.hasUnsafeCharacter s.2)

def valueLevels (c : Context) : List Severity :=
  (c.document.fields.flatMap fun f => f.arguments.flatMap (argumentLevels c.config))
    ++ c.document.directives.flatMap fun r => r.arguments.flatMap (argumentLevels c.config)

def nameLevels (c : Context) : List Severity :=
  (scannedNames c.document).flatMap fun s => (patterns c.config s.2.1).map fun _ => .error

section Injection

variable {c : Context}

theorem yields_scanArgument {config : Config} (h : config.TextsOnly) (owner : String)
    (a : Argument) :
    (scanArgument (config.vocabulary .sqlKeywords) owner a).Yields (argumentLevels config a) := by
  refine Checked.yields_each fun s _ => ?_
  obtain ⟨label, content⟩ := s
  dsimp only
  rw [stringFindings, Injection.labels?_of_allTexts (h _)]
  refine ⟨rfl, ?_⟩
  simp only [Checked.ofExcept, bind, Except.bind, pure, Except.pure, severities_append,
    severities_map, severities_ite, warnIf]
  rfl

theorem yields_argumentValues (h : c.config.TextsOnly) :
    (argumentValues c).Yields (valueLevels c) := by
  refine .append (Checked.yields_each fun f _ => ?_) (Checked.yields_each fun r _ => ?_)
  · exact Checked.yields_each fun a _ => yields_scanArgument h "Argument" a
  · exact Checked.yields_each fun a _ => yields_scanArgument h "Directive argument" a

theorem yields_nameInjection (h : c.config.TextsOnly) :
    (nameInjection c).Yields (nameLevels c) := by
  refine Checked.yields_each fun s _ => ?_
  obtain ⟨owner, name, n⟩ := s
  dsimp only
  rw [Injection.labels?_of_allTexts (h _)]
  refine ⟨rfl, ?_⟩
  simp [Checked.ofExcept, Except.map, patternFinding, patterns]

end Injection

/-! ## The whole check -/

/-- The severities of all that the check finds over vocabularies of texts. -/
def levels (c : Context) : List Severity :=
  severities (introspection c) ++ (sensitiveLevels c
    ++ ((if c.config.flag .inputValidation then valueLevels c ++ nameLevels c else [])
    ++ (severities (depth c) ++ (severities (complexity c) ++ (severities (directives c)
    ++ (fragmentLevels c ++ (severities (mutations c)
    ++ (if c.config.flag .accessControl then accessLevels c else []))))))))

theorem yields_check {c : Context} (h : c.config.TextsOnly) : (check c).Yields (levels c) := by
  have hvalidation := (yields_argumentValues h).append (yields_nameInjection h)
  have haccess := ((yields_accessControl h).ite (c.config.flag .accessControl)).sequence_cons
    Checked.yields_sequence_nil
  rw [List.append_nil] at haccess
  exact (Checked.yields_ofFindings _).sequence_cons ((yields_sensitiveNames h).sequence_cons
    ((hvalidation.ite _).sequence_cons ((Checked.yields_ofFindings _).sequence_cons
    ((Checked.yields_ofFindings _).sequence_cons ((Checked.yields_ofFindings _).sequence_cons
    ((yields_fragments h).sequence_cons
    ((Checked.yields_ofFindings _).sequence_cons haccess)))))))

end Security

end QueryLint
