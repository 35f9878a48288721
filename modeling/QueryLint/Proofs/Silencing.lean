import QueryLint.Proofs.Tightening

/-! # Silenced vocabularies

Whenever a vocabulary of terms is silenced, there are two configurations that differ in nothing else
and a document that has fewer findings under the tighter one. So the condition under which
tightening keeps all findings is exact.
-/

namespace QueryLint

/-! ## Changing one vocabulary -/

namespace Config

def withVocabulary (c : Config) (v : Vocabulary) (items : List Data) : Config :=
  { c with settings := c.settings.insert v.key (.frozenSet items) }

section WithVocabulary

variable (c : Config) (v : Vocabulary) (items : List Data)

@[simp] theorem limit_withVocabulary (l : Limit) :
    (c.withVocabulary v items).limit l = c.limit l := by
  have hkey : l.key ≠ v.key := by cases l <;> cases v <;> decide
  simp [limit, withVocabulary, hkey]

@[simp] theorem flag_withVocabulary (f : Flag) : (c.withVocabulary v items).flag f = c.flag f := by
  have hkey : f.key ≠ v.key := by cases f <;> cases v <;> decide
  simp [flag, withVocabulary, hkey]

@[simp] theorem ruleSwitch_withVocabulary (id : String) :
    (c.withVocabulary v items).ruleSwitch id = c.ruleSwitch id := rfl

@[simp] theorem vocabulary_withVocabulary_self :
    (c.withVocabulary v items).vocabulary v = Data.dedup items := by
  simp [vocabulary, withVocabulary, ofType?, Data.members?]

theorem vocabulary_withVocabulary_of_ne {w : Vocabulary} (h : w ≠ v) :
    (c.withVocabulary v items).vocabulary w = c.vocabulary w := by
  have hkey : w.key ≠ v.key := by
    revert h
    cases w <;> cases v <;> decide
  simp [vocabulary, withVocabulary, hkey]

end WithVocabulary

variable {c : Config} {v : Vocabulary} {items items' : List Data}

theorem TextsOnly.withVocabulary (hc : c.TextsOnly) (h : Data.AllTexts items) :
    (c.withVocabulary v items).TextsOnly := by
  intro w
  by_cases hw : w = v
  · subst hw
    rw [vocabulary_withVocabulary_self]
    exact Data.allTexts_dedup h
  · rw [vocabulary_withVocabulary_of_ne c v items hw]
    exact hc w

theorem stricter_withVocabulary (c : Config) (v : Vocabulary) (items items' : List Data) :
    (c.withVocabulary v items).Stricter (c.withVocabulary v items') := by
  constructor
  · intro l; simp
  · intro f; simp

theorem tighter_withVocabulary (h : Data.AllTexts items) (h' : Data.AllTexts items')
    (hsub : items ⊆ items') : (c.withVocabulary v items).Tighter (c.withVocabulary v items') := by
  refine ⟨stricter_withVocabulary c v items items', fun w => ?_, fun _ => rfl⟩
  by_cases hw : w = v
  · subst hw
    intro x hx
    rw [vocabulary_withVocabulary_self, Data.mem_dedup h] at hx
    rw [vocabulary_withVocabulary_self, Data.mem_dedup h']
    exact hsub hx
  · rw [vocabulary_withVocabulary_of_ne c v items hw, vocabulary_withVocabulary_of_ne c v items' hw]
    exact List.Subset.refl _

/-- The defaults without sensitive fields, so that all other vocabularies are heard. -/
def unguarded : Config :=
  ({ settings := {} } : Config).withVocabulary .sensitiveFields []

theorem textsOnly_unguarded : unguarded.TextsOnly := by
  have hstandard : ({ settings := {} } : Config).TextsOnly := by
    intro w x hx
    obtain ⟨t, -, rfl⟩ := List.mem_map.mp hx
    rfl
  exact hstandard.withVocabulary (fun x hx => nomatch hx)

end Config

/-! ## A document that loses a warning -/

def Field.leaf (name : String) : Field :=
  ⟨none, { value := name }, [], [], none, none⟩

/-- A fragment that selects a single field. -/
def Fragment.lone (name : String) : Fragment :=
  { name := { value := "Lone" }, condition := ⟨{ value := "Any" }, none⟩, directives := []
    selectionSet := ⟨[.field (.leaf name)], none⟩, span := none }

def Document.lone (name : String) : Document :=
  { definitions := [.fragment (.lone name)] }

section Lone

variable (name : String)

theorem Node.walk_lone : (Node.fragment (.lone name)).walk
    = [.fragment (.lone name), .selectionSet (Fragment.lone name).selectionSet,
      .field (.leaf name)] := by
  simp [Node.walk, Node.walkStack, Node.children, Fragment.lone, Node.ofSelection, Field.leaf]

theorem Document.nodes_lone :
    (lone name).nodes = (lone name).root :: (Node.fragment (.lone name)).walk := by
  simp [Document.nodes, Node.walk, Node.walkStack, Document.root, lone, Node.children,
    Node.ofDefinition]

theorem Node.fields_lone : (Node.fragment (.lone name)).fields = [.leaf name] := by
  rw [Node.fields, Node.walk_lone]
  rfl

theorem Document.fields_lone : (lone name).fields = [.leaf name] := by
  rw [Document.fields, Node.fields, ← Document.nodes, Document.nodes_lone, Node.walk_lone]
  rfl

theorem Document.fragments_lone : (lone name).fragments = [.lone name] := rfl

end Lone

namespace Security

open Term (speaks)

section Lone

variable (c : Config) (name : String)

theorem sensitiveLevels_lone : sensitiveLevels ⟨.lone name, c⟩
    = warnIf (speaks (c.vocabulary .sensitiveFields) name
      || speaks (c.vocabulary .sensitivePatterns) name) := by
  unfold sensitiveLevels
  rw [Document.nodes_lone, Node.walk_lone]
  simp [Document.root, sensitiveSubject?, Field.leaf]

theorem fragmentLevels_lone : fragmentLevels ⟨.lone name, c⟩
    = warnIf (speaks (c.vocabulary .sensitiveFields) name) := by
  unfold fragmentLevels
  rw [Document.fragments_lone, List.flatMap_singleton, Node.fields_lone, List.flatMap_singleton]
  rfl

theorem accessLevels_lone : accessLevels ⟨.lone name, c⟩
    = warnIf (speaks (c.vocabulary .adminFieldPatterns) name)
      ++ warnIf (speaks (c.vocabulary .internalFieldPatterns) name) := by
  unfold accessLevels
  rw [Document.fields_lone, List.flatMap_singleton]
  rfl

end Lone

/-- What the check yields beside the findings on names that vocabularies of terms speak about. -/
def fixedLevels (c : Context) : List Severity :=
  severities (introspection c)
    ++ ((if c.config.flag .inputValidation then valueLevels c ++ nameLevels c else [])
    ++ (severities (depth c) ++ (severities (complexity c) ++ (severities (directives c)
    ++ severities (mutations c)))))

theorem countP_levels (c : Context) (p : Severity → Bool) :
    (levels c).countP p = (fixedLevels c).countP p + (sensitiveLevels c).countP p
      + (fragmentLevels c).countP p
      + (if c.config.flag .accessControl then (accessLevels c).countP p else 0) := by
  simp only [levels, fixedLevels, List.countP_append, apply_ite (List.countP p), List.countP_nil]
  omega

theorem fixedLevels_withVocabulary (c : Config) {v : Vocabulary} (hv : v ∈ termVocabularies)
    (items items' : List Data) (d : Document) :
    fixedLevels ⟨d, c.withVocabulary v items'⟩ = fixedLevels ⟨d, c.withVocabulary v items⟩ := by
  have hsql : Vocabulary.sqlKeywords ≠ v := by rintro rfl; simp [termVocabularies] at hv
  have hforbidden : Vocabulary.forbiddenDirectives ≠ v := by
    rintro rfl; simp [termVocabularies] at hv
  have hpatterns : ∀ items, patterns (c.withVocabulary v items) = patterns c := by
    intro items
    funext text
    rw [patterns, patterns, Config.vocabulary_withVocabulary_of_ne c v items hsql]
  have harguments : ∀ items, argumentLevels (c.withVocabulary v items) = argumentLevels c := by
    intro items
    funext a
    rw [argumentLevels, argumentLevels, hpatterns]
  simp only [fixedLevels, introspection, valueLevels, nameLevels, harguments, hpatterns, depth,
    depthFindings, complexity, costFindings, growthFindings, directives, mutations,
    Config.flag_withVocabulary, Config.limit_withVocabulary,
    Config.vocabulary_withVocabulary_of_ne _ _ _ hforbidden]

theorem countP_warnIf {p : Severity → Bool} (hp : p .warning = true) (b : Bool) :
    (warnIf b).countP p = b.toNat := by
  cases b <;> simp [warnIf, hp]

/-- The name of a lone field that the old terms speak about is lost with them. -/
theorem exists_countP_levels_lt {v : Vocabulary} (hv : v ∈ termVocabularies)
    {items items' : List Data} (h : Data.AllTexts items) (h' : Data.AllTexts items')
    (hs : Term.Silences items' items) {p : Severity → Bool} (hp : p .warning = true) :
    ∃ name, (levels ⟨.lone name, Config.unguarded.withVocabulary v items'⟩).countP p
      < (levels ⟨.lone name, Config.unguarded.withVocabulary v items⟩).countP p := by
  have hs := (Term.silences_congr (fun _ => Data.mem_dedup h) (fun _ => Data.mem_dedup h')).mpr hs
  obtain ⟨name, hname⟩ := hs.exists_speaks (Data.allTexts_dedup h)
  have hsilent := hs.speaks_eq_false name
  have hempty : speaks (Config.unguarded.vocabulary .sensitiveFields) name = false := by
    rw [Config.unguarded, Config.vocabulary_withVocabulary_self]
    exact Term.speaks_nil name
  have hother : ∀ w, w ≠ v → ∀ items,
      (Config.unguarded.withVocabulary v items).vocabulary w = Config.unguarded.vocabulary w :=
    fun w hw items => Config.vocabulary_withVocabulary_of_ne _ v items hw
  have haccess : Config.unguarded.flag .accessControl = true := rfl
  refine ⟨name, ?_⟩
  rw [countP_levels, countP_levels, fixedLevels_withVocabulary _ hv items items']
  simp only [sensitiveLevels_lone, fragmentLevels_lone, accessLevels_lone, List.countP_append,
    countP_warnIf hp, Config.flag_withVocabulary, haccess, if_true]
  simp only [termVocabularies, List.mem_cons, List.not_mem_nil, or_false] at hv
  rcases hv with rfl | rfl | rfl | rfl
  · -- The patterns may still speak about the name, but the fragment is no longer warned about.
    have hpatterns := Bool.toNat_le (speaks (Config.unguarded.vocabulary .sensitivePatterns) name)
    simp only [Config.vocabulary_withVocabulary_self, hother .sensitivePatterns (by decide),
      hother .adminFieldPatterns (by decide), hother .internalFieldPatterns (by decide), hname,
      hsilent, Bool.true_or, Bool.false_or, Bool.toNat_true, Bool.toNat_false]
    omega
  · simp only [Config.vocabulary_withVocabulary_self, hother .sensitiveFields (by decide),
      hother .adminFieldPatterns (by decide), hother .internalFieldPatterns (by decide), hname,
      hsilent, hempty, Bool.or_true, Bool.or_false, Bool.toNat_true, Bool.toNat_false]
    omega
  · simp only [Config.vocabulary_withVocabulary_self, hother .sensitiveFields (by decide),
      hother .sensitivePatterns (by decide), hother .internalFieldPatterns (by decide), hname,
      hsilent, Bool.toNat_true, Bool.toNat_false]
    omega
  · simp only [Config.vocabulary_withVocabulary_self, hother .sensitiveFields (by decide),
      hother .sensitivePatterns (by decide), hother .adminFieldPatterns (by decide), hname,
      hsilent, Bool.toNat_true, Bool.toNat_false]
    omega

end Security

/-! ## The exact condition -/

/-- The two configurations differ in one vocabulary at most. -/
structure Config.DifferIn (v : Vocabulary) (c c' : Config) : Prop where
  limit_eq : ∀ l, c'.limit l = c.limit l
  flag_eq : ∀ f, c'.flag f = c.flag f
  vocabulary_eq : ∀ w, w ≠ v → c'.vocabulary w = c.vocabulary w
  ruleSwitch_eq : ∀ id, c'.ruleSwitch id = c.ruleSwitch id

theorem Config.differIn_withVocabulary (c : Config) (v : Vocabulary) (items items' : List Data) :
    DifferIn v (c.withVocabulary v items) (c.withVocabulary v items') := by
  refine ⟨fun l => by simp, fun f => by simp, fun w hw => ?_, fun _ => rfl⟩
  rw [vocabulary_withVocabulary_of_ne c v items hw, vocabulary_withVocabulary_of_ne c v items' hw]

/-- A vocabulary that stays as it is is not silenced. -/
theorem Config.DifferIn.keepsTerms {v : Vocabulary} {c c' : Config} (h : DifferIn v c c')
    (hs : ¬ Term.Silences (c'.vocabulary v) (c.vocabulary v)) : Security.KeepsTerms c c' := by
  intro w _ hw
  by_cases hwv : w = v
  · exact hs (hwv ▸ hw)
  · rw [h.vocabulary_eq w hwv] at hw
    exact hw.2.1 hw.1

namespace Linter

open Security (termVocabularies KeepsTerms)

theorem exists_findingCount_lt {v : Vocabulary} (hv : v ∈ termVocabularies)
    {items items' : List Data} (h : Data.AllTexts items) (h' : Data.AllTexts items')
    (hs : Term.Silences items' items) :
    ∃ input, findingCount (Config.unguarded.withVocabulary v items') .warning input
      < findingCount (Config.unguarded.withVocabulary v items) .warning input := by
  obtain ⟨name, hlt⟩ := Security.exists_countP_levels_lt hv h h' hs
    (p := fun t => t == .warning) rfl
  have hyields : ∀ items, Data.AllTexts items →
      (Security.check ⟨.lone name, Config.unguarded.withVocabulary v items⟩).Yields
        (Security.levels ⟨.lone name, Config.unguarded.withVocabulary v items⟩) :=
    fun items h => Security.yields_check (Config.textsOnly_unguarded.withVocabulary h)
  obtain ⟨hstyle, hpractice, hperformance⟩ := count_others_le (d := .lone name)
    (Config.stricter_withVocabulary Config.unguarded v items' items) .warning
    Config.unguarded.ruleSwitch
  refine ⟨.document (.lone name), ?_⟩
  have hsecurity :
      (reportedUnder (Config.unguarded.ruleSwitch "SECURITY")
        (Security.check ⟨.lone name, Config.unguarded.withVocabulary v items'⟩)).count .warning
      < (reportedUnder (Config.unguarded.ruleSwitch "SECURITY")
        (Security.check ⟨.lone name, Config.unguarded.withVocabulary v items⟩)).count .warning := by
    rw [count_reportedUnder, count_reportedUnder, (hyields _ h).severities_eq,
      (hyields _ h').severities_eq, (hyields _ h).ends, (hyields _ h').ends]
    exact hlt
  simp only [findingCount_document, Config.ruleSwitch_withVocabulary]
  omega

/-- A tighter configuration has no fewer findings of any severity, unless it silences a vocabulary
of terms and the severity is that of the warnings about names; so it lets no failing input pass.
What a silenced vocabulary said is lost: configurations that differ in it alone differ in counts. -/
theorem tightening_keeps_findings {c c' : Config} (hc : c.TextsOnly) (hc' : c'.TextsOnly)
    (h : c.Tighter c') :
    (∀ s, (s = warnedAt c → KeepsTerms c c') →
      ∀ input, findingCount c s input ≤ findingCount c' s input) ∧
      ((.error = warnedAt c → KeepsTerms c c') → ∀ input,
        ((withBuiltinRules c).lint input).hasErrors = true →
          ((withBuiltinRules c').lint input).hasErrors = true) ∧
      ∀ v ∈ termVocabularies, Term.Silences (c'.vocabulary v) (c.vocabulary v) →
        ∃ b b' : Config, b.TextsOnly ∧ b'.TextsOnly ∧ b.Tighter b' ∧ Config.DifferIn v b b' ∧
          (∀ x, x ∈ b.vocabulary v ↔ x ∈ c.vocabulary v) ∧
          (∀ x, x ∈ b'.vocabulary v ↔ x ∈ c'.vocabulary v) ∧
          ∃ input, findingCount b' .warning input < findingCount b .warning input := by
  refine ⟨fun s hs => findingCount_le hc hc' h hs, fun hs input => ?_, fun v hv hsilent => ?_⟩
  · rw [hasErrors_iff_findingCount, hasErrors_iff_findingCount]
    exact fun hpos => Nat.lt_of_lt_of_le hpos (findingCount_le hc hc' h hs input)
  · refine ⟨_, _, Config.textsOnly_unguarded.withVocabulary (v := v) (hc v),
      Config.textsOnly_unguarded.withVocabulary (hc' v),
      Config.tighter_withVocabulary (hc v) (hc' v) (h.vocabulary_subset v),
      Config.differIn_withVocabulary _ v _ _, fun x => ?_, fun x => ?_,
      exists_findingCount_lt hv (hc v) (hc' v) hsilent⟩
    · rw [Config.vocabulary_withVocabulary_self, Data.mem_dedup (hc v)]
    · rw [Config.vocabulary_withVocabulary_self, Data.mem_dedup (hc' v)]

def administrative (terms : List String) : Config :=
  Config.unguarded.withVocabulary .adminFieldPatterns (terms.map .text)

/-- Another term keeps all findings on a query for an admin; the empty term loses some. -/
theorem tightening_administrative :
    (∀ s, findingCount (administrative ["admin"]) s (.text "\x7b admin \x7d".toList)
      ≤ findingCount (administrative ["admin", "root"]) s (.text "\x7b admin \x7d".toList)) ∧
      (administrative ["admin"]).Tighter (administrative ["admin", ""]) ∧
      ∃ b b' : Config, b.Tighter b' ∧ Config.DifferIn .adminFieldPatterns b b' ∧
        ∃ input, findingCount b' .warning input < findingCount b .warning input := by
  have hall : ∀ terms : List String, Data.AllTexts (terms.map .text) := by
    rintro terms x hx
    obtain ⟨t, -, rfl⟩ := List.mem_map.mp hx
    rfl
  have htexts : ∀ terms, (administrative terms).TextsOnly := fun terms =>
    Config.textsOnly_unguarded.withVocabulary (hall terms)
  have htighter : ∀ term, (administrative ["admin"]).Tighter (administrative ["admin", term]) :=
    fun term => Config.tighter_withVocabulary (hall _) (hall _) (by simp)
  have hsilences : ∀ term, Term.Silences ((administrative ["admin", term]).vocabulary
      .adminFieldPatterns) ((administrative ["admin"]).vocabulary .adminFieldPatterns)
        ↔ Term.Silences [.text "admin", .text term] [.text "admin"] := by
    intro term
    unfold administrative
    rw [Config.vocabulary_withVocabulary_self, Config.vocabulary_withVocabulary_self]
    exact Term.silences_congr (fun _ => Data.mem_dedup (hall _)) (fun _ => Data.mem_dedup (hall _))
  refine ⟨fun s => ?_, htighter "", ?_⟩
  · refine (tightening_keeps_findings (htexts _) (htexts _) (htighter "root")).1 s (fun _ => ?_) _
    refine (Config.differIn_withVocabulary _ _ _ _).keepsTerms fun hs => ?_
    simpa [Term.Silences] using (hsilences "root").mp hs
  · have hs := (hsilences "").mpr (by simp [Term.Silences])
    obtain ⟨b, b', -, -, hb, hd, -, -, hlost⟩ :=
      (tightening_keeps_findings (htexts _) (htexts _) (htighter "")).2.2 _ (by decide) hs
    exact ⟨b, b', hb, hd, hlost⟩

end Linter

end QueryLint
