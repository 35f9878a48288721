import QueryLint.Proofs.Scanning

/-! # Findings about strings

A finding about a string in an argument is known by its severity and by the two ends of its message:
warnings about unsafe characters by how they end, errors about patterns by what they begin with.
Nothing else that the security check finds looks like these, and so they count what is scanned.
-/

namespace QueryLint

/-! ## Both ends of a message -/

namespace Text

variable {s t : List Char}

theorem not_prefix_append (h : ¬ (s <+: t ∨ t <+: s)) (x : List Char) : ¬ s <+: t ++ x :=
  fun hs => h (List.prefix_or_prefix_of_prefix hs (List.prefix_append t x))

theorem not_suffix_append (h : ¬ (s <:+ t ∨ t <:+ s)) (x : List Char) : ¬ s <:+ x ++ t :=
  fun hs => h (List.suffix_or_suffix_of_suffix hs (List.suffix_append x t))

end Text

namespace Security

def unsafeEnding : String :=
  "' contains potentially unsafe characters - ensure proper validation"

/-- How errors about patterns in values begin; those about names name the name first. -/
def valueOpenings : List String :=
  ["Argument '", "Directive argument '"]

def warnsOfCharacters (severity : Severity) (message : String) : Bool :=
  severity = .warning ∧ unsafeEnding.toList <:+ message.toList

def reportsPattern (severity : Severity) (message : String) : Bool :=
  severity = .error ∧ ∃ opening ∈ valueOpenings, opening.toList <+: message.toList

/-- The finding is not about a string in an argument. -/
structure Aside (f : Finding) : Prop where
  warns : warnsOfCharacters f.severity f.message = false
  reports : reportsPattern f.severity f.message = false

theorem aside_warning {ending : String}
    (h : ¬ (unsafeEnding.toList <:+ ending.toList ∨ ending.toList <:+ unsafeEnding.toList))
    (start : String) (n : Node) : Aside (.warning (start ++ ending) n) := by
  have hending : ¬ unsafeEnding.toList <:+ (start ++ ending).toList := by
    rw [String.toList_append]
    exact Text.not_suffix_append h start.toList
  exact ⟨decide_eq_false fun hf => hending hf.2, rfl⟩

theorem aside_error_of_not_reports {message : String} (h : reportsPattern .error message = false)
    (n : Node) : Aside (.error message n) :=
  ⟨rfl, h⟩

theorem aside_error {opening : String}
    (h : ∀ o ∈ valueOpenings, ¬ (o.toList <+: opening.toList ∨ opening.toList <+: o.toList))
    (rest : String) (n : Node) : Aside (.error (opening ++ rest) n) := by
  have hopening : ∀ o ∈ valueOpenings, ¬ o.toList <+: (opening ++ rest).toList := by
    intro o ho
    rw [String.toList_append]
    exact Text.not_prefix_append (h o ho) rest.toList
  exact aside_error_of_not_reports (decide_eq_false fun ⟨_, o, ho, h⟩ => hopening o ho h) n

/-! ## Checks that say nothing about strings -/

/-- All findings of the check are about something else. -/
def AllAside (fs : List Finding) : Prop :=
  ∀ f ∈ fs, Aside f

section AllAside

variable {α : Type} {fs gs : List Finding} {a b : Checked}

theorem AllAside.append (h : AllAside fs) (h' : AllAside gs) : AllAside (fs ++ gs) :=
  List.forall_mem_append.mpr ⟨h, h'⟩

theorem AllAside.ite (h : AllAside fs) (p : Prop) [Decidable p] :
    AllAside (if p then fs else []) := by
  split
  · exact h
  · exact List.forall_mem_nil _

theorem AllAside.singleton {f : Finding} (h : Aside f) : AllAside [f] :=
  List.forall_mem_singleton.mpr h

theorem AllAside.flatMap {l : List α} {g : α → List Finding} (h : ∀ x ∈ l, AllAside (g x)) :
    AllAside (l.flatMap g) :=
  List.forall_mem_flatMap.mpr h

theorem AllAside.checked_append (h : AllAside a.findings) (h' : AllAside b.findings) :
    AllAside (a.append b).findings := by
  unfold Checked.append
  split
  · exact h
  · exact h.append h'

theorem AllAside.each {items : List α} {check : α → Checked}
    (h : ∀ x ∈ items, AllAside (check x).findings) :
    AllAside (Checked.each items check).findings := by
  induction items with
  | nil => exact List.forall_mem_nil _
  | cons x items ih =>
    obtain ⟨hx, hitems⟩ := List.forall_mem_cons.mp h
    exact hx.checked_append (ih hitems)

/-- A check that asks a vocabulary about a name, and has one thing to say if the answer is yes. -/
theorem AllAside.ofExcept_ask {e : Except String Bool} {f : Finding}
    {next : Except String (List Finding)} (hf : Aside f)
    (hnext : AllAside (Checked.ofExcept next).findings) :
    AllAside (Checked.ofExcept (do if ← e then return [f] else next)).findings := by
  rcases e with reason | _ | _
  · exact List.forall_mem_nil _
  · exact hnext
  · exact .singleton hf

end AllAside

theorem allAside_introspection (c : Context) : AllAside (introspection c) := by
  have hfield : ∀ f, AllAside (introspectionField f) := by
    intro f
    refine .append (.singleton (aside_warning (by decide) _ _)) (.ite (.singleton ?_) _)
    rw [String.append_assoc]
    exact aside_error (by decide) _ _
  refine .ite (.append (.flatMap fun f _ => hfield f) (.ite (.singleton ?_) _)) _
  exact aside_error_of_not_reports (by decide) _

theorem allAside_sensitiveNames (c : Context) : AllAside (sensitiveNames c).findings := by
  refine .each fun n _ => ?_
  unfold sensitiveName
  rcases sensitiveSubject? n with _ | ⟨capital, label, name⟩
  · exact List.forall_mem_nil _
  · exact .ofExcept_ask (aside_warning (by decide) _ _)
      (.ofExcept_ask (aside_warning (by decide) _ _) (List.forall_mem_nil _))

theorem allAside_fragments (c : Context) : AllAside (fragments c).findings := by
  refine .each fun fragment _ => .each fun f _ => .ofExcept_ask ?_ (List.forall_mem_nil _)
  exact aside_warning (by decide) _ _

theorem allAside_nameInjection (c : Context) : AllAside (nameInjection c).findings := by
  have howner : ∀ s ∈ scannedNames c.document,
      s.1 ∈ ["Argument name", "Fragment name", "Operation name"] := by
    intro s hs
    simp only [scannedNames, List.mem_append, List.mem_map, List.mem_filterMap,
      Option.map_eq_some_iff] at hs
    rcases hs with (⟨a, -, rfl⟩ | ⟨f, -, rfl⟩) | ⟨o, -, n, -, rfl⟩ <;> simp
  have hapart : ∀ owner ∈ ["Argument name", "Fragment name", "Operation name"],
      ∀ o ∈ valueOpenings, ¬ (o.toList <+: owner.toList ∨ owner.toList <+: o.toList) := by
    decide
  refine .each fun s hs => ?_
  obtain ⟨owner, name, n⟩ := s
  dsimp only
  cases Injection.labels? (c.config.vocabulary .sqlKeywords) name with
  | error reason => exact List.forall_mem_nil _
  | ok patterns =>
    refine List.forall_mem_map.mpr fun pattern _ => ?_
    simp only [patternFinding, String.append_assoc]
    exact aside_error (hapart owner (howner _ hs)) _ _

theorem allAside_depth (c : Context) : AllAside (depth c) := by
  refine .append (.ite (.singleton ?_) _) (.ite (.singleton ?_) _) <;>
  · simp only [String.append_assoc]
    exact aside_error (by decide) _ _

theorem allAside_complexity (c : Context) : AllAside (complexity c) := by
  refine .append (.ite (.singleton ?cost) _) (.ite (.singleton ?pattern) _)
  case cost =>
    simp only [String.append_assoc]
    exact aside_error (by decide) _ _
  case pattern => exact aside_error_of_not_reports (by decide) _

theorem allAside_directives (c : Context) : AllAside (directives c) := by
  refine List.forall_mem_map.mpr fun r _ => ?_
  rw [String.append_assoc]
  exact aside_error (by decide) _ _

theorem allAside_mutations (c : Context) : AllAside (mutations c) := by
  refine .flatMap fun o _ => ?_
  split
  · exact List.forall_mem_nil _
  · exact .ite (.singleton (aside_warning (by decide) _ _)) _

theorem allAside_accessControl (c : Context) : AllAside (accessControl c).findings := by
  have hconcerned : ∀ vocabulary f concern,
      AllAside (Checked.ofExcept (concerned vocabulary f concern)).findings :=
    fun _ _ _ => .ofExcept_ask (aside_warning (by decide) _ _) (List.forall_mem_nil _)
  exact .each fun f _ => (hconcerned _ f _).checked_append (hconcerned _ f _)

/-! ## Counting -/

section Counting

variable {d : Document} {c : Config}

theorem ends_validation (hflag : c.flag .inputValidation = true)
    (hends : (check ⟨d, c⟩).failure = none) :
    ((argumentValues ⟨d, c⟩).append (nameInjection ⟨d, c⟩)).failure = none := by
  have h := Checked.ends_of_mem_sequence hends (.tail _ (.tail _ (.head _)))
  rwa [if_pos hflag] at h

/-- Of what the check finds, only the findings about strings in arguments are counted. -/
theorem countP_check {p : Finding → Bool} (hp : ∀ f, Aside f → p f = false)
    (hflag : c.flag .inputValidation = true) (hends : (check ⟨d, c⟩).failure = none) :
    (check ⟨d, c⟩).findings.countP p = (argumentValues ⟨d, c⟩).findings.countP p := by
  have hzero : ∀ {fs}, AllAside fs → fs.countP p = 0 := fun h =>
    List.countP_eq_zero.mpr fun f hf => Bool.not_eq_true _ ▸ hp f (h f hf)
  have haccess : AllAside
      (if c.flag .accessControl then accessControl ⟨d, c⟩ else {}).findings := by
    split
    · exact allAside_accessControl _
    · exact List.forall_mem_nil _
  have hvalidation := Checked.findings_append (ends_validation hflag hends)
  unfold check checkBy at hends ⊢
  rw [Checked.findings_sequence hends]
  simp only [List.flatMap_cons, List.flatMap_nil, List.append_nil, Checked.findings_ofFindings,
    List.countP_append, if_pos hflag, hvalidation, hzero (allAside_introspection _),
    hzero (allAside_sensitiveNames _), hzero (allAside_nameInjection _), hzero (allAside_depth _),
    hzero (allAside_complexity _), hzero (allAside_directives _), hzero (allAside_fragments _),
    hzero (allAside_mutations _), hzero haccess, Nat.add_zero, Nat.zero_add]

/-- A count over all findings is a sum over the strings below arguments. -/
theorem countP_argumentValues {p : Finding → Bool} (weight : StringLiteral → Nat)
    (hends : (argumentValues ⟨d, c⟩).failure = none)
    (hscan : ∀ s ∈ scans d,
      (s.check (c.vocabulary .sqlKeywords)).findings.countP p = weight s.literal) :
    (argumentValues ⟨d, c⟩).findings.countP p = (d.stringsBelowArguments.map weight).sum := by
  rw [argumentValues_eq] at hends ⊢
  rw [Checked.findings_each hends, List.countP_flatMap]
  calc ((scans d).map fun s => (s.check (c.vocabulary .sqlKeywords)).findings.countP p).sum
      = (((scans d).map (·.literal)).map weight).sum := by
        rw [List.map_map]
        exact congrArg List.sum (List.map_congr_left hscan)
    _ = (d.stringsBelowArguments.map weight).sum :=
        ((map_literal_scans_perm d).map weight).sum_nat

theorem owner_of_mem_scans {s : Scan} (h : s ∈ scans d) : s.owner ++ " '" ∈ valueOpenings := by
  have howner : ∀ {owner a}, s ∈ scansOf owner a → s.owner = owner := by
    intro owner a hs
    obtain ⟨e, -, rfl⟩ := List.mem_map.mp hs
    rfl
  simp only [scans, List.mem_append, List.mem_flatMap] at h
  rcases h with ⟨f, -, a, -, hs⟩ | ⟨r, -, a, -, hs⟩ <;> rw [howner hs] <;> decide

namespace Scan

variable {vocabulary : List Data} {s : Scan}

/-- A scan that ends has searched the string. -/
theorem exists_labels_of_ends (h : (s.check vocabulary).failure = none) :
    ∃ found, Injection.labels? vocabulary s.literal.content = .ok found := by
  unfold check stringFindings at h
  cases hfound : Injection.labels? vocabulary s.literal.content with
  | error reason =>
    rw [hfound] at h
    cases h
  | ok found => exact ⟨found, rfl⟩

variable {found : List String}

def report (s : Scan) (pattern : String) : Finding :=
  patternFinding s.owner s.label pattern (.argument s.argument)

/-- What is said of unsafe characters. -/
def warning (s : Scan) : Finding :=
  .warning (s.owner ++ " '" ++ s.label ++ unsafeEnding) (.argument s.argument)

theorem findings_check (h : Injection.labels? vocabulary s.literal.content = .ok found) :
    (s.check vocabulary).findings = found.map s.report
      ++ (if Injection.hasUnsafeCharacter s.literal.content then [s.warning] else []) := by
  rw [check, stringFindings, h]
  rfl

theorem countP_warns_check (h : Injection.labels? vocabulary s.literal.content = .ok found) :
    (s.check vocabulary).findings.countP (fun f => warnsOfCharacters f.severity f.message)
      = if Injection.hasUnsafeCharacter s.literal.content then 1 else 0 := by
  have hending : unsafeEnding.toList <:+ s.warning.message.toList := by
    rw [warning, Finding.warning, String.toList_append]
    exact List.suffix_append _ _
  have hreports : (found.map s.report).countP
      (fun f => warnsOfCharacters f.severity f.message) = 0 := by
    refine List.countP_eq_zero.mpr fun f hf => ?_
    obtain ⟨pattern, -, rfl⟩ := List.mem_map.mp hf
    exact of_decide_eq_false rfl
  rw [findings_check h, List.countP_append, hreports, Nat.zero_add]
  split
  · exact (List.countP_singleton ..).trans (if_pos (decide_eq_true ⟨rfl, hending⟩))
  · rfl

theorem countP_reports_check (h : Injection.labels? vocabulary s.literal.content = .ok found)
    (howner : s.owner ++ " '" ∈ valueOpenings) :
    (s.check vocabulary).findings.countP (fun f => reportsPattern f.severity f.message)
      = found.length := by
  have hopening : ∀ pattern, (s.owner ++ " '").toList <+: (s.report pattern).message.toList := by
    intro pattern
    simp only [report, patternFinding, Finding.error, String.toList_append, List.append_assoc]
    rw [← List.append_assoc]
    exact List.prefix_append _ _
  have hreports : (found.map s.report).countP
      (fun f => reportsPattern f.severity f.message) = found.length := by
    rw [List.countP_map, List.countP_eq_length]
    exact fun pattern _ => decide_eq_true ⟨rfl, _, howner, hopening pattern⟩
  rw [findings_check h, List.countP_append, hreports]
  split <;> rfl

end Scan

theorem exists_labels_of_mem_scans (hends : (argumentValues ⟨d, c⟩).failure = none) {s : Scan}
    (hs : s ∈ scans d) :
    ∃ found, Injection.labels? (c.vocabulary .sqlKeywords) s.literal.content = .ok found := by
  rw [argumentValues_eq] at hends
  exact Scan.exists_labels_of_ends (Checked.ends_of_mem_each hends hs)

theorem countP_run (handle : Nat) (c : Context) (p : Severity → String → Bool) :
    ((rule handle).run c).findings.countP (fun e => p e.severity e.message)
      = (check c).findings.countP fun f => p f.severity f.message := by
  have h := congrArg (List.countP fun g => p g.1 g.2.1)
    (Rule.gists_run_ofCheck "SecurityRule" "SECURITY"
      "Introspection, sensitive fields, injection patterns and DoS limits" handle check c)
  rw [List.countP_map, List.countP_map] at h
  exact h

theorem countP_warns (hflag : c.flag .inputValidation = true)
    (hends : (check ⟨d, c⟩).failure = none) :
    (check ⟨d, c⟩).findings.countP (fun f => warnsOfCharacters f.severity f.message)
      = d.stringsBelowArguments.countP fun l => Injection.hasUnsafeCharacter l.content := by
  have hvalues := (Checked.ends_of_append (ends_validation hflag hends)).1
  have hscan : ∀ s ∈ scans d, (s.check (c.vocabulary .sqlKeywords)).findings.countP
      (fun f => warnsOfCharacters f.severity f.message)
        = if Injection.hasUnsafeCharacter s.literal.content then 1 else 0 := by
    intro s hs
    obtain ⟨found, hfound⟩ := exists_labels_of_mem_scans hvalues hs
    exact Scan.countP_warns_check hfound
  have hones : ∀ l : List StringLiteral,
      (l.map fun x => if Injection.hasUnsafeCharacter x.content then 1 else 0).sum
        = l.countP fun x => Injection.hasUnsafeCharacter x.content := by
    intro l
    induction l with
    | nil => rfl
    | cons x l ih => rw [List.map_cons, List.sum_cons, ih, List.countP_cons, Nat.add_comm]
  rw [countP_check (fun f hf => hf.warns) hflag hends,
    countP_argumentValues (fun l => if Injection.hasUnsafeCharacter l.content then 1 else 0) hvalues
      hscan, hones]

theorem countP_reports (hflag : c.flag .inputValidation = true)
    (hends : (check ⟨d, c⟩).failure = none) :
    ∃ found : StringLiteral → List String,
      (∀ l ∈ d.stringsBelowArguments,
        Injection.labels? (c.vocabulary .sqlKeywords) l.content = .ok (found l)) ∧
      (check ⟨d, c⟩).findings.countP (fun f => reportsPattern f.severity f.message)
        = (d.stringsBelowArguments.map fun l => (found l).length).sum := by
  have hvalues := (Checked.ends_of_append (ends_validation hflag hends)).1
  have hexists : ∀ l : StringLiteral, ∃ found, l ∈ d.stringsBelowArguments →
      Injection.labels? (c.vocabulary .sqlKeywords) l.content = .ok found := by
    intro l
    by_cases hl : l ∈ d.stringsBelowArguments
    · obtain ⟨s, hs, rfl⟩ := List.mem_map.mp ((map_literal_scans_perm d).mem_iff.mpr hl)
      obtain ⟨found, hfound⟩ := exists_labels_of_mem_scans hvalues hs
      exact ⟨found, fun _ => hfound⟩
    · exact ⟨[], fun h => absurd h hl⟩
  -- equal strings are scanned with the same answer, so the labels are a function of the string
  choose found hfound using hexists
  refine ⟨found, hfound, ?_⟩
  have hscan : ∀ s ∈ scans d, (s.check (c.vocabulary .sqlKeywords)).findings.countP
      (fun f => reportsPattern f.severity f.message) = (found s.literal).length := by
    intro s hs
    have hmem := (map_literal_scans_perm d).mem_iff.mp (List.mem_map_of_mem hs)
    exact Scan.countP_reports_check (hfound s.literal hmem) (owner_of_mem_scans hs)
  rw [countP_check (fun f hf => hf.reports) hflag hends,
    countP_argumentValues (fun l => (found l).length) hvalues hscan]

end Counting

/-- What is scanned are the strings that the walk of a document meets below an argument, each once.
With validation on, the check runs to its end over vocabularies of texts, and whenever it does, it
warns of each of these strings that holds a quote or a semicolon and reports every label of each. -/
theorem values_scanned_once (d : Document) :
    d.root.markedWalk.map Prod.snd = d.nodes ∧
    ((scans d).map (·.literal)).Perm d.stringsBelowArguments ∧
    ∀ c : Config,
      argumentValues ⟨d, c⟩ = .each (scans d) (Scan.check (c.vocabulary .sqlKeywords)) ∧
      (c.flag .inputValidation = true → ∀ handle,
        let o := (rule handle).run ⟨d, c⟩
        (c.TextsOnly → o.failure = none) ∧
        (o.failure = none →
          o.findings.countP (fun e => warnsOfCharacters e.severity e.message)
            = d.stringsBelowArguments.countP (fun l => '\'' ∈ l.content.toList
              ∨ '"' ∈ l.content.toList ∨ ';' ∈ l.content.toList) ∧
          ∃ found : StringLiteral → List String,
            (∀ l ∈ d.stringsBelowArguments,
              Injection.labels? (c.vocabulary .sqlKeywords) l.content = .ok (found l)) ∧
            o.findings.countP (fun e => reportsPattern e.severity e.message)
              = (d.stringsBelowArguments.map fun l => (found l).length).sum)) := by
  refine ⟨Node.map_snd_markedWalk d.root, map_literal_scans_perm d, fun c => ?_⟩
  refine ⟨argumentValues_eq d c, fun hflag handle => ⟨fun hc => ?_, fun hends => ⟨?_, ?_⟩⟩⟩
  · exact (yields_check (c := ⟨d, c⟩) hc).ends
  · rw [countP_run, countP_warns hflag hends]
    refine List.countP_congr fun l _ => ?_
    simp [Injection.hasUnsafeCharacter, Injection.unsafeCharacters]
  · obtain ⟨found, hfound, hcount⟩ := countP_reports hflag hends
    exact ⟨found, hfound, (countP_run ..).trans hcount⟩

end Security

/-- Strings in a nested list of an object, in a directive on a variable definition, and as a default
that is no argument. -/
def Document.quoting : Document :=
  let text (content : String) : Value := .string content false none
  let argument (name : String) (value : Value) : Argument := ⟨{ value := name }, value, none⟩
  let tag : Directive := ⟨{ value := "tag" }, [argument "label" (text "a; b")], none⟩
  let names : Value := .list [text "O'Neil", .list [text "plain"] none, text "<svg"] none
  { definitions :=
      [.operation ⟨.query, some { value := "Users" },
        [⟨⟨{ value := "limit" }, none⟩, .named ⟨{ value := "String" }, none⟩,
          some (text "it's a default"), [tag], none⟩], [],
        some ⟨[.field ⟨none, { value := "users" },
          [argument "where" (.object [⟨{ value := "names" }, names, none⟩] none)], [], none,
          none⟩], none⟩, none⟩] }

theorem Security.values_scanned_once_quoting :
    let d := Document.quoting
    let o := (rule 0).run ⟨d, .standard⟩
    d.stringsBelowArguments.map (·.content) = ["a; b", "O'Neil", "plain", "<svg"] ∧
      Config.standard.flag .inputValidation = true ∧ o.failure = none ∧
      o.findings.countP (fun e => warnsOfCharacters e.severity e.message) = 2 ∧
      o.findings.countP (fun e => reportsPattern e.severity e.message) = 3 := by
  intro d o
  have hstrings : d.stringsBelowArguments = [⟨"a; b", false, none⟩, ⟨"O'Neil", false, none⟩,
      ⟨"plain", false, none⟩, ⟨"<svg", false, none⟩] := by
    decide +kernel
  have hflag : Config.standard.flag .inputValidation = true := by
    decide +kernel
  obtain ⟨-, -, hall⟩ := values_scanned_once d
  obtain ⟨-, hcounts⟩ := hall .standard
  obtain ⟨hends, hcounts⟩ := hcounts hflag 0
  have hends := hends Linter.textsOnly_standard
  obtain ⟨hwarns, found, hfound, hreports⟩ := hcounts hends
  have hlabels : (d.stringsBelowArguments.map fun l => some (found l).length)
      = [some 1, some 1, some 0, some 1] := by
    have hsearch : (d.stringsBelowArguments.map fun l =>
        (Injection.labels? (Config.standard.vocabulary .sqlKeywords) l.content).toOption.map
          List.length) = [some 1, some 1, some 0, some 1] := by
      simp only [Injection.labels?_of_allTexts (Linter.textsOnly_standard _), hstrings]
      decide +kernel
    rw [← hsearch]
    refine List.map_congr_left fun l hl => ?_
    rw [hfound l hl]
    rfl
  have hlengths : (d.stringsBelowArguments.map fun l => (found l).length) = [1, 1, 0, 1] :=
    List.map_injective_iff.mpr (fun _ _ => Option.some.inj) (by rw [List.map_map]; exact hlabels)
  refine ⟨by rw [hstrings]; rfl, hflag, hends, ?_, ?_⟩
  · rw [hwarns, hstrings]
    decide +kernel
  · rw [hreports, hlengths]
    rfl

end QueryLint
