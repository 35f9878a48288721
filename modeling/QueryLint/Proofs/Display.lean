import QueryLint.Proofs.Disabling
import QueryLint.Proofs.History
import QueryLint.Proofs.Lexemes
import QueryLint.Proofs.Unopened
import QueryLint.Proofs.Vocabulary

/-! # What the lint command shows

Whatever the lowest severity and the format, the command fails exactly when some document has an
error, and what it shows of a document is the truth: all counts, and the graver findings up to some
point, among them every error. Only texts that it is given and prints as they are can make it break
down: names of files that hold tags, and ids that make one when they are listed.
-/

namespace QueryLint

open Console Console.Markup

/-! ## Printing -/

namespace Console

/-- What stands behind an item at fault is not printed. -/
theorem printItems_append (page : Page) (xs ys : List Item) :
    printItems page (xs ++ ys) = match printItems page xs with
      | (s, some f) => (s, some f)
      | (s, none) => (s ++ (printItems page ys).1, (printItems page ys).2) := by
  induction xs with
  | nil => simp [printItems]
  | cons x xs ih =>
    rw [List.cons_append, printItems, printItems]
    cases x.text page with
    | error f => rfl
    | ok s =>
      simp only [ih]
      obtain ⟨rest, fault⟩ := printItems page xs
      cases fault with
      | none => simp [String.append_assoc]
      | some f => rfl

end Console

namespace Command

/-! ## Lines of a listing -/

def lineStyles : List String :=
  ["bold", "red", "yellow", "blue", "green"]

theorem isStyle_of_mem {c : String} (h : c ∈ lineStyles) : IsStyle c := by
  simp only [lineStyles, List.mem_cons, List.not_mem_nil, or_false] at h
  rcases h with rfl | rfl | rfl | rfl | rfl <;>
    exact ⟨by decide, by decide, fun _ => rfl, fun _ => rfl, rfl⟩

def countsMarkup (errors warnings infos : Nat) : String :=
  "  [red]" ++ toString errors ++ " error(s)[/red]  [yellow]" ++ toString warnings
    ++ " warning(s)[/yellow]  [blue]" ++ toString infos ++ " info[/blue]"

def countsText (errors warnings infos : Nat) : String :=
  "  " ++ toString errors ++ " error(s)  " ++ toString warnings ++ " warning(s)  "
    ++ toString infos ++ " info"

theorem countLine_eq (name : String) (r : Report) : countLine name r = "[bold]" ++ name ++ "[/bold]"
    ++ countsMarkup r.errors.length r.warnings.length r.infos.length := by
  have hcut : "[/bold]  [red]" = "[/bold]" ++ "  [red]" := by decide
  rw [countLine, countsMarkup, hcut]
  simp only [String.append_assoc]

theorem inert_count (n : Nat) (noun : String) (h : noun.toList.all isInert = true) :
    (toString n ++ noun).toList.all isInert = true := by
  rw [String.toList_append, List.all_append, inert_toString, h, Bool.true_and]

theorem displays_counts (opened : List OpenTag) (errors warnings infos : Nat) :
    Displays opened [] 0 (countsMarkup errors warnings infos).toList
      (countsText errors warnings infos).toList := by
  have hgap : "  ".toList.all isInert = true := by decide
  have herrors := inert_count errors " error(s)" (by decide)
  have hwarnings := inert_count warnings " warning(s)" (by decide)
  have hinfos := inert_count infos " info" (by decide)
  have hend : Displays opened [] 0 [] [] := by
    have hnil := displays_nil opened [] 0
    rwa [List.reverse_nil, List.replicate_zero, List.append_nil, shown_nil] at hnil
  have hblue := (isStyle_of_mem (c := "blue") (by decide)).displays (not_mem_of_inert hgap)
    (not_mem_of_inert hinfos) hend
  have hyellow := (isStyle_of_mem (c := "yellow") (by decide)).displays (not_mem_of_inert hgap)
    (not_mem_of_inert hwarnings) hblue
  have hred := (isStyle_of_mem (c := "red") (by decide)).displays (not_mem_of_inert hgap)
    (not_mem_of_inert herrors) hyellow
  simp only [(plain_of_inert hgap).shown_eq, (plain_of_inert herrors).shown_eq,
    (plain_of_inert hwarnings).shown_eq, (plain_of_inert hinfos).shown_eq] at hred
  convert hred using 1
  · simp [countsMarkup]
  · simp [countsText]

theorem render_countLine {name : String} (h : Untagged name.toList) (r : Report) :
    ∃ label, (name.toList.getLast? ≠ some '\\' → label = String.ofList (shown name.toList)) ∧
      Markup.render (countLine name r)
        = .ok (label ++ countsText r.errors.length r.warnings.length r.infos.length) := by
  obtain ⟨label, hlabel, hdisplays⟩ := (isStyle_of_mem (c := "bold") (by decide)).displays_untagged
    [] h fun opened => displays_counts opened r.errors.length r.warnings.length r.infos.length
  have hline : Displays [] [] 0 (countLine name r).toList
      (label ++ (countsText r.errors.length r.warnings.length r.infos.length).toList) := by
    have hopen : "[bold]".toList = '[' :: ("bold".toList ++ [']']) := by decide
    have hclose : "[/bold]".toList = '[' :: (('/' :: "bold".toList) ++ [']']) := by decide
    simpa only [countLine_eq, String.toList_append, hopen, hclose, List.cons_append,
      List.append_assoc, List.nil_append] using hdisplays
  refine ⟨String.ofList label, fun hlast => ?_, ?_⟩
  · rw [hlabel hlast]
  · rw [hline.render_eq, String.ofList_append, String.ofList_toList]

/-- Behind a caption a text shows, or breaks down, as it does alone. -/
theorem render_captioned {c caption : String} (hc : c ∈ lineStyles)
    (hcaption : '[' ∉ caption.toList ∧ '\\' ∉ caption.toList)
    (hshown : shown caption.toList = caption.toList) (text : String) :
    Markup.render ("[" ++ c ++ "]" ++ caption ++ "[/" ++ c ++ "] " ++ text)
      = (Markup.render text).map (caption ++ " " ++ ·) := by
  have hline : ("[" ++ c ++ "]" ++ caption ++ "[/" ++ c ++ "] " ++ text).toList
      = '[' :: (c.toList ++ ']' :: (caption.toList ++ '[' :: (('/' :: c.toList)
        ++ ']' :: ' ' :: text.toList))) := by
    simp
  rw [(isStyle_of_mem hc).render_behind hcaption hline, hshown, String.ofList_toList]

theorem render_emptyLine (name : String) :
    Markup.render ("[green]No issues found:[/green] " ++ name)
      = (Markup.render name).map ("No issues found: " ++ ·) := by
  have hline : "[green]No issues found:[/green] "
      = "[" ++ "green" ++ "]" ++ "No issues found:" ++ "[/" ++ "green" ++ "] " := by decide
  have hcaption : "No issues found: " = "No issues found:" ++ " " := by decide
  rw [hline, hcaption]
  exact render_captioned (by decide) (by decide) (by decide +kernel) name

/-! ## The notice of unknown ids -/

theorem unopened_of_mem_disabledIds {text id : String} (h : Unopened text.toList)
    (hid : id ∈ disabledIds text) : Unopened id.toList := by
  obtain ⟨part, hpart, -, rfl⟩ := mem_disabledIds_iff.mp hid
  have hpiece := (isInfix_strip part).trans ((infix_of_splitAt ',' text.toList).1 part hpart)
  rw [String.toList_ofList]
  have hstripped : Unopened (Text.strip part) := List.IsChain.infix h hpiece
  exact hstripped.upper

theorem untagged_ids {ids : List String} (h : ∀ id ∈ ids, Unopened id.toList) :
    Untagged (", ".intercalate ids).toList := by
  rw [String.toList_intercalate]
  exact (unopened_intercalate (by decide) (by decide) (List.forall_mem_map.mpr h)).untagged

theorem unopened_of_mem_knownIds {id : String} (h : id ∈ knownIds) : Unopened id.toList := by
  have hids : ∀ id ∈ builtinRules.map (·.id), '[' ∉ id.toList := by decide
  exact unopened_of_not_mem (hids id (List.mem_mergeSort.mp h))

theorem printItems_unknownNotice (page : Page) {text : String} (h : Unopened text.toList) :
    (printItems page (unknownNotice (disabledIds text))).2 = none := by
  have hunknown : Untagged (", ".intercalate
      ((disabledIds text).filter fun id => !knownIds.contains id)).toList :=
    untagged_ids fun id hid => unopened_of_mem_disabledIds h (List.mem_of_mem_filter hid)
  have hknown : Untagged ("  Known: ".toList ++ (", ".intercalate knownIds).toList) :=
    (untagged_ids fun id => unopened_of_mem_knownIds).append (by decide)
  obtain ⟨label, -, hdisplays⟩ := (isStyle_of_mem (c := "yellow") (by decide)).displays_untagged
    [] (hunknown.append (s := "Unknown rule ID(s): ".toList) (by decide))
    fun opened => displays_untagged opened hknown
  unfold unknownNotice
  split
  · rfl
  · have hline : Displays [] [] 0 ("[yellow]Unknown rule ID(s): " ++ ", ".intercalate
        ((disabledIds text).filter fun id => !knownIds.contains id)
          ++ "[/yellow]  Known: " ++ ", ".intercalate knownIds).toList
        (label ++ shown ("  Known: ".toList ++ (", ".intercalate knownIds).toList)) := by
      convert hdisplays using 1
      simp
    simp only [printItems, Item.text, hline.render_eq, Except.map]

/-! ## What is shown of a document -/

/-- One document in the output of the command. The label is what shows of the name of its file. -/
structure Showing where
  file : String
  label : String
  summary : String
  errors : Nat
  warnings : Nat
  infos : Nat
  issues : List Diagnostic

namespace Showing

/-- The line above the findings. -/
def heading (s : Showing) : String :=
  if s.issues.isEmpty then "No issues found: " ++ s.label
  else s.label ++ countsText s.errors s.warnings s.infos

def text (page : Page) (s : Showing) : String :=
  "\n" ++ Item.joinLines (wrapped .fold page.width s.heading.toList) ++ "\n"
    ++ if s.issues.isEmpty then "" else Item.joinLines ((findingGrid s.issues).lines page) ++ "\n"

def json (s : Showing) : Json :=
  .object
    [⟨"file", .text s.file⟩, ⟨"summary", .text s.summary⟩, ⟨"errors", .int s.errors⟩,
     ⟨"warnings", .int s.warnings⟩, ⟨"info", .int s.infos⟩,
     ⟨"issues", .array (s.issues.map findingJson)⟩]

end Showing

def Format.page (format : Format) (page : Page) (showings : List Showing) : String :=
  match format with
  | .text => String.join (showings.map (Showing.text page))
  | .json => Json.render (.array (showings.map Showing.json)) ++ "\n"

/-- What is shown of a document is true of its report: the counts are those of all findings, and the
findings listed are the first ones, as far as the lowest severity goes and with every error among
them. A row of the listing has all of a finding. -/
structure Shows (lowest : Severity) (name : String) (r : Report) (s : Showing) : Prop where
  file : s.file = name
  label : Plain name.toList → s.label = name
  summary : s.summary = r.summary
  errors : s.errors = countOf r.toList .error
  warnings : s.warnings = countOf r.toList .warning
  infos : s.infos = countOf r.toList .info
  first : s.issues <+: r.toList
  listed : s.issues = r.toList.filter fun d => lowest ≤ d.severity
  grave : ∀ d ∈ r.toList, d.severity = .error → d ∈ s.issues
  quiet : s.heading = "No issues found: " ++ s.label → ∀ d ∈ r.toList, d.severity ≠ .error
  rows : ∀ d ∈ s.issues, ∃ message, Markup.render (Markup.escape d.message) = .ok message ∧
    findingRow d = [d.ruleId, d.severity.lowerName, locationText d, message]

theorem findingRow_eq (d : Diagnostic) :
    ∃ message, Markup.render (Markup.escape d.message) = .ok message ∧
      findingRow d = [d.ruleId, d.severity.lowerName, locationText d, message] := by
  obtain ⟨message, hmessage⟩ := exists_render_escape d.message
  exact ⟨message, hmessage, by rw [findingRow, messageText, hmessage]⟩

/-- The heading says that there are no issues only if none is listed. -/
theorem Showing.issues_of_heading {s : Showing} (h : s.heading = "No issues found: " ++ s.label) :
    s.issues = [] := by
  unfold heading at h
  split at h
  · next hempty => exact List.isEmpty_iff.mp hempty
  · have hlength := congrArg String.length h
    simp only [countsText, String.length_append] at hlength
    have hnouns : " error(s)  ".length = 11 ∧ " warning(s)  ".length = 13 ∧
        "No issues found: ".length = 17 := by decide
    omega

theorem Severity.le_error (s : Severity) : s ≤ .error := by
  cases s <;> decide

/-- Whatever label is shown, what a report says of itself is true. -/
theorem shows_of_log (log : List Diagnostic) (lowest : Severity) {name label : String}
    (hlabel : Plain name.toList → label = name) :
    Shows lowest name (.ofList log)
      { file := name, label, summary := (Report.ofList log).summary
        errors := (Report.ofList log).errors.length
        warnings := (Report.ofList log).warnings.length
        infos := (Report.ofList log).infos.length
        issues := (Report.ofList log).atLeast lowest } := by
  have hcount : ∀ s, ((Report.ofList log).ofSeverity s).length
      = countOf (Report.ofList log).toList s := by
    intro s
    rw [Report.ofSeverity_ofList, ← List.countP_eq_length_filter, countOf,
      (Report.toList_ofList_perm log).countP_eq]
  have hgrave : ∀ d ∈ (Report.ofList log).toList, d.severity = .error →
      d ∈ (Report.ofList log).atLeast lowest :=
    fun d hd herror => List.mem_filter.mpr ⟨hd, by simp [herror, Severity.le_error]⟩
  exact {
    file := rfl
    label := hlabel
    summary := rfl
    errors := hcount .error
    warnings := hcount .warning
    infos := hcount .info
    first := (Report.atLeast_ofList log lowest).1
    listed := rfl
    grave := hgrave
    quiet := fun hheading d hd herror => by
      have hnone : (Report.ofList log).atLeast lowest = [] := Showing.issues_of_heading hheading
      have hmem := hgrave d hd herror
      rw [hnone] at hmem
      cases hmem
    rows := fun d _ => findingRow_eq d }

theorem printItems_unlisted (page : Page) {lowest : Severity} (name : String) {r : Report}
    (h : r.atLeast lowest = []) :
    printItems page (textItems lowest name r) = match Markup.render name with
      | .ok label => ("\n" ++ Item.joinLines (wrapped .fold page.width
          ("No issues found: " ++ label).toList) ++ "\n", none)
      | .error f => ("\n", some f) := by
  simp only [textItems, h, printItems, Item.text, render_emptyLine]
  cases Markup.render name <;> simp [Except.map, String.append_assoc]

theorem printItems_listed (page : Page) {lowest : Severity} (name : String) {r : Report}
    (h : r.atLeast lowest ≠ []) :
    printItems page (textItems lowest name r) = match Markup.render (countLine name r) with
      | .ok header => ("\n" ++ Item.joinLines (wrapped .fold page.width header.toList) ++ "\n"
          ++ Item.joinLines ((findingGrid (r.atLeast lowest)).lines page) ++ "\n", none)
      | .error f => ("\n", some f) := by
  obtain ⟨d, ds, hds⟩ := List.exists_cons_of_ne_nil h
  simp only [textItems, hds, printItems, Item.text]
  cases Markup.render (countLine name r) <;> simp [Except.map, String.append_assoc]

theorem printItems_textItems (page : Page) {name : String} (h : Untagged name.toList)
    (log : List Diagnostic) (lowest : Severity) : ∃ s, Shows lowest name (.ofList log) s ∧
      printItems page (textItems lowest name (.ofList log)) = (s.text page, none) := by
  by_cases hissues : (Report.ofList log).atLeast lowest = []
  · have hlabel : Plain name.toList → String.ofList (shown name.toList) = name :=
      fun hplain => by rw [hplain.shown_eq, String.ofList_toList]
    refine ⟨_, shows_of_log log lowest hlabel, ?_⟩
    rw [printItems_unlisted page name hissues, render_untagged h]
    simp only [Showing.text, Showing.heading, hissues, List.isEmpty_nil, if_true,
      String.append_empty]
  · obtain ⟨label, hlabel, hline⟩ := render_countLine h (.ofList log)
    have hlabel : Plain name.toList → label = name := fun hplain => by
      rw [hlabel (getLast?_ne_of_not_mem hplain.unescaped), hplain.shown_eq, String.ofList_toList]
    refine ⟨_, shows_of_log log lowest hlabel, ?_⟩
    rw [printItems_listed page name hissues, hline]
    have hlisted : ((Report.ofList log).atLeast lowest).isEmpty = false := by simpa using hissues
    simp only [Showing.text, Showing.heading, hlisted, Bool.false_eq_true, if_false,
      String.append_assoc]

variable {lowest : Severity} {reports : List (String × Report)}

theorem printItems_reports_text (page : Page) (hnames : ∀ p ∈ reports, Untagged p.1.toList)
    (hlogs : ∀ p ∈ reports, ∃ log, p.2 = .ofList log) :
    ∃ showings, List.Forall₂ (fun p s => Shows lowest p.1 p.2 s) reports showings ∧
      printItems page (reportItems .text lowest reports)
        = (Format.text.page page showings, none) := by
  induction reports with
  | nil => exact ⟨[], .nil, rfl⟩
  | cons p reports ih =>
    obtain ⟨hname, hnames⟩ := List.forall_mem_cons.mp hnames
    obtain ⟨⟨log, hlog⟩, hlogs⟩ := List.forall_mem_cons.mp hlogs
    obtain ⟨showings, hshowings, hprinted⟩ := ih hnames hlogs
    obtain ⟨s, hs, htext⟩ := printItems_textItems page hname log lowest
    rw [← hlog] at hs htext
    refine ⟨s :: showings, .cons hs hshowings, ?_⟩
    have happend : reportItems .text lowest (p :: reports)
        = textItems lowest p.1 p.2 ++ reportItems .text lowest reports := rfl
    rw [happend, printItems_append, htext, hprinted]
    simp [Format.page, String.join_cons]

theorem printItems_reports_json (page : Page) (hlogs : ∀ p ∈ reports, ∃ log, p.2 = .ofList log) :
    ∃ showings, List.Forall₂ (fun p s => Shows lowest p.1 p.2 s) reports showings ∧
      printItems page (reportItems .json lowest reports)
        = (Format.json.page page showings, none) := by
  suffices h : ∃ showings, List.Forall₂ (fun p s => Shows lowest p.1 p.2 s) reports showings ∧
      reports.map (fun p => reportJson lowest p.1 p.2) = showings.map Showing.json by
    obtain ⟨showings, hshowings, hjson⟩ := h
    refine ⟨showings, hshowings, ?_⟩
    rw [Format.page, ← hjson]
    simp [reportItems, printItems, Item.text]
  induction reports with
  | nil => exact ⟨[], .nil, rfl⟩
  | cons p reports ih =>
    obtain ⟨⟨log, hlog⟩, hlogs⟩ := List.forall_mem_cons.mp hlogs
    obtain ⟨showings, hshowings, hjson⟩ := ih hlogs
    have hlabel : Plain p.1.toList → p.1 = p.1 := fun _ => rfl
    have hp := shows_of_log log lowest hlabel
    rw [← hlog] at hp
    exact ⟨_ :: showings, .cons hp hshowings, by rw [List.map_cons, hjson]; rfl⟩

/-! ## Runs -/

theorem exists_lint_eq_ofList (l : Linter) (input : Input) : ∃ log, l.lint input = .ofList log := by
  by_cases hnothing : input = .nothing
  · exact ⟨[], by rw [hnothing]; rfl⟩
  · cases hd : input.document? with
    | some d =>
      rw [Linter.lint_of_document? l hd, Linter.lintContext, Linter.runRules_eq_ofList]
      exact ⟨_, rfl⟩
    | none =>
      obtain ⟨e, -, he⟩ := Linter.prepare_of_document?_eq_none hd hnothing
      exact ⟨[e], by rw [Linter.lint, he]⟩

theorem exists_log_of_mem_reports (job : LintJob) (documents : List (String × List Char)) :
    ∀ p ∈ job.reports documents, ∃ log, p.2 = .ofList log := by
  intro p hp
  obtain ⟨document, -, rfl⟩ := List.mem_map.mp hp
  exact exists_lint_eq_ofList job.linter (.text document.2)

theorem map_fst_readDocuments {tree : FileTree String} {input : String} {files : List String}
    {documents : List (String × List Char)} (h : readDocuments tree input files = .ok documents) :
    documents.map Prod.fst = files := by
  induction files generalizing input documents with
  | nil =>
    cases h
    rfl
  | cons name files ih =>
    rw [readDocuments] at h
    split at h
    · obtain ⟨rest, hrest, h⟩ := exists_of_bind_eq_ok h
      cases h
      rw [List.map_cons, ih hrest]
    · obtain ⟨text, -, h⟩ := exists_of_bind_eq_ok h
      obtain ⟨rest, hrest, h⟩ := exists_of_bind_eq_ok h
      cases h
      rw [List.map_cons, ih hrest]

def AnyError (reports : List (String × Report)) : Prop :=
  ∃ p ∈ reports, ∃ d ∈ p.2.toList, d.severity = .error

theorem exitCodeOf_eq (hlogs : ∀ p ∈ reports, ∃ log, p.2 = .ofList log) :
    (exitCodeOf reports = 1 ↔ AnyError reports) ∧
      (exitCodeOf reports = 0 ↔ ¬ AnyError reports) := by
  have hany : (reports.any fun p => p.2.hasErrors) = true ↔ AnyError reports := by
    rw [List.any_eq_true]
    refine exists_congr fun p => and_congr_right fun hp => ?_
    obtain ⟨log, hlog⟩ := hlogs p hp
    rw [Report.hasErrors_iff, hlog, Report.ofSeverity_ofList]
    simp [List.filter_eq_nil_iff, (Report.toList_ofList_perm log).mem_iff]
  unfold exitCodeOf
  split
  · next herror => simp [hany.mp herror]
  · next herror => simp [mt hany.mpr herror]

theorem eq_ok_of_toOption {ε α : Type} {e : Except ε α} {a : α} (h : e.toOption = some a) :
    e = .ok a := by
  cases e with
  | error reason => cases h
  | ok b => exact congrArg _ (Option.some.inj h)

variable {w : World} {r : LintRequest} {job : LintJob} {documents : List (String × List Char)}

/-- A run that gets as far as linting prints the notice and its page and ends with its code, or
breaks down at the notice. -/
theorem lint_eq (hjob : readJob w r = .ok job)
    (hdocuments : readDocuments w.tree w.input r.files = .ok documents)
    (hnames : ∀ name ∈ r.files, Untagged name.toList) :
    ∃ showings,
      List.Forall₂ (fun p s => Shows job.lowest p.1 p.2 s) (job.reports documents) showings ∧
      ((printItems w.page (unknownNotice job.disabled)).2 = none → lint w r =
        { exitCode := exitCodeOf (job.reports documents)
          output := (printItems w.page (unknownNotice job.disabled)).1
            ++ job.format.page w.page showings }) ∧
      ∀ f, (printItems w.page (unknownNotice job.disabled)).2 = some f → lint w r =
        { exitCode := 1, output := (printItems w.page (unknownNotice job.disabled)).1
          crash := some (.markup f) } := by
  have hlogs := exists_log_of_mem_reports job documents
  have hfiles : ∀ p ∈ job.reports documents, Untagged p.1.toList := by
    intro p hp
    obtain ⟨document, hdocument, rfl⟩ := List.mem_map.mp hp
    exact hnames _ (map_fst_readDocuments hdocuments ▸ List.mem_map_of_mem hdocument)
  have hpage : ∃ showings,
      List.Forall₂ (fun p s => Shows job.lowest p.1 p.2 s) (job.reports documents) showings ∧
      printItems w.page (reportItems job.format job.lowest (job.reports documents))
        = (job.format.page w.page showings, none) := by
    cases job.format with
    | text => exact printItems_reports_text w.page hfiles hlogs
    | json => exact printItems_reports_json w.page hlogs
  obtain ⟨showings, hshowings, hprinted⟩ := hpage
  refine ⟨showings, hshowings, ?_⟩
  simp only [lint, hjob, hdocuments, Result.ofItems, printItems_append, hprinted]
  rcases printItems w.page (unknownNotice job.disabled) with ⟨notice, _ | f⟩
  · exact ⟨fun _ => rfl, fun _ hf => (by cases hf)⟩
  · exact ⟨fun hnone => (by cases hnone), fun _ hf => (by cases hf; rfl)⟩

/-- The severity and the format have no part in what is reported. -/
theorem reports_eq_of_readConfig {r' : LintRequest} {job' : LintJob} (hjob : readJob w r = .ok job)
    (hjob' : readJob w r' = .ok job') (hconfig : readConfig w r' = readConfig w r)
    (hdisable : r'.disable = r.disable) : job'.reports documents = job.reports documents := by
  obtain ⟨hread, hdisabled⟩ := readJob_eq_ok hjob
  obtain ⟨hread', hdisabled'⟩ := readJob_eq_ok hjob'
  have hsame : job'.config = job.config := by
    rw [hconfig, hread] at hread'
    exact (Except.ok.inj hread').symm
  rw [LintJob.reports, LintJob.reports, LintJob.linter, LintJob.linter, hsame, hdisabled,
    hdisabled', hdisable]

/-- A run that reads its configuration and all its files fails exactly if some document has an
error, and what it shows is true of all documents, unless the list of unknown ids is at fault: then
it breaks down. The code is the same for every severity and format. The list is not at fault if no
tag begins in the text of disabled ids. -/
theorem lint_fails_iff_anyError (hjob : readJob w r = .ok job)
    (hdocuments : readDocuments w.tree w.input r.files = .ok documents)
    (hnames : ∀ name ∈ r.files, Untagged name.toList) :
    let reports := job.reports documents
    let notice := printItems w.page (unknownNotice job.disabled)
    let result := lint w r
    (notice.2 = none → result.crash = none ∧
      (result.exitCode = 1 ↔ AnyError reports) ∧ (result.exitCode = 0 ↔ ¬ AnyError reports) ∧
      reports.map Prod.fst = r.files ∧
      ∃ showings, List.Forall₂ (fun p s => Shows job.lowest p.1 p.2 s) reports showings ∧
        result.output = notice.1 ++ job.format.page w.page showings) ∧
    (∀ f, notice.2 = some f →
      result = { exitCode := 1, output := notice.1, crash := some (.markup f) }) ∧
    (∀ severity format other, readJob w { r with severity, format } = .ok other →
      (lint w { r with severity, format }).exitCode = result.exitCode) ∧
    (Unopened r.disable.toList → notice.2 = none) := by
  intro reports notice result
  obtain ⟨showings, hshowings, hfine, hbroken⟩ := lint_eq hjob hdocuments hnames
  have hdisabled := (readJob_eq_ok hjob).2
  refine ⟨fun hnone => ?_, hbroken, fun severity format other hother => ?_, fun hdisable => ?_⟩
  · obtain ⟨hfails, hpasses⟩ := exitCodeOf_eq (exists_log_of_mem_reports job documents)
    have hresult : result = _ := hfine hnone
    have hcode : result.exitCode = exitCodeOf reports := congrArg Result.exitCode hresult
    refine ⟨congrArg Result.crash hresult, by rwa [hcode], by rwa [hcode], ?_, showings, hshowings,
      congrArg Result.output hresult⟩
    rw [← map_fst_readDocuments hdocuments]
    exact List.map_map
  · obtain ⟨_, -, hfine', hbroken'⟩ :=
      lint_eq (r := { r with severity, format }) hother hdocuments hnames
    have hreports : other.reports documents = reports :=
      reports_eq_of_readConfig hjob hother rfl rfl
    have hids : other.disabled = job.disabled := (readJob_eq_ok hother).2.trans hdisabled.symm
    rw [hids, hreports] at hfine'
    rw [hids] at hbroken'
    cases hnotice : (printItems w.page (unknownNotice job.disabled)).2 with
    | none =>
      rw [hfine' hnotice]
      exact (congrArg Result.exitCode (hfine hnotice)).symm
    | some f =>
      rw [hbroken' f hnotice]
      exact (congrArg Result.exitCode (hbroken f hnotice)).symm
  · rw [show notice = printItems w.page (unknownNotice job.disabled) from rfl, hdisabled]
    exact printItems_unknownNotice w.page hdisable

theorem sortTexts_eq {texts sorted : List String} (hperm : texts.Perm sorted)
    (hsorted : sorted.Pairwise (· ≤ ·)) : Data.sortTexts texts = sorted := by
  have hsame : (Data.sortTexts texts).Perm sorted := (List.mergeSort_perm texts _).trans hperm
  exact hsame.eq_of_pairwise (fun a b _ _ => String.le_antisymm) (Term.sortTexts_pairwise texts)
    hsorted

theorem lint_of_no_rules {config : Config} {s : List Char} {d : Document}
    (h : Document.parse s = .ok d) : Linter.lint ⟨config, []⟩ (.text s) = {} := by
  rw [Linter.lint, Linter.prepare_text_of_parse h]
  rfl

/-- A text of ids that holds no tag, although two of its ids make one when they are listed in
order. -/
def reordered : String := "],[/a,style,best_practice,performance,security"

theorem disabledIds_reordered : disabledIds reordered
    = ["BEST_PRACTICE", "PERFORMANCE", "SECURITY", "STYLE", "[/A", "]"] := by
  have hparts : (((Text.splitAt ',' reordered.toList).map Text.strip).filter
      fun p => !p.isEmpty).map (fun p => String.ofList (Text.upper p))
        = ["]", "[/A", "STYLE", "BEST_PRACTICE", "PERFORMANCE", "SECURITY"] := by
    decide +kernel
  have hsorted : Data.sortTexts ["]", "[/A", "STYLE", "BEST_PRACTICE", "PERFORMANCE", "SECURITY"]
      = ["BEST_PRACTICE", "PERFORMANCE", "SECURITY", "STYLE", "[/A", "]"] :=
    sortTexts_eq (by decide) (by decide)
  rw [disabledIds, hparts, hsorted]
  decide

theorem printItems_reordered (page : Page) :
    printItems page (unknownNotice (disabledIds reordered)) = ("", some (.unmatched "/A, ")) := by
  have hknown : ∀ id, knownIds.contains id = (builtinRules.map (·.id)).contains id := by
    intro id
    simp [knownIds, Data.sortTexts]
  have hunknown : ((disabledIds reordered).filter fun id => !knownIds.contains id)
      = ["[/A", "]"] := by
    rw [disabledIds_reordered]
    simp only [hknown]
    decide
  have hline : ("[yellow]Unknown rule ID(s): " ++ ", ".intercalate ["[/A", "]"]
      ++ "[/yellow]  Known: " ++ ", ".intercalate knownIds).toList
        = '[' :: ("yellow".toList ++ ']' :: ("Unknown rule ID(s): ".toList ++ '[' :: ("/A, ".toList
          ++ ']' :: ("[/yellow]  Known: " ++ ", ".intercalate knownIds).toList))) := by
    simp
  have hfault := (isStyle_of_mem (c := "yellow") (by decide)).render_error (by decide) (by decide)
    (show applyTag [⟨"yellow", none⟩] "/A, ".toList = .error (.unmatched "/A, ") from rfl) hline
  rw [unknownNotice, hunknown]
  simp only [printItems, Item.text, hfault, Except.map]

/-- No document has an error, since all rules are disabled, but the run breaks down. A bracket that
begins no tag does no harm. -/
theorem lint_fails_iff_anyError_reordered :
    let w : World :=
      { tree := { files := [(Path.ofText "a[1].graphql", "query GetOne \x7b one \x7d")] } }
    let r : LintRequest := { files := ["a[1].graphql"], disable := reordered }
    ∃ job documents, readJob w r = .ok job ∧
      readDocuments w.tree w.input r.files = .ok documents ∧
      Untagged r.disable.toList ∧ ¬ AnyError (job.reports documents) ∧
      lint w r = { exitCode := 1, crash := some (.markup (.unmatched "/A, ")) } ∧
      (lint w { r with disable := "[None]" }).crash = none := by
  intro w r
  have hnames : ∀ name ∈ r.files, Untagged name.toList := by decide
  have hreads : (readJob w r).toOption.isSome = true := by decide +kernel
  obtain ⟨job, hjob⟩ := Option.isSome_iff_exists.mp hreads
  replace hjob := eq_ok_of_toOption hjob
  have hdocuments : (readDocuments w.tree w.input r.files).toOption
      = some [("a[1].graphql", "query GetOne \x7b one \x7d".toList)] := by
    decide +kernel
  replace hdocuments := eq_ok_of_toOption hdocuments
  have hnone : ¬ AnyError (job.reports
      [("a[1].graphql", "query GetOne \x7b one \x7d".toList)]) := by
    have hparse : (Document.parse "query GetOne \x7b one \x7d".toList).toOption.isSome = true := by
      decide +kernel
    obtain ⟨d, hd⟩ := Option.isSome_iff_exists.mp hparse
    have hkept : keptRules r.disable = [] := List.isEmpty_iff.mp (by decide +kernel)
    rw [reports_eq hjob, hkept]
    rintro ⟨p, hp, e, he, -⟩
    cases List.mem_singleton.mp hp
    simp only [lint_of_no_rules (eq_ok_of_toOption hd)] at he
    cases he
  have hresult := (lint_fails_iff_anyError hjob hdocuments hnames).2.1 (.unmatched "/A, ")
  rw [(readJob_eq_ok hjob).2, printItems_reordered] at hresult
  have hreads' : (readJob w { r with disable := "[None]" }).toOption.isSome = true := by
    decide +kernel
  obtain ⟨other, hother⟩ := Option.isSome_iff_exists.mp hreads'
  obtain ⟨hfine, -, -, hnotice⟩ := lint_fails_iff_anyError (r := { r with disable := "[None]" })
    (eq_ok_of_toOption hother) hdocuments hnames
  exact ⟨job, _, hjob, hdocuments, by decide, hnone, hresult rfl, (hfine (hnotice (by decide))).1⟩

end Command

end QueryLint
