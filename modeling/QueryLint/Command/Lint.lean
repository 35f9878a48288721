import QueryLint.ConfigFile.Load
import QueryLint.Console.JsonText
import QueryLint.Console.Page
import QueryLint.Linter.Basic
import QueryLint.Log.Journal

/-! # The lint command

Lints documents one after the other and reports what was found, as text or as JSON. A lowest
severity leaves out what is reported of lesser findings, but neither the counts nor the exit code
depend on it: the command fails if any document has an error.
-/

namespace QueryLint.Command

open Console

/-- What a command sees of its surroundings. -/
structure World where
  tree : FileTree String := {}
  env : Table String := {}
  input : String := ""
  host : ConfigFile.Host := .standard
  page : Page := { width := 80 }

/-- How a command breaks down instead of reporting. -/
inductive Crash
  | logging (r : Log.Refusal)
  | markup (f : MarkupFault)
  | load (f : LoadFault)
  /-- A path that holds a null character. -/
  | nullName
  deriving DecidableEq, Repr

structure Result where
  exitCode : Nat := 0
  output : String := ""
  crash : Option Crash := none
  deriving DecidableEq, Repr

/-- Prints items; broken markup makes the command break down. -/
def Result.ofItems (page : Page) (items : List Item) (exitCode : Nat) : Result :=
  match printItems page items with
  | (output, none) => { exitCode, output }
  | (output, some f) => { exitCode := 1, output, crash := some (.markup f) }

structure LintRequest where
  files : List String
  preset : Option String := none
  config : Option Path := none
  severity : String := "info"
  format : String := "text"
  disable : String := ""
  deriving Repr

inductive Format
  | text
  | json
  deriving DecidableEq, Repr

/-- Why a request cannot be carried out: a line to print, or a breakdown. -/
inductive Stop
  | line (markup : String)
  | crash (c : Crash)

/-! ## Checking the request -/

def readSeverity (name : String) : Except Stop Severity :=
  match Severity.parse? name with
  | some s => .ok s
  | none => .error (.line ("[red]Invalid severity '" ++ name
      ++ "'.[/red] Choose from: error, warning, info"))

def readFormat (name : String) : Except Stop Format :=
  match name with
  | "text" => .ok .text
  | "json" => .ok .json
  | _ => .error (.line ("[red]Invalid format '" ++ name ++ "'.[/red] Choose from: text, json"))

/-- The preset that is asked for; an empty name asks for none. -/
def LintRequest.presetName (r : LintRequest) : Option String :=
  r.preset.filter (· ≠ "")

def configurationStop (p : Problem) : Stop :=
  .line ("[red]Configuration Error:[/red] " ++ p.message)

def readConfig (w : World) (r : LintRequest) : Except Stop Config :=
  match r.presetName, r.config with
  | some _, some _ => .error (.line "[red]Use either --preset or --config, not both.[/red]")
  | some name, none => (Preset.find name).mapError configurationStop
  | none, path => (ConfigFile.load w.host w.tree w.env (path.map .path)).mapError fun f =>
      match f.problem? with
      | some p => configurationStop p
      | none => .crash (.load f)

/-! ## Disabled rules -/

/-- The rule ids in a text, divided by commas, in any case. -/
def disabledIds (s : String) : List String :=
  let parts := ((Text.splitAt ',' s.toList).map Text.strip).filter fun p => !p.isEmpty
  (Data.sortTexts (parts.map fun p => String.ofList (Text.upper p))).eraseDups

def knownIds : List String :=
  Data.sortTexts (builtinRules.map (·.id))

/-- Says which of the disabled rules do not exist. -/
def unknownNotice (ids : List String) : List Item :=
  match ids.filter fun id => !knownIds.contains id with
  | [] => []
  | unknown => [.markup ("[yellow]Unknown rule ID(s): " ++ ", ".intercalate unknown
      ++ "[/yellow]  Known: " ++ ", ".intercalate knownIds)]

/-! ## Reading documents -/

def fileStop (number : Nat) (reason : String) (p : Path) : Stop :=
  .line ("[red]File Error:[/red] [Errno " ++ toString number ++ "] " ++ reason ++ ": "
    ++ Text.quoted p.toText)

def inputName : String := "-"

def readFile (tree : FileTree String) (name : String) : Except Stop String :=
  let p := Path.ofText name
  if p.hasNull then .error (.crash .nullName)
  else match tree.find p with
  | .file text => .ok text
  | .directory => .error (fileStop 21 "Is a directory" p)
  | .missing => .error (fileStop 2 "No such file or directory" p)
  | .blocked => .error (fileStop 20 "Not a directory" p)
  | .tooLong => .error (fileStop 36 "File name too long" p)

/-- The documents of a request with their names. The standard input is used up by its first
mention. -/
def readDocuments (tree : FileTree String) (input : String) :
    List String → Except Stop (List (String × List Char))
  | [] => .ok []
  | name :: rest => do
    if name = inputName then
      return (name, Text.unifyBreaks input.toList) :: (← readDocuments tree "" rest)
    else
      let text ← readFile tree name
      return (name, Text.unifyBreaks text.toList) :: (← readDocuments tree input rest)

/-! ## Reporting -/

/-- The place of a finding in the listing. -/
def locationText (d : Diagnostic) : String :=
  match d.line with
  | none => d.path.getD ""
  | some l =>
    let c := match d.column with
      | none => 1
      | some c => if c = 0 then 1 else c
    toString l ++ ":" ++ toString c

/-- A message in which brackets stand for themselves. -/
def messageText (m : String) : String :=
  match Markup.render (Markup.escape m) with
  | .ok s => s
  | .error _ => m

def findingRow (d : Diagnostic) : List String :=
  [d.ruleId, d.severity.lowerName, locationText d, messageText d.message]

def findingGrid (ds : List Diagnostic) : Grid :=
  { columns := [{ header := "Rule", wraps := false }, { header := "Severity", wraps := false },
      { header := "Location", wraps := false }, { header := "Message" }]
    rows := ds.map findingRow }

def countLine (name : String) (r : Report) : String :=
  "[bold]" ++ name ++ "[/bold]  [red]" ++ toString r.errors.length ++ " error(s)[/red]  [yellow]"
    ++ toString r.warnings.length ++ " warning(s)[/yellow]  [blue]" ++ toString r.infos.length
    ++ " info[/blue]"

def textItems (lowest : Severity) (name : String) (r : Report) : List Item :=
  match r.atLeast lowest with
  | [] => [.blank, .markup ("[green]No issues found:[/green] " ++ name), .blank]
  | ds => [.blank, .markup (countLine name r), .blank, .grid (findingGrid ds), .blank]

def optionalJson {α : Type} (f : α → Json) : Option α → Json
  | some a => f a
  | none => .null

def findingJson (d : Diagnostic) : Json :=
  .object
    [⟨"rule_id", .text d.ruleId⟩, ⟨"severity", .text d.severity.lowerName⟩,
     ⟨"message", .text d.message⟩, ⟨"path", optionalJson .text d.path⟩,
     ⟨"line", optionalJson .int d.line⟩, ⟨"column", optionalJson .int d.column⟩]

def reportJson (lowest : Severity) (name : String) (r : Report) : Json :=
  .object
    [⟨"file", .text name⟩, ⟨"summary", .text r.summary⟩, ⟨"errors", .int r.errors.length⟩,
     ⟨"warnings", .int r.warnings.length⟩, ⟨"info", .int r.infos.length⟩,
     ⟨"issues", .array ((r.atLeast lowest).map findingJson)⟩]

def reportItems (format : Format) (lowest : Severity) (reports : List (String × Report)) :
    List Item :=
  match format with
  | .text => reports.flatMap fun (name, r) => textItems lowest name r
  | .json => [.verbatim
      (Json.render (.array (reports.map fun (name, r) => reportJson lowest name r)))]

def exitCodeOf (reports : List (String × Report)) : Nat :=
  if reports.any fun (_, r) => r.hasErrors then 1 else 0

/-! ## Running -/

/-- What a request comes to once its options are read. -/
structure LintJob where
  lowest : Severity
  format : Format
  config : Config
  disabled : List String

def readJob (w : World) (r : LintRequest) : Except Stop LintJob := do
  let lowest ← readSeverity r.severity
  let format ← readFormat r.format
  let config ← readConfig w r
  return { lowest, format, config, disabled := disabledIds r.disable }

def LintJob.linter (j : LintJob) : Linter :=
  Linter.withBuiltinRules (j.config.disableRules j.disabled)

def LintJob.reports (j : LintJob) (documents : List (String × List Char)) :
    List (String × Report) :=
  documents.map fun (name, text) => (name, j.linter.lint (.text text))

def stopResult (page : Page) (before : List Item) : Stop → Result
  | .line s => .ofItems page (before ++ [.markup s]) 1
  | .crash c =>
    let r := Result.ofItems page before 1
    { r with crash := r.crash.or (some c) }

def lint (w : World) (r : LintRequest) : Result :=
  match readJob w r with
  | .error s => stopResult w.page [] s
  | .ok job =>
    let notice := unknownNotice job.disabled
    match readDocuments w.tree w.input r.files with
    | .error s => stopResult w.page notice s
    | .ok documents =>
      let reports := job.reports documents
      .ofItems w.page (notice ++ reportItems job.format job.lowest reports) (exitCodeOf reports)

end QueryLint.Command
