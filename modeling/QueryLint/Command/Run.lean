import QueryLint.Command.Arguments
import QueryLint.Command.Lint
import QueryLint.Command.Listing

/-! # The command line

Options of the program stand before the command, options of the command behind it. The command is
looked up first, then the options of the program take effect, then those of the command are read.
-/

namespace QueryLint.Command

open Console

def version : String := "0.1.0"

/-- The exit code of a command line that cannot be understood. -/
def usageError : Result := { exitCode := 2 }

def programOptions : List OptionSpec :=
  [{ key := "quiet", names := ["-q", "--quiet"], takesValue := false },
   { key := "verbose", names := ["-V", "--verbose"], takesValue := false },
   { key := "log-level", names := ["--log-level"] },
   { key := "version", names := ["--version", "-v"], takesValue := false },
   { key := "help", names := ["--help"], takesValue := false }]

def lintOptions : List OptionSpec :=
  [{ key := "preset", names := ["--preset", "-p"] },
   { key := "config", names := ["--config", "-c"] },
   { key := "severity", names := ["--severity", "-s"] },
   { key := "format", names := ["--format", "-f"] },
   { key := "disable", names := ["--disable", "-d"] },
   { key := "help", names := ["--help"], takesValue := false }]

def listingOptions : List OptionSpec :=
  [{ key := "help", names := ["--help"], takesValue := false }]

def lintRequest (a : Arguments) : LintRequest :=
  { files := a.operands
    preset := a.value? "preset"
    config := (a.value? "config").map Path.ofText
    severity := (a.value? "severity").getD "info"
    format := (a.value? "format").getD "text"
    disable := (a.value? "disable").getD "" }

def runLint (w : World) (args : List String) : Result :=
  match readArguments lintOptions true args with
  | none => usageError
  | some a =>
    let request := lintRequest a
    if a.has "help" then {}
    else if request.config.any Path.hasNull then { exitCode := 1, crash := some .nullName }
    else if a.operands.isEmpty then usageError
    else lint w request

def runListing (g : Grid) (w : World) (args : List String) : Result :=
  match readArguments listingOptions true args with
  | none => usageError
  | some a =>
    if a.has "help" then {}
    else if !a.operands.isEmpty then usageError
    else .ofItems w.page [.grid g] 0

def command? : String → Option (World → List String → Result)
  | "lint" => some runLint
  | "presets" => some (runListing presetGrid)
  | "rules" => some (runListing ruleGrid)
  | _ => none

/-- The log level that the options of the program ask for: quiet goes before verbose, and verbose
before a level given by name. -/
def logLevel? (a : Arguments) : Option String :=
  if a.has "quiet" then some "error"
  else if a.has "verbose" then some "debug"
  else (a.value? "log-level").filter (· ≠ "")

/-- Why logging cannot be set up as asked, if it cannot. -/
def logRefusal? (a : Arguments) : Option Log.Refusal :=
  (logLevel? a).bind fun level =>
    (({} : Log.Journal).configure { level := Text.upperString level, format := "console" } false).2

def versionResult (page : Page) : Result :=
  let line := "[bold blue]gqlint[/bold blue] version [green]" ++ version ++ "[/green]"
  .ofItems page [.markup line] 0

def run (w : World) (args : List String) : Result :=
  match args, readArguments programOptions false args with
  | [], _ => usageError
  | _, none => usageError
  | _, some a =>
    if a.has "help" then {}
    else match a.operands with
      | [] => if a.has "version" then versionResult w.page else {}
      | name :: rest =>
        match command? name with
        | none => usageError
        | some command =>
          if a.has "version" then versionResult w.page
          else match logRefusal? a with
            | some r => { exitCode := 1, crash := some (.logging r) }
            | none => command w rest

end QueryLint.Command
