import QueryLint.Document.Parser
import QueryLint.Rule.BestPractice
import QueryLint.Rule.Performance
import QueryLint.Rule.Security
import QueryLint.Rule.Style

/-! # The linter

Runs registered rules over a document. A rule that fails does not disturb the others: the findings
it made count, and its failure becomes a warning. A configuration may give a rule a severity, at
which all its findings are then reported; the warning about a failure keeps its own.
-/

namespace QueryLint

/-- What can be handed to the linter. -/
inductive Input
  | nothing
  | text (s : List Char)
  | document (d : Document)
  /-- A value of a type that is no document. -/
  | unsupported (typeName : String)

structure Linter where
  config : Config := {}
  rules : List Rule := []

/-- The built-in rules in the order they run. -/
def builtinRules : List Rule :=
  [Style.rule 0, BestPractice.rule 0, Performance.rule 0, Security.rule 0]

def builtinRulesWithin (room : Nat) : List Rule :=
  [Style.rule 0, BestPractice.rule 0, Performance.ruleWithin room 0, Security.ruleWithin room 0]

namespace Linter

/-! ## Running a rule -/

/-- What a rule does under a context: nothing if it is off, else its outcome. Failing to say whether
it is on is a failure of the rule. -/
def outcome (r : Rule) (c : Context) : Outcome :=
  match r.enabled c with
  | .ok true => r.run c
  | .ok false => {}
  | .error reason => { failure := some reason }

/-- The findings of a rule in the order of their severity, at the severity the configuration gives
the rule if it gives one. -/
def reissue (override : Option Severity) (findings : List Diagnostic) : List Diagnostic :=
  (Report.ofList findings).toList.map fun d => match override with
    | some s => d.withSeverity s
    | none => d

def failureWarning (r : Rule) (reason : String) : Diagnostic :=
  .onDocument r.key ("Rule execution failed: " ++ reason) .warning none none

def contribution (r : Rule) (c : Context) : List Diagnostic :=
  let o := outcome r c
  reissue (c.config.ruleSwitch r.key).severity o.findings
    ++ (o.failure.map (failureWarning r)).toList

def runRules (rules : List Rule) (c : Context) : Report :=
  rules.foldl (fun report r => report.addAll (contribution r c)) {}

/-! ## Linting -/

def parseError (text : List Char) (f : FaultAt) : Diagnostic :=
  let message := "Failed to parse query: " ++ f.fault.message
  match f.location? text with
  | some p => .onDocument "PARSE_ERROR" message .error (some p.line) (some p.column)
  | none => { ruleId := "PARSE_ERROR", message, severity := .error }

/-- The document to be linted, or the report that ends the run before any rule. -/
def prepare : Input → Except Report Document
  | .nothing => .error {}
  | .document d => .ok d
  | .unsupported typeName =>
    .error (.ofList [{ ruleId := "PARSE_ERROR", severity := .error,
                       message := "Unsupported input type: " ++ typeName }])
  | .text s =>
    if Text.allBlank s then
      .error (.ofList [{ ruleId := "EMPTY_QUERY", message := "Query text is empty",
                         severity := .error }])
    else match Document.parse s with
      | .ok d => .ok d
      | .error f => .error (.ofList [parseError s f])

/-- Lints under a context; the configuration is that of the context. -/
def lintContext (l : Linter) (c : Context) : Report :=
  runRules l.rules c

def lint (l : Linter) (input : Input) : Report :=
  match prepare input with
  | .ok d => l.lintContext ⟨d, l.config⟩
  | .error report => report

/-! ## Registered rules -/

def withBuiltinRules (config : Config) : Linter :=
  { config, rules := builtinRules }

def withBuiltinRulesWithin (room : Nat) (config : Config) : Linter :=
  { config, rules := builtinRulesWithin room }

def addRule (l : Linter) (r : Rule) : Linter :=
  { l with rules := l.rules ++ [r] }

def addRules (l : Linter) (rs : List Rule) : Linter :=
  rs.foldl addRule l

def removeRule (l : Linter) (key : String) : Linter :=
  { l with rules := l.rules.filter fun r => r.key ≠ key }

def removeInstance (l : Linter) (handle : Nat) : Linter :=
  { l with rules := l.rules.filter fun r => r.handle ≠ handle }

def clearRules (l : Linter) : Linter :=
  { l with rules := [] }

def rule? (l : Linter) (key : String) : Option Rule :=
  l.rules.find? fun r => r.key = key

def rulesOf (l : Linter) (category : String) : List Rule :=
  l.rules.filter fun r => r.category = category

def describe (l : Linter) : String :=
  "GraphQLLinter(rules=[" ++ ", ".intercalate (l.rules.map Rule.key) ++ "])"

end Linter

end QueryLint
