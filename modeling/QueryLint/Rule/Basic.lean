import QueryLint.Config
import QueryLint.Document.Reach
import QueryLint.Document.Printer
import QueryLint.Report

/-! # Rules

A rule looks at a document under a configuration and yields findings; it may fail on the way, and
then the findings made before count. Whether a rule is to run is a question of its own, which may
fail as well.
-/

namespace QueryLint

/-- A document and the configuration it is looked at under. -/
structure Context where
  document : Document
  config : Config

/-- What a finding points at: a node, or a spot in the text. -/
inductive Place
  | node (n : Node)
  | spot (line column : Int)

/-- What a check has to say, before it is known for which rule. -/
structure Finding where
  severity : Severity
  message : String
  place : Place

namespace Finding

def error (message : String) (n : Node) : Finding := ⟨.error, message, .node n⟩

def warning (message : String) (n : Node) : Finding := ⟨.warning, message, .node n⟩

def info (message : String) (n : Node) : Finding := ⟨.info, message, .node n⟩

def toDiagnostic (ruleId : String) (text : List Char) (f : Finding) : Diagnostic :=
  match f.place with
  | .node n => .onNode ruleId f.message f.severity text n
  | .spot line column => .onDocument ruleId f.message f.severity (some line) (some column)

end Finding

/-- The findings of a check, and the reason why it broke off if it did. -/
structure Checked where
  findings : List Finding := []
  failure : Option String := none

namespace Checked

def ofFindings (fs : List Finding) : Checked := { findings := fs }

def ofExcept (e : Except String (List Finding)) : Checked :=
  match e with
  | .ok fs => { findings := fs }
  | .error reason => { failure := some reason }

/-- The second check runs only if the first did not break off. -/
def append (a b : Checked) : Checked :=
  if a.failure.isSome then a else { findings := a.findings ++ b.findings, failure := b.failure }

def sequence (checks : List Checked) : Checked :=
  checks.foldr append {}

def each {α : Type} (items : List α) (check : α → Checked) : Checked :=
  sequence (items.map check)

end Checked

/-- The diagnostics of a rule, and the reason why it failed if it did. -/
structure Outcome where
  findings : List Diagnostic := []
  failure : Option String := none

def Checked.toOutcome (ruleId : String) (text : List Char) (c : Checked) : Outcome :=
  { findings := c.findings.map (Finding.toDiagnostic ruleId text), failure := c.failure }

structure Rule where
  /-- The name of the kind of rule, by which a rule without an id is known. -/
  title : String
  id : String := ""
  category : String := ""
  description : String := ""
  /-- Tells apart two rules that agree in everything else. -/
  handle : Nat := 0
  enabled : Context → Except String Bool
  run : Context → Outcome

namespace Rule

/-- The id under which a rule is registered and reports its failures. -/
def key (r : Rule) : String :=
  if r.id = "" then r.title else r.id

/-- The usual answer to whether a rule runs: what the configuration says about its id. -/
def enabledByConfig (id : String) (c : Context) : Except String Bool :=
  .ok (c.config.ruleSwitch id).enabled

/-- Equality of two rules, whichever instances they are. -/
def equal (a b : Rule) : Bool :=
  a.title == b.title && a.id == b.id && a.category == b.category && a.description == b.description

def describe (r : Rule) : String :=
  r.title ++ "(rule_id=" ++ Text.quoted r.id ++ ", category=" ++ Text.quoted r.category
    ++ ", description=" ++ Text.quoted r.description ++ ")"

def ofCheck (title id description : String) (handle : Nat) (check : Context → Checked) : Rule :=
  { title, id, category := id, description, handle
    enabled := enabledByConfig id
    run := fun c => (check c).toOutcome id c.document.text }

/-- A rule without a check: running it fails. -/
def blank (handle : Nat) : Rule :=
  { title := "BaseRule", handle, enabled := enabledByConfig ""
    run := fun _ => { failure := some "" } }

end Rule

end QueryLint
