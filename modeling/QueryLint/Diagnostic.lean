import QueryLint.Document.Node
import QueryLint.Severity

/-! # Diagnostics -/

namespace QueryLint

/-- A finding of a rule. The node, if any, is the one it was reported on. -/
structure Diagnostic where
  ruleId : String
  message : String
  severity : Severity
  node : Option Node := none
  path : Option String := none
  line : Option Int := none
  column : Option Int := none
  deriving BEq

namespace Diagnostic

/-- A finding on a node of a document with the given text: the node gives path and position. -/
def onNode (ruleId message : String) (severity : Severity) (text : List Char) (node : Node) :
    Diagnostic :=
  let place := node.span.map fun s => Location.ofOffset text s.start
  { ruleId, message, severity, node := some node, path := some node.describe,
    line := place.map fun p => (p.line : Int), column := place.map fun p => (p.column : Int) }

/-- A finding that belongs to the document as a whole, at a place of its own. -/
def onDocument (ruleId message : String) (severity : Severity) (line column : Option Int) :
    Diagnostic :=
  { ruleId, message, severity, path := some "document", line, column }

def withSeverity (d : Diagnostic) (severity : Severity) : Diagnostic :=
  { d with severity }

def placeText (d : Diagnostic) : String :=
  match d.line, d.column with
  | none, _ => ""
  | some l, none => " (line " ++ toString l ++ ")"
  | some l, some c => " (line " ++ toString l ++ ", column " ++ toString c ++ ")"

def pathText (d : Diagnostic) : String :=
  match d.path with
  | none => ""
  | some p => if p = "" then "" else " [" ++ p ++ "]"

/-- The finding on one line. -/
def render (d : Diagnostic) : String :=
  d.severity.upperName ++ ": " ++ d.ruleId ++ " - " ++ d.message ++ d.placeText ++ d.pathText

end Diagnostic

end QueryLint
