import QueryLint.Rule.Basic

/-! # Scripted rules

A rule that reports what it is told to, whatever the document. It stands in for rules of other
authors where the linter is tried out.
-/

namespace QueryLint

/-- A finding that a script reports, on the whole document or on nothing. -/
structure Emission where
  severity : Severity
  message : String
  ruleId : Option String := none
  onDocument : Bool := false

/-- How a scripted rule answers whether it runs. -/
inductive Enabling
  | byConfig
  | always (on : Bool)
  | fails (reason : String)

structure Script where
  id : String := ""
  category : String := ""
  description : String := ""
  enabling : Enabling := .byConfig
  emissions : List Emission := []
  /-- Whether the number of fields is reported after the emissions. -/
  countsFields : Bool := false
  /-- The reason with which the rule fails at its end. -/
  failure : Option String := none

namespace Script

def emit (s : Script) (c : Context) (e : Emission) : Diagnostic :=
  let ruleId := e.ruleId.getD s.id
  if e.onDocument then .onNode ruleId e.message e.severity c.document.text c.document.root
  else { ruleId, message := e.message, severity := e.severity }

def fieldCount (s : Script) (c : Context) : Diagnostic :=
  { ruleId := s.id, message := toString c.document.fieldCount ++ " fields", severity := .info }

def enabled (s : Script) (c : Context) : Except String Bool :=
  match s.enabling with
  | .byConfig => Rule.enabledByConfig s.id c
  | .always on => .ok on
  | .fails reason => .error reason

def toRule (s : Script) (handle : Nat) : Rule :=
  { title := "CustomRule", id := s.id, category := s.category, description := s.description, handle
    enabled := s.enabled
    run := fun c =>
      { findings := s.emissions.map (s.emit c) ++ (if s.countsFields then [s.fieldCount c] else [])
        failure := s.failure } }

end Script

end QueryLint
