import QueryLint.Diagnostic

/-! # Reports

The diagnostics of a run, kept apart by severity and within a severity in the order of arrival.
-/

namespace QueryLint

structure Report where
  errors : List Diagnostic := []
  warnings : List Diagnostic := []
  infos : List Diagnostic := []
  deriving BEq, Inhabited

namespace Report

def empty : Report := {}

def add (r : Report) (d : Diagnostic) : Report :=
  match d.severity with
  | .error => { r with errors := r.errors ++ [d] }
  | .warning => { r with warnings := r.warnings ++ [d] }
  | .info => { r with infos := r.infos ++ [d] }

def addAll (r : Report) (ds : List Diagnostic) : Report :=
  ds.foldl add r

def ofList (ds : List Diagnostic) : Report :=
  empty.addAll ds

/-- Appends the diagnostics of another report, severity by severity. -/
def merge (r other : Report) : Report :=
  { errors := r.errors ++ other.errors
    warnings := r.warnings ++ other.warnings
    infos := r.infos ++ other.infos }

/-- All diagnostics, the gravest first. -/
def toList (r : Report) : List Diagnostic :=
  r.errors ++ r.warnings ++ r.infos

def size (r : Report) : Nat :=
  r.errors.length + r.warnings.length + r.infos.length

def hasErrors (r : Report) : Bool :=
  !r.errors.isEmpty

def ofSeverity (r : Report) : Severity → List Diagnostic
  | .error => r.errors
  | .warning => r.warnings
  | .info => r.infos

def ofRule (r : Report) (ruleId : String) : List Diagnostic :=
  r.toList.filter fun d => d.ruleId = ruleId

def atLeast (r : Report) (severity : Severity) : List Diagnostic :=
  r.toList.filter fun d => severity ≤ d.severity

def maxSeverity? (r : Report) : Option Severity :=
  if !r.errors.isEmpty then some .error
  else if !r.warnings.isEmpty then some .warning
  else if !r.infos.isEmpty then some .info
  else none

def countText (count : Nat) (noun : String) : List String :=
  if count = 0 then [] else [toString count ++ " " ++ noun]

/-- The counts that are not zero, on one line. -/
def summary (r : Report) : String :=
  match countText r.errors.length "error(s)" ++ countText r.warnings.length "warning(s)"
      ++ countText r.infos.length "info" with
  | [] => "No issues found"
  | parts => ", ".intercalate parts

def describe (r : Report) : String :=
  "DiagnosticCollection(errors=" ++ toString r.errors.length ++ ", warnings="
    ++ toString r.warnings.length ++ ", info=" ++ toString r.infos.length ++ ")"

end Report

end QueryLint
