import QueryLint.Linter.Basic
import QueryLint.Log.Level

/-! # What a run logs

The records that linting leaves in the journal: a warning for a text that is no document, and for
every rule whether it runs and with what reason it fails.
-/

namespace QueryLint

namespace Linter

def origin : String := "gqlint.linting.linter"

def debugRecord (message : String) : Log.Record := ⟨.debug, message, origin⟩

def warningRecord (message : String) : Log.Record := ⟨.warning, message, origin⟩

def failureRecord (r : Rule) (reason : String) : Log.Record :=
  warningRecord ("Rule " ++ r.key ++ " failed: " ++ reason)

def ruleTrace (c : Context) (r : Rule) : List Log.Record :=
  match r.enabled c with
  | .ok true =>
    debugRecord ("Running rule " ++ r.key) :: ((r.run c).failure.map (failureRecord r)).toList
  | .ok false => [debugRecord ("Skipping disabled rule " ++ r.key)]
  | .error reason => [failureRecord r reason]

def contextTrace (l : Linter) (c : Context) : List Log.Record :=
  l.rules.flatMap (ruleTrace c) ++ [debugRecord ("Lint finished: " ++ (l.lintContext c).summary)]

def trace (l : Linter) (input : Input) : List Log.Record :=
  match prepare input, input with
  | .ok d, _ => l.contextTrace ⟨d, l.config⟩
  | .error _, .text s =>
    if Text.allBlank s then []
    else match Document.parse s with
      | .ok _ => []
      | .error f => [warningRecord ("Failed to parse document: " ++ f.fault.message)]
  | .error _, _ => []

end Linter

end QueryLint
