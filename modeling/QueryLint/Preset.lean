import QueryLint.Config
import QueryLint.Text.Blank

/-! # Presets

Named configurations. Each sets its limits explicitly and gives every family of rules a severity.
-/

namespace QueryLint

namespace Preset

/-- The severities of the four families. -/
structure Levels where
  style : Severity
  bestPractice : Severity
  performance : Severity
  security : Severity

def build (levels : Levels) (limits : List (Limit × Int)) (flags : List (Flag × Bool))
    (vocabularies : List (Vocabulary × List String)) : Config :=
  let entries : List (String × Data) :=
    limits.map (fun l => (l.1.key, .int l.2)) ++ flags.map (fun f => (f.1.key, .bool f.2))
      ++ vocabularies.map (fun v => (v.1.key, Vocabulary.toData v.2))
  (Config.standard.update entries).1.setRules
    [("STYLE", { severity := some levels.style }),
     ("BEST_PRACTICE", { severity := some levels.bestPractice }),
     ("PERFORMANCE", { severity := some levels.performance }),
     ("SECURITY", { severity := some levels.security })]

/-- Tight limits everywhere; every finding is an error. -/
def strict : Config :=
  build ⟨.error, .error, .error, .error⟩
    [(.lineLength, 100), (.depth, 3), (.fields, 30), (.securityDepth, 2), (.arguments, 10),
     (.fragments, 5), (.queryComplexity, 50), (.indentationLevel, 4)]
    [(.forbiddenIntrospection, true), (.camelCase, true), (.consistentSpacing, true),
     (.indentation, true)]
    [(.sensitiveFields, Vocabulary.standard .sensitiveFields)]

/-- Wide limits, style reduced to hints, introspection allowed. -/
def relaxed : Config :=
  build ⟨.info, .warning, .info, .warning⟩
    [(.lineLength, 120), (.depth, 7), (.fields, 80), (.securityDepth, 4), (.arguments, 20),
     (.fragments, 10), (.queryComplexity, 100), (.indentationLevel, 8)]
    [(.forbiddenIntrospection, false), (.camelCase, false), (.consistentSpacing, false),
     (.indentation, false)]
    [(.sensitiveFields, ["password", "ssn", "creditCard"])]

/-- Tight limits on size and depth; performance findings are errors. -/
def performance : Config :=
  build ⟨.info, .warning, .error, .warning⟩
    [(.lineLength, 80), (.depth, 4), (.fields, 40), (.securityDepth, 3), (.arguments, 8),
     (.fragments, 3), (.queryComplexity, 30), (.selectionSetSize, 15), (.indentationLevel, 4)]
    [(.fragmentUsage, true), (.fieldSelection, true), (.aliasUsage, true),
     (.forbiddenIntrospection, true), (.camelCase, true), (.consistentSpacing, true),
     (.indentation, true)]
    [(.sensitiveFields, ["password", "ssn", "creditCard", "apiKey"])]

/-- Very low ceilings; security findings are errors. -/
def security : Config :=
  build ⟨.warning, .warning, .warning, .error⟩
    [(.lineLength, 80), (.depth, 2), (.fields, 20), (.securityDepth, 2), (.arguments, 5),
     (.fragments, 2), (.queryComplexity, 20), (.selectionSetSize, 10), (.indentationLevel, 3)]
    [(.forbiddenIntrospection, true), (.inputValidation, true), (.accessControl, true),
     (.fragmentUsage, true), (.fieldSelection, true), (.camelCase, true),
     (.consistentSpacing, true), (.indentation, true)]
    [(.sensitiveFields, Vocabulary.standard .sensitiveFields ++ ["privateKey", "authToken"]),
     (.forbiddenDirectives, Vocabulary.standard .forbiddenDirectives)]

/-- Balanced limits; introspection allowed, every finding a warning. -/
def development : Config :=
  build ⟨.warning, .warning, .warning, .warning⟩
    [(.lineLength, 100), (.depth, 5), (.fields, 50), (.securityDepth, 3), (.arguments, 15),
     (.fragments, 5), (.queryComplexity, 75), (.selectionSetSize, 20), (.indentationLevel, 5)]
    [(.forbiddenIntrospection, false), (.fragmentUsage, true), (.fieldSelection, true)]
    [(.sensitiveFields, ["password", "ssn", "creditCard"])]

/-- A strict gate; performance findings stay warnings. -/
def production : Config :=
  build ⟨.error, .error, .warning, .error⟩
    [(.lineLength, 80), (.depth, 4), (.fields, 40), (.securityDepth, 3), (.arguments, 10),
     (.fragments, 5), (.queryComplexity, 50), (.selectionSetSize, 15), (.indentationLevel, 4)]
    [(.forbiddenIntrospection, true), (.fragmentUsage, true), (.fieldSelection, true),
     (.inputValidation, true), (.accessControl, true)]
    [(.sensitiveFields, Vocabulary.standard .sensitiveFields)]

/-- The presets in the order they are listed; one has a second name. -/
def all : List (String × Config) :=
  [("strict", strict), ("relaxed", relaxed), ("performance", performance), ("security", security),
   ("development", development), ("production", production), ("security-first", security)]

/-- Looks a preset up in any case, with blanks around the name. -/
def find (name : String) : Except Problem Config :=
  match all.lookup (String.ofList (Text.lower (Text.strip name.toList))) with
  | some c => .ok c
  | none => .error (.notFound "preset" name (Data.sortTexts (all.map (·.1))))

end Preset

end QueryLint
