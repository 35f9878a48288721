import QueryLint.Console.Page
import QueryLint.Linter.Basic
import QueryLint.Preset

/-! # Listings of presets and rules -/

namespace QueryLint.Command

open Console

def listedLimits : List Limit := [.depth, .securityDepth, .fields, .queryComplexity]

def severityList (c : Config) : String :=
  ", ".intercalate (builtinRules.map fun r =>
    r.id ++ "=" ++ (((c.ruleSwitch r.id).severity.map Severity.lowerName).getD "default"))

/-- The number that a configuration sets for a limit, zero if it sets none. -/
def limitText (c : Config) (l : Limit) : String :=
  (c.get l.key .int (.int 0)).display

def presetGrid : Grid :=
  { title := some "Lint Presets"
    columns := { header := "Preset", wraps := false }
      :: listedLimits.map (fun l => { header := l.key, alignment := .right })
      ++ [{ header := "Severities" }]
    rows := Preset.all.map fun (name, c) =>
      name :: listedLimits.map (limitText c) ++ [severityList c] }

def ruleGrid : Grid :=
  { title := some "Lint Rules"
    columns := [{ header := "Rule", wraps := false }, { header := "Category", wraps := false },
      { header := "Description" }]
    rows := builtinRules.map fun r => [r.id, r.category, r.description] }

end QueryLint.Command
