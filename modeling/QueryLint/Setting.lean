import QueryLint.Data
import QueryLint.Table

/-! # Settings

The settings that rules read: numeric limits, vocabularies of terms and switches, each with its key
and its default.
-/

namespace QueryLint

inductive Limit
  | lineLength
  | depth
  | fields
  | arguments
  | fragments
  | fragmentFields
  | selectionSetSize
  | securityDepth
  | queryComplexity
  | indentationLevel
  | exhaustionDepth
  | exponentialBreadth
  deriving DecidableEq, Repr

namespace Limit

def key : Limit → String
  | lineLength => "maxLineLength"
  | depth => "maxDepth"
  | fields => "maxFields"
  | arguments => "maxArguments"
  | fragments => "maxFragments"
  | fragmentFields => "maxFragmentFields"
  | selectionSetSize => "maxSelectionSetSize"
  | securityDepth => "maxSecurityDepth"
  | queryComplexity => "maxQueryComplexity"
  | indentationLevel => "maxIndentationLevel"
  | exhaustionDepth => "resourceExhaustionDepth"
  | exponentialBreadth => "exponentialBreadth"

def standard : Limit → Int
  | lineLength => 80
  | depth => 5
  | fields => 50
  | arguments => 10
  | fragments => 5
  | fragmentFields => 20
  | selectionSetSize => 15
  | securityDepth => 3
  | queryComplexity => 50
  | indentationLevel => 4
  | exhaustionDepth => 5
  | exponentialBreadth => 10

def all : List Limit :=
  [lineLength, depth, fields, arguments, fragments, fragmentFields, selectionSetSize, securityDepth,
   queryComplexity, indentationLevel, exhaustionDepth, exponentialBreadth]

end Limit

inductive Vocabulary
  | sensitiveFields
  | sensitivePatterns
  | adminFieldPatterns
  | internalFieldPatterns
  | forbiddenDirectives
  | sqlKeywords
  deriving DecidableEq, Repr

namespace Vocabulary

def key : Vocabulary → String
  | sensitiveFields => "sensitiveFields"
  | sensitivePatterns => "sensitivePatterns"
  | adminFieldPatterns => "adminFieldPatterns"
  | internalFieldPatterns => "internalFieldPatterns"
  | forbiddenDirectives => "forbiddenDirectives"
  | sqlKeywords => "sqlKeywords"

def standard : Vocabulary → List String
  | sensitiveFields => ["password", "ssn", "creditCard", "apiKey", "token", "secret"]
  | sensitivePatterns =>
    ["password", "passwd", "pwd", "secret", "token", "credential", "ssn", "social", "credit",
     "card", "bank", "iban", "financial", "payment", "salary", "personal", "private",
     "confidential", "sensitive", "birth", "passport"]
  | adminFieldPatterns =>
    ["admin", "administrator", "superuser", "root", "privileged", "elevated"]
  | internalFieldPatterns => ["internal", "system", "hidden", "confidential", "restricted"]
  | forbiddenDirectives => ["auth", "admin", "internal"]
  | sqlKeywords =>
    ["SELECT", "INSERT", "UPDATE", "DELETE", "DROP", "CREATE", "ALTER", "EXEC", "UNION", "OR",
     "AND"]

def all : List Vocabulary :=
  [sensitiveFields, sensitivePatterns, adminFieldPatterns, internalFieldPatterns,
   forbiddenDirectives, sqlKeywords]

/-- A vocabulary as the value of a setting. -/
def toData (terms : List String) : Data :=
  .frozenSet (terms.map Data.text)

end Vocabulary

inductive Flag
  | forbiddenIntrospection
  | camelCase
  | consistentSpacing
  | indentation
  | fragmentUsage
  | fieldSelection
  | aliasUsage
  | inputValidation
  | accessControl
  deriving DecidableEq, Repr

namespace Flag

def key : Flag → String
  | forbiddenIntrospection => "forbiddenIntrospection"
  | camelCase => "enforceCamelCase"
  | consistentSpacing => "enforceConsistentSpacing"
  | indentation => "enforceIndentation"
  | fragmentUsage => "enforceFragmentUsage"
  | fieldSelection => "enforceFieldSelection"
  | aliasUsage => "enforceAliasUsage"
  | inputValidation => "enforceInputValidation"
  | accessControl => "enforceAccessControl"

def all : List Flag :=
  [forbiddenIntrospection, camelCase, consistentSpacing, indentation, fragmentUsage, fieldSelection,
   aliasUsage, inputValidation, accessControl]

end Flag

/-- All settings at their defaults; every switch is on. -/
def defaultSettings : Table Data :=
  ⟨Limit.all.map (fun l => (l.key, .int l.standard))
    ++ Vocabulary.all.map (fun v => (v.key, Vocabulary.toData v.standard))
    ++ Flag.all.map (fun f => (f.key, .bool true))⟩

end QueryLint
