import QueryLint.Document.Stack
import QueryLint.Rule.Basic
import QueryLint.Rule.Injection
import QueryLint.Rule.Term

/-! # Security

Introspection, names that speak of sensitive data, signs of injection and ceilings against
exhaustion. A vocabulary that holds other things than texts makes the checks that search it fail.
-/

namespace QueryLint

namespace Security

/-! ## Introspection -/

def introspectionRoots : List String :=
  ["__schema", "__type"]

def introspectionField (f : Field) : List Finding :=
  let name := f.name.value
  .warning ("Introspection field '" ++ name ++ "' detected - consider restricting in production")
    (.field f)
  :: (if introspectionRoots.contains name then
    [.error ("Introspection field '" ++ name ++ "' detected - security risk in production")
      (.field f)]
   else [])

def introspection (c : Context) : List Finding :=
  if c.config.flag .forbiddenIntrospection then
    (c.document.fields.filter Field.isIntrospection).flatMap introspectionField
    ++ (if c.document.hasIntrospection then
      [.error "Introspection queries detected - disable in production for security"
        c.document.root]
     else [])
  else []

/-! ## Sensitive data -/

/-- Fields and arguments, with what they are called at the beginning and inside of a sentence. -/
def sensitiveSubject? : Node → Option (String × String × String)
  | .field f => some ("Field", "field", f.name.value)
  | .argument a => some ("Argument", "argument", a.name.value)
  | _ => none

def sensitiveName (sensitive patterns : List Data) (n : Node) : Except String (List Finding) := do
  match sensitiveSubject? n with
  | none => return []
  | some (capital, label, name) =>
    if ← Term.concerns sensitive name then
      return [.warning ("Sensitive " ++ label ++ " '" ++ name
        ++ "' detected - ensure proper access control") n]
    else if ← Term.concerns patterns name then
      return [.warning (capital ++ " '" ++ name
        ++ "' may contain sensitive data - verify access control") n]
    else return []

def sensitiveNames (c : Context) : Checked :=
  let sensitive := c.config.vocabulary .sensitiveFields
  let patterns := c.config.vocabulary .sensitivePatterns
  .each c.document.nodes fun n => .ofExcept (sensitiveName sensitive patterns n)

def sensitiveFragmentField (sensitive : List Data) (fragment : Fragment) (f : Field) :
    Except String (List Finding) := do
  if ← Term.concerns sensitive f.name.value then
    return [.warning ("Fragment '" ++ fragment.name.value ++ "' contains sensitive field '"
      ++ f.name.value ++ "' - verify access control") (.field f)]
  else return []

def fragments (c : Context) : Checked :=
  let sensitive := c.config.vocabulary .sensitiveFields
  .each c.document.fragments fun fragment =>
    .each (Node.fragment fragment).fields fun f =>
      .ofExcept (sensitiveFragmentField sensitive fragment f)

/-! ## Injection -/

mutual
/-- The strings inside a value, each with the path of object fields that leads to it. -/
def stringsIn (label : String) : Value → List (String × String)
  | .string content _ _ => [(label, content)]
  | .list items _ => stringsInItems label items
  | .object fields _ => stringsInFields label fields
  | _ => []

def stringsInItems (label : String) : List Value → List (String × String)
  | [] => []
  | v :: vs => stringsIn label v ++ stringsInItems label vs

def stringsInFields (label : String) : List ObjectField → List (String × String)
  | [] => []
  | ⟨n, v, _⟩ :: fs => stringsIn (label ++ "." ++ n.value) v ++ stringsInFields label fs
end

def patternFinding (owner label pattern : String) (n : Node) : Finding :=
  .error (owner ++ " '" ++ label ++ "' contains potential " ++ pattern ++ " pattern") n

def stringFindings (keywords : List Data) (owner : String) (a : Argument) (label content : String) :
    Except String (List Finding) := do
  let patterns ← Injection.labels? keywords content
  return patterns.map (fun p => patternFinding owner label p (.argument a))
    ++ (if Injection.hasUnsafeCharacter content then
      [.warning (owner ++ " '" ++ label
        ++ "' contains potentially unsafe characters - ensure proper validation") (.argument a)]
     else [])

def scanArgument (keywords : List Data) (owner : String) (a : Argument) : Checked :=
  .each (stringsIn a.name.value a.value) fun (label, content) =>
    .ofExcept (stringFindings keywords owner a label content)

def argumentValues (c : Context) : Checked :=
  let keywords := c.config.vocabulary .sqlKeywords
  (Checked.each c.document.fields fun f =>
      .each f.arguments (scanArgument keywords "Argument")).append
    (.each c.document.directives fun d =>
      .each d.arguments (scanArgument keywords "Directive argument"))

def scannedNames (d : Document) : List (String × String × Node) :=
  d.arguments.map (fun a => ("Argument name", a.name.value, Node.argument a))
  ++ d.fragments.map (fun f => ("Fragment name", f.name.value, Node.fragment f))
  ++ d.operations.filterMap (fun o => o.name.map fun n =>
    ("Operation name", n.value, Node.operation o))

def nameInjection (c : Context) : Checked :=
  let keywords := c.config.vocabulary .sqlKeywords
  .each (scannedNames c.document) fun (owner, name, n) =>
    .ofExcept ((Injection.labels? keywords name).map fun ps =>
      ps.map fun p => patternFinding owner name p n)

/-! ## Depth and complexity -/

def depthFindings (c : Context) (depth : Nat) : List Finding :=
  let limit := c.config.limit .securityDepth
  (if limit < (depth : Int) then
    [.error ("Query depth (" ++ toString depth ++ ") exceeds security limit (" ++ toString limit
      ++ ") - potential DoS risk") c.document.root]
   else [])
  ++ (if c.config.limit .exhaustionDepth < (depth : Int) then
    [.error ("Very deep query structure (" ++ toString depth
      ++ " levels) - high risk of resource exhaustion") c.document.root]
   else [])

def depth (c : Context) : List Finding :=
  depthFindings c c.document.maxDepth

/-- The cost of a field: itself with its arguments, directives and immediate selections. -/
def fieldCost (f : Field) : Nat :=
  1 + f.arguments.length + f.directives.length
    + (match f.selectionSet with
      | some s => s.selections.length
      | none => 0)

def totalCost (d : Document) : Nat :=
  d.fields.foldl (fun cost f => cost + fieldCost f) 0

def costFindings (c : Context) : List Finding :=
  let limit := c.config.limit .queryComplexity
  let cost := totalCost c.document
  if limit < (cost : Int) then
    [.error ("Query complexity (" ++ toString cost ++ ") exceeds security limit ("
      ++ toString limit ++ ") - potential DoS risk") c.document.root]
  else []

def growthFindings (c : Context) (depth : Nat) : List Finding :=
  if c.config.limit .exhaustionDepth < (depth : Int)
      && c.config.limit .exponentialBreadth < (c.document.maxBreadth : Int) then
    [.error "Query has exponential complexity pattern - high risk of resource exhaustion"
      c.document.root]
  else []

def complexity (c : Context) : List Finding :=
  costFindings c ++ growthFindings c c.document.maxDepth

/-! ## Directives, mutations and access control -/

def isMember (vocabulary : List Data) (name : String) : Bool :=
  vocabulary.any fun d => d.asText? == some name

def directives (c : Context) : List Finding :=
  let forbidden := c.config.vocabulary .forbiddenDirectives
  (c.document.directives.filter fun d => isMember forbidden d.name.value).map fun d =>
    .error ("Directive '" ++ d.name.value ++ "' is forbidden in this context") (.directive d)

def mutatingVerbs : List String :=
  ["create", "update", "delete", "remove"]

def isMutating (f : Field) : Bool :=
  mutatingVerbs.any fun v => Text.occurs v.toList (Text.lower f.name.value.toList)

def mutations (c : Context) : List Finding :=
  (c.document.operations.filter fun o => o.kind = .mutation).flatMap fun o =>
    match o.selectionSet with
    | none => []
    | some s =>
      let count := (s.fields.filter isMutating).length
      if 1 < count then
        [.warning ("Operation contains " ++ toString count
          ++ " mutations - consider splitting for atomicity") (.operation o)]
      else []

/-- A finding on a field that one vocabulary has something to say about. -/
def concerned (vocabulary : List Data) (f : Field) (concern : String) :
    Except String (List Finding) := do
  if ← Term.concerns vocabulary f.name.value then
    return [.warning ("Field '" ++ f.name.value ++ "' " ++ concern ++ " - verify access control")
      (.field f)]
  else return []

def accessControl (c : Context) : Checked :=
  let admin := c.config.vocabulary .adminFieldPatterns
  let internal := c.config.vocabulary .internalFieldPatterns
  .each c.document.fields fun f =>
    (Checked.ofExcept (concerned admin f "may require admin privileges")).append
      (.ofExcept (concerned internal f "may be internal/system field"))

/-! ## The rule -/

/-- The checks one after the other, with the given ones of depth and complexity. -/
def checkBy (depth complexity : Checked) (c : Context) : Checked :=
  .sequence
    [.ofFindings (introspection c),
     sensitiveNames c,
     if c.config.flag .inputValidation then (argumentValues c).append (nameInjection c) else {},
     depth,
     complexity,
     .ofFindings (directives c),
     fragments c,
     .ofFindings (mutations c),
     if c.config.flag .accessControl then accessControl c else {}]

def check (c : Context) : Checked :=
  checkBy (.ofFindings (depth c)) (.ofFindings (complexity c)) c

def ofCheck (check : Context → Checked) (handle : Nat) : Rule :=
  .ofCheck "SecurityRule" "SECURITY"
    "Introspection, sensitive fields, injection patterns and DoS limits" handle check

def rule (handle : Nat) : Rule :=
  ofCheck check handle

/-! ## The rule on a bounded stack -/

def checkWithin (room : Nat) (c : Context) : Checked :=
  let depth := c.document.maxDepthWithin room
  checkBy (.ofExcept (depth.map (depthFindings c)))
    ((Checked.ofFindings (costFindings c)).append (.ofExcept (depth.map (growthFindings c)))) c

def ruleWithin (room handle : Nat) : Rule :=
  ofCheck (checkWithin room) handle

end Security

end QueryLint
