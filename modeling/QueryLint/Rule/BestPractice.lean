import QueryLint.Rule.Basic
import QueryLint.Rule.NameCase

/-! # Best practice

Aliases, fragments, variables, the naming of operations and over-fetching. Two fields under one
response key and a variable that is not declared are errors, because they make a document invalid.
-/

namespace QueryLint

namespace BestPractice

/-! ## Aliases -/

def occurrences (fields : List Field) (name : String) : Nat :=
  (fields.filter fun f => f.name.value = name).length

def aliasFindings (aliasName : Name) (f : Field) : List Finding :=
  (if aliasName.value = f.name.value then
    [.info ("Alias '" ++ aliasName.value ++ "' is redundant - same as field name") (.field f)]
   else [])
  ++ (if aliasName.value.length < 2 then
    [.info ("Alias '" ++ aliasName.value ++ "' is very short - consider more descriptive name")
      (.field f)]
   else [])

def missingAlias (count : Nat) (f : Field) : Finding :=
  .warning ("Consider using alias for field '" ++ f.name.value ++ "' to avoid conflicts (selected "
    ++ toString count ++ " times)") (.field f)

/-- Goes through the fields in order; a name that lacks an alias is reported once. -/
def aliasesFrom (fields : List Field) (enforce : Bool) (reported : List String) :
    List Field → List Finding
  | [] => []
  | f :: rest =>
    match f.aliasName with
    | some a => aliasFindings a f ++ aliasesFrom fields enforce reported rest
    | none =>
      let name := f.name.value
      let count := occurrences fields name
      if !enforce || f.isIntrospection || count < 2 || reported.contains name then
        aliasesFrom fields enforce reported rest
      else missingAlias count f :: aliasesFrom fields enforce (name :: reported) rest

def aliases (c : Context) : List Finding :=
  let fields := c.document.fields
  aliasesFrom fields (c.config.flag .aliasUsage) [] fields

/-! ## Fragments -/

/-- How often each name occurs, in the order of first occurrence. -/
def tally (names : List String) : Table Nat :=
  names.foldl (fun t n => t.insert n ((t.get? n).getD 0 + 1)) {}

/-- Uses of one fragment beyond which its reuse is praised. -/
def reuseHint : Nat := 3

def fragmentCount (c : Context) : List Finding :=
  let fragments := c.document.fragments
  let limit := c.config.limit .fragments
  if limit < (fragments.length : Int) then
    [.warning ("Consider consolidating " ++ toString fragments.length
      ++ " fragments for better maintainability (max: " ++ toString limit ++ ")") c.document.root]
  else []

def fragmentUse (c : Context) : List Finding :=
  let usage := tally (c.document.spreads.map (·.name.value))
  ((c.document.fragments.filter fun f => !usage.contains f.name.value).map fun f =>
    .warning ("Fragment '" ++ f.name.value ++ "' is defined but never used") (.fragment f))
  ++ ((usage.entries.filter fun e => reuseHint < e.2).map fun e =>
    .info ("Fragment '" ++ e.1 ++ "' used " ++ toString e.2 ++ " times - good reuse")
      c.document.root)

def fragmentSize (c : Context) : List Finding :=
  let limit := c.config.limit .fragmentFields
  c.document.fragments.flatMap fun f =>
    let count := (Node.fragment f).fieldCount
    if limit < (count : Int) then
      [.warning ("Fragment '" ++ f.name.value ++ "' has " ++ toString count
        ++ " fields - consider splitting for maintainability") (.fragment f)]
    else []

def fragments (c : Context) : List Finding :=
  fragmentCount c ++ fragmentUse c ++ fragmentSize c

/-! ## Selection sets -/

/-- Fields that are usually selected together only to have everything. -/
def commonFields : List String :=
  ["id", "name", "email", "phone", "address"]

def fieldNames (s : SelectionSet) : List String :=
  s.fields.map (·.name.value)

/-- The fields whose response key an earlier one of the list has. -/
def repeatedKeys (seen : List String) : List Field → List Field
  | [] => []
  | f :: rest =>
    if seen.contains f.responseKey then f :: repeatedKeys seen rest
    else repeatedKeys (f.responseKey :: seen) rest

def duplicate (f : Field) : Finding :=
  .error ("Duplicate field '" ++ f.responseKey ++ "' in selection set") (.field f)

def selectionSetFindings (limit : Int) (s : SelectionSet) : List Finding :=
  let size := s.selections.length
  (if limit < (size : Int) then
    [.warning ("Large selection set with " ++ toString size ++ " fields - consider using fragments")
      (.selectionSet s)]
   else [])
  ++ (repeatedKeys [] s.fields).map duplicate
  ++ (if commonFields.all fun n => (fieldNames s).contains n then
    [.info "Consider more specific field selection instead of selecting all common fields"
      (.selectionSet s)]
   else [])

def selectionSets (c : Context) : List Finding :=
  c.document.selectionSets.flatMap (selectionSetFindings (c.config.limit .selectionSetSize))

/-! ## Variables -/

/-- The variables an operation declares; a name declared twice keeps its place and counts as its
last declaration. -/
def declared (o : Operation) : Table VariableDefinition :=
  Table.ofList (o.declarations.map fun v => (v.ref.name.value, v))

/-- The variables used among some nodes, each at its first use. -/
def used (nodes : List Node) : Table Variable :=
  (nodes.filterMap Node.reference?).foldl
    (fun t v => if t.contains v.name.value then t else t.insert v.name.value v) {}

def variableFindings (d : Document) (o : Operation) : List Finding :=
  let declared := declared o
  let used := used (d.reach o)
  ((declared.entries.filter fun e => !used.contains e.1).map fun e =>
    .warning ("Variable '$" ++ e.1 ++ "' is defined but never used") (.variableDefinition e.2))
  ++ ((used.entries.filter fun e => !declared.contains e.1).map fun e =>
    .error ("Variable '$" ++ e.1 ++ "' is used but not defined") (.value (.var e.2)))
  ++ ((declared.entries.filter fun e => !NameCase.isCamel e.1).map fun e =>
    .warning ("Variable name '$" ++ e.1 ++ "' should follow camelCase convention")
      (.variableDefinition e.2))

def variableUse (c : Context) : List Finding :=
  c.document.operations.flatMap (variableFindings c.document)

/-! ## Names -/

def minNameLength : Nat := 3

def shortName (owner name : String) (n : Node) : List Finding :=
  if name.length < minNameLength then
    [.info (owner ++ " name '" ++ name ++ "' is very short - consider more descriptive name") n]
  else []

def operationName (o : Operation) : List Finding :=
  match o.name with
  | none =>
    [.warning "Consider naming your operation for better debugging and monitoring" (.operation o)]
  | some n =>
    (if !NameCase.isPascal n.value then
      [.warning ("Operation name '" ++ n.value ++ "' should follow PascalCase convention")
        (.operation o)]
     else [])
    ++ shortName "Operation" n.value (.operation o)

def operationNames (c : Context) : List Finding :=
  c.document.operations.flatMap operationName

def fragmentNames (c : Context) : List Finding :=
  c.document.fragments.flatMap fun f => shortName "Fragment" f.name.value (.fragment f)

/-! ## Fields, arguments and directives -/

/-- The number of different fields beyond which a selection is taken to fetch too much. -/
def overFetch : Nat := 10

/-- The same for a selection that identifies its object. -/
def overFetchWithIdentity : Nat := 5

def distinct (names : List String) : List String :=
  (tally names).keys

def fetchesTooMuch (s : SelectionSet) : Bool :=
  let names := distinct (fieldNames s)
  overFetch < names.length
    || (names.contains "id" && names.contains "name" && overFetchWithIdentity < names.length)

/-- The only selection is a field without selections of its own. -/
def isSingleLeaf (s : SelectionSet) : Bool :=
  match s.selections with
  | [.field f] => f.selectionSet.isNone
  | _ => false

def fieldSelection (f : Field) : List Finding :=
  match f.selectionSet with
  | none => []
  | some s =>
    (if fetchesTooMuch s then
      [.warning ("Field '" ++ f.name.value
        ++ "' may be over-fetching data - consider more specific field selection") (.field f)]
     else [])
    ++ (if isSingleLeaf s then
      [.info ("Field '" ++ f.name.value ++ "' has unnecessary nesting - consider flattening")
        (.field f)]
     else [])

def fieldSelections (c : Context) : List Finding :=
  if c.config.flag .fieldSelection then c.document.fields.flatMap fieldSelection else []

def arguments (c : Context) : List Finding :=
  let limit := c.config.limit .arguments
  (c.document.fields.filter fun f => limit < (f.arguments.length : Int)).map fun f =>
    .warning ("Field '" ++ f.name.value ++ "' has " ++ toString f.arguments.length
      ++ " arguments - consider using variables or input types") (.field f)

def directives (c : Context) : List Finding :=
  (c.document.directives.filter fun d => !NameCase.isCamel d.name.value).map fun d =>
    .warning ("Directive name '" ++ d.name.value ++ "' should follow camelCase convention")
      (.directive d)

/-! ## Structure of the document -/

def documentShape (c : Context) : List Finding :=
  let operations := c.document.operations
  let mutations := operations.filter fun o => o.kind = .mutation
  (if 1 < operations.length then
    [.info ("Document contains " ++ toString operations.length
      ++ " operations - consider splitting for better maintainability") c.document.root]
   else [])
  ++ (if 1 < mutations.length then
    mutations.map fun o =>
      .warning "Multiple mutations in single document - consider splitting for atomicity"
        (.operation o)
   else [])

/-! ## The rule -/

def findings (c : Context) : List Finding :=
  aliases c ++ fragments c ++ selectionSets c ++ variableUse c ++ operationNames c
    ++ fieldSelections c ++ arguments c ++ directives c ++ fragmentNames c ++ documentShape c

def rule (handle : Nat) : Rule :=
  .ofCheck "BestPracticeRule" "BEST_PRACTICE"
    "Aliases, fragments, variables, operation naming and over-fetching" handle
    fun c => .ofFindings (findings c)

end BestPractice

end QueryLint
