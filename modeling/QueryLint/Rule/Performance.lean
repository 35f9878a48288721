import QueryLint.Document.Stack
import QueryLint.Rule.Basic

/-! # Performance

Ceilings on depth, size and complexity.
-/

namespace QueryLint

namespace Performance

/-- Depth beyond which fragments are recommended. -/
def deepHint : Nat := 3

/-- Size from which a selection set is a candidate for a fragment. -/
def fragmentCandidate : Nat := 10

def largeFragment : Nat := 30

def complexObject : Nat := 5

def maxNesting : Nat := 4

def maxOfOneKind : Nat := 10

def depthFindings (c : Context) (depth : Nat) : List Finding :=
  let limit := c.config.limit .depth
  (if limit < (depth : Int) then
    [.warning ("Query depth (" ++ toString depth ++ ") exceeds recommended limit ("
      ++ toString limit ++ ") - consider flattening") c.document.root]
   else [])
  ++ (if deepHint < depth then
    [.info ("Deep query structure (" ++ toString depth
      ++ " levels) - consider using fragments for better performance") c.document.root]
   else [])

def depth (c : Context) : List Finding :=
  depthFindings c c.document.maxDepth

def fieldCount (c : Context) : List Finding :=
  let limit := c.config.limit .fields
  let count := c.document.fieldCount
  if limit < (count : Int) then
    [.warning ("Field count (" ++ toString count ++ ") exceeds recommended limit ("
      ++ toString limit ++ ") - consider using fragments") c.document.root]
  else []

def fragmentUsage (c : Context) : List Finding :=
  if c.config.flag .fragmentUsage then
    ((c.document.selectionSets.filter fun s =>
      fragmentCandidate ≤ s.selections.length && !s.selections.any Selection.isSpread).map fun s =>
        .info ("Large selection set with " ++ toString s.selections.length
          ++ " fields - consider using fragments for reusability") (.selectionSet s))
    ++ c.document.fragments.flatMap fun f =>
      let count := (Node.fragment f).fieldCount
      if largeFragment < count then
        [.warning ("Fragment '" ++ f.name.value ++ "' has " ++ toString count
          ++ " fields - consider splitting for better performance") (.fragment f)]
      else []
  else []

/-- The cost of a field: itself with its arguments and directives. -/
def fieldComplexity (f : Field) : Nat :=
  1 + f.arguments.length + f.directives.length

def complexity (c : Context) : List Finding :=
  let limit := c.config.limit .queryComplexity
  let cost := c.document.fields.foldl (fun cost f => cost + fieldComplexity f) 0
  if limit < (cost : Int) then
    [.warning ("Query complexity (" ++ toString cost ++ ") exceeds recommended limit ("
      ++ toString limit ++ ") - consider optimization") c.document.root]
  else []

def isComplexObject : Value → Bool
  | .object fields _ => complexObject < fields.length
  | _ => false

def argumentValues (c : Context) : List Finding :=
  (c.document.arguments.filter fun a => isComplexObject a.value).map fun a =>
    .info ("Argument '" ++ a.name.value ++ "' has complex object value - consider using variables")
      (.argument a)

def nestingFindings (f : Field) (depth : Nat) : List Finding :=
  if maxNesting < depth then
    [.warning ("Field '" ++ f.name.value ++ "' has deep nesting (" ++ toString depth
      ++ " levels) - consider flattening") (.field f)]
  else []

def nesting (c : Context) : List Finding :=
  (c.document.fields.filter fun f => f.selectionSet.isSome).flatMap fun f =>
    nestingFindings f (c.document.fieldDepth f)

def ofOneKind (count : Nat) (kind : String) (s : SelectionSet) : List Finding :=
  if maxOfOneKind < count then
    [.info ("Selection set has " ++ toString count ++ " " ++ kind
      ++ " fields - consider optimization") (.selectionSet s)]
  else []

def selectionMix (c : Context) : List Finding :=
  c.document.selectionSets.flatMap fun s =>
    let objects := (s.fields.filter fun f => f.selectionSet.isSome).length
    ofOneKind (s.fields.length - objects) "scalar" s ++ ofOneKind objects "object" s

def findings (c : Context) : List Finding :=
  depth c ++ fieldCount c ++ fragmentUsage c ++ complexity c ++ argumentValues c ++ nesting c
    ++ selectionMix c

def ofCheck (check : Context → Checked) (handle : Nat) : Rule :=
  .ofCheck "PerformanceRule" "PERFORMANCE"
    "Query depth, field count, complexity and selection size" handle check

def rule (handle : Nat) : Rule :=
  ofCheck (fun c => .ofFindings (findings c)) handle

/-! ## The rule on a bounded stack -/

def checkWithin (room : Nat) (c : Context) : Checked :=
  .sequence
    [.ofExcept ((c.document.maxDepthWithin room).map (depthFindings c)),
     .ofFindings (fieldCount c),
     .ofFindings (fragmentUsage c),
     .ofFindings (complexity c),
     .ofFindings (argumentValues c),
     .each (c.document.fields.filter fun f => f.selectionSet.isSome) fun f =>
       .ofExcept ((c.document.fieldDepthWithin room f).map (nestingFindings f)),
     .ofFindings (selectionMix c)]

def ruleWithin (room handle : Nat) : Rule :=
  ofCheck (checkWithin room) handle

end Performance

end QueryLint
