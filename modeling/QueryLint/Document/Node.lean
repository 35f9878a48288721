import QueryLint.Document.Basic

/-! # Nodes

The nodes of a document with their children in source order. The definitions of the type system are
leaves. The walk keeps the nodes still to be visited on a stack and meets every node before its
descendants and after its earlier siblings.
-/

namespace QueryLint

inductive Node
  | document (definitions : List Definition) (span : Option Span)
  | operation (o : Operation)
  | fragment (f : Fragment)
  | typeSystem (t : TypeSystemDefinition)
  | variableDefinition (v : VariableDefinition)
  | selectionSet (s : SelectionSet)
  | field (f : Field)
  | spread (s : Spread)
  | inlineFragment (i : InlineFragment)
  | argument (a : Argument)
  | directive (d : Directive)
  | value (v : Value)
  | objectField (f : ObjectField)
  deriving BEq

def Value.span : Value → Option Span
  | var v => v.span
  | int _ s => s
  | float _ s => s
  | string _ _ s => s
  | boolean _ s => s
  | null s => s
  | enum _ s => s
  | list _ s => s
  | object _ s => s

def Value.kind : Value → String
  | var _ => "variable"
  | int .. => "int_value"
  | float .. => "float_value"
  | string .. => "string_value"
  | boolean .. => "boolean_value"
  | null _ => "null_value"
  | enum .. => "enum_value"
  | list .. => "list_value"
  | object .. => "object_value"

def TypeSystemBody.name? : TypeSystemBody → Option Name
  | schema .. => none
  | scalar n _ => some n
  | object n .. => some n
  | interface n .. => some n
  | union n .. => some n
  | enum n .. => some n
  | input n .. => some n
  | directive n .. => some n

def TypeSystemBody.kind : TypeSystemBody → String
  | schema .. => "schema"
  | scalar .. => "scalar_type"
  | object .. => "object_type"
  | interface .. => "interface_type"
  | union .. => "union_type"
  | enum .. => "enum_type"
  | input .. => "input_object_type"
  | directive .. => "directive"

def TypeSystemDefinition.kind (t : TypeSystemDefinition) : String :=
  t.body.kind ++ (if t.isExtension then "_extension" else "_definition")

namespace Node

def ofDefinition : Definition → Node
  | .operation o => .operation o
  | .fragment f => .fragment f
  | .typeSystem t => .typeSystem t

def ofSelection : Selection → Node
  | .field f => .field f
  | .spread s => .spread s
  | .inlineFragment i => .inlineFragment i

def kind : Node → String
  | document .. => "document"
  | operation _ => "operation_definition"
  | fragment _ => "fragment_definition"
  | typeSystem t => t.kind
  | variableDefinition _ => "variable_definition"
  | selectionSet _ => "selection_set"
  | field _ => "field"
  | spread _ => "fragment_spread"
  | inlineFragment _ => "inline_fragment"
  | argument _ => "argument"
  | directive _ => "directive"
  | value v => v.kind
  | objectField _ => "object_field"

def span : Node → Option Span
  | document _ s => s
  | operation o => o.span
  | fragment f => f.span
  | typeSystem t => t.span
  | variableDefinition v => v.span
  | selectionSet s => s.span
  | field f => f.span
  | spread s => s.span
  | inlineFragment i => i.span
  | argument a => a.span
  | directive d => d.span
  | value v => v.span
  | objectField f => f.span

/-- The name of a node, empty if it has none. A field is named by its alias as well. -/
def name : Node → String
  | operation o => (o.name.map (·.value)).getD ""
  | fragment f => f.name.value
  | typeSystem t => (t.body.name?.map (·.value)).getD ""
  | field f => match f.aliasName with
    | some a => a.value ++ ":" ++ f.name.value
    | none => f.name.value
  | spread s => s.name.value
  | argument a => a.name.value
  | directive d => d.name.value
  | value (.var v) => v.name.value
  | objectField f => f.name.value
  | _ => ""

/-- A node in reports: its kind, and its name if it has one. -/
def describe (n : Node) : String :=
  if n.name = "" then n.kind else n.kind ++ ":" ++ n.name

def children : Node → List Node
  | document ds _ => ds.map ofDefinition
  | operation o =>
    o.declarations.map variableDefinition ++ o.directives.map directive
      ++ o.selectionSet.toList.map selectionSet
  | fragment f => f.directives.map directive ++ [selectionSet f.selectionSet]
  | typeSystem _ => []
  | variableDefinition v => v.defaultValue.toList.map value ++ v.directives.map directive
  | selectionSet s => s.selections.map ofSelection
  | field f =>
    f.arguments.map argument ++ f.directives.map directive
      ++ f.selectionSet.toList.map selectionSet
  | spread s => s.directives.map directive
  | inlineFragment i => i.directives.map directive ++ [selectionSet i.selectionSet]
  | argument a => [value a.value]
  | directive d => d.arguments.map argument
  | value (.list items _) => items.map value
  | value (.object fields _) => fields.map objectField
  | value _ => []
  | objectField f => [value f.value]

end Node

end QueryLint
