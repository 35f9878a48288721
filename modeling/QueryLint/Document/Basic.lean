import QueryLint.Document.Span

/-! # Documents

The tree of a query document. A node carries the span of the text it was read from, unless the
document was read without spans or put together by hand.
-/

namespace QueryLint

structure Name where
  value : String
  span : Option Span := none
  deriving DecidableEq, Repr, Inhabited

/-- A reference to a variable, `$name`. -/
structure Variable where
  name : Name
  span : Option Span
  deriving DecidableEq, Repr, Inhabited

mutual
/-- Input values. Numbers keep their spelling. -/
inductive Value
  | var (v : Variable)
  | int (digits : String) (span : Option Span)
  | float (digits : String) (span : Option Span)
  | string (content : String) (block : Bool) (span : Option Span)
  | boolean (b : Bool) (span : Option Span)
  | null (span : Option Span)
  | enum (name : String) (span : Option Span)
  | list (items : List Value) (span : Option Span)
  | object (fields : List ObjectField) (span : Option Span)

structure ObjectField where
  name : Name
  value : Value
  span : Option Span
end

deriving instance BEq for Value, ObjectField

instance : Inhabited Value := ⟨.null none⟩

structure Argument where
  name : Name
  value : Value
  span : Option Span
  deriving BEq, Inhabited

structure Directive where
  name : Name
  arguments : List Argument
  span : Option Span
  deriving BEq, Inhabited

structure NamedType where
  name : Name
  span : Option Span
  deriving DecidableEq, Repr, Inhabited

inductive TypeRef
  | named (t : NamedType)
  | list (inner : TypeRef) (span : Option Span)
  | nonNull (inner : TypeRef) (span : Option Span)
  deriving DecidableEq, Repr, Inhabited

structure VariableDefinition where
  ref : Variable
  type : TypeRef
  defaultValue : Option Value
  directives : List Directive
  span : Option Span
  deriving BEq, Inhabited

/-- The use of a named fragment, `...Name`. -/
structure Spread where
  name : Name
  directives : List Directive
  span : Option Span
  deriving BEq, Inhabited

mutual
structure Field where
  aliasName : Option Name
  name : Name
  arguments : List Argument
  directives : List Directive
  selectionSet : Option SelectionSet
  span : Option Span

structure InlineFragment where
  condition : Option NamedType
  directives : List Directive
  selectionSet : SelectionSet
  span : Option Span

inductive Selection
  | field (f : Field)
  | spread (s : Spread)
  | inlineFragment (i : InlineFragment)

structure SelectionSet where
  selections : List Selection
  span : Option Span
end

deriving instance BEq for Field, InlineFragment, Selection, SelectionSet

instance : Inhabited SelectionSet := ⟨[], none⟩

inductive OperationKind
  | query
  | mutation
  | subscription
  deriving DecidableEq, Repr, Inhabited

def OperationKind.keyword : OperationKind → String
  | query => "query"
  | mutation => "mutation"
  | subscription => "subscription"

def OperationKind.ofKeyword? : String → Option OperationKind
  | "query" => some query
  | "mutation" => some mutation
  | "subscription" => some subscription
  | _ => none

/-- An operation. One put together by hand may have no selection set. -/
structure Operation where
  kind : OperationKind
  name : Option Name
  declarations : List VariableDefinition
  directives : List Directive
  selectionSet : Option SelectionSet
  span : Option Span
  deriving BEq, Inhabited

structure Fragment where
  name : Name
  condition : NamedType
  directives : List Directive
  selectionSet : SelectionSet
  span : Option Span
  deriving BEq, Inhabited

/-- The text that describes a definition of the type system. -/
structure Description where
  content : String
  block : Bool
  span : Option Span
  deriving DecidableEq, Repr, Inhabited

structure RootType where
  kind : OperationKind
  type : NamedType
  span : Option Span
  deriving DecidableEq, Repr, Inhabited

structure InputValueDefinition where
  description : Option Description
  name : Name
  type : TypeRef
  defaultValue : Option Value
  directives : List Directive
  span : Option Span
  deriving BEq, Inhabited

structure FieldDefinition where
  description : Option Description
  name : Name
  arguments : List InputValueDefinition
  type : TypeRef
  directives : List Directive
  span : Option Span
  deriving BEq, Inhabited

structure EnumValueDefinition where
  description : Option Description
  name : Name
  directives : List Directive
  span : Option Span
  deriving BEq, Inhabited

inductive TypeSystemBody
  | schema (directives : List Directive) (roots : List RootType)
  | scalar (name : Name) (directives : List Directive)
  | object (name : Name) (interfaces : List NamedType) (directives : List Directive)
      (fields : List FieldDefinition)
  | interface (name : Name) (interfaces : List NamedType) (directives : List Directive)
      (fields : List FieldDefinition)
  | union (name : Name) (directives : List Directive) (types : List NamedType)
  | enum (name : Name) (directives : List Directive) (values : List EnumValueDefinition)
  | input (name : Name) (directives : List Directive) (fields : List InputValueDefinition)
  | directive (name : Name) (arguments : List InputValueDefinition) (repeatable : Bool)
      (places : List Name)
  deriving BEq

structure TypeSystemDefinition where
  description : Option Description
  /-- Whether an existing definition is extended. -/
  isExtension : Bool
  body : TypeSystemBody
  span : Option Span
  deriving BEq

inductive Definition
  | operation (o : Operation)
  | fragment (f : Fragment)
  | typeSystem (t : TypeSystemDefinition)
  deriving BEq

/-- A document. `text` is what the spans of its nodes point into; the document itself has a span if
it was read from that text as a whole. -/
structure Document where
  definitions : List Definition
  span : Option Span := none
  text : List Char := []

namespace Definition

def operation? : Definition → Option Operation
  | operation o => some o
  | _ => none

def fragment? : Definition → Option Fragment
  | fragment f => some f
  | _ => none

end Definition

namespace Document

def operations (d : Document) : List Operation :=
  d.definitions.filterMap Definition.operation?

def fragments (d : Document) : List Fragment :=
  d.definitions.filterMap Definition.fragment?

end Document

namespace Selection

def field? : Selection → Option Field
  | field f => some f
  | _ => none

def isSpread : Selection → Bool
  | spread _ => true
  | _ => false

end Selection

/-- Fields that ask about the schema itself begin with two underscores. -/
def Field.isIntrospection (f : Field) : Bool :=
  ['_', '_'].isPrefixOf f.name.value.toList

def Field.responseKey (f : Field) : String :=
  (f.aliasName.getD f.name).value

def SelectionSet.fields (s : SelectionSet) : List Field :=
  s.selections.filterMap Selection.field?

end QueryLint
