import QueryLint.Document.Basic
import QueryLint.Text.Search

/-! # Writing documents

The canonical text of a document: two spaces per level, definitions apart by an empty line, the
arguments of a field on lines of their own when they would make its line too long. An operation
without a selection set has no text, and neither has a document with one.
-/

namespace QueryLint

namespace Printer

abbrev Chars := List Char

/-- Joins parts with a separator, passing over the empty ones. -/
def join (separator : Chars) (parts : List Chars) : Chars :=
  separator.intercalate (parts.filter fun p => !p.isEmpty)

def spaced (parts : List Chars) : Chars :=
  join [' '] parts

def commas (parts : List Chars) : Chars :=
  join [',', ' '] parts

/-- Puts two texts around a third unless that is empty. -/
def wrap (before middle after : Chars) : Chars :=
  if middle.isEmpty then [] else before ++ middle ++ after

def indentChar (c : Char) : Chars :=
  if c = '\n' then ['\n', ' ', ' '] else [c]

def indent (s : Chars) : Chars :=
  wrap [' ', ' '] (s.flatMap indentChar) []

/-- Items on lines of their own between braces. -/
def block (items : List Chars) : Chars :=
  wrap ['\x7b', '\n'] (indent (join ['\n'] items)) ['\n', '\x7d']

def inParens (items : List Chars) : Chars :=
  wrap ['('] (commas items) [')']

def inParenLines (items : List Chars) : Chars :=
  wrap ['(', '\n'] (indent (join ['\n'] items)) ['\n', ')']

/-! ## Strings -/

def hexUpper (n : Nat) : Chars :=
  let ds := (Nat.toDigits 16 n).map Char.toUpper
  List.replicate (4 - ds.length) '0' ++ ds

def escapeChar (c : Char) : Chars :=
  if c = '"' then ['\\', '"']
  else if c = '\\' then ['\\', '\\']
  else if c = '\x08' then ['\\', 'b']
  else if c = '\t' then ['\\', 't']
  else if c = '\n' then ['\\', 'n']
  else if c = '\x0c' then ['\\', 'f']
  else if c = '\r' then ['\\', 'r']
  else if c.toNat < 0x20 || (0x7F ≤ c.toNat && c.toNat < 0xA0) then '\\' :: 'u' :: hexUpper c.toNat
  else [c]

def string (content : Chars) : Chars :=
  '"' :: content.flatMap escapeChar ++ ['"']

/-- Three quotes inside a block string are escaped. -/
def escapeQuotes : Chars → Chars
  | [] => []
  | '"' :: '"' :: '"' :: r => '\\' :: '"' :: '"' :: '"' :: escapeQuotes r
  | c :: r => c :: escapeQuotes r

def isIndentChar (c : Char) : Bool :=
  c = ' ' || c = '\t'

/-- A block string takes lines of its own for its quotes when its content has several lines, is long
or could not be told from them. -/
def blockString (content : Chars) : Chars :=
  let escaped := escapeQuotes content
  let lines := Text.lines escaped
  let single := lines.length ≤ 1
  let forceLead := !single && (lines.drop 1).all fun l => l.head?.all isIndentChar
  let endsInQuotes := ['\\', '"', '"', '"'].isSuffixOf escaped
  let forceTrail := (content.getLast? == some '"' && !endsInQuotes) || content.getLast? == some '\\'
  let multiple := !single || 70 < content.length || forceTrail || forceLead || endsInQuotes
  let skipLead := single && content.head?.any isIndentChar
  let before : Chars := if (multiple && !skipLead) || forceLead then ['\n'] else []
  let after : Chars := if multiple || forceTrail then ['\n'] else []
  let quotes : Chars := ['"', '"', '"']
  quotes ++ before ++ escaped ++ after ++ quotes

def stringOf (content : String) (isBlock : Bool) : Chars :=
  if isBlock then blockString content.toList else string content.toList

/-! ## Values, arguments and types -/

def name (n : Name) : Chars :=
  n.value.toList

def variableRef (v : Variable) : Chars :=
  '$' :: name v.name

mutual
def value : Value → Chars
  | .var v => variableRef v
  | .int digits _ => digits.toList
  | .float digits _ => digits.toList
  | .string content isBlock _ => stringOf content isBlock
  | .boolean b _ => if b then "true".toList else "false".toList
  | .null _ => "null".toList
  | .enum n _ => n.toList
  | .list items _ => '[' :: commas (values items) ++ [']']
  | .object fields _ => '\x7b' :: commas (objectFields fields) ++ ['\x7d']

def values : List Value → List Chars
  | [] => []
  | v :: vs => value v :: values vs

def objectFields : List ObjectField → List Chars
  | [] => []
  | ⟨n, v, _⟩ :: fs => (name n ++ ':' :: ' ' :: value v) :: objectFields fs
end

def argument (a : Argument) : Chars :=
  name a.name ++ ':' :: ' ' :: value a.value

def directive (d : Directive) : Chars :=
  '@' :: name d.name ++ inParens (d.arguments.map argument)

def directives (ds : List Directive) : Chars :=
  spaced (ds.map directive)

def namedType (t : NamedType) : Chars :=
  name t.name

def typeRef : TypeRef → Chars
  | .named t => namedType t
  | .list inner _ => '[' :: typeRef inner ++ [']']
  | .nonNull inner _ => typeRef inner ++ ['!']

def defaultValue (before : Chars) : Option Value → Chars
  | some v => wrap before (value v) []
  | none => []

def variableDefinition (v : VariableDefinition) : Chars :=
  variableRef v.ref ++ ':' :: ' ' :: typeRef v.type
    ++ defaultValue [' ', '=', ' '] v.defaultValue
    ++ wrap [' '] (directives v.directives) []

/-! ## Selections -/

/-- The longest line that keeps the arguments of a field beside its name. -/
def maxArgumentLine : Nat := 80

def fieldHead (aliasName : Option Name) (n : Name) (arguments : List Argument) : Chars :=
  let label := (match aliasName with
    | some a => name a ++ [':', ' ']
    | none => []) ++ name n
  let line := label ++ inParens (arguments.map argument)
  if maxArgumentLine < line.length then label ++ inParenLines (arguments.map argument) else line

mutual
def selectionSet : SelectionSet → Chars
  | ⟨items, _⟩ => block (selections items)

def optionalSelectionSet : Option SelectionSet → Chars
  | some s => selectionSet s
  | none => []

def selections : List Selection → List Chars
  | [] => []
  | s :: ss => selection s :: selections ss

def selection : Selection → Chars
  | .field f => field f
  | .spread s => '.' :: '.' :: '.' :: name s.name ++ wrap [' '] (directives s.directives) []
  | .inlineFragment i => inlineFragment i

def field : Field → Chars
  | ⟨aliasName, n, arguments, dirs, body, _⟩ =>
    spaced [fieldHead aliasName n arguments, directives dirs, optionalSelectionSet body]

def inlineFragment : InlineFragment → Chars
  | ⟨condition, dirs, body, _⟩ =>
    let on : Chars := match condition with
      | some t => "on ".toList ++ namedType t
      | none => []
    spaced ["...".toList, on, directives dirs, selectionSet body]
end

/-! ## Definitions -/

/-- A query that is nothing but its selection set is written without the keyword. -/
def operation? (o : Operation) : Option Chars := do
  let body ← o.selectionSet
  let named := (match o.name with
    | some n => name n
    | none => []) ++ inParens (o.declarations.map variableDefinition)
  let head := spaced [o.kind.keyword.toList, named, directives o.directives]
  return (if head = "query".toList then [] else head ++ [' ']) ++ selectionSet body

def fragment (f : Fragment) : Chars :=
  "fragment ".toList ++ name f.name ++ " on ".toList ++ namedType f.condition ++ ' ' ::
    wrap [] (directives f.directives) [' '] ++ selectionSet f.selectionSet

def description : Option Description → Chars
  | some d => wrap [] (stringOf d.content d.block) ['\n']
  | none => []

def rootType (r : RootType) : Chars :=
  r.kind.keyword.toList ++ ':' :: ' ' :: namedType r.type

def inputValueDefinition (v : InputValueDefinition) : Chars :=
  description v.description ++
    spaced [name v.name ++ ':' :: ' ' :: typeRef v.type, defaultValue ['=', ' '] v.defaultValue,
      directives v.directives]

/-- Argument definitions stand on lines of their own if one of them has several lines. -/
def argumentDefinitions (vs : List InputValueDefinition) : Chars :=
  let items := vs.map inputValueDefinition
  if items.any fun i => i.contains '\n' then inParenLines items else inParens items

def fieldDefinition (f : FieldDefinition) : Chars :=
  description f.description ++ name f.name ++ argumentDefinitions f.arguments ++ ':' :: ' ' ::
    typeRef f.type ++ wrap [' '] (directives f.directives) []

def enumValueDefinition (v : EnumValueDefinition) : Chars :=
  description v.description ++ spaced [name v.name, directives v.directives]

def implementing (ts : List NamedType) : Chars :=
  wrap "implements ".toList (join " & ".toList (ts.map namedType)) []

def members (ts : List NamedType) : Chars :=
  wrap "= ".toList (join " | ".toList (ts.map namedType)) []

/-- A declaration from its keyword on. -/
def body : TypeSystemBody → Chars
  | .schema dirs roots => spaced ["schema".toList, directives dirs, block (roots.map rootType)]
  | .scalar n dirs => spaced ["scalar".toList, name n, directives dirs]
  | .object n is dirs fs =>
    spaced ["type".toList, name n, implementing is, directives dirs, block (fs.map fieldDefinition)]
  | .interface n is dirs fs =>
    spaced ["interface".toList, name n, implementing is, directives dirs,
      block (fs.map fieldDefinition)]
  | .union n dirs ts => spaced ["union".toList, name n, directives dirs, members ts]
  | .enum n dirs vs =>
    spaced ["enum".toList, name n, directives dirs, block (vs.map enumValueDefinition)]
  | .input n dirs fs =>
    spaced ["input".toList, name n, directives dirs, block (fs.map inputValueDefinition)]
  | .directive n args repeatable places =>
    "directive @".toList ++ name n ++ argumentDefinitions args
      ++ (if repeatable then " repeatable".toList else []) ++ " on ".toList
      ++ join " | ".toList (places.map name)

def typeSystem (t : TypeSystemDefinition) : Chars :=
  if t.isExtension then "extend ".toList ++ body t.body
  else description t.description ++ body t.body

def definition? : Definition → Option Chars
  | .operation o => operation? o
  | .fragment f => some (fragment f)
  | .typeSystem t => some (typeSystem t)

end Printer

/-- The text of a document, if every operation has a selection set. -/
def Document.print? (d : Document) : Option (List Char) :=
  (d.definitions.mapM Printer.definition?).map (Printer.join ['\n', '\n'])

/-- The text of a document, empty if it has none. -/
def Document.printed (d : Document) : List Char :=
  d.print?.getD []

/-- The text a document was read from, else its printed text. -/
def Document.sourceText (d : Document) : List Char :=
  if d.span.isSome then d.text else d.printed

end QueryLint
