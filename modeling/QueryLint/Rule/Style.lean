import QueryLint.Rule.Basic
import QueryLint.Rule.NameCase
import QueryLint.Token.Lexer
import QueryLint.Text.Blank

/-! # Style

Naming conventions, spacing, indentation and the length of lines. The layout is that of the text a
document was read from, or of its printed text if it was not read from one.
-/

namespace QueryLint

namespace Style

/-! ## Names -/

def camelFindings (owner name : String) (camelCase reserved : Bool) (n : Node) : List Finding :=
  (if camelCase && !NameCase.isCamel name then
    [.warning (owner ++ " name '" ++ name ++ "' should follow camelCase convention") n] else [])
  ++ (if NameCase.hasUnderscore name then
    [.info (owner ++ " name '" ++ name ++ "' contains underscores - consider camelCase") n] else [])
  ++ (if owner = "Field" && NameCase.hasAdjacentCapitals name.toList then
    [.info ("Field name '" ++ name
      ++ "' contains consecutive uppercase letters - consider camelCase") n] else [])
  ++ (if reserved then
    [.warning (owner ++ " name '" ++ name
      ++ "' is a reserved word - consider alternative naming") n] else [])

def pascalFindings (owner name : String) (n : Node) : List Finding :=
  (if !NameCase.isPascal name then
    [.warning (owner ++ " name '" ++ name ++ "' should follow PascalCase convention") n] else [])
  ++ (if NameCase.hasUnderscore name then
    [.info (owner ++ " name '" ++ name ++ "' contains underscores - consider PascalCase") n]
   else [])

def nameFindings (camelCase : Bool) (n : Node) : List Finding :=
  match n with
  | .field f =>
    let name := f.name.value
    if f.isIntrospection then []
    else camelFindings "Field" name camelCase (NameCase.isReserved name) n
  | .argument a =>
    camelFindings "Argument" a.name.value camelCase (NameCase.isReserved a.name.value) n
  | .directive d =>
    let name := d.name.value
    camelFindings "Directive" name camelCase
      (!NameCase.builtinDirectives.contains name && NameCase.isReserved name) n
  | .fragment f => pascalFindings "Fragment" f.name.value n
  | .operation o => match o.name with
    | some name => pascalFindings "Operation" name.value n
    | none => []
  | _ => []

def naming (c : Context) : List Finding :=
  c.document.nodes.flatMap (nameFindings (c.config.flag .camelCase))

/-! ## Spacing -/

inductive SpacingFault
  | spaces
  | colon
  | comma
  deriving DecidableEq, Repr

def SpacingFault.finding (f : SpacingFault) (t : Token) : Finding :=
  let place := Place.spot t.line t.column
  match f with
  | spaces =>
    ⟨.info, "Multiple consecutive spaces detected - use single spaces between tokens", place⟩
  | colon => ⟨.warning, "Missing space after colon - use consistent spacing", place⟩
  | comma => ⟨.info, "Missing space after comma - use consistent spacing", place⟩

/-- What is wrong between two tokens on a line. -/
def spacingFaults (previous token : Token) : List SpacingFault :=
  let gap := token.gap
  if gap.contains '\n' || gap.contains '\r' || gap.contains '#' then []
  else
    (if Text.occurs [' ', ' '] gap then [.spaces] else [])
    ++ (if previous.kind = .colon && gap.isEmpty then [.colon] else [])
    ++ (if gap.getLast? = some ',' then [.comma] else [])

/-- Every fault is reported where it first occurs. -/
def firstFaults (seen : List SpacingFault) : List (SpacingFault × Token) → List Finding
  | [] => []
  | (f, t) :: rest =>
    if seen.contains f then firstFaults seen rest else f.finding t :: firstFaults (f :: seen) rest

def spacing (tokens : List Token) : List Finding :=
  firstFaults [] ((tokens.zip (tokens.drop 1)).flatMap fun (previous, token) =>
    (spacingFaults previous token).map fun f => (f, token))

/-! ## Indentation -/

def lineTokens (lastLine : Nat) : List Token → List Token
  | [] => []
  | t :: ts => if t.line = lastLine then lineTokens lastLine ts else t :: lineTokens t.line ts

/-- Nothing but blanks stands between the line feed before a token and the token. -/
def beginsLine (text : List Char) (t : Token) : Bool :=
  Text.allBlank ((text.take t.span.start).reverse.takeWhile (· ≠ '\n'))

def indents (text : List Char) (tokens : List Token) : List Nat :=
  ((lineTokens 0 tokens).filter (beginsLine text)).map fun t => t.column - 1

/-- The positive indents are not all multiples of the smallest. -/
def inconsistent (indents : List Nat) : Bool :=
  let steps := indents.filter (0 < ·)
  match steps.min? with
  | some step => steps.any fun i => i % step ≠ 0
  | none => false

def consistency (c : Context) (text : List Char) (tokens : List Token) : List Finding :=
  if inconsistent (indents text tokens) then
    [.warning "Inconsistent indentation - use the same indentation step on every level"
      c.document.root]
  else []

def levelOf (line : List Char) : Nat :=
  (line.takeWhile (· = ' ')).length / 2

def nestingLevel (c : Context) : List Finding :=
  let limit := c.config.limit .indentationLevel
  let levels := ((Text.lines c.document.printed).filter fun l => !Text.allBlank l).map levelOf
  match levels.find? fun (level : Nat) => limit < (level : Int) with
  | some level =>
    [.warning ("Indentation level (" ++ toString level ++ ") exceeds recommended limit ("
      ++ toString limit ++ ")") c.document.root]
  | none => []

/-! ## Line length -/

def lineLength (c : Context) (text : List Char) : List Finding :=
  let limit := c.config.limit .lineLength
  match ((Text.lines text).zipIdx 1).find? fun (l, _) => limit < (l.length : Int) with
  | some (l, number) =>
    [⟨.warning, "Line " ++ toString number ++ " length (" ++ toString l.length
      ++ ") exceeds recommended limit (" ++ toString limit ++ ")", .spot number (limit + 1)⟩]
  | none => []

/-! ## The rule -/

def layout (c : Context) (text : List Char) (tokens : List Token) : List Finding :=
  (if c.config.flag .consistentSpacing then spacing tokens else [])
  ++ (if c.config.flag .indentation then consistency c text tokens ++ nestingLevel c else [])
  ++ lineLength c text

def check (c : Context) : Checked :=
  let text := c.document.sourceText
  (Checked.ofFindings (naming c)).append (match (tokenize text).toList with
    | .ok tokens => .ofFindings (layout c text tokens)
    | .error f => { failure := some f.fault.message })

def rule (handle : Nat) : Rule :=
  .ofCheck "StyleRule" "STYLE" "Naming conventions, whitespace, indentation and line length" handle
    check

end Style

end QueryLint
