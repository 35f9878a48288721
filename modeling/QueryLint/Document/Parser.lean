import QueryLint.Document.Basic
import QueryLint.Token.Lexer

/-! # Reading documents

Recursive descent over the stream of tokens with one current token. A token is read when it becomes
current, so a fault in the text shows up as soon as the token before it is consumed and not earlier;
only the keyword behind a description or `extend` is looked at ahead of its turn.

Nesting and repetition are bounded by a budget. Every level and every item consumes a token, so the
number of tokens is budget enough.
-/

namespace QueryLint

structure ParserState where
  current : Token
  ahead : TokenStream
  /-- Where the last consumed token ends. -/
  lastStop : Nat := 0
  /-- Whether nodes get spans. -/
  located : Bool := true

abbrev Parser := StateT ParserState (Except FaultAt)

namespace Parser

variable {α : Type}

def failAt (offset : Nat) (fault : Fault) : Parser α :=
  throw ⟨fault, offset⟩

def current : Parser Token := do
  return (← get).current

def unexpected (t : Token) : Parser α :=
  failAt t.span.start (.unexpected t)

/-- The token after the current one. -/
def lookahead : Parser Token := do
  match (← get).ahead with
  | .more t _ => return t
  | .done t => return t
  | .broken f => throw f

def advance : Parser Unit := do
  let s ← get
  match s.ahead with
  | .more t next => set { s with current := t, ahead := next, lastStop := s.current.span.stop }
  | .done t => set { s with current := t, lastStop := s.current.span.stop }
  | .broken f => throw f

def peek (kind : TokenKind) : Parser Bool := do
  return (← current).kind == kind

def peekKeyword (word : String) : Parser Bool := do
  let t ← current
  return t.kind == .name && t.value == word

def expect (kind : TokenKind) : Parser Token := do
  let t ← current
  if t.kind == kind then
    advance
    return t
  else failAt t.span.start (.expected kind t)

/-- Consumes a token of the kind if it is there. -/
def accept (kind : TokenKind) : Parser Bool := do
  if ← peek kind then
    advance
    return true
  else return false

def expectKeyword (word : String) : Parser Unit := do
  if ← peekKeyword word then advance
  else
    let t ← current
    failAt t.span.start (.expectedKeyword word t)

def acceptKeyword (word : String) : Parser Bool := do
  if ← peekKeyword word then
    advance
    return true
  else return false

def spanFrom (first : Token) : Parser (Option Span) := do
  let s ← get
  return if s.located then some ⟨first.span.start, s.lastStop⟩ else none

/-! ## Repetition -/

/-- At least one item, up to a closing token. -/
def itemsUntil (close : TokenKind) (item : Parser α) : Nat → Parser (List α)
  | 0 => do unexpected (← current)
  | budget + 1 => do
    let x ← item
    if ← accept close then return [x]
    else return x :: (← itemsUntil close item budget)

def many (opening : TokenKind) (item : Parser α) (close : TokenKind) (budget : Nat) :
    Parser (List α) := do
  let _ ← expect opening
  itemsUntil close item budget

/-- Nothing, or at least one item between the two tokens. -/
def optionalMany (opening : TokenKind) (item : Parser α) (close : TokenKind) (budget : Nat) :
    Parser (List α) := do
  if ← peek opening then many opening item close budget else return []

def anyNumber (opening : TokenKind) (item : Parser α) (close : TokenKind) (budget : Nat) :
    Parser (List α) := do
  let _ ← expect opening
  if ← accept close then return [] else itemsUntil close item budget

def itemsWhile (kind : TokenKind) (item : Parser α) : Nat → Parser (List α)
  | 0 => return []
  | budget + 1 => do
    if ← peek kind then
      let x ← item
      return x :: (← itemsWhile kind item budget)
    else return []

def separated (separator : TokenKind) (item : Parser α) : Nat → Parser (List α)
  | 0 => do unexpected (← current)
  | budget + 1 => do
    let x ← item
    if ← accept separator then return x :: (← separated separator item budget)
    else return [x]

/-- Separated items, with the separator allowed in front of the first. -/
def delimited (separator : TokenKind) (item : Parser α) (budget : Nat) : Parser (List α) := do
  let _ ← accept separator
  separated separator item budget

/-! ## Names, types and values -/

def name : Parser Name := do
  let t ← expect .name
  return { value := t.value, span := ← spanFrom t }

def namedType : Parser NamedType := do
  let t ← current
  let n ← name
  return { name := n, span := ← spanFrom t }

def variableRef : Parser Variable := do
  let t ← expect .dollar
  let n ← name
  return { name := n, span := ← spanFrom t }

def typeRef : Nat → Parser TypeRef
  | 0 => do unexpected (← current)
  | budget + 1 => do
    let t ← current
    let inner ← (do
      if ← accept .bracketL then
        let inner ← typeRef budget
        let _ ← expect .bracketR
        return TypeRef.list inner (← spanFrom t)
      else return TypeRef.named (← namedType))
    if ← accept .bang then return .nonNull inner (← spanFrom t) else return inner

def objectField (value : Parser Value) : Parser ObjectField := do
  let t ← current
  let n ← name
  let _ ← expect .colon
  let v ← value
  return { name := n, value := v, span := ← spanFrom t }

/-- A name as a value: one of the three literals or an enum value. -/
def namedValue : Parser Value := do
  let t ← current
  advance
  let span ← spanFrom t
  return match t.value with
    | "true" => .boolean true span
    | "false" => .boolean false span
    | "null" => .null span
    | word => .enum word span

/-- A variable is no constant. -/
def variableValue (const : Bool) : Parser Value := do
  if const then
    let dollar ← expect .dollar
    let t ← current
    if t.kind == .name then failAt dollar.span.start (.constantVariable t.value)
    else unexpected dollar
  else return .var (← variableRef)

def value (const : Bool) : Nat → Parser Value
  | 0 => do unexpected (← current)
  | budget + 1 => do
    let t ← current
    match t.kind with
    | .bracketL =>
      let items ← anyNumber .bracketL (value const budget) .bracketR budget
      return .list items (← spanFrom t)
    | .braceL =>
      let fields ← anyNumber .braceL (objectField (value const budget)) .braceR budget
      return .object fields (← spanFrom t)
    | .int =>
      advance
      return .int t.value (← spanFrom t)
    | .float =>
      advance
      return .float t.value (← spanFrom t)
    | .string =>
      advance
      return .string t.value false (← spanFrom t)
    | .blockString =>
      advance
      return .string t.value true (← spanFrom t)
    | .name => namedValue
    | .dollar => variableValue const
    | _ => unexpected t

/-! ## Arguments and directives -/

def argument (const : Bool) (budget : Nat) : Parser Argument := do
  let t ← current
  let n ← name
  let _ ← expect .colon
  let v ← value const budget
  return { name := n, value := v, span := ← spanFrom t }

def arguments (const : Bool) (budget : Nat) : Parser (List Argument) :=
  optionalMany .parenL (argument const budget) .parenR budget

def directive (const : Bool) (budget : Nat) : Parser Directive := do
  let t ← expect .atSign
  let n ← name
  let args ← arguments const budget
  return { name := n, arguments := args, span := ← spanFrom t }

def directives (const : Bool) (budget : Nat) : Parser (List Directive) :=
  itemsWhile .atSign (directive const budget) budget

/-! ## Selections -/

/-- The name of a fragment may not be `on`. -/
def fragmentName : Parser Name := do
  let t ← current
  if t.value == "on" then unexpected t else name

def field (selectionSet : Parser SelectionSet) (budget : Nat) : Parser Field := do
  let t ← current
  let first ← name
  let (aliasName, fieldName) ← (do
    if ← accept .colon then return (some first, ← name) else return (none, first))
  let args ← arguments false budget
  let dirs ← directives false budget
  let body ← (do
    if ← peek .braceL then return some (← selectionSet) else return none)
  return { aliasName, name := fieldName, arguments := args, directives := dirs,
           selectionSet := body, span := ← spanFrom t }

/-- What may follow three dots: a spread, or a fragment in place. -/
def spreadSelection (selectionSet : Parser SelectionSet) (budget : Nat) : Parser Selection := do
  let t ← expect .spread
  let conditional ← acceptKeyword "on"
  if !conditional && (← peek .name) then
    let n ← fragmentName
    let dirs ← directives false budget
    return .spread { name := n, directives := dirs, span := ← spanFrom t }
  else
    let condition ← (do
      if conditional then return some (← namedType) else return none)
    let dirs ← directives false budget
    let body ← selectionSet
    return .inlineFragment
      { condition, directives := dirs, selectionSet := body, span := ← spanFrom t }

def selection (selectionSet : Parser SelectionSet) (budget : Nat) : Parser Selection := do
  if ← peek .spread then spreadSelection selectionSet budget
  else return .field (← field selectionSet budget)

def selectionSet : Nat → Parser SelectionSet
  | 0 => do unexpected (← current)
  | budget + 1 => do
    let t ← current
    let items ← many .braceL (selection (selectionSet budget) budget) .braceR budget
    return { selections := items, span := ← spanFrom t }

/-! ## Operations and fragments -/

def operationKind : Parser OperationKind := do
  let t ← expect .name
  match OperationKind.ofKeyword? t.value with
  | some k => return k
  | none => unexpected t

def variableDefinition (budget : Nat) : Parser VariableDefinition := do
  let t ← current
  let v ← variableRef
  let _ ← expect .colon
  let type ← typeRef budget
  let defaultValue ← (do
    if ← accept .equals then return some (← value true budget) else return none)
  let dirs ← directives true budget
  return { ref := v, type, defaultValue, directives := dirs, span := ← spanFrom t }

def operation (budget : Nat) : Parser Operation := do
  let t ← current
  if ← peek .braceL then
    let body ← selectionSet budget
    return { kind := .query, name := none, declarations := [], directives := [],
             selectionSet := some body, span := ← spanFrom t }
  else
    let kind ← operationKind
    let n ← (do
      if ← peek .name then return some (← name) else return none)
    let declarations ← optionalMany .parenL (variableDefinition budget) .parenR budget
    let dirs ← directives false budget
    let body ← selectionSet budget
    return { kind, name := n, declarations, directives := dirs, selectionSet := some body,
             span := ← spanFrom t }

def fragment (budget : Nat) : Parser Fragment := do
  let t ← current
  expectKeyword "fragment"
  let n ← fragmentName
  expectKeyword "on"
  let condition ← namedType
  let dirs ← directives false budget
  let body ← selectionSet budget
  return { name := n, condition, directives := dirs, selectionSet := body, span := ← spanFrom t }

/-! ## The type system -/

def peekDescription : Parser Bool := do
  return (← peek .string) || (← peek .blockString)

def description : Parser (Option Description) := do
  let t ← current
  if ← peekDescription then
    advance
    return some { content := t.value, block := t.kind == .blockString, span := ← spanFrom t }
  else return none

def rootType : Parser RootType := do
  let t ← current
  let kind ← operationKind
  let _ ← expect .colon
  let type ← namedType
  return { kind, type, span := ← spanFrom t }

def inputValueDefinition (budget : Nat) : Parser InputValueDefinition := do
  let t ← current
  let description ← description
  let n ← name
  let _ ← expect .colon
  let type ← typeRef budget
  let defaultValue ← (do
    if ← accept .equals then return some (← value true budget) else return none)
  let dirs ← directives true budget
  return { description, name := n, type, defaultValue, directives := dirs, span := ← spanFrom t }

def argumentDefinitions (budget : Nat) : Parser (List InputValueDefinition) :=
  optionalMany .parenL (inputValueDefinition budget) .parenR budget

def fieldDefinition (budget : Nat) : Parser FieldDefinition := do
  let t ← current
  let description ← description
  let n ← name
  let args ← argumentDefinitions budget
  let _ ← expect .colon
  let type ← typeRef budget
  let dirs ← directives true budget
  return { description, name := n, arguments := args, type, directives := dirs,
           span := ← spanFrom t }

def enumValueName : Parser Name := do
  let t ← current
  if ["true", "false", "null"].contains t.value then
    failAt t.span.start (.reservedEnumValue t)
  else name

def enumValueDefinition (budget : Nat) : Parser EnumValueDefinition := do
  let t ← current
  let description ← description
  let n ← enumValueName
  let dirs ← directives true budget
  return { description, name := n, directives := dirs, span := ← spanFrom t }

def interfaces (budget : Nat) : Parser (List NamedType) := do
  if ← acceptKeyword "implements" then delimited .amp namedType budget else return []

def fieldDefinitions (budget : Nat) : Parser (List FieldDefinition) :=
  optionalMany .braceL (fieldDefinition budget) .braceR budget

def unionMembers (budget : Nat) : Parser (List NamedType) := do
  if ← accept .equals then delimited .pipe namedType budget else return []

def directivePlaces : List String :=
  ["QUERY", "MUTATION", "SUBSCRIPTION", "FIELD", "FRAGMENT_DEFINITION", "FRAGMENT_SPREAD",
   "INLINE_FRAGMENT", "VARIABLE_DEFINITION", "SCHEMA", "SCALAR", "OBJECT", "FIELD_DEFINITION",
   "ARGUMENT_DEFINITION", "INTERFACE", "UNION", "ENUM", "ENUM_VALUE", "INPUT_OBJECT",
   "INPUT_FIELD_DEFINITION"]

def directivePlace : Parser Name := do
  let t ← current
  let n ← name
  if directivePlaces.contains n.value then return n else unexpected t

def definitionBody (keyword : String) (budget : Nat) : Parser TypeSystemBody := do
  expectKeyword keyword
  match keyword with
  | "schema" =>
    let dirs ← directives true budget
    return .schema dirs (← many .braceL rootType .braceR budget)
  | "scalar" =>
    let n ← name
    return .scalar n (← directives true budget)
  | "type" =>
    let n ← name
    let is ← interfaces budget
    let dirs ← directives true budget
    return .object n is dirs (← fieldDefinitions budget)
  | "interface" =>
    let n ← name
    let is ← interfaces budget
    let dirs ← directives true budget
    return .interface n is dirs (← fieldDefinitions budget)
  | "union" =>
    let n ← name
    let dirs ← directives true budget
    return .union n dirs (← unionMembers budget)
  | "enum" =>
    let n ← name
    let dirs ← directives true budget
    return .enum n dirs (← optionalMany .braceL (enumValueDefinition budget) .braceR budget)
  | "input" =>
    let n ← name
    let dirs ← directives true budget
    return .input n dirs (← optionalMany .braceL (inputValueDefinition budget) .braceR budget)
  | _ =>
    let _ ← expect .atSign
    let n ← name
    let args ← argumentDefinitions budget
    let repeatable ← acceptKeyword "repeatable"
    expectKeyword "on"
    return .directive n args repeatable (← delimited .pipe directivePlace budget)

def definitionKeywords : List String :=
  ["schema", "scalar", "type", "interface", "union", "enum", "input", "directive"]

def typeSystemDefinition (keyword : String) (budget : Nat) : Parser TypeSystemDefinition := do
  let t ← current
  let description ← description
  let body ← definitionBody keyword budget
  return { description, isExtension := false, body, span := ← spanFrom t }

/-- An extension has to add something. -/
def extensionBody (keyword : String) (budget : Nat) : Parser TypeSystemBody := do
  expectKeyword keyword
  let body ← (do
    match keyword with
    | "schema" =>
      let dirs ← directives true budget
      return TypeSystemBody.schema dirs (← optionalMany .braceL rootType .braceR budget)
    | "scalar" =>
      let n ← name
      return .scalar n (← directives true budget)
    | "type" =>
      let n ← name
      let is ← interfaces budget
      let dirs ← directives true budget
      return .object n is dirs (← fieldDefinitions budget)
    | "interface" =>
      let n ← name
      let is ← interfaces budget
      let dirs ← directives true budget
      return .interface n is dirs (← fieldDefinitions budget)
    | "union" =>
      let n ← name
      let dirs ← directives true budget
      return .union n dirs (← unionMembers budget)
    | "enum" =>
      let n ← name
      let dirs ← directives true budget
      return .enum n dirs (← optionalMany .braceL (enumValueDefinition budget) .braceR budget)
    | _ =>
      let n ← name
      let dirs ← directives true budget
      return .input n dirs (← optionalMany .braceL (inputValueDefinition budget) .braceR budget))
  let adds : Bool := match body with
    | .schema ds rs => !ds.isEmpty || !rs.isEmpty
    | .scalar _ ds => !ds.isEmpty
    | .object _ is ds fs => !is.isEmpty || !ds.isEmpty || !fs.isEmpty
    | .interface _ is ds fs => !is.isEmpty || !ds.isEmpty || !fs.isEmpty
    | .union _ ds ts => !ds.isEmpty || !ts.isEmpty
    | .enum _ ds vs => !ds.isEmpty || !vs.isEmpty
    | .input _ ds fs => !ds.isEmpty || !fs.isEmpty
    | .directive .. => true
  if adds then return body else unexpected (← current)

def extensionKeywords : List String :=
  ["schema", "scalar", "type", "interface", "union", "enum", "input"]

def typeSystemExtension (budget : Nat) : Parser TypeSystemDefinition := do
  let t ← current
  let keyword ← lookahead
  if keyword.kind == .name && extensionKeywords.contains keyword.value then
    expectKeyword "extend"
    let body ← extensionBody keyword.value budget
    return { description := none, isExtension := true, body, span := ← spanFrom t }
  else unexpected keyword

/-! ## Documents -/

def definition (budget : Nat) : Parser Definition := do
  if ← peek .braceL then return .operation (← operation budget)
  else
    let described ← peekDescription
    let keyword ← if described then lookahead else current
    if keyword.kind == .name then
      if definitionKeywords.contains keyword.value then
        return .typeSystem (← typeSystemDefinition keyword.value budget)
      else if described then
        failAt (← current).span.start .undescribable
      else if (OperationKind.ofKeyword? keyword.value).isSome then
        return .operation (← operation budget)
      else if keyword.value == "fragment" then return .fragment (← fragment budget)
      else if keyword.value == "extend" then
        return .typeSystem (← typeSystemExtension budget)
      else unexpected keyword
    else unexpected keyword

def start (located : Bool) : TokenStream → Except FaultAt ParserState
  | .more t next => .ok { current := t, ahead := next, located }
  | .done t => .ok { current := t, ahead := .done t, located }
  | .broken f => .error f

end Parser

/-- Reads a document, with spans unless told otherwise. -/
def Document.parse (text : List Char) (located : Bool := true) : Except FaultAt Document := do
  let tokens := tokenize text
  let budget := tokens.length + 2
  let s ← Parser.start located tokens
  let (definitions, _) ← (Parser.itemsUntil .endOfText (Parser.definition budget) budget).run s
  return { definitions, text, span := if located then some ⟨0, text.length⟩ else none }

end QueryLint
