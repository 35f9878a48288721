import QueryLint.Number.Literal
import QueryLint.Text.Utf8
import QueryLint.Yaml.Text

/-! # Tokens of YAML

Blocks are shown by indentation, so that the tokens that open and close them are found from columns.
What a colon makes a key is known only behind it: the place of everything that may turn out to be a
key is remembered, and its token is put in when the colon comes. A key stands on one line and is at
most 1024 characters long.
-/

namespace QueryLint.Yaml

inductive Token
  | version (major : Nat)
  | tagPrefix (handle text : String)
  | reserved
  | documentStart
  | documentEnd
  | streamEnd
  | sequenceStart
  | mappingStart
  | blockEnd
  | listOpen
  | listClose
  | tableOpen
  | tableClose
  | item
  | comma
  | key
  | value
  | alias (name : String)
  | anchor (name : String)
  | tag (handle : Option String) (suffix : String)
  | scalar (text : List Glyph) (plain : Bool)
  /-- The rest cannot be read. -/
  | broken (f : Fault)
  deriving DecidableEq, Repr

/-- Something that a colon would make a key: the number of its token and its place. -/
structure PossibleKey where
  number : Nat
  /-- Where it stands only a key can stand. -/
  required : Bool
  index : Nat
  line : Nat
  column : Nat
  deriving DecidableEq, Repr

/-- How far a text has been cut into tokens. -/
structure Scanner where
  cursor : Cursor
  /-- The tokens so far, the last one first. -/
  tokens : List Token := []
  /-- The number of brackets and braces that are open. -/
  flow : Int := 0
  /-- Whether a key may begin here. -/
  allowsKey : Bool := true
  /-- The column of the innermost block, and those of the blocks around it. -/
  indent : Int := -1
  indents : List Int := []
  /-- What may turn out to be a key, by the number of open brackets. -/
  keys : List (Int × PossibleKey) := []

namespace Scanner

def keyLimit : Nat := 1024

def inFlow (s : Scanner) : Bool := s.flow ≠ 0

def count (s : Scanner) : Nat := s.tokens.length

def emit (s : Scanner) (t : Token) : Scanner :=
  { s with tokens := t :: s.tokens }

/-- Puts a token in front of the one with a number. -/
def insertAt (s : Scanner) (number : Nat) (t : Token) : Scanner :=
  let later := s.count - number
  { s with tokens := s.tokens.take later ++ t :: s.tokens.drop later }

def moveTo (s : Scanner) (c : Cursor) : Scanner := { s with cursor := c }

/-- Adds the token of a number of characters. -/
def take (s : Scanner) (n : Nat) (t : Token) : Scanner :=
  (s.moveTo (s.cursor.skip n)).emit t

/-! ## Possible keys -/

def isStale (s : Scanner) (k : PossibleKey) : Bool :=
  k.line ≠ s.cursor.line || k.index + keyLimit < s.cursor.index

/-- Forgets what can no longer become a key. -/
def dropStale (s : Scanner) : Except Fault Scanner :=
  if s.keys.any fun k => s.isStale k.2 && k.2.required then .error .malformed
  else .ok { s with keys := s.keys.filter fun k => !s.isStale k.2 }

/-- Forgets the possible key inside the innermost bracket. -/
def forgetKey (s : Scanner) : Except Fault Scanner :=
  if s.keys.any fun k => k.1 = s.flow && k.2.required then .error .malformed
  else .ok { s with keys := s.keys.filter fun k => k.1 ≠ s.flow }

/-- Remembers the next token as a possible key. -/
def saveKey (s : Scanner) : Except Fault Scanner := do
  if !s.allowsKey then return s
  let c := s.cursor
  let key : PossibleKey :=
    { number := s.count, required := !s.inFlow && s.indent = (c.column : Int)
      index := c.index, line := c.line, column := c.column }
  let s ← s.forgetKey
  return { s with keys := (s.flow, key) :: s.keys }

/-! ## Indentation -/

/-- Closes the blocks that are indented further than a column. -/
def unwindFrom (column : Int) (s : Scanner) : List Int → Scanner
  | [] => s
  | i :: outer =>
    if column < s.indent then
      unwindFrom column ({ s with indent := i, indents := outer }.emit .blockEnd) outer
    else s

def unwind (s : Scanner) (column : Int) : Scanner :=
  if s.inFlow then s else unwindFrom column s s.indents

/-- Opens a block at a column unless one is open there. -/
def openBlock (s : Scanner) (column : Nat) (put : Scanner → Scanner) : Scanner :=
  if !s.inFlow && s.indent < (column : Int) then
    put { s with indent := column, indents := s.indent :: s.indents }
  else s

/-! ## Blanks -/

/-- Passes over spaces, comments and line breaks; a new line of a block may begin with a key. -/
def skipBlank : Nat → Scanner → Scanner
  | 0, s => s
  | fuel + 1, s =>
    let c := s.cursor.skipSpaces.skipComment
    match c.break? with
    | some (_, c) => skipBlank fuel { s with cursor := c, allowsKey := s.allowsKey || !s.inFlow }
    | none => s.moveTo c

/-! ## Directives -/

def name (c : Cursor) : Except Fault (String × Cursor) :=
  match c.takeWhile isNameChar with
  | ([], _) => .error .malformed
  | (cs, c) => .ok (String.ofList cs, c)

def number (c : Cursor) : Except Fault (Nat × Cursor) :=
  match c.takeWhile Char.isDigit with
  | ([], _) => .error .malformed
  | (ds, c) =>
    if Literal.digitLimit < ds.length then
      .error (.impossible (Literal.tooManyDigits ds.length))
    else .ok (Digits.toNat 10 ds, c)

/-- A handle of tags, from one exclamation mark to another. -/
def handle (c : Cursor) : Except Fault (String × Cursor) := do
  if !c.isAt '!' then throw .malformed
  if c.step.isAt ' ' then return ("!", c.step)
  let (cs, c) := c.step.takeWhile isNameChar
  if !c.isAt '!' then throw .malformed
  return ("!" ++ String.ofList cs ++ "!", c.step)

def isUriChar (c : Char) : Bool :=
  c.isAlphanum || "-;/?:@&=+$,_.!~*'()[]".toList.contains c

/-- Characters given by the codes of their bytes. -/
def uriBytes : Nat → Cursor → Except Fault (List UInt8 × Cursor)
  | 0, c => .ok ([], c)
  | fuel + 1, c =>
    if !c.isAt '%' then .ok ([], c)
    else
      let ds := c.step.rest.take 2
      if ds.length < 2 || !ds.all fun d => (Digits.value? d).isSome then .error .malformed
      else (uriBytes fuel (c.skip 3)).map fun (bs, c) =>
        ((Digits.toNat 16 ds).toUInt8 :: bs, c)

/-- The text of a tag. -/
def uriRest : Nat → Cursor → Except Fault (List Char × Cursor)
  | 0, c => .ok ([], c)
  | fuel + 1, c => do
    let (cs, c) := c.takeWhile isUriChar
    if !c.isAt '%' then return (cs, c)
    let (bs, c) ← uriBytes (c.rest.length + 1) c
    let some shown := Text.decodeUtf8 bs | throw .malformed
    let (more, c) ← uriRest fuel c
    return (cs ++ shown ++ more, c)

def uri (c : Cursor) : Except Fault (String × Cursor) := do
  let (cs, after) ← uriRest (c.rest.length + 1) c
  if after.index = c.index then throw .malformed
  return (String.ofList cs, after)

def directive (c : Cursor) : Except Fault (Token × Cursor) := do
  let (name, c) ← name c
  if !isSpaceNext c.rest then throw .malformed
  if name = "YAML" then
    let (major, c) ← number c.skipSpaces
    if !c.isAt '.' then throw .malformed
    let (_, c) ← number c.step
    if !isSpaceNext c.rest then throw .malformed
    return (.version major, ← c.endLine)
  else if name = "TAG" then
    let (handle, c) ← handle c.skipSpaces
    if !c.isAt ' ' then throw .malformed
    let (text, c) ← uri c.skipSpaces
    if !isSpaceNext c.rest then throw .malformed
    return (.tagPrefix handle text, ← c.endLine)
  else
    let c := (c.takeWhile fun d => !isBreak d).2
    return (.reserved, ← c.endLine)

/-! ## Anchors and tags -/

def endsName (s : List Char) : Bool :=
  isGapNext s || s.head?.any fun c => "?:,]\x7d%@\x60".toList.contains c

def anchorName (c : Cursor) : Except Fault (String × Cursor) := do
  let (name, c) ← name c
  if !endsName c.rest then throw .malformed
  return (name, c)

/-- Whether a second exclamation mark comes before the next space. -/
def hasHandle (s : List Char) : Bool :=
  (s.takeWhile fun c => c ≠ ' ' && !isBreak c).contains '!'

def tag (c : Cursor) : Except Fault (Token × Cursor) := do
  let finish (t : Token) (c : Cursor) : Except Fault (Token × Cursor) :=
    if isSpaceNext c.rest then .ok (t, c) else .error .malformed
  let inner := c.step
  if inner.isAt '<' then
    let (suffix, c) ← uri inner.step
    if !c.isAt '>' then throw .malformed
    finish (.tag none suffix) c.step
  else if isGapNext inner.rest then finish (.tag none "!") inner
  else if hasHandle inner.rest then
    let (handle, c) ← handle c
    let (suffix, c) ← uri c
    finish (.tag (some handle) suffix) c
  else
    let (suffix, c) ← uri inner
    finish (.tag (some "!") suffix) c

/-! ## Fetching -/

/-- A mark of the document closes all blocks. -/
def closeAll (s : Scanner) : Except Fault Scanner := do
  let s ← (s.unwind (-1)).forgetKey
  return { s with allowsKey := false }

def openFlow (s : Scanner) (t : Token) : Except Fault Scanner := do
  let s ← s.saveKey
  return { s with flow := s.flow + 1, allowsKey := true }.take 1 t

def closeFlow (s : Scanner) (t : Token) : Except Fault Scanner := do
  let s ← s.forgetKey
  return { s with flow := s.flow - 1, allowsKey := false }.take 1 t

def fetchComma (s : Scanner) : Except Fault Scanner := do
  let s ← s.forgetKey
  return { s with allowsKey := true }.take 1 .comma

def fetchItem (s : Scanner) : Except Fault Scanner := do
  if !s.inFlow && !s.allowsKey then throw .malformed
  let s ← (s.openBlock s.cursor.column (·.emit .sequenceStart)).forgetKey
  return { s with allowsKey := true }.take 1 .item

def fetchKey (s : Scanner) : Except Fault Scanner := do
  if !s.inFlow && !s.allowsKey then throw .malformed
  let s ← (s.openBlock s.cursor.column (·.emit .mappingStart)).forgetKey
  return { s with allowsKey := !s.inFlow }.take 1 .key

/-- A colon, which makes a key of the possible key before it. -/
def fetchValue (s : Scanner) : Except Fault Scanner := do
  match s.keys.lookup s.flow with
  | some k =>
    let s := { s with keys := s.keys.filter (fun l => l.1 ≠ s.flow), allowsKey := false }
    let s := (s.insertAt k.number .key).openBlock k.column (·.insertAt k.number .mappingStart)
    return s.take 1 .value
  | none =>
    if !s.inFlow && !s.allowsKey then throw .malformed
    let s ← (s.openBlock s.cursor.column (·.emit .mappingStart)).forgetKey
    return { s with allowsKey := !s.inFlow }.take 1 .value

/-- A token that may be a key and is followed by none. -/
def fetchKeyed (s : Scanner) (read : Cursor → Except Fault (Token × Cursor)) :
    Except Fault Scanner := do
  let s ← s.saveKey
  let (t, c) ← read s.cursor
  return ({ s with allowsKey := false }.moveTo c).emit t

def fetchBlock (s : Scanner) (folded : Bool) : Except Fault Scanner := do
  let s ← s.forgetKey
  let (text, c) ← blockText folded s.indent s.cursor.step
  return ({ s with allowsKey := true }.moveTo c).emit (.scalar (text.map .char) false)

def fetchPlain (s : Scanner) : Except Fault Scanner := do
  let s ← s.saveKey
  let (text, broken, c) :=
    plainText s.inFlow (s.indent + 1) (s.cursor.rest.length + 1) [] false s.cursor
  return ({ s with allowsKey := broken }.moveTo c).emit (.scalar (text.map .char) true)

/-- Adds the next token, and tells whether it is the last. -/
def fetch (s : Scanner) : Except Fault (Scanner × Bool) := do
  let start := if s.cursor.index = 0 && s.cursor.isAt '\ufeff' then s.moveTo s.cursor.step else s
  let s ← (start.skipBlank (start.cursor.rest.length + 1)).dropStale
  let s := s.unwind s.cursor.column
  let c := s.cursor
  let more (r : Except Fault Scanner) : Except Fault (Scanner × Bool) := r.map (·, false)
  match c.rest with
  | [] => return ((← s.closeAll).emit .streamEnd, true)
  | d :: r =>
    if d = '%' && c.column = 0 then
      let s ← s.closeAll
      let (t, c) ← directive c.step
      return ((s.moveTo c).emit t, false)
    else if c.column = 0 && c.hasMarks '-' then return ((← s.closeAll).take 3 .documentStart, false)
    else if c.column = 0 && c.hasMarks '.' then return ((← s.closeAll).take 3 .documentEnd, false)
    else if d = '[' then more (s.openFlow .listOpen)
    else if d = '\x7b' then more (s.openFlow .tableOpen)
    else if d = ']' then more (s.closeFlow .listClose)
    else if d = '\x7d' then more (s.closeFlow .tableClose)
    else if d = ',' then more s.fetchComma
    else if d = '-' && isGapNext r then more s.fetchItem
    else if d = '?' && (s.inFlow || isGapNext r) then more s.fetchKey
    else if d = ':' && (s.inFlow || isGapNext r) then more s.fetchValue
    else if d = '*' then
      more (s.fetchKeyed fun c => (anchorName c.step).map fun (n, c) => (.alias n, c))
    else if d = '&' then
      more (s.fetchKeyed fun c => (anchorName c.step).map fun (n, c) => (.anchor n, c))
    else if d = '!' then more (s.fetchKeyed tag)
    else if d = '|' && !s.inFlow then more (s.fetchBlock false)
    else if d = '>' && !s.inFlow then more (s.fetchBlock true)
    else if d = '\'' || d = '"' then
      more (s.fetchKeyed fun c => (quotedText c).map fun (t, c) =>
        (.scalar t false, c))
    else if startsPlain s.inFlow c.rest then more s.fetchPlain
    else throw .malformed

/-- The tokens that are known for sure when reading breaks down: those in front of every possible
key. -/
def certain (s : Scanner) : List Token :=
  s.tokens.reverse.take (s.keys.foldl (fun n k => min n k.2.number) s.count)

def run : Nat → Scanner → List Token
  | 0, s => s.certain ++ [.broken .malformed]
  | fuel + 1, s =>
    match s.dropStale with
    | .error f => s.certain ++ [.broken f]
    | .ok s =>
      match s.fetch with
      | .error f => s.certain ++ [.broken f]
      | .ok (s, true) => s.tokens.reverse
      | .ok (s, false) => run fuel s

end Scanner

def tokens (text : List Char) : List Token :=
  Scanner.run (text.length + 2) { cursor := { rest := text } }

end QueryLint.Yaml
