import QueryLint.Token.Basic
import QueryLint.Text.Search

/-! # Reading tokens

A lexeme is read off the front of the remaining characters; its size is at least one, so that the
stream of tokens ends. Offsets of faults inside a lexeme count from its first character.
-/

namespace QueryLint

namespace Lexer

def isDigit (c : Char) : Bool :=
  '0' ≤ c && c ≤ '9'

def isNameStart (c : Char) : Bool :=
  ('a' ≤ c && c ≤ 'z') || ('A' ≤ c && c ≤ 'Z') || c = '_'

def isNameContinue (c : Char) : Bool :=
  isNameStart c || isDigit c

/-- Spaces, tabs, commas and byte order marks separate tokens and mean nothing. -/
def isIgnored (c : Char) : Bool :=
  c = ' ' || c = '\t' || c = ',' || c = '\ufeff'

structure Lexeme where
  kind : TokenKind
  value : String
  /-- One less than the number of characters. -/
  extra : Nat
  /-- The number of line breaks inside. -/
  breaks : Nat := 0
  /-- Where the last line begins, if there is a break inside. -/
  lastLine : Nat := 0

/-! ## Numbers -/

/-- The end of the digits that must stand at a position. -/
def digitsFrom (s : List Char) (pos : Nat) : Except FaultAt Nat :=
  let ds := (s.drop pos).takeWhile isDigit
  if ds.isEmpty then .error ⟨.digitExpected (s.drop pos).head?, pos⟩ else .ok (pos + ds.length)

def charAt? (s : List Char) (pos : Nat) : Option Char :=
  (s.drop pos).head?

/-- A whole part is a single zero or digits that do not begin with one. -/
def wholeFrom (s : List Char) (pos : Nat) : Except FaultAt Nat :=
  if charAt? s pos = some '0' then
    if (charAt? s (pos + 1)).any isDigit then
      .error ⟨.digitAfterZero (charAt? s (pos + 1)), pos + 1⟩
    else .ok (pos + 1)
  else digitsFrom s pos

def fractionFrom (s : List Char) (pos : Nat) : Except FaultAt Nat :=
  if charAt? s pos = some '.' then digitsFrom s (pos + 1) else .ok pos

def exponentFrom (s : List Char) (pos : Nat) : Except FaultAt Nat :=
  if (charAt? s pos).any fun c => c = 'e' || c = 'E' then
    if (charAt? s (pos + 1)).any fun c => c = '+' || c = '-' then digitsFrom s (pos + 2)
    else digitsFrom s (pos + 1)
  else .ok pos

/-- A number may not run into a point or a name. -/
def readNumber (s : List Char) : Except FaultAt Lexeme := do
  let start := if s.head? = some '-' then 1 else 0
  let whole ← wholeFrom s start
  let fraction ← fractionFrom s whole
  let stop ← exponentFrom s fraction
  if (charAt? s stop).any fun c => c = '.' || isNameStart c then
    throw ⟨.digitExpected (charAt? s stop), stop⟩
  let kind := if stop = whole then TokenKind.int else TokenKind.float
  return { kind, value := String.ofList (s.take stop), extra := stop - 1 }

/-! ## Strings -/

def hexValue? (c : Char) : Option Nat :=
  if isDigit c then some (c.toNat - '0'.toNat)
  else if 'A' ≤ c && c ≤ 'F' then some (c.toNat - 'A'.toNat + 10)
  else if 'a' ≤ c && c ≤ 'f' then some (c.toNat - 'a'.toNat + 10)
  else none

def hexNumber? (s : List Char) : Option Nat :=
  s.foldl (fun n? c => do return 16 * (← n?) + (← hexValue? c)) (some 0)

def isScalar (n : Nat) : Bool :=
  n < 0xD800 || (0xE000 ≤ n && n ≤ 0x10FFFF)

def simpleEscape? : Char → Option Char
  | '"' => some '"'
  | '\\' => some '\\'
  | '/' => some '/'
  | 'b' => some '\x08'
  | 'f' => some '\x0c'
  | 'n' => some '\n'
  | 'r' => some '\r'
  | 't' => some '\t'
  | _ => none

/-- An escape: the character it stands for and one less than its size. -/
abbrev Escape := Char × Nat

def badUnicode (s : List Char) (size : Nat) : Fault :=
  .unicodeEscape (String.ofList (s.take size))

/-- The code of four digits; a text that ends before them is truncated. -/
def fourDigits (s : List Char) : Except Fault (Option Nat) :=
  if s.length < 4 then .error .truncatedEscape else .ok (hexNumber? (s.take 4))

/-- The second half of a pair of escapes for one character beyond the basic plane. -/
def trailingHalf (s : List Char) (high : Nat) : Except Fault Escape :=
  match s.drop 6 with
  | [] => .error .truncatedEscape
  | '\\' :: r =>
    match r with
    | [] => .error .truncatedEscape
    | 'u' :: r => do
      match ← fourDigits r with
      | some low =>
        if 0xDC00 ≤ low && low ≤ 0xDFFF then
          return (Char.ofNat (0x10000 + (high - 0xD800) * 0x400 + (low - 0xDC00)), 11)
        else throw (badUnicode s 6)
      | none => throw (badUnicode s 6)
    | _ => .error (badUnicode s 6)
  | _ => .error (badUnicode s 6)

def fixedEscape (s : List Char) : Except Fault Escape := do
  match ← fourDigits (s.drop 2) with
  | some n =>
    if isScalar n then return (Char.ofNat n, 5)
    else if n ≤ 0xDBFF then trailingHalf s n
    else throw (badUnicode s 6)
  | none => throw (badUnicode s 6)

/-- The digits of a braced escape, of which `size` characters are read and at most twelve may be. -/
def bracedDigits (s : List Char) (size : Nat) (code : Nat) : List Char → Except Fault Escape
  | [] => .error (badUnicode s size)
  | c :: r =>
    if 12 ≤ size then .error (badUnicode s size)
    else if c = '\x7d' then
      if 4 ≤ size && isScalar code then .ok (Char.ofNat code, size)
      else .error (badUnicode s (size + 1))
    else match hexValue? c with
      | some d => bracedDigits s (size + 1) (16 * code + d) r
      | none => .error (badUnicode s (size + 1))

def readEscape (s : List Char) : Except Fault Escape :=
  match s.drop 1 with
  | [] => .error .truncatedEscape
  | 'u' :: r =>
    match r with
    | [] => .error .truncatedEscape
    | '\x7b' :: r => bracedDigits s 3 0 r
    | _ => fixedEscape s
  | c :: _ =>
    match simpleEscape? c with
    | some e => .ok (e, 1)
    | none => .error (.escape (String.ofList (s.take 2)))

/-- The content of a string and the position after its closing quote. -/
def stringFrom (s : List Char) (pos : Nat) : Except FaultAt (List Char × Nat) :=
  match s with
  | [] => .error ⟨.unterminatedString, pos⟩
  | '"' :: _ => .ok ([], pos + 1)
  | '\\' :: r =>
    match readEscape ('\\' :: r) with
    | .error f => .error ⟨f, pos⟩
    | .ok (c, extra) =>
      (stringFrom (r.drop extra) (pos + extra + 1)).map fun (cs, stop) => (c :: cs, stop)
  | c :: r =>
    if c = '\n' || c = '\r' then .error ⟨.unterminatedString, pos⟩
    else (stringFrom r (pos + 1)).map fun (cs, stop) => (c :: cs, stop)
termination_by s.length
decreasing_by all_goals grind

def readString (s : List Char) : Except FaultAt Lexeme := do
  let (content, stop) ← stringFrom (s.drop 1) 1
  return { kind := .string, value := String.ofList content, extra := stop - 1 }

/-! ## Block strings -/

def indentOf (line : List Char) : Nat :=
  (line.takeWhile fun c => c = ' ' || c = '\t').length

def isBlankLine (line : List Char) : Bool :=
  indentOf line == line.length

def commonIndent (lines : List (List Char)) : Nat :=
  (((lines.filter fun l => !isBlankLine l).map indentOf).min?).getD 0

/-- The lines of a block string without the indent that all but the first share, and without blank
lines at the two ends. -/
def dedent : List (List Char) → List (List Char)
  | [] => []
  | first :: rest =>
    let indent := commonIndent rest
    let shifted := first :: rest.map (·.drop indent)
    let blank := (first :: rest).map isBlankLine
    let leading := (blank.takeWhile id).length
    let trailing := (blank.reverse.takeWhile id).length
    (shifted.take (shifted.length - trailing)).drop leading

structure Block where
  lines : List (List Char)
  stop : Nat
  lastLine : Nat

/-- Puts a piece of text in front of the first line of a block. -/
def Block.cons (piece : List Char) (b : Block) : Block :=
  match b.lines with
  | [] => { b with lines := [piece] }
  | l :: ls => { b with lines := (piece ++ l) :: ls }

/-- Opens a new line in front of a block; `start` is where the block's first line begins. -/
def Block.breakLine (start : Nat) (b : Block) : Block :=
  { b with lines := [] :: b.lines, lastLine := max start b.lastLine }

/-- The raw lines of a block string from a position inside it. -/
def blockFrom (pos : Nat) : List Char → Except FaultAt Block
  | [] => .error ⟨.unterminatedString, pos⟩
  | '"' :: '"' :: '"' :: _ => .ok { lines := [[]], stop := pos + 3, lastLine := 0 }
  | '\\' :: '"' :: '"' :: '"' :: r => (blockFrom (pos + 4) r).map (Block.cons ['"', '"', '"'])
  | '\r' :: '\n' :: r => (blockFrom (pos + 2) r).map (Block.breakLine (pos + 2))
  | c :: r =>
    if c = '\n' || c = '\r' then (blockFrom (pos + 1) r).map (Block.breakLine (pos + 1))
    else (blockFrom (pos + 1) r).map (Block.cons [c])

def joinLines (lines : List (List Char)) : List Char :=
  ['\n'].intercalate lines

def readBlockString (s : List Char) : Except FaultAt Lexeme := do
  let b ← blockFrom 3 (s.drop 3)
  return { kind := .blockString, value := String.ofList (joinLines (dedent b.lines)),
           extra := b.stop - 1, breaks := b.lines.length - 1, lastLine := b.lastLine }

/-! ## Tokens -/

def readName (s : List Char) : Lexeme :=
  let n := s.takeWhile isNameContinue
  { kind := .name, value := String.ofList n, extra := n.length - 1 }

/-- Reads the lexeme at the front of a text that begins with `c`. -/
def readLexeme (c : Char) (r : List Char) : Except FaultAt Lexeme :=
  match TokenKind.ofChar? c with
  | some kind => .ok { kind, value := "", extra := 0 }
  | none =>
    if c = '.' && r.take 2 = ['.', '.'] then .ok { kind := .spread, value := "", extra := 2 }
    else if c = '"' then
      if r.take 2 = ['"', '"'] then readBlockString (c :: r) else readString (c :: r)
    else if isDigit c || c = '-' then readNumber (c :: r)
    else if isNameStart c then .ok (readName (c :: r))
    else if c = '\'' then .error ⟨.singleQuote, 0⟩
    else .error ⟨.character c, 0⟩

/-- The remaining characters and the place of the first of them. -/
structure Cursor where
  rest : List Char
  offset : Nat := 0
  line : Nat := 1
  lineStart : Nat := 0

/-- Skips what means nothing: separators, line breaks and comments up to a line break. The result
has the skipped characters and the cursor behind them. -/
def skip (comment : Bool) (offset line lineStart : Nat) : List Char → List Char × Cursor
  | [] => ([], ⟨[], offset, line, lineStart⟩)
  | '\r' :: '\n' :: r =>
    let (gap, cursor) := skip false (offset + 2) (line + 1) (offset + 2) r
    ('\r' :: '\n' :: gap, cursor)
  | c :: r =>
    if c = '\n' || c = '\r' then
      let (gap, cursor) := skip false (offset + 1) (line + 1) (offset + 1) r
      (c :: gap, cursor)
    else if comment || c = '#' || isIgnored c then
      let (gap, cursor) := skip (comment || c = '#') (offset + 1) line lineStart r
      (c :: gap, cursor)
    else ([], ⟨c :: r, offset, line, lineStart⟩)

theorem skip_length_le (comment : Bool) (offset line lineStart : Nat) (s : List Char) :
    (skip comment offset line lineStart s).2.rest.length ≤ s.length := by
  fun_induction skip comment offset line lineStart s <;> simp_all <;> omega

def tokenAt (gap : List Char) (c : Cursor) (l : Lexeme) : Token :=
  { kind := l.kind, value := l.value, span := ⟨c.offset, c.offset + l.extra + 1⟩, line := c.line,
    column := c.offset - c.lineStart + 1, gap }

def Cursor.pass (c : Cursor) (r : List Char) (l : Lexeme) : Cursor :=
  { rest := r.drop l.extra
    offset := c.offset + l.extra + 1
    line := c.line + l.breaks
    lineStart := if l.breaks = 0 then c.lineStart else c.offset + l.lastLine }

def endToken (gap : List Char) (c : Cursor) : Token :=
  { kind := .endOfText, value := "", span := ⟨c.offset, c.offset⟩, line := c.line,
    column := c.offset - c.lineStart + 1, gap }

def tokensFrom (c : Cursor) : TokenStream :=
  let skipped := skip false c.offset c.line c.lineStart c.rest
  match _h : skipped.2.rest with
  | [] => .done (endToken skipped.1 skipped.2)
  | ch :: r =>
    match readLexeme ch r with
    | .error f => .broken { f with offset := skipped.2.offset + f.offset }
    | .ok l => .more (tokenAt skipped.1 skipped.2 l) (tokensFrom (skipped.2.pass r l))
termination_by c.rest.length
decreasing_by
  have h := skip_length_le false c.offset c.line c.lineStart c.rest
  change skipped.2.rest.length ≤ c.rest.length at h
  rw [_h] at h
  simp only [Cursor.pass, List.length_drop, List.length_cons] at h ⊢
  omega

end Lexer

def tokenize (text : List Char) : TokenStream :=
  Lexer.tokensFrom { rest := text }

end QueryLint
