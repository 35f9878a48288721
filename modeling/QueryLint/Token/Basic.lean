import QueryLint.Document.Span

/-! # Tokens

A token keeps the ignored characters in front of it, so that tokens and gaps together are the text.
-/

namespace QueryLint

inductive TokenKind
  | bang
  | dollar
  | amp
  | parenL
  | parenR
  | spread
  | colon
  | equals
  | atSign
  | bracketL
  | bracketR
  | braceL
  | pipe
  | braceR
  | name
  | int
  | float
  | string
  | blockString
  | endOfText
  deriving DecidableEq, Repr, Inhabited

namespace TokenKind

def spelling? : TokenKind → Option String
  | bang => some "!"
  | dollar => some "$"
  | amp => some "&"
  | parenL => some "("
  | parenR => some ")"
  | spread => some "..."
  | colon => some ":"
  | equals => some "="
  | atSign => some "@"
  | bracketL => some "["
  | bracketR => some "]"
  | braceL => some "\x7b"
  | pipe => some "|"
  | braceR => some "\x7d"
  | _ => none

def describe (k : TokenKind) : String :=
  match k with
  | name => "Name"
  | int => "Int"
  | float => "Float"
  | string => "String"
  | blockString => "BlockString"
  | endOfText => "<EOF>"
  | _ => "'" ++ k.spelling?.getD "" ++ "'"

def ofChar? : Char → Option TokenKind
  | '!' => some bang
  | '$' => some dollar
  | '&' => some amp
  | '(' => some parenL
  | ')' => some parenR
  | ':' => some colon
  | '=' => some equals
  | '@' => some atSign
  | '[' => some bracketL
  | ']' => some bracketR
  | '\x7b' => some braceL
  | '|' => some pipe
  | '\x7d' => some braceR
  | _ => none

end TokenKind

structure Token where
  kind : TokenKind
  /-- The name, the spelling of a number or the content of a string; empty for a punctuator. -/
  value : String
  span : Span
  line : Nat
  column : Nat
  /-- The ignored characters between the token before and this one. -/
  gap : List Char
  deriving DecidableEq, Repr, Inhabited

/-- A token in messages: its kind, with the value if it has one. -/
def Token.describe (t : Token) : String :=
  t.kind.describe ++ (if t.value = "" then "" else " '" ++ t.value ++ "'")

/-- What keeps a text from being a document. -/
inductive Fault
  | singleQuote
  | character (c : Char)
  | digitAfterZero (found : Option Char)
  | digitExpected (found : Option Char)
  | unterminatedString
  | escape (sequence : String)
  | unicodeEscape (sequence : String)
  /-- The text ends inside an escape sequence. -/
  | truncatedEscape
  | expected (kind : TokenKind) (found : Token)
  | expectedKeyword (word : String) (found : Token)
  | unexpected (found : Token)
  | undescribable
  | constantVariable (name : String)
  | reservedEnumValue (found : Token)
  deriving DecidableEq, Repr

/-- A character in messages: itself if it is printable ASCII, its code otherwise. -/
def describeChar : Option Char → String
  | none => "<EOF>"
  | some c =>
    if 0x20 ≤ c.toNat && c.toNat ≤ 0x7E then "'" ++ c.toString ++ "'"
    else
      let ds := (Nat.toDigits 16 c.toNat).map Char.toUpper
      "U+" ++ String.ofList (List.replicate (4 - ds.length) '0' ++ ds)

namespace Fault

def reason : Fault → String
  | singleQuote =>
    "Unexpected single quote character ('), did you mean to use a double quote (\")?"
  | character c => "Unexpected character: " ++ describeChar (some c) ++ "."
  | digitAfterZero c => "Invalid number, unexpected digit after 0: " ++ describeChar c ++ "."
  | digitExpected c => "Invalid number, expected digit but got: " ++ describeChar c ++ "."
  | unterminatedString => "Unterminated string."
  | escape s => "Invalid character escape sequence: '" ++ s ++ "'."
  | unicodeEscape s => "Invalid Unicode escape sequence: '" ++ s ++ "'."
  | truncatedEscape => "string index out of range"
  | expected k t => "Expected " ++ k.describe ++ ", found " ++ t.describe ++ "."
  | expectedKeyword w t => "Expected '" ++ w ++ "', found " ++ t.describe ++ "."
  | unexpected t => "Unexpected " ++ t.describe ++ "."
  | undescribable =>
    "Unexpected description, descriptions are supported only on type definitions."
  | constantVariable n => "Unexpected variable '$" ++ n ++ "' in constant value."
  | reservedEnumValue t => t.describe ++ " is reserved and cannot be used for an enum value."

/-- Every fault but a truncated escape is a fault of grammar and announced as such. -/
def message (f : Fault) : String :=
  match f with
  | truncatedEscape => f.reason
  | _ => "Syntax Error: " ++ f.reason

end Fault

structure FaultAt where
  fault : Fault
  offset : Nat
  deriving DecidableEq, Repr

/-- Where a fault is reported; a truncated escape has no place. -/
def FaultAt.location? (f : FaultAt) (text : List Char) : Option Location :=
  match f.fault with
  | .truncatedEscape => none
  | _ => some (Location.ofOffset text f.offset)

/-- The tokens of a text, read one after the other: they end at the end of the text or at the first
fault. -/
inductive TokenStream
  | done (last : Token)
  | broken (fault : FaultAt)
  | more (token : Token) (next : TokenStream)
  deriving Repr

namespace TokenStream

def length : TokenStream → Nat
  | more _ next => next.length + 1
  | _ => 0

/-- The tokens before the end of the text, if the whole text can be read. -/
def toList : TokenStream → Except FaultAt (List Token)
  | done _ => .ok []
  | broken f => .error f
  | more t next => next.toList.map (t :: ·)

end TokenStream

end QueryLint
