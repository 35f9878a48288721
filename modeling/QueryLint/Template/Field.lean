import QueryLint.Template.Spec

/-! # Fields of templates

A template is text with fields in braces; braces that are meant as text are doubled. A field has the
name of a value with the way to a part of it, a conversion behind an exclamation mark and a
specification behind a colon, which may hold fields itself.
-/

namespace QueryLint.Template

structure Field where
  name : List Char
  conversion : Option Char := none
  spec : List Char := []
  deriving DecidableEq, Repr

inductive Piece
  | char (c : Char)
  | field (f : Field)
  | broken (reason : String)
  deriving DecidableEq, Repr

namespace Piece

/-- What has been read of a template when the next character comes; texts are read backwards. -/
inductive Mode
  | text
  | opened
  | closed
  | name (read : List Char)
  /-- In a name behind an opening bracket, where braces are plain characters. -/
  | key (read : List Char)
  | conversion (name : List Char)
  | converted (name : List Char) (conversion : Char)
  | spec (name : List Char) (conversion : Option Char) (depth : Nat) (read : List Char)

/-- What is wrong when a template ends too early. -/
def endOf : Mode → List Piece
  | .text => []
  | .opened => [.broken "Single '\x7b' encountered in format string"]
  | .closed => [.broken "Single '\x7d' encountered in format string"]
  | .name _ | .key _ => [.broken "expected '\x7d' before end of string"]
  | .conversion _ => [.broken "end of string while looking for conversion specifier"]
  | .converted _ _ | .spec _ _ _ _ => [.broken "unmatched '\x7b' in format spec"]

/-- The next mode inside a name, or the field or fault that the name ends in. -/
def stepName (read : List Char) (c : Char) : Mode ⊕ Piece :=
  if c = '\x7b' then .inr (.broken "unexpected '\x7b' in field name")
  else if c = '\x7d' then .inr (.field { name := read.reverse })
  else if c = '[' then .inl (.key (c :: read))
  else if c = '!' then .inl (.conversion read.reverse)
  else if c = ':' then .inl (.spec read.reverse none 0 [])
  else .inl (.name (c :: read))

/-- The pieces of a template; reading stops at the first piece that is broken. -/
def scan : Mode → List Char → List Piece
  | m, [] => endOf m
  | .text, c :: r =>
    if c = '\x7b' then scan .opened r
    else if c = '\x7d' then scan .closed r
    else .char c :: scan .text r
  | .opened, c :: r =>
    if c = '\x7b' then .char c :: scan .text r
    else match stepName [] c with
      | .inl m => scan m r
      | .inr p => p :: scan .text r
  | .closed, c :: r =>
    if c = '\x7d' then .char c :: scan .text r
    else [.broken "Single '\x7d' encountered in format string"]
  | .name n, c :: r =>
    match stepName n c with
    | .inl m => scan m r
    | .inr (.broken reason) => [.broken reason]
    | .inr p => p :: scan .text r
  | .key n, c :: r => scan (if c = ']' then .name (c :: n) else .key (c :: n)) r
  | .conversion n, c :: r => scan (.converted n c) r
  | .converted n k, c :: r =>
    if c = '\x7d' then .field { name := n, conversion := k } :: scan .text r
    else if c = ':' then scan (.spec n (some k) 0 []) r
    else [.broken "expected ':' after conversion specifier"]
  | .spec n k depth read, c :: r =>
    if c = '\x7b' then scan (.spec n k (depth + 1) (c :: read)) r
    else if c ≠ '\x7d' then scan (.spec n k depth (c :: read)) r
    else match depth with
      | 0 => .field { name := n, conversion := k, spec := read.reverse } :: scan .text r
      | depth + 1 => scan (.spec n k depth (c :: read)) r

end Piece

/-- The pieces of a template. -/
def pieces (s : List Char) : List Piece :=
  Piece.scan .text s

/-! ## Names -/

/-- The number that a name stands for, if it is made of digits. -/
def index? (name : List Char) : Except Fault (Option Nat) :=
  if name.isEmpty then .ok none
  else (Spec.readNumber 0 0 name).map fun (_, n, rest) => if rest.isEmpty then some n else none

/-- A step from a value to something inside it. -/
inductive Step
  | part (name : String)
  | item (index : Nat)
  | key (name : String)
  deriving DecidableEq, Repr

def isStepMark (c : Char) : Bool :=
  c = '.' || c = '['

/-- The next step of the way to a part of a value, and what is left of the way. -/
def nextStep (mark : Char) (way : List Char) : Except Fault (Step × List Char) := do
  let empty : Fault := .malformed "Empty attribute in format string"
  if mark = '.' then
    let name := way.takeWhile fun c => !isStepMark c
    if name.isEmpty then throw empty
    return (.part (String.ofList name), way.drop name.length)
  else if mark = '[' then
    let name := way.takeWhile (· ≠ ']')
    if name.length = way.length then throw (.malformed "Missing ']' in format string")
    let index ← index? name
    if name.isEmpty then throw empty
    let step := match index with
      | some i => Step.item i
      | none => .key (String.ofList name)
    return (step, way.drop (name.length + 1))
  else throw (.malformed "Only '.' or '[' may follow ']' in format field specifier")

end QueryLint.Template
