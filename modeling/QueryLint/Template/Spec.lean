import QueryLint.Text.Numeral
import QueryLint.Text.Quoted

/-! # Format specifications

How a value in a template is laid out: fill and alignment, sign, width, grouping of digits,
precision and the letter of a notation, in this order and each of them optional.
-/

namespace QueryLint.Template

/-- Why a template cannot be filled in. -/
inductive Fault
  /-- The template or one of its specifications breaks the rules. -/
  | malformed (reason : String)
  | missingArgument (index : Nat)
  | unknownName (name : String)
  /-- A key that a mapping does not have, or a place behind the end of a sequence. -/
  | missingKey
  | missingItem
  | missingPart
  /-- A value that has no items of the kind, or takes no specification. -/
  | unsuited
  /-- A number beyond the range of a notation. -/
  | overflow
  /-- More room than there is. -/
  | exhausted
  deriving DecidableEq, Repr

inductive Alignment
  | left
  | right
  | center
  /-- Between the sign and the digits. -/
  | inner
  deriving DecidableEq, Repr

def Alignment.ofMark? : Char → Option Alignment
  | '<' => some left
  | '>' => some right
  | '^' => some center
  | '=' => some inner
  | _ => none

structure Spec where
  fill : Char := ' '
  align : Alignment
  /-- How a number that is not negative shows its sign. -/
  sign : Option Char := none
  /-- A negative number that rounds to zero loses its sign. -/
  plainZero : Bool := false
  alternate : Bool := false
  width : Nat := 0
  grouping : Option Char := none
  precision : Option Nat := none
  letter : Option Char := none
  deriving DecidableEq, Repr

namespace Spec

/-- The greatest number that a template may mention. -/
def numberLimit : Nat := 0x7FFFFFFFFFFFFFFF

/-- Digits at the beginning of a text: the number of them, their value and the rest. -/
def readNumber (count n : Nat) : List Char → Except Fault (Nat × Nat × List Char)
  | [] => .ok (count, n, [])
  | c :: r => match Text.digitValue? c with
    | none => .ok (count, n, c :: r)
    | some d =>
      if numberLimit < 10 * n + d then
        .error (.malformed "Too many decimal digits in format string")
      else readNumber (count + 1) (10 * n + d) r

def isSign (c : Char) : Bool :=
  c = '+' || c = '-' || c = ' '

/-- A character as it is named in a complaint, by its code unless it is plain. -/
def nameOfChar (c : Char) : String :=
  if ' ' < c && c.toNat < 0x80 then c.toString
  else "\\x" ++ String.ofList (Text.hexDigits c.toNat)

/-- Fill and alignment: a mark of alignment with or without a character in front of it. -/
def readAlignment (s : List Char) : Option Char × Option Alignment × List Char :=
  match s with
  | c :: m :: r =>
    match Alignment.ofMark? m with
    | some a => (some c, some a, r)
    | none => match Alignment.ofMark? c with
      | some a => (none, some a, m :: r)
      | none => (none, none, s)
  | [c] => match Alignment.ofMark? c with
    | some a => (none, some a, [])
    | none => (none, none, s)
  | [] => (none, none, [])

/-- A character that a test accepts, and the rest. -/
def readMark (p : Char → Bool) : List Char → Option Char × List Char
  | [] => (none, [])
  | c :: r => if p c then (some c, r) else (none, c :: r)

def clashingMarks : Fault := .malformed "Cannot specify both ',' and '_'."

/-- The mark between groups of digits. -/
def readGrouping (s : List Char) : Except Fault (Option Char × List Char) :=
  match s with
  | ',' :: '_' :: _ => .error clashingMarks
  | '_' :: ',' :: _ => .error clashingMarks
  | ',' :: r => .ok (some ',', r)
  | '_' :: r => .ok (some '_', r)
  | r => .ok (none, r)

def readPrecision (s : List Char) : Except Fault (Option Nat × List Char) :=
  match s with
  | '.' :: r => do
    let (count, n, rest) ← readNumber 0 0 r
    if count = 0 then throw (.malformed "Format specifier missing precision")
    return (some n, rest)
  | r => .ok (none, r)

def canGroup (mark letter : Char) : Bool :=
  "defgEGF%".toList.contains letter || (mark = '_' && "boxX".toList.contains letter)

/-- Reads a specification for values of a type: how they are aligned, and the letter of the notation
they have if none is given. -/
def read (typeName : String) (standard : Alignment) (letter : Option Char) (s : List Char) :
    Except Fault Spec := do
  let (fill, align, r) := readAlignment s
  let (sign, r) := readMark isSign r
  let (plainZero, r) := readMark (· = 'z') r
  let (alternate, r) := readMark (· = '#') r
  let (zero, r) := if fill.isNone then readMark (· = '0') r else (none, r)
  let (_, width, r) ← readNumber 0 0 r
  let (grouping, r) ← readGrouping r
  let (precision, r) ← readPrecision r
  let given : Option Char ← match r with
    | [] => .ok letter
    | [c] => .ok (some c)
    | _ => .error (.malformed ("Invalid format specifier '" ++ String.ofList s
        ++ "' for object of type '" ++ typeName ++ "'"))
  match grouping, given with
  | some mark, some c =>
    if !canGroup mark c then
      throw (.malformed ("Cannot specify '" ++ mark.toString ++ "' with '" ++ nameOfChar c
        ++ "'."))
  | _, _ => pure ()
  return {
    fill := fill.getD (if zero.isSome then '0' else ' ')
    align := align.getD (if zero.isSome && standard = .right then .inner else standard)
    sign, plainZero := plainZero.isSome, alternate := alternate.isSome, width, grouping, precision
    letter := given }

def unknownNotation (typeName : String) (c : Char) : Fault :=
  .malformed ("Unknown format code '" ++ nameOfChar c ++ "' for object of type '" ++ typeName
    ++ "'")

/-- The width from which on there is no room. -/
def widthLimit : Nat := 0x200000000

/-- The fill on both sides of something that leaves `room` places free. -/
def split (align : Alignment) (room : Nat) : Nat × Nat :=
  match align with
  | .left => (0, room)
  | .center => (room / 2, room - room / 2)
  | .right | .inner => (room, 0)

end Spec

end QueryLint.Template
