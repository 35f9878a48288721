import QueryLint.Data
import QueryLint.Number.Literal
import QueryLint.Text.Case
import QueryLint.Text.Search
import QueryLint.Yaml.Base64
import QueryLint.Yaml.Cursor

/-! # Values of scalars

A scalar has a tag, given or found from its text, and the tag says how the text is read: as nothing,
a flag, a number, a time, bytes or the text itself.
-/

namespace QueryLint.Yaml

inductive Tag
  | null
  | bool
  | int
  | float
  | binary
  | timestamp
  | text
  | list
  | mapping
  | set
  | pairs
  /-- The key under which other mappings are taken in. -/
  | merge
  /-- The key of the value that stands for a whole mapping. -/
  | value
  | unknown
  deriving DecidableEq, Repr

def tagSpace : String := "tag:yaml.org,2002:"

def tagNames : List (String × Tag) :=
  [("null", .null), ("bool", .bool), ("int", .int), ("float", .float), ("binary", .binary),
   ("timestamp", .timestamp), ("str", .text), ("seq", .list), ("map", .mapping), ("set", .set),
   ("omap", .pairs), ("pairs", .pairs), ("merge", .merge), ("value", .value)]

def Tag.ofName (name : String) : Tag :=
  ((tagNames.find? fun t => tagSpace ++ t.1 = name).map (·.2)).getD .unknown

/-! ## Finding the tag -/

def nullWords : List String := ["", "~", "null", "Null", "NULL"]

def flagWords : List String :=
  ["yes", "Yes", "YES", "no", "No", "NO", "true", "True", "TRUE", "false", "False", "FALSE", "on",
   "On", "ON", "off", "Off", "OFF"]

def isDigitOrUnderscore (c : Char) : Bool := c.isDigit || c = '_'

/-- A digit first, then digits and underscores. -/
def isDigitRun (s : List Char) : Bool :=
  s.head?.any Char.isDigit && s.all isDigitOrUnderscore

/-- A part of a number in base sixty: one digit, or two of which the first is at most five. -/
def isSixtieth (s : List Char) : Bool :=
  match s with
  | [d] => d.isDigit
  | [t, d] => '0' ≤ t && t ≤ '5' && d.isDigit
  | _ => false

/-- Parts divided by colons, the first of any length. -/
def isSexagesimal (s : List Char) : Bool :=
  match Text.splitAt ':' s with
  | first :: p :: parts => isDigitRun first && (p :: parts).all isSixtieth
  | _ => false

/-- One or more digits of a base and underscores. -/
def isBased (isDigit : Char → Bool) (s : List Char) : Bool :=
  !s.isEmpty && s.all fun c => c = '_' || isDigit c

def isInt (s : List Char) : Bool :=
  let (_, r) := Literal.splitSign s
  match r with
  | ['0'] => true
  | '0' :: 'b' :: ds => isBased (fun c => c = '0' || c = '1') ds
  | '0' :: 'x' :: ds => isBased (fun c => (Digits.value? c).isSome) ds
  | '0' :: ds => isBased (fun c => '0' ≤ c && c ≤ '7') ds
  | _ => isDigitRun r || isSexagesimal r

def isExponent (s : List Char) : Bool :=
  match s with
  | [] => true
  | e :: sign :: ds =>
    (e = 'e' || e = 'E') && (sign = '-' || sign = '+') && !ds.isEmpty && ds.all Char.isDigit
  | _ => false

/-- A number with a point; without digits before the point it takes no sign. -/
def isPointed (s : List Char) : Bool :=
  let (_, r) := Literal.splitSign s
  let whole := r.takeWhile isDigitOrUnderscore
  match r.dropWhile isDigitOrUnderscore with
  | '.' :: rest =>
    let fraction := rest.takeWhile isDigitOrUnderscore
    (if whole.isEmpty then s.length = r.length && isDigitRun fraction else isDigitRun whole)
      && isExponent (rest.dropWhile isDigitOrUnderscore)
  | _ => false

def isSexagesimalFloat (s : List Char) : Bool :=
  let (_, r) := Literal.splitSign s
  match r.dropWhile (· ≠ '.') with
  | _ :: fraction => fraction.all isDigitOrUnderscore && isSexagesimal (r.takeWhile (· ≠ '.'))
  | [] => false

def isSpecialFloat (s : List Char) : Bool :=
  let (_, r) := Literal.splitSign s
  [".inf", ".Inf", ".INF"].contains (String.ofList r)
    || [".nan", ".NaN", ".NAN"].contains (String.ofList s)

def isFloat (s : List Char) : Bool :=
  isPointed s || isSexagesimalFloat s || isSpecialFloat s

/-! ## Times -/

/-- A time as it is written. -/
structure Stamp where
  date : Date
  /-- Whether month and day have two digits. -/
  full : Bool
  clock : Option (Clock × Option Int) := none

/-- One or two digits. -/
def shortNumber : Read Nat := fun s =>
  let ds := (s.take 2).takeWhile Char.isDigit
  if ds.isEmpty then none else some (Binary64.natOfDigits ds, s.drop ds.length)

/-- The distance from universal time in seconds. -/
def stampZone (s : List Char) : Option (Option Int) :=
  let read (sign : Int) (r : List Char) : Option (Option Int) := do
    let (hours, r) ← shortNumber r
    let minutes ← match r with
      | [] => some 0
      | _ => do
        let (_, r) ← Calendar.expectChar ':' r
        let (minutes, r) ← Calendar.fixedDigits 2 0 99 r
        if r.isEmpty then some minutes else none
    return some (sign * (3600 * hours + 60 * minutes : Nat))
  match s with
  | ['Z'] => some (some 0)
  | '+' :: r => read 1 r
  | '-' :: r => read (-1) r
  | _ => none

/-- The time of the day behind a date. -/
def stampClock (s : List Char) : Option (Clock × Option Int) := do
  let (hour, s) ← shortNumber s
  let (_, s) ← Calendar.expectChar ':' s
  let (minute, s) ← Calendar.fixedDigits 2 0 99 s
  let (_, s) ← Calendar.expectChar ':' s
  let (second, s) ← Calendar.fixedDigits 2 0 99 s
  let (fraction, s) : List Char × List Char := match s with
    | '.' :: r => (r.takeWhile Char.isDigit, r.dropWhile Char.isDigit)
    | r => ([], r)
  let clock : Clock := { hour, minute, second, micros := Calendar.microsOf fraction }
  if s.isEmpty then return (clock, none)
  let offset ← stampZone (s.dropWhile fun c => c = ' ' || c = '\t')
  return (clock, offset)

/-- A date, perhaps with a time of the day behind it. -/
def stamp? (s : List Char) : Option Stamp := do
  let (year, s) ← Calendar.fixedDigits 4 0 9999 s
  let (_, s) ← Calendar.expectChar '-' s
  let (month, r) ← shortNumber s
  let (_, r) ← Calendar.expectChar '-' r
  let (day, rest) ← shortNumber r
  let date : Date := { year, month, day }
  let full := s.length - rest.length = 5
  match rest with
  | [] => return { date, full }
  | c :: r =>
    let blanks := rest.takeWhile fun c => c = ' ' || c = '\t'
    if c = 'T' || c = 't' then return { date, full, clock := ← stampClock r }
    else if blanks.isEmpty then none
    else return { date, full, clock := ← stampClock (rest.drop blanks.length) }

/-- Whether a text without a tag is a time: a lone date has all its digits. -/
def isStamp (s : List Char) : Bool :=
  match stamp? s with
  | some t => t.full || t.clock.isSome
  | none => false

def Stamp.instant (t : Stamp) : Except Fault Instant :=
  match t.clock with
  | none => match t.date.fault? with
    | some reason => .error (.impossible reason)
    | none => .ok (.date t.date)
  | some (clock, offset) =>
    match ((offset.bind Instant.offsetFault?).or t.date.fault?).or clock.fault? with
    | some reason => .error (.impossible reason)
    | none => .ok (.moment t.date clock offset)

/-- A text without a line break at its end. -/
def dropBreak (s : List Char) : List Char :=
  if s.getLast? == some '\n' then s.dropLast else s

def Tag.ofText (text : List Char) : Tag :=
  let s := if text.length ≤ 1 then text else dropBreak text
  let word := String.ofList s
  if flagWords.contains word then .bool
  else if isFloat s then .float
  else if isInt s then .int
  else if word = "<<" then .merge
  else if nullWords.contains word then .null
  else if isStamp s then .timestamp
  else if word = "=" then .value
  else if word = "!" || word = "&" || word = "*" then .unknown
  else .text

/-! ## Reading -/

def impossible {α : Type} : Except String α → Except Fault α
  | .ok a => .ok a
  | .error reason => .error (.impossible reason)

def dropUnderscores (s : List Char) : List Char := s.filter (· ≠ '_')

def trueWords : List String := ["yes", "true", "on"]

def falseWords : List String := ["no", "false", "off"]

def readFlag (text : List Char) : Except Fault Bool :=
  let word := String.ofList (Text.lower text)
  if trueWords.contains word then .ok true
  else if falseWords.contains word then .ok false
  else .error .unknownFlag

/-- The number that parts in base sixty make up. -/
def sexagesimal (parts : List Int) : Int :=
  parts.foldl (fun n p => 60 * n + p) 0

def readInt (text : List Char) : Except Fault Int := do
  let s := dropUnderscores text
  if s.isEmpty then throw .emptyNumber
  let (negative, r) := Literal.splitSign s
  let n : Int ← match r with
    | [] => throw .emptyNumber
    | ['0'] => pure 0
    | '0' :: 'b' :: ds => impossible (Literal.int 2 ds)
    | '0' :: 'x' :: ds => impossible (Literal.int 16 ds)
    | '0' :: _ => impossible (Literal.int 8 r)
    | _ =>
      if r.contains ':' then
        sexagesimal <$> (Text.splitAt ':' r).mapM fun p => impossible (Literal.int 10 p)
      else impossible (Literal.int 10 r)
  return if negative then -n else n

/-- The sum of parts in base sixty, the last one first, each a power of sixty more than the one
before, which has to be a double too. -/
def sexagesimalFloat (power : Nat) (sum : Binary64) : List Binary64 → Except Fault Binary64
  | [] => .ok sum
  | x :: r =>
    match Binary64.ofQuotient false power 1 with
    | .finite n m e =>
      sexagesimalFloat (60 * power) (sum.plus (x.times (.finite n m e))) r
    | _ => .error .overflow

def readFloat (text : List Char) : Except Fault Binary64 := do
  let s := Text.lower (dropUnderscores text)
  if s.isEmpty then throw .emptyNumber
  let (negative, r) := Literal.splitSign s
  let word := String.ofList r
  if word = ".inf" then return .infinite negative
  if word = ".nan" then return .notANumber
  let x ← if r.contains ':' then do
      let parts ← (Text.splitAt ':' r).mapM fun p => impossible (Literal.float p)
      sexagesimalFloat 1 (.finite false 0 Binary64.minExponent) parts.reverse
    else impossible (Literal.float r)
  return if negative then x.negate else x

def readTime (text : List Char) : Except Fault Instant :=
  match stamp? (dropBreak text) with
  | some t => t.instant
  | none => .error .unreadableTime

def readBytes (text : List Char) : Except Fault (List UInt8) :=
  if text.any fun c => 0x80 ≤ c.toNat then .error .malformed
  else match Base64.decode text with
    | some bs => .ok bs
    | none => .error .malformed

/-- The value of a text with the tag of a scalar; other tags fit no text. -/
def readScalar (tag : Tag) (glyphs : List Glyph) : Except Fault Data :=
  let text := glyphs.map Glyph.shown
  match tag with
  | .null => .ok .null
  | .bool => (readFlag text).map .bool
  | .int => (readInt text).map .int
  | .float => (readFloat text).map .float
  | .binary => (readBytes text).map .bytes
  | .timestamp => (readTime text).map .instant
  | .text => .ok (.ofGlyphs glyphs)
  | _ => .error .malformed

end QueryLint.Yaml
