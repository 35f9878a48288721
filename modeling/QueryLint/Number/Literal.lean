import QueryLint.Number.Fixed
import QueryLint.Text.Blank
import QueryLint.Text.Numeral
import QueryLint.Text.Quoted

/-! # Numbers in texts

Reads a whole text as a number, with blanks around it, a sign, and digits of any script. A text that
is no number is named in the complaint.
-/

namespace QueryLint.Literal

/-- The value of a digit or letter as a digit. -/
def digit? (c : Char) : Option Nat :=
  (Text.digitValue? c).or
    (if 'a' ≤ c && c ≤ 'z' then some (c.toNat - 'a'.toNat + 10)
     else if 'A' ≤ c && c ≤ 'Z' then some (c.toNat - 'A'.toNat + 10)
     else none)

/-- The sign in front of a number: whether it is negative, and the rest. -/
def splitSign : List Char → Bool × List Char
  | '-' :: r => (true, r)
  | '+' :: r => (false, r)
  | r => (false, r)

def dropMark (base : Nat) (s : List Char) : List Char :=
  match s with
  | '0' :: m :: r =>
    if (base = 2 && (m = 'b' || m = 'B')) || (base = 8 && (m = 'o' || m = 'O'))
        || (base = 16 && (m = 'x' || m = 'X')) then r
    else s
  | _ => s

/-- The most digits that a decimal number may have. -/
def digitLimit : Nat := 4300

def tooManyDigits (count : Nat) : String :=
  "Exceeds the limit (4300 digits) for integer string conversion: value has " ++ toString count
    ++ " digits; use sys.set_int_max_str_digits() to increase the limit"

/-- Whether a number can be written out in base ten. -/
def isWritable (n : Int) : Bool :=
  n.natAbs < Nat.pow 10 digitLimit

def unwritable : String :=
  "Exceeds the limit (4300 digits) for integer string conversion; use "
    ++ "sys.set_int_max_str_digits() to increase the limit"

/-- The whole number that a text stands for in a base. -/
def int (base : Nat) (text : List Char) : Except String Int :=
  let (negative, r) := splitSign (Text.strip text)
  let ds := (dropMark base r).map digit?
  let known := (ds.takeWhile fun d => d.any (· < base)).filterMap id
  if base = 10 && digitLimit < known.length then .error (tooManyDigits known.length)
  else if known.isEmpty || known.length ≠ ds.length then
    let shown := (Text.quoted (String.ofList text)).toList.take 200
    .error ("invalid literal for int() with base " ++ toString base ++ ": " ++ String.ofList shown)
  else
    let n := known.foldl (fun n d => base * n + d) 0
    .ok (if negative then -(n : Int) else n)

def plainDigit (c : Char) : Char :=
  match Text.digitValue? c with
  | some d => Char.ofNat ('0'.toNat + d)
  | none => c

def float (text : List Char) : Except String Binary64 :=
  let (negative, r) := splitSign ((Text.strip text).map plainDigit)
  let word := String.ofList (r.map Char.toLower)
  let read : Option Binary64 :=
    if word = "inf" || word = "infinity" then some (.infinite negative)
    else if word = "nan" then some .notANumber
    else if r.head?.any fun c => c.isDigit || c = '.' then Binary64.readMagnitude? negative r
    else none
  match read with
  | some x => .ok x
  | none => .error ("could not convert string to float: " ++ Text.quoted (String.ofList text))

end QueryLint.Literal
