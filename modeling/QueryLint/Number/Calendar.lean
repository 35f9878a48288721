import QueryLint.Number.Digits

/-! # Dates and times

Calendar dates, times of the day and both together, with readers for the usual numeric notation and
two ways of writing them down: plainly, and as the call that makes them.
-/

namespace QueryLint

structure Date where
  year : Nat
  month : Nat
  day : Nat
  deriving DecidableEq, Repr, Inhabited

/-- A time of the day. -/
structure Clock where
  hour : Nat
  minute : Nat
  second : Nat
  micros : Nat := 0
  deriving DecidableEq, Repr, Inhabited

/-- A date, a time of the day, or both; then it may be told how many seconds it is ahead of
universal time. -/
inductive Instant
  | date (d : Date)
  | clock (c : Clock)
  | moment (d : Date) (c : Clock) (offset : Option Int)
  deriving DecidableEq, Repr

namespace Calendar

def isLeapYear (y : Nat) : Bool :=
  y % 4 = 0 && (y % 100 ≠ 0 || y % 400 = 0)

def daysIn (year month : Nat) : Nat :=
  if month = 2 then (if isLeapYear year then 29 else 28)
  else if month = 4 || month = 6 || month = 9 || month = 11 then 30
  else 31

/-- Numbers with zeros in front up to a width. -/
def padded (width n : Nat) : String :=
  let ds := Nat.toDigits 10 n
  String.ofList (List.replicate (width - ds.length) '0' ++ ds)

/-! ## Reading -/

/-- A number of exactly so many digits within bounds. -/
def fixedDigits (count lo hi : Nat) : Read Nat := fun s =>
  let ds := s.take count
  let n := Binary64.natOfDigits ds
  if ds.length = count && ds.all Char.isDigit && lo ≤ n && n ≤ hi then some (n, s.drop count)
  else none

def expectChar (c : Char) : Read Unit := fun s =>
  match s with
  | d :: r => if c = d then some ((), r) else none
  | [] => none

/-- The millionths of a second that a fraction begins with. -/
def microsOf (fraction : List Char) : Nat :=
  let ds := fraction.take 6
  Binary64.natOfDigits ds * Nat.pow 10 (6 - ds.length)

/-- Hours, minutes and seconds, with a fraction of any length. -/
def clock : Read Clock := fun s => do
  let (hour, s) ← fixedDigits 2 0 23 s
  let (_, s) ← expectChar ':' s
  let (minute, s) ← fixedDigits 2 0 59 s
  let (_, s) ← expectChar ':' s
  let (second, s) ← fixedDigits 2 0 59 s
  match s with
  | '.' :: r =>
    let fraction := r.takeWhile Char.isDigit
    if fraction.isEmpty then return ({ hour, minute, second }, s)
    else return ({ hour, minute, second, micros := microsOf fraction }, r.drop fraction.length)
  | _ => return ({ hour, minute, second }, s)

/-- The distance from universal time in seconds, if it is given, and the rest. -/
def zone (s : List Char) : Option Int × List Char :=
  let read (sign : Int) (r : List Char) : Option (Option Int × List Char) := do
    let (hours, r) ← fixedDigits 2 0 23 r
    let (_, r) ← expectChar ':' r
    let (minutes, r) ← fixedDigits 2 0 59 r
    return (some (sign * (3600 * hours + 60 * minutes : Nat)), r)
  match s with
  | 'Z' :: r => (some 0, r)
  | 'z' :: r => (some 0, r)
  | '+' :: r => (read 1 r).getD (none, s)
  | '-' :: r => (read (-1) r).getD (none, s)
  | _ => (none, s)

def date : Read Date := fun s => do
  let (year, s) ← fixedDigits 4 0 9999 s
  let (_, s) ← expectChar '-' s
  let (month, s) ← fixedDigits 2 1 12 s
  let (_, s) ← expectChar '-' s
  let (day, s) ← fixedDigits 2 1 31 s
  return ({ year, month, day }, s)

end Calendar

/-! ## Limits -/

def Date.fault? (d : Date) : Option String :=
  if d.year = 0 || 9999 < d.year then some ("year " ++ toString d.year ++ " is out of range")
  else if d.month = 0 || 12 < d.month then some "month must be in 1..12"
  else if d.day = 0 || Calendar.daysIn d.year d.month < d.day then
    some "day is out of range for month"
  else none

/-- What is wrong with a time of the day, if anything is. -/
def Clock.fault? (c : Clock) : Option String :=
  if 23 < c.hour then some "hour must be in 0..23"
  else if 59 < c.minute then some "minute must be in 0..59"
  else if 59 < c.second then some "second must be in 0..59"
  else none

/-! ## Writing -/

def Date.toText (d : Date) : String :=
  Calendar.padded 4 d.year ++ "-" ++ Calendar.padded 2 d.month ++ "-" ++ Calendar.padded 2 d.day

def Clock.toText (c : Clock) : String :=
  Calendar.padded 2 c.hour ++ ":" ++ Calendar.padded 2 c.minute ++ ":"
    ++ Calendar.padded 2 c.second
    ++ (if c.micros = 0 then "" else "." ++ Calendar.padded 6 c.micros)

namespace Instant

def typeName : Instant → String
  | date _ => "date"
  | clock _ => "time"
  | moment .. => "datetime"

def offsetText (offset : Int) : String :=
  let minutes := offset.natAbs / 60
  (if offset < 0 then "-" else "+") ++ Calendar.padded 2 (minutes / 60) ++ ":"
    ++ Calendar.padded 2 (minutes % 60)

def toText : Instant → String
  | date d => d.toText
  | clock c => c.toText
  | moment d c offset => d.toText ++ " " ++ c.toText ++ ((offset.map offsetText).getD "")

def lengthCall (seconds : Int) : String :=
  let days := seconds / 86400
  let rest := seconds % 86400
  let parts := (if days = 0 then [] else ["days=" ++ toString days])
    ++ (if rest = 0 then [] else ["seconds=" ++ toString rest])
  "datetime.timedelta(" ++ (if parts.isEmpty then "0" else ", ".intercalate parts) ++ ")"

/-- What is wrong with a distance from universal time, if anything is. -/
def offsetFault? (seconds : Int) : Option String :=
  if seconds.natAbs < 86400 then none
  else some ("offset must be a timedelta strictly between -timedelta(hours=24) and "
    ++ "timedelta(hours=24), not " ++ lengthCall seconds ++ ".")

/-- The numbers of a time of the day; seconds and their fraction are left out if they are zero. -/
def clockNumbers (c : Clock) : List Nat :=
  [c.hour, c.minute] ++ (if c.second = 0 && c.micros = 0 then [] else [c.second])
    ++ (if c.micros = 0 then [] else [c.micros])

def zoneCall (offset : Int) : String :=
  if offset = 0 then "datetime.timezone.utc"
  else "datetime.timezone(" ++ lengthCall offset ++ ")"

def toCall : Instant → String
  | date d =>
    "datetime.date(" ++ ", ".intercalate ([d.year, d.month, d.day].map toString) ++ ")"
  | clock c => "datetime.time(" ++ ", ".intercalate ((clockNumbers c).map toString) ++ ")"
  | moment d c offset =>
    let numbers := ([d.year, d.month, d.day] ++ clockNumbers c).map toString
    let zone := (offset.map fun o => "tzinfo=" ++ zoneCall o).toList
    "datetime.datetime(" ++ ", ".intercalate (numbers ++ zone) ++ ")"

def daysBefore (year : Nat) : Nat :=
  let y := year - 1
  365 * y + y / 4 - y / 100 + y / 400

def dayNumber (d : Date) : Nat :=
  (List.range (d.month - 1)).foldl (fun days m => days + Calendar.daysIn d.year (m + 1))
    (daysBefore d.year) + d.day

/-- Moments with a zone are the same if they are at the same time. -/
def equal (a b : Instant) : Bool :=
  match a, b with
  | moment d c (some o), moment d' c' (some o') =>
    let seconds (d : Date) (c : Clock) (o : Int) : Int :=
      86400 * (dayNumber d : Int) + (3600 * c.hour + 60 * c.minute + c.second : Nat) - o
    seconds d c o == seconds d' c' o' && c.micros == c'.micros
  | a, b => a == b

end Instant

end QueryLint
