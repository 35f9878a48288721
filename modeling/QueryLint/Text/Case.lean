import QueryLint.Text.CaseTable
import QueryLint.Text.Range

/-! # Letter case

Case maps of whole texts. A letter may become several; a sigma at the end of a word has a lower
case of its own.
-/

namespace QueryLint.Text

/-- The image of a character under a list of runs, itself where no run has it. -/
def applyRuns (runs : List (Nat × Nat × Nat × Nat)) (c : Char) : Char :=
  match runs.find? fun (lo, hi, step, _) =>
      lo ≤ c.toNat && c.toNat ≤ hi && (c.toNat - lo) % step == 0 with
  | some (lo, _, _, image) => Char.ofNat (image + (c.toNat - lo))
  | none => c

def lowerChar (c : Char) : Char :=
  if c.toNat < 0x80 then c.toLower else applyRuns lowerRuns c

def upperChars (c : Char) : List Char :=
  if c.toNat < 0x80 then [c.toUpper]
  else match upperExpansions.lookup c.toNat with
    | some image => image.map Char.ofNat
    | none => [applyRuns upperRuns c]

def titleChars (c : Char) : List Char :=
  match titleExceptions.lookup c.toNat with
  | some image => image.map Char.ofNat
  | none => upperChars c

def isCased (c : Char) : Bool :=
  inRanges casedRanges c

def isCaseIgnorable (c : Char) : Bool :=
  inRanges ignorableRanges c

/-- The nearest character that is not passed over has a case. -/
def nextIsCased (s : List Char) : Bool :=
  match s.dropWhile isCaseIgnorable with
  | [] => false
  | c :: _ => isCased c

def capitalSigma : Char := '\u03a3'

/-- A capital sigma ends a word when a letter with a case stands before it and none after it. -/
def lowerSigma (before after : List Char) : Char :=
  if nextIsCased before && !nextIsCased after then '\u03c2' else '\u03c3'

/-- Lower case of one character between its neighbours, the ones before it read backwards. -/
def lowerBetween (before : List Char) (c : Char) (after : List Char) : List Char :=
  if c = capitalSigma then [lowerSigma before after]
  else if c = '\u0130' then ['i', '\u0307']
  else [lowerChar c]

def lowerFrom (before : List Char) : List Char → List Char
  | [] => []
  | c :: r => lowerBetween before c r ++ lowerFrom (c :: before) r

def lower (s : List Char) : List Char :=
  lowerFrom [] s

def upper (s : List Char) : List Char :=
  s.flatMap upperChars

def titleFrom (before : List Char) : List Char → List Char
  | [] => []
  | c :: r =>
    (if before.head?.any isCased then lowerBetween before c r else titleChars c)
      ++ titleFrom (c :: before) r

/-- The first letter of every run of letters in title case, the others in lower case. -/
def title (s : List Char) : List Char :=
  titleFrom [] s

def lowerString (s : String) : String :=
  String.ofList (lower s.toList)

def upperString (s : String) : String :=
  String.ofList (upper s.toList)

def titleString (s : String) : String :=
  String.ofList (title s.toList)

end QueryLint.Text
