import QueryLint.Config
import QueryLint.Preset
import QueryLint.Text.Utf8

/-! # The schema of a configuration

A configuration names a preset, sets settings, switches rules and disables rules. Values are read
leniently: a number may be given as a text, a flag as a word. Every field that cannot be read is
reported, by the keys that lead to it.
-/

namespace QueryLint

abbrev FieldPath := List String

inductive SettingValue
  | flag (b : Bool)
  | count (n : Int)
  | terms (ts : List String)
  deriving DecidableEq, Repr

def SettingValue.toData : SettingValue → Data
  | flag b => .bool b
  | count n => .int n
  | terms ts => .list (ts.map Data.text)

/-- The contents of a configuration that obeys the schema. -/
structure ConfigSpec where
  preset : Option String := none
  settings : List (String × SettingValue) := []
  rules : List (String × RuleSwitch) := []
  disable : List String := []
  deriving Repr, Inhabited

/-- What is read from a value, or the fields of it that cannot be read. -/
abbrev Validation := Except (List FieldPath)

namespace Validation

variable {α β : Type}

/-- Reads two parts; the bad fields of both are reported. -/
def both (a : Validation α) (b : Validation β) : Validation (α × β) :=
  match a, b with
  | .ok x, .ok y => .ok (x, y)
  | .ok _, .error fs => .error fs
  | .error es, .ok _ => .error es
  | .error es, .error fs => .error (es ++ fs)

def all : List (Validation α) → Validation (List α)
  | [] => .ok []
  | v :: vs => (both v (all vs)).map fun (x, xs) => x :: xs

def ofOption (path : FieldPath) : Option α → Validation α
  | some a => .ok a
  | none => .error [path]

end Validation

namespace ConfigSpec

/-! ## Lenient values -/

def text? : Data → Option String
  | .bytes bs => (Text.decodeUtf8 bs).map String.ofList
  | d => d.asText?

/-- White space that may surround a number. -/
def isNumberBlank (c : Char) : Bool :=
  Text.isBlank c && !('\x1c' ≤ c && c ≤ '\x1f')

def trimNumber (s : List Char) : List Char :=
  ((s.dropWhile isNumberBlank).reverse.dropWhile isNumberBlank).reverse

/-- Digits with single underscores between them, without the underscores. -/
def groupedDigits? : List Char → Option (List Char)
  | [] => none
  | [c] => if c.isDigit then some [c] else none
  | c :: '_' :: r => if c.isDigit then (groupedDigits? r).map (c :: ·) else none
  | c :: r => if c.isDigit then (groupedDigits? r).map (c :: ·) else none

/-- The most characters that a number may have. -/
def numberLimit : Nat := 4300

/-- A whole number with or without a minus sign. -/
def signedInt? (s : List Char) : Option Int :=
  let (negative, ds) : Bool × List Char := match s with
    | '-' :: r => (true, r)
    | r => (false, r)
  (groupedDigits? ds).bind fun ds =>
    if numberLimit < ds.length + (if negative then 1 else 0) then none
    else some (if negative then -(Binary64.natOfDigits ds : Int) else Binary64.natOfDigits ds)

/-- Drops zeros and underscores in front of a number, but not its last zero. -/
def dropLeadingZeros : List Char → Option (List Char)
  | [] => none
  | c :: r =>
    if c = '0' then
      let zeros := r.takeWhile fun d => d = '0' || d = '_'
      match r.dropWhile fun d => d = '0' || d = '_' with
      | [] => some [(zeros.getLast?).getD '0']
      | d :: rest =>
        if d.isDigit || d = '-' then some (d :: rest)
        else if d = '.' then some ((zeros.getLast?).getD '0' :: d :: rest)
        else none
    else if c.isDigit || c = '-' then some (c :: r)
    else none

def dropZeroFraction (s : List Char) : List Char :=
  match s.dropWhile (· ≠ '.') with
  | _ :: '0' :: fraction => if fraction.all (· = '0') then s.takeWhile (· ≠ '.') else s
  | _ => s

/-- The number that a text stands for: blanks around it, a plus sign, zeros in front of it and of
its minus sign, single underscores between digits and a fraction of zeros are allowed. -/
def lenientInt? (s : List Char) : Option Int :=
  let unsigned : Option (List Char) := match trimNumber s with
    | '+' :: r => if r.head? == some '-' then none else some r
    | r => some r
  (unsigned.bind dropLeadingZeros).bind fun r => signedInt? (dropZeroFraction r)

def falseWords : List String := ["0", "off", "f", "false", "n", "no"]

def trueWords : List String := ["1", "on", "t", "true", "y", "yes"]

/-- The flag that a word stands for, in any case and without blanks. -/
def wordFlag? (s : String) : Option Bool :=
  let word := String.ofList (s.toList.map Char.toLower)
  if falseWords.contains word then some false
  else if trueWords.contains word then some true
  else none

def numberFlag? (d : Data) : Option Bool :=
  match d.toInt? with
  | some 0 => some false
  | some 1 => some true
  | _ => none

def flag? (d : Data) : Option Bool :=
  match text? d with
  | some s => wordFlag? s
  | none => numberFlag? d

/-- The whole number equal to a double, within 64 bits. -/
def floatInt? (x : Binary64) : Option Int :=
  x.toInt?.bind fun n => if -0x8000000000000000 < n && n < 0x8000000000000000 then some n else none

def terms? (d : Data) : Option (List String) :=
  d.members?.bind fun items => items.mapM text?

/-- A setting: flags and numbers as they are, doubles and texts as flags if they can be, as numbers
otherwise, and collections of texts. -/
def settingValue? : Data → Option SettingValue
  | .bool b => some (.flag b)
  | .int n => some (.count n)
  | .float x => ((numberFlag? (.float x)).map .flag).or ((floatInt? x).map .count)
  | d => match text? d with
    | some s => ((wordFlag? s).map .flag).or ((lenientInt? s.toList).map .count)
    | none => (terms? d).map .terms

/-- A severity by name, or by its place in the order, which may be spelled by bytes. Null leaves
findings as they are. -/
def severity? : Data → Option (Option Severity)
  | .null => some none
  | .text s => (Severity.parse? s).map some
  | d =>
    let rank := match text? d with
      | some s => lenientInt? s.toList
      | none => d.toInt?
    (rank.bind Severity.ofRank?).map some

/-! ## Fields -/

def keyText : Data → String
  | .text s => s
  | .int n => toString n
  | .bool b => if b then "1" else "0"
  | d => d.display

/-- The value of a field, or a default if the field is not there. -/
def field {α : Type} (path : FieldPath) (read : Data → Option α) (otherwise : α)
    (entries : List DataEntry) (key : String) : Validation α :=
  match Data.lookup key entries with
  | some d => .ofOption (path ++ [key]) (read d)
  | none => .ok otherwise

def unknownKeys (path : FieldPath) (known : List String) (entries : List DataEntry) :
    Validation Unit :=
  match entries.filter fun e => !known.any e.key.hasText with
  | [] => .ok ()
  | es => .error (es.map fun e => path ++ [keyText e.key])

def readSwitch (path : FieldPath) : Data → Validation RuleSwitch
  | .mapping es =>
    (Validation.both (unknownKeys path ["enabled", "severity"] es)
      (Validation.both (field path flag? true es "enabled")
        (field path severity? none es "severity"))).map fun (_, enabled, severity) =>
          { enabled, severity }
  | _ => .error [path]

/-- A mapping from texts. Of several keys that spell one text the last counts. -/
def table {α : Type} (path : FieldPath) (read : FieldPath → Data → Validation α) :
    Data → Validation (List (String × α))
  | .mapping es =>
    (Validation.all (es.map fun e =>
      let here := path ++ [keyText e.key]
      Validation.both (Validation.ofOption (here ++ ["[key]"]) (text? e.key))
        (read here e.value))).map fun entries => (Table.ofList entries).entries
  | _ => .error [path]

def readSettings : Data → Validation (List (String × SettingValue)) :=
  table ["settings"] fun path d => .ofOption path (settingValue? d)

def readRules : Data → Validation (List (String × RuleSwitch)) :=
  table ["rules"] readSwitch

def readPreset : Data → Validation (Option String)
  | .null => .ok none
  | d => (Validation.ofOption ["preset"] (text? d)).map some

def readDisable (d : Data) : Validation (List String) :=
  match d.members? with
  | some items => Validation.all (items.zipIdx.map fun (item, i) =>
      Validation.ofOption ["disable", toString i] (text? item))
  | none => .error [["disable"]]

def optional {α : Type} (read : Data → Validation α) (otherwise : α) (entries : List DataEntry)
    (key : String) : Validation α :=
  match Data.lookup key entries with
  | some d => read d
  | none => .ok otherwise

/-- The depth to which the path to a bad field is shown. -/
def shownDepth (path : FieldPath) : Nat :=
  if path.head? == some "rules" then 3 else 2

/-- The order of paths, key by key. -/
def pathLe : FieldPath → FieldPath → Bool
  | [], _ => true
  | _ :: _, [] => false
  | a :: p, b :: q => if a = b then pathLe p q else decide (a < b)

/-- Paths in order, each once. -/
def sortPaths (paths : List FieldPath) : List FieldPath :=
  ((paths.map fun p => p.take (shownDepth p)).mergeSort pathLe).eraseDups

def ofData : Data → Validation ConfigSpec
  | .mapping es =>
    let read := Validation.both (unknownKeys [] ["preset", "settings", "rules", "disable"] es)
      (Validation.both (optional readPreset none es "preset")
        (Validation.both (optional readSettings [] es "settings")
          (Validation.both (optional readRules [] es "rules")
            (optional readDisable [] es "disable"))))
    (read.map fun (_, preset, settings, rules, disable) =>
      { preset, settings, rules, disable }).mapError sortPaths
  | _ => .error [[]]

/-! ## Building -/

/-- The configuration that is built on: a preset, or the defaults if its name is empty. -/
def base (s : ConfigSpec) : Except Problem Config :=
  match s.preset with
  | some name => if name = "" then .ok {} else Preset.find name
  | none => .ok {}

/-- The configuration of a specification: first the preset, then settings, rules and the disabled
rules on top. -/
def toConfig (s : ConfigSpec) : Except Problem Config := do
  let c ← s.base
  match c.update (s.settings.map fun e => (e.1, e.2.toData)) with
  | (c, none) => return (c.setRules s.rules).disableRules s.disable
  | (_, some p) => throw p

end ConfigSpec

end QueryLint
