import QueryLint.Data
import QueryLint.Number.Calendar
import QueryLint.Number.Digits
import QueryLint.Number.Literal

/-! # Values of TOML documents

Readers for keys and values. A reader takes the text that is left and yields what it read together
with the rest, or nothing if the text is malformed there. Readers that may come to a number tell
apart a malformed text and a number that is too long.
-/

namespace QueryLint.Toml

abbrev Key := List String

/-- Why a document cannot be read. -/
inductive Fault
  | malformed
  /-- A whole number in base ten with so many digits. -/
  | overlong (digits : Nat)
  /-- Values inside one another for which the stack has no room. -/
  | exhausted
  deriving DecidableEq, Repr

abbrev ReadValue (α : Type) := List Char → Except Fault (α × List Char)

def orMalformed {α : Type} : Option α → Except Fault α
  | some a => .ok a
  | none => .error .malformed

/-! ## Blanks and comments -/

def isSpace (c : Char) : Bool := c = ' ' || c = '\t'

def skipSpaces (s : List Char) : List Char := s.dropWhile isSpace

def isControl (c : Char) : Bool := c.toNat < 0x20 || c.toNat = 0x7F

/-- Skips a comment up to the end of its line. A comment holds no control characters but tabs. -/
def skipComment (s : List Char) : Option (List Char) :=
  match s with
  | '#' :: r =>
    let body := r.takeWhile (· ≠ '\n')
    if body.any fun c => isControl c && c ≠ '\t' then none else some (r.dropWhile (· ≠ '\n'))
  | _ => some s

/-- Skips blanks, line breaks and comments, as they may stand between the items of an array. -/
def skipFiller : Nat → List Char → Option (List Char)
  | 0, s => some s
  | fuel + 1, s =>
    let r := s.dropWhile fun c => isSpace c || c = '\n'
    match r with
    | '#' :: _ => (skipComment r).bind (skipFiller fuel)
    | _ => some r

/-! ## Texts -/

/-- A character that may not stand in a text; a line break may in texts over several lines. -/
def isIllegal (multiline : Bool) (c : Char) : Bool :=
  isControl c && c ≠ '\t' && !(multiline && c = '\n')

/-- What follows a backslash. A backslash before a line break, with blanks between, takes out all
blanks up to the next character. -/
def escape (multiline : Bool) : Read (List Char) := fun s =>
  match s with
  | [] => none
  | c :: r =>
    match c with
    | 'b' => some (['\x08'], r)
    | 't' => some (['\t'], r)
    | 'n' => some (['\n'], r)
    | 'f' => some (['\x0c'], r)
    | 'r' => some (['\r'], r)
    | '"' => some (['"'], r)
    | '\\' => some (['\\'], r)
    | 'u' => (Digits.hexChar 4 r).map fun (c, rest) => ([c], rest)
    | 'U' => (Digits.hexChar 8 r).map fun (c, rest) => ([c], rest)
    | _ =>
      let skip (s : List Char) := s.dropWhile fun c => isSpace c || c = '\n'
      if !multiline then none
      else if c = '\n' then some ([], skip r)
      else if isSpace c then
        match skipSpaces r with
        | [] => some ([], [])
        | '\n' :: rest => some ([], skip rest)
        | _ => none
      else none

/-- Up to two quotes may directly precede the closing three. -/
def extraQuotes (delimiter : Char) (body : List Char) (s : List Char) : List Char × List Char :=
  match s with
  | a :: b :: r =>
    if a = delimiter && b = delimiter then (body ++ [a, b], r)
    else if a = delimiter then (body ++ [a], b :: r)
    else (body, s)
  | [a] => if a = delimiter then (body ++ [a], []) else (body, s)
  | [] => (body, s)

/-- The rest of a text with escapes. -/
def basicBody (multiline : Bool) : Nat → List Char → Read (List Char)
  | 0, _, _ => none
  | _, _, [] => none
  | fuel + 1, done, c :: r =>
    if c = '"' then
      if !multiline then some (done, r)
      else match r with
        | '"' :: '"' :: rest => some (extraQuotes '"' done rest)
        | _ => basicBody multiline fuel (done ++ [c]) r
    else if c = '\\' then
      (escape multiline r).bind fun (cs, rest) => basicBody multiline fuel (done ++ cs) rest
    else if isIllegal multiline c then none
    else basicBody multiline fuel (done ++ [c]) r

/-- The rest of a text without escapes. -/
def literalBody (multiline : Bool) : List Char → Read (List Char)
  | _, [] => none
  | done, c :: r =>
    if c = '\'' then
      if !multiline then some (done, r)
      else match r with
        | '\'' :: '\'' :: rest => some (extraQuotes '\'' done rest)
        | _ => literalBody multiline (done ++ [c]) r
    else if isIllegal multiline c then none
    else literalBody multiline (done ++ [c]) r

def dropFirstBreak : List Char → List Char
  | '\n' :: r => r
  | s => s

def lineText : Read String := fun s =>
  match s with
  | '"' :: r => (basicBody false (r.length + 1) [] r).map fun (b, rest) => (String.ofList b, rest)
  | '\'' :: r => (literalBody false [] r).map fun (b, rest) => (String.ofList b, rest)
  | _ => none

def anyText : Read String := fun s =>
  match s with
  | '"' :: '"' :: '"' :: r =>
    (basicBody true (r.length + 1) [] (dropFirstBreak r)).map fun (b, rest) =>
      (String.ofList b, rest)
  | '\'' :: '\'' :: '\'' :: r =>
    (literalBody true [] (dropFirstBreak r)).map fun (b, rest) => (String.ofList b, rest)
  | _ => lineText s

/-! ## Keys -/

def isBareKeyChar (c : Char) : Bool :=
  c.isAlphanum || c = '-' || c = '_'

def keyPart : Read String := fun s =>
  match s with
  | '"' :: _ => lineText s
  | '\'' :: _ => lineText s
  | _ =>
    let part := s.takeWhile isBareKeyChar
    if part.isEmpty then none else some (String.ofList part, s.dropWhile isBareKeyChar)

/-- Parts joined by dots, with blanks around the dots and behind the key. -/
def key : Nat → Read Key
  | 0, _ => none
  | fuel + 1, s =>
    (keyPart s).bind fun (part, r) =>
      match skipSpaces r with
      | '.' :: rest => (key fuel (skipSpaces rest)).map fun (parts, rest) => (part :: parts, rest)
      | rest => some ([part], rest)

/-! ## Numbers -/

/-- Digits with single underscores between them; the underscores are left out. -/
def digitRun (isDigit : Char → Bool) : List Char → List Char × List Char
  | c :: '_' :: d :: r =>
    if !isDigit c then ([], c :: '_' :: d :: r)
    else if isDigit d then
      let (ds, rest) := digitRun isDigit (d :: r)
      (c :: ds, rest)
    else ([c], '_' :: d :: r)
  | c :: r =>
    if isDigit c then
      let (ds, rest) := digitRun isDigit r
      (c :: ds, rest)
    else ([], c :: r)
  | [] => ([], [])

/-- A number written in another base. -/
def basedInt : Read Data := fun s =>
  let read (base : Nat) (isDigit : Char → Bool) (r : List Char) : Option (Data × List Char) :=
    match digitRun isDigit r with
    | ([], _) => none
    | (ds, rest) => some (.int (Digits.toNat base ds), rest)
  match s with
  | '0' :: 'x' :: r => read 16 (fun c => (Digits.value? c).isSome) r
  | '0' :: 'o' :: r => read 8 (fun c => '0' ≤ c && c ≤ '7') r
  | '0' :: 'b' :: r => read 2 (fun c => c = '0' || c = '1') r
  | _ => none

def fraction (s : List Char) : List Char × List Char :=
  match s with
  | '.' :: r => match digitRun Char.isDigit r with
    | ([], _) => ([], s)
    | found => found
  | _ => ([], s)

def exponent (s : List Char) : Option Int × List Char :=
  let read (negative : Bool) (r : List Char) : Option Int × List Char :=
    match digitRun Char.isDigit r with
    | ([], _) => (none, s)
    | (ds, rest) =>
      (some (if negative then -(Binary64.natOfDigits ds : Int) else Binary64.natOfDigits ds), rest)
  match s with
  | c :: r =>
    if c = 'e' || c = 'E' then
      match r with
      | '-' :: r' => read true r'
      | '+' :: r' => read false r'
      | _ => read false r
    else (none, s)
  | [] => (none, s)

/-- A number in base ten, a double if it has a fraction or an exponent. -/
def decimal : Read Data := fun s =>
  let (negative, unsigned) : Bool × List Char := match s with
    | '-' :: r => (true, r)
    | '+' :: r => (false, r)
    | r => (false, r)
  let whole : List Char × List Char := match unsigned with
    | '0' :: r => (['0'], r)
    | r => digitRun Char.isDigit r
  match whole with
  | ([], _) => none
  | (ds, rest) =>
    let (fs, rest) := fraction rest
    match exponent rest with
    | (none, rest) =>
      if fs.isEmpty then
        let n : Int := Binary64.natOfDigits ds
        some (.int (if negative then -n else n), rest)
      else
        some (.float (Binary64.ofDecimal negative (Binary64.natOfDigits (ds ++ fs)) (-fs.length)),
          rest)
    | (some e, rest) =>
      some (.float (Binary64.ofDecimal negative (Binary64.natOfDigits (ds ++ fs)) (e - fs.length)),
        rest)

def specialFloat : Read Data := fun s =>
  let read (negative : Bool) (r : List Char) : Option (Data × List Char) :=
    match r with
    | 'i' :: 'n' :: 'f' :: rest => some (.float (.infinite negative), rest)
    | 'n' :: 'a' :: 'n' :: rest => some (.float .notANumber, rest)
    | _ => none
  match s with
  | '-' :: r => read true r
  | '+' :: r => read false r
  | _ => read false s

/-- A number. Only in base ten there is a limit to its digits. -/
def number : ReadValue Data := fun s =>
  match basedInt s, decimal s with
  | some found, _ => .ok found
  | none, some (.int n, rest) =>
    let digits := (toString n.natAbs).length
    if Literal.digitLimit < digits then .error (.overlong digits) else .ok (.int n, rest)
  | none, some found => .ok found
  | none, none => orMalformed (specialFloat s)

/-- A time that may follow a date, with its zone, and the rest. -/
def clockAfterDate (s : List Char) : Option (Clock × Option Int × List Char) :=
  match s with
  | c :: r =>
    if c = 'T' || c = 't' || c = ' ' then
      (Calendar.clock r).map fun (clock, rest) =>
        let (offset, rest) := Calendar.zone rest
        (clock, offset, rest)
    else none
  | [] => none

/-- A date, a time or both. A date that the calendar does not have is malformed. -/
def instant (s : List Char) : Option (Option (Data × List Char)) :=
  match Calendar.date s with
  | some (date, r) =>
    if date.fault?.isSome then none
    else match clockAfterDate r with
      | some (clock, offset, rest) => some (some (.instant (.moment date clock offset), rest))
      | none => some (some (.instant (.date date), r))
  | none => some ((Calendar.clock s).map fun (clock, rest) => (.instant (.clock clock), rest))

/-! ## Values -/

/-- The value under a key, if the key is there. -/
def getEntry (k : String) (es : List DataEntry) : Option Data := Data.lookup k es

/-- Replaces the value under a key, or adds the key at the end. -/
def setEntry (k : String) (v : Data) : List DataEntry → List DataEntry
  | [] => [⟨.text k, v⟩]
  | e :: r => if e.key.hasText k then ⟨e.key, v⟩ :: r else e :: setEntry k v r

/-- Changes the table under a key, making the tables on the way. Where `enterLists` is set, an array
of tables stands for its last one. -/
def updateAt (enterLists : Bool) (f : List DataEntry → Option (List DataEntry)) :
    Key → List DataEntry → Option (List DataEntry)
  | [], es => f es
  | k :: ks, es =>
    match getEntry k es with
    | none => (updateAt enterLists f ks []).map fun inner => setEntry k (.mapping inner) es
    | some (.mapping inner) =>
      (updateAt enterLists f ks inner).map fun inner => setEntry k (.mapping inner) es
    | some (.list items) =>
      match enterLists, items.getLast? with
      | true, some (.mapping inner) =>
        (updateAt enterLists f ks inner).map fun inner =>
          setEntry k (.list (items.dropLast ++ [.mapping inner])) es
      | _, _ => none
    | some _ => none

def addNew (k : String) (v : Data) (es : List DataEntry) : Option (List DataEntry) :=
  if (getEntry k es).isSome then none else some (es ++ [⟨.text k, v⟩])

def isContainer : Data → Bool
  | .mapping _ => true
  | .list _ => true
  | _ => false

/-- Whether a key or a key above it is closed to additions. -/
def isFrozen (frozen : List Key) (k : Key) : Bool :=
  frozen.any fun f => f.isPrefixOf k

mutual
/-- A value, on a stack with room for some calls. An array takes two of them, an inline table
three. -/
def value : (room : Nat) → Nat → ReadValue Data
  | _, 0, _ => .error .malformed
  | room, fuel + 1, s =>
    match s with
    | [] => .error .malformed
    | c :: r =>
      if c = '"' || c = '\'' then
        orMalformed ((anyText s).map fun (t, rest) => (.text t, rest))
      else if c = '[' then
        match skipFiller fuel r with
        | some (']' :: rest) => .ok (.list [], rest)
        | some r => if room < 2 then .error .exhausted else items (room - 2) fuel [] r
        | none => .error .malformed
      else if c = '\x7b' then
        match skipSpaces r with
        | '\x7d' :: rest => .ok (.mapping [], rest)
        | r => if room < 3 then .error .exhausted else pairs (room - 3) fuel [] [] r
      else
        match s with
        | 't' :: 'r' :: 'u' :: 'e' :: rest => .ok (.bool true, rest)
        | 'f' :: 'a' :: 'l' :: 's' :: 'e' :: rest => .ok (.bool false, rest)
        | _ =>
          match instant s with
          | none => .error .malformed
          | some (some found) => .ok found
          | some none => number s
termination_by structural _ fuel => fuel

def items : (room : Nat) → Nat → List Data → ReadValue Data
  | _, 0, _, _ => .error .malformed
  | room, fuel + 1, done, s => do
    let (v, r) ← value room fuel s
    match skipFiller fuel r with
    | some (']' :: rest) => .ok (.list (done ++ [v]), rest)
    | some (',' :: rest) =>
      match skipFiller fuel rest with
      | some (']' :: rest) => .ok (.list (done ++ [v]), rest)
      | some rest => items room fuel (done ++ [v]) rest
      | none => .error .malformed
    | _ => .error .malformed
termination_by structural _ fuel => fuel

/-- The pairs of an inline table from the next one on. -/
def pairs : (room : Nat) → Nat → List DataEntry → List Key → ReadValue Data
  | _, 0, _, _, _ => .error .malformed
  | room, fuel + 1, done, frozen, s => do
    let ((k, v), r) ← pair room fuel s
    if isFrozen frozen k then .error .malformed
    else
      let done ← orMalformed (updateAt false (addNew (k.getLast?.getD "") v) k.dropLast done)
      match skipSpaces r with
      | '\x7d' :: rest => .ok (.mapping done, rest)
      | ',' :: rest =>
        pairs room fuel done (if isContainer v then k :: frozen else frozen) (skipSpaces rest)
      | _ => .error .malformed
termination_by structural _ fuel => fuel

def pair : (room : Nat) → Nat → ReadValue (Key × Data)
  | _, 0, _ => .error .malformed
  | room, fuel + 1, s =>
    match key fuel s with
    | some (k, '=' :: r) => (value room fuel (skipSpaces r)).map fun (v, rest) => ((k, v), rest)
    | _ => .error .malformed
termination_by structural _ fuel => fuel
end

end QueryLint.Toml
