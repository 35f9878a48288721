import QueryLint.Number.Literal
import QueryLint.Text.Search
import QueryLint.Text.Word

/-! # Handlers

A tag may name a handler, with constant arguments in parentheses, or give constants alone. Constants
are numbers, texts, truth values, and tuples, sets and mappings of them.
-/

namespace QueryLint.Console.Handler

/-! ## Tokens -/

inductive Token
  /-- A number; an imaginary one ends with a letter. -/
  | number (imaginary : Bool)
  | text (isBytes : Bool)
  | word (name : String)
  /-- Three points. -/
  | dots
  | mark (c : Char)
  | lineEnd
  deriving DecidableEq, Repr

def isHex (c : Char) : Bool :=
  c.isDigit || ('a' ≤ c.toLower && c.toLower ≤ 'f')

/-- Digits in which single underscores may stand, and what follows them. -/
def digits? (isDigit : Char → Bool) : List Char → Option (List Char × List Char)
  | [] => none
  | [c] => if isDigit c then some ([c], []) else none
  | c :: d :: r =>
    if !isDigit c then none
    else if d = '_' then (digits? isDigit r).map fun (ds, after) => (c :: ds, after)
    else match digits? isDigit (d :: r) with
      | some (ds, after) => some (c :: ds, after)
      | none => if isDigit d then none else some ([c], d :: r)

/-- A part of a number that may be missing. -/
def optionalDigits (s : List Char) : Option (List Char × List Char) :=
  if s.head?.any Char.isDigit then digits? Char.isDigit s else some ([], s)

/-- Digits of a base behind its mark. -/
def basedDigits? (isDigit : Char → Bool) (s : List Char) : Option (List Char) :=
  (digits? isDigit (match s with | '_' :: r => r | r => r)).map (·.2)

def exponent? (s : List Char) : Option (Bool × List Char) :=
  match s with
  | e :: r =>
    if e = 'e' || e = 'E' then
      let r := match r with
        | '+' :: r | '-' :: r => r
        | r => r
      (digits? Char.isDigit r).map fun (_, after) => (true, after)
    else some (false, s)
  | [] => some (false, s)

/-- A decimal number. Whole numbers do not begin with a zero and are not too long. -/
def decimal? (s : List Char) : Option (Bool × List Char) := do
  let (whole, r) ← optionalDigits s
  let (pointed, r) := match r with
    | '.' :: r => (true, r)
    | r => (false, r)
  let (fraction, r) ← if pointed then optionalDigits r else some ([], r)
  if whole.isEmpty && fraction.isEmpty then none
  let (scaled, r) ← exponent? r
  match r with
  | 'j' :: r | 'J' :: r => return (true, r)
  | r =>
    let isWhole := !pointed && !scaled
    if isWhole && whole.head? = some '0' && whole.any (· ≠ '0') then none
    if isWhole && Literal.digitLimit < whole.length then none
    return (false, r)

/-- A number: whether it is imaginary, and what follows. No word may follow at once. -/
def number? (s : List Char) : Option (Bool × List Char) := do
  let (imaginary, after) ← match s with
    | '0' :: m :: r =>
      if m = 'x' || m = 'X' then (basedDigits? isHex r).map (false, ·)
      else if m = 'o' || m = 'O' then
        (basedDigits? (fun c => '0' ≤ c && c ≤ '7') r).map (false, ·)
      else if m = 'b' || m = 'B' then
        (basedDigits? (fun c => c = '0' || c = '1') r).map (false, ·)
      else decimal? s
    | _ => decimal? s
  if after.head?.any Text.isWord then none
  return (imaginary, after)

/-! ## Texts -/

structure TextKind where
  isBytes : Bool
  isRaw : Bool

def TextKind.ofLetters? (s : List Char) : Option TextKind :=
  match String.ofList (s.map Char.toLower) with
  | "" | "u" => some ⟨false, false⟩
  | "r" => some ⟨false, true⟩
  | "b" => some ⟨true, false⟩
  | "br" | "rb" => some ⟨true, true⟩
  | _ => none

def hexValue (s : List Char) : Nat :=
  s.foldl (fun n c => 16 * n + (Literal.digit? c).getD 0) 0

/-- Whether an escape is complete, with the letter behind the backslash and what follows it. -/
def isEscape (kind : TextKind) (letter : Char) (r : List Char) : Bool :=
  let isCode (n : Nat) := n ≤ (r.takeWhile isHex).length
  if letter = 'x' then isCode 2
  else if kind.isBytes then true
  else if letter = 'u' then isCode 4
  else if letter = 'U' then isCode 8 && hexValue (r.take 8) < 0x110000
  else letter ≠ 'N'

def closeText? (kind : TextKind) (quote : List Char) : List Char → Option (List Char)
  | [] => none
  | c :: r =>
    if quote.isPrefixOf (c :: r) then some ((c :: r).drop quote.length)
    else if kind.isBytes && 0x80 ≤ c.toNat then none
    else if c = '\n' && quote.length = 1 then none
    else if c = '\\' then
      match r with
      | [] => none
      | d :: rest =>
        if (kind.isRaw || isEscape kind d rest) && !(kind.isBytes && 0x80 ≤ d.toNat) then
          closeText? kind quote rest
        else none
    else closeText? kind quote r

/-- What follows a text that begins with a quote. -/
def afterText? (kind : TextKind) (s : List Char) : Option (List Char) :=
  match s with
  | a :: b :: c :: r =>
    if a = b && b = c then closeText? kind [a, a, a] r else closeText? kind [a] (b :: c :: r)
  | a :: r => closeText? kind [a] r
  | [] => none

def isQuote (c : Char) : Bool := c = '\'' || c = '"'

/-- A word, or a text that begins with letters. -/
def wordOrText? (s : List Char) : Option (Token × List Char) :=
  let letters := s.takeWhile Text.isWord
  let after := s.dropWhile Text.isWord
  if after.head?.any isQuote then do
    let kind ← TextKind.ofLetters? letters
    let rest ← afterText? kind after
    return (.text kind.isBytes, rest)
  else if letters.isEmpty then none
  else some (.word (String.ofList letters), after)

def deepest : Nat := 200

/-- The tokens of a text inside some brackets; lines end only outside of them. -/
def tokens? : Nat → Nat → List Char → Option (List Token)
  | _, _, [] => some []
  | 0, _, _ => none
  | fuel + 1, level, c :: r =>
    if c = ' ' || c = '\t' || c = '\x0c' then tokens? fuel level r
    else if c = '#' then tokens? fuel level (r.dropWhile (· ≠ '\n'))
    else if c = '\n' then
      (tokens? fuel level r).map fun ts => if level = 0 then .lineEnd :: ts else ts
    else if c = '\\' then match r with
      | '\n' :: rest => tokens? fuel level rest
      | _ => none
    else if c = '(' || c = '\x7b' then
      if level = deepest then none else (tokens? fuel (level + 1) r).map (.mark c :: ·)
    else if c = ')' || c = '\x7d' then (tokens? fuel (level - 1) r).map (.mark c :: ·)
    else if c = ',' || c = ':' || c = '+' || c = '-' then (tokens? fuel level r).map (.mark c :: ·)
    else if c.isDigit || (c = '.' && r.head?.any Char.isDigit) then do
      let (imaginary, rest) ← number? (c :: r)
      (tokens? fuel level rest).map (.number imaginary :: ·)
    else if c = '.' then do
      let rest ← Text.dropStart? "..".toList r
      (tokens? fuel level rest).map (.dots :: ·)
    else do
      let (t, rest) ← wordOrText? (c :: r)
      (tokens? fuel level rest).map (t :: ·)

/-! ## Constants -/

/-- What matters about a constant where it stands in others. -/
inductive Constant
  | number (imaginary : Bool)
  | signed (imaginary : Bool)
  /-- Any other that may be a key. -/
  | simple
  | collection
  deriving DecidableEq, Repr

def Constant.canBeKey (c : Constant) : Bool := c ≠ .collection

/-- Texts one after the other are one text, all of the same kind. -/
def texts? (isBytes : Bool) : List Token → Option (List Token)
  | .text b :: r => if b = isBytes then texts? isBytes r else none
  | r => some r

mutual
def atom? : Nat → List Token → Option (Constant × List Token)
  | 0, _ => none
  | fuel + 1, ts =>
    match ts with
    | .number imaginary :: r => some (.number imaginary, r)
    | .text isBytes :: r => (texts? isBytes r).map (.simple, ·)
    | .dots :: r => some (.simple, r)
    | .word "True" :: r | .word "False" :: r | .word "None" :: r => some (.simple, r)
    | .word "set" :: .mark '(' :: .mark ')' :: r => some (.collection, r)
    | .mark '(' :: r => do
      let (cs, trailing, r) ← series? fuel ')' r
      match cs, trailing with
      | [c], false => return (c, r)
      | cs, _ => return (if cs.all Constant.canBeKey then .simple else .collection, r)
    | .mark '\x7b' :: .mark '\x7d' :: r => some (.collection, r)
    | .mark '\x7b' :: r => do
      let (k, r) ← constant? fuel r
      if !k.canBeKey then none
      match r with
      | .mark ':' :: r => do
        let (_, r) ← constant? fuel r
        (entries? fuel r).map (.collection, ·)
      | .mark ',' :: r => do
        let (cs, _, r) ← series? fuel '\x7d' r
        if cs.all Constant.canBeKey then some (.collection, r) else none
      | .mark '\x7d' :: r => some (.collection, r)
      | _ => none
    | _ => none

/-- A constant: with a sign, or the sum of a real and an imaginary number. -/
def constant? : Nat → List Token → Option (Constant × List Token)
  | 0, _ => none
  | fuel + 1, ts => do
    let (left, r) ← match ts with
      | .mark '+' :: r | .mark '-' :: r =>
        match atom? fuel r with
        | some (.number imaginary, r) => some (.signed imaginary, r)
        | _ => none
      | _ => atom? fuel ts
    match r with
    | .mark '+' :: r' | .mark '-' :: r' =>
      if left = .number false || left = .signed false then
        match atom? fuel r' with
        | some (.number true, r') => some (.simple, r')
        | _ => none
      else none
    | _ => return (left, r)

/-- Constants between commas up to a closing bracket, and whether a comma comes last. -/
def series? : Nat → Char → List Token → Option (List Constant × Bool × List Token)
  | 0, _, _ => none
  | fuel + 1, close, ts =>
    match ts with
    | .mark m :: r =>
      if m = close then some ([], false, r) else seriesFrom? fuel close ts
    | _ => seriesFrom? fuel close ts

/-- At least one constant, and more of them behind commas. -/
def seriesFrom? : Nat → Char → List Token → Option (List Constant × Bool × List Token)
  | 0, _, _ => none
  | fuel + 1, close, ts => do
    let (c, r) ← constant? fuel ts
    match r with
    | .mark ',' :: r => do
      let (cs, trailing, r) ← series? fuel close r
      return (c :: cs, cs.isEmpty || trailing, r)
    | .mark m :: r => if m = close then some ([c], false, r) else none
    | _ => none

/-- More keys with their values, up to the closing brace. -/
def entries? : Nat → List Token → Option (List Token)
  | 0, _ => none
  | fuel + 1, ts =>
    match ts with
    | .mark '\x7d' :: r | .mark ',' :: .mark '\x7d' :: r => some r
    | .mark ',' :: r => do
      let (k, r) ← constant? fuel r
      match r with
      | .mark ':' :: r => do
        let (_, r) ← constant? fuel r
        if k.canBeKey then entries? fuel r else none
      | _ => none
    | _ => none
end

/-- Whether a text is a constant, or several with commas between them. -/
def isConstant (s : List Char) : Bool :=
  !s.contains '\x00' && match tokens? (s.length + 1) 0 s with
    | none => false
    | some ts =>
      let inner := ((ts.dropWhile (· = .lineEnd)).reverse.dropWhile (· = .lineEnd)).reverse
      match seriesFrom? (4 * ts.length + 4) ')' (inner ++ [.mark ')']) with
      | some (_, _, r) => r.isEmpty
      | none => false

/-! ## Handlers -/

/-- Whether a text names a handler, alone or with constants in parentheses, or gives constants. -/
def isValid (parameters : List Char) : Bool :=
  let s := Text.strip parameters
  match s.dropWhile fun c => Text.isWord c || c = '.' with
  | [] => true
  | '(' :: r =>
    if r.getLast? = some ')' && !r.contains '\n' then isConstant ('(' :: r) else isConstant s
  | _ => isConstant s

end QueryLint.Console.Handler
