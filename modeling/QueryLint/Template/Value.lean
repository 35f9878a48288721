import QueryLint.Data
import QueryLint.Template.Numeral

/-! # Values in templates

A text is cut and filled up, a number is written in a notation; a flag counts as a number once
anything is specified. All other values are shown as they are and take no specification.
-/

namespace QueryLint.Template

def layOutText (s : Spec) (text : List Char) : Except Fault (List Char) := do
  let letter := s.letter.getD 's'
  if letter ≠ 's' then throw (Spec.unknownNotation "str" letter)
  match s.sign with
  | some ' ' => throw (.malformed "Space not allowed in string format specifier")
  | some _ => throw (.malformed "Sign not allowed in string format specifier")
  | none => pure ()
  if s.plainZero then
    throw (.malformed "Negative zero coercion (z) not allowed in string format specifier")
  if s.alternate then
    throw (.malformed "Alternate form (#) not allowed in string format specifier")
  if s.align = .inner then
    throw (.malformed "'=' alignment not allowed in string format specifier")
  let shown := match s.precision with
    | some p => text.take p
    | none => text
  if Spec.widthLimit ≤ s.width then throw .exhausted
  let (before, after) := Spec.split s.align (s.width - shown.length)
  return List.replicate before s.fill ++ shown ++ List.replicate after s.fill

/-- The most places that a double can be given. -/
def precisionLimit : Nat := 0x7FFFFFFF

def oneHundred : Binary64 := Binary64.ofQuotient false 100 1

def layOutFloat (s : Spec) (x : Binary64) : Except Fault (List Char) := do
  match s.letter with
  | some c => if !"eEfFgGn%".toList.contains c then throw (Spec.unknownNotation "float" c)
  | none => pure ()
  if s.precision.any fun p => precisionLimit < p then throw (.malformed "precision too big")
  if Spec.widthLimit ≤ s.width then throw .exhausted
  let x := if s.letter = some '%' then x.times oneHundred else x
  return Numeral.layOut s (.ofFloat s x)

/-- The double nearest to a number, if it is not too great. -/
def floatOfInt (n : Int) : Except Fault Binary64 :=
  match Binary64.ofQuotient (n < 0) n.natAbs 1 with
  | .infinite _ => .error .overflow
  | x => .ok x

def layOutInt (typeName : String) (s : Spec) (n : Int) : Except Fault (List Char) := do
  let letter := s.letter.getD 'd'
  if "eEfFgG%".toList.contains letter then layOutFloat s (← floatOfInt n)
  else if !"bcdoxXn".toList.contains letter then throw (Spec.unknownNotation typeName letter)
  else
    if s.precision.isSome then
      throw (.malformed "Precision not allowed in integer format specifier")
    if s.plainZero then
      throw (.malformed "Negative zero coercion (z) not allowed in integer format specifier")
    if letter = 'c' && s.sign.isSome then
      throw (.malformed "Sign not allowed with integer format specifier 'c'")
    if letter = 'c' && s.alternate then
      throw (.malformed "Alternate form (#) not allowed with integer format specifier 'c'")
    let numeral ← if letter = 'c' then Numeral.ofCode n
      else .ok (Numeral.ofInt s.alternate letter n)
    if Spec.widthLimit ≤ s.width then throw .exhausted
    return numeral.layOut s

def layOut (d : Data) (spec : List Char) : Except Fault (List Char) := do
  if spec.isEmpty then return d.spliced.toList
  match d with
  | .text t => layOutText (← Spec.read "str" .left (some 's') spec) t.toList
  | .int n => layOutInt "int" (← Spec.read "int" .right (some 'd') spec) n
  | .bool b => layOutInt "bool" (← Spec.read "bool" .right (some 'd') spec) (if b then 1 else 0)
  | .float x => layOutFloat (← Spec.read "float" .right none spec) x
  | _ => throw .unsuited

/-! ## Parts and items -/

def part? (d : Data) (name : String) : Option Data :=
  match d, name with
  | .float x, "real" => some (.float x)
  | .float _, "imag" => some (.float (.finite false 0 Binary64.minExponent))
  | .float _, _ => none
  | d, name => d.toInt?.bind fun n => match name with
    | "real" => some (.int n)
    | "imag" => some (.int 0)
    | "numerator" => some (.int n)
    | "denominator" => some (.int 1)
    | _ => none

/-- The item at a place of a sequence, or under a number in a mapping. -/
def itemAt (d : Data) (index : Nat) : Except Fault Data :=
  let pick (items : List Data) : Except Fault Data := match items[index]? with
    | some i => .ok i
    | none => .error .missingItem
  match d with
  | .list items | .tuple items => pick items
  | .text s => pick (s.toList.map fun c => .text (String.ofList [c]))
  | .mapping es => match es.find? fun e => e.key.equal (.int index) with
    | some e => .ok e.value
    | none => .error .missingKey
  | _ => .error .unsuited

def itemUnder (d : Data) (key : String) : Except Fault Data :=
  match d with
  | .mapping es => match Data.lookup key es with
    | some v => .ok v
    | none => .error .missingKey
  | _ => .error .unsuited

end QueryLint.Template
