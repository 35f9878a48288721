
/-! # Double-precision numbers

A finite number is a mantissa below `2 ^ 53` times a power of two from `2 ^ (-1074)` to `2 ^ 971`.
Decimal text is rounded to the nearest such number, a half to the even mantissa.
-/

namespace QueryLint

inductive Binary64
  | finite (negative : Bool) (mantissa : Nat) (exponent : Int)
  | infinite (negative : Bool)
  | notANumber
  deriving DecidableEq, Repr, Inhabited

namespace Binary64

def minExponent : Int := -1074

def maxExponent : Int := 971

/-- The least number of 54 binary digits, which no mantissa reaches. -/
def mantissaBound : Nat := Nat.pow 2 53

/-- The least mantissa of 53 binary digits. -/
def leastNormal : Nat := Nat.pow 2 52

/-- `num / den * 2 ^ (-e)` as a fraction of naturals. -/
def scaleDown (num den : Nat) (e : Int) : Nat × Nat :=
  match e with
  | .ofNat k => (num, den * Nat.pow 2 k)
  | .negSucc k => (num * Nat.pow 2 (k + 1), den)

/-- The quotient rounded to the nearest natural, a half to the even neighbour. -/
def roundQuotient (num den : Nat) : Nat :=
  let q := num / den
  let r := num % den
  if 2 * r < den then q
  else if den < 2 * r then q + 1
  else q + q % 2

/-- The exponent at which the whole part of a positive quotient has 53 binary digits, if the
range of exponents allows it. -/
def exponentFor (num den : Nat) : Int :=
  let e := max minExponent ((num.log2 : Int) - (den.log2 : Int) - 53)
  let s := scaleDown num den e
  if s.1 / s.2 < mantissaBound then e else e + 1

/-- The double nearest to a quotient of naturals. -/
def ofQuotient (negative : Bool) (num den : Nat) : Binary64 :=
  if num = 0 then .finite negative 0 minExponent
  else
    let e := exponentFor num den
    let s := scaleDown num den e
    let m := roundQuotient s.1 s.2
    let (m, e) := if m = mantissaBound then (leastNormal, e + 1) else (m, e)
    if maxExponent < e then .infinite negative else .finite negative m e

/-- The double nearest to `digits * 10 ^ e`. -/
def ofDecimal (negative : Bool) (digits : Nat) (e : Int) : Binary64 :=
  let top := (Nat.toDigits 10 digits).length + e
  if digits = 0 || top < -400 then .finite negative 0 minExponent
  else if 400 < top then .infinite negative
  else match e with
    | .ofNat k => ofQuotient negative (digits * Nat.pow 10 k) 1
    | .negSucc k => ofQuotient negative digits (Nat.pow 10 (k + 1))

/-- The double nearest to a product. -/
def times : Binary64 → Binary64 → Binary64
  | .finite n m e, .finite n' m' e' =>
    let (num, den) := scaleDown (m * m') 1 (-(e + e'))
    ofQuotient (n != n') num den
  | .notANumber, _ => .notANumber
  | _, .notANumber => .notANumber
  | .infinite n, .finite n' m _ => if m = 0 then .notANumber else .infinite (n != n')
  | .finite n m _, .infinite n' => if m = 0 then .notANumber else .infinite (n != n')
  | .infinite n, .infinite n' => .infinite (n != n')

def negate : Binary64 → Binary64
  | .finite n m e => .finite (!n) m e
  | .infinite n => .infinite (!n)
  | .notANumber => .notANumber

/-- The double nearest to a sum. -/
def plus : Binary64 → Binary64 → Binary64
  | .finite n m e, .finite n' m' e' =>
    let (num, den) := scaleDown m 1 (-e)
    let (num', den') := scaleDown m' 1 (-e')
    let signed (negative : Bool) (k : Nat) : Int := if negative then -(k : Int) else k
    let sum := signed n (num * den') + signed n' (num' * den)
    ofQuotient (if sum = 0 then n && n' else sum < 0) sum.natAbs (den * den')
  | .notANumber, _ => .notANumber
  | _, .notANumber => .notANumber
  | .infinite n, .infinite n' => if n = n' then .infinite n else .notANumber
  | .infinite n, _ => .infinite n
  | _, .infinite n => .infinite n

/-- The whole number equal to a double, if there is one. -/
def toInt? : Binary64 → Option Int
  | .finite negative m e =>
    let magnitude : Option Nat := match e with
      | .ofNat k => some (m * Nat.pow 2 k)
      | .negSucc k => if m % Nat.pow 2 (k + 1) = 0 then some (m / Nat.pow 2 (k + 1)) else none
    magnitude.map fun (n : Nat) => if negative then -(n : Int) else n
  | _ => none

/-- Numerical equality: the two zeros are equal and a value that is no number equals nothing. -/
def equal : Binary64 → Binary64 → Bool
  | .finite n m e, .finite n' m' e' => (m == 0 && m' == 0) || (n == n' && m == m' && e == e')
  | .infinite n, .infinite n' => n == n'
  | _, _ => false

def isZero : Binary64 → Bool
  | .finite _ m _ => m == 0
  | _ => false

def natOfDigits (s : List Char) : Nat :=
  s.foldl (fun n c => 10 * n + (c.toNat - '0'.toNat)) 0

/-- An exponent with an optional sign and at least one digit. -/
def readExponent? (s : List Char) : Option Int :=
  let (negative, ds) : Bool × List Char := match s with
    | '-' :: r => (true, r)
    | '+' :: r => (false, r)
    | r => (false, r)
  if ds.isEmpty || !ds.all Char.isDigit then none
  else some (if negative then -(natOfDigits ds : Int) else natOfDigits ds)

def readMagnitude? (negative : Bool) (s : List Char) : Option Binary64 :=
  if s = "inf".toList then some (.infinite negative)
  else if s = "nan".toList then some .notANumber
  else
    let whole := s.takeWhile Char.isDigit
    let rest := s.dropWhile Char.isDigit
    let (fraction, rest) : List Char × List Char := match rest with
      | '.' :: r => (r.takeWhile Char.isDigit, r.dropWhile Char.isDigit)
      | r => ([], r)
    let exponent? : Option Int := match rest with
      | [] => some 0
      | c :: r => if c = 'e' || c = 'E' then readExponent? r else none
    if whole.isEmpty && fraction.isEmpty then none
    else exponent?.map fun e =>
      ofDecimal negative (natOfDigits (whole ++ fraction)) (e - (fraction.length : Int))

/-- Reads decimal notation with an optional sign, point and exponent, or `inf` or `nan`. -/
def read? : List Char → Option Binary64
  | '-' :: r => readMagnitude? true r
  | '+' :: r => readMagnitude? false r
  | r => readMagnitude? false r

end Binary64

end QueryLint
