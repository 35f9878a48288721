import QueryLint.Number.Binary64

/-! # Shortest decimal text

The text of a double has the fewest digits that read back as the same double and, of those, the
digits nearest to it. It is positional for exponents from `10 ^ (-4)` up to `10 ^ 16`.
-/

namespace QueryLint

namespace Binary64

/-- The least `k` with `num / den < 10 ^ k`, for a quotient of at least one. -/
def decimalPoint (num den : Nat) : Int :=
  if den ≤ num then (Nat.toDigits 10 (num / den)).length
  else -((List.range 400).takeWhile fun j => num * Nat.pow 10 (j + 1) < den).length

/-- Whether `d * 10 ^ e` lies between `lo / den` and `hi / den`, the ends included on demand. -/
def liesWithin (lo hi den : Nat) (ends : Bool) (d : Nat) (e : Int) : Bool :=
  let (n, k) : Nat × Nat := match e with
    | .ofNat k => (d * Nat.pow 10 k * den, 1)
    | .negSucc k => (d * den, Nat.pow 10 (k + 1))
  if ends then lo * k ≤ n && n ≤ hi * k else lo * k < n && n < hi * k

/-- Of the two neighbours of the value on the grid `10 ^ e`, the nearer one that reads back. -/
def onGrid? (value lo hi den : Nat) (ends : Bool) (e : Int) : Option (Nat × Int) :=
  let (n, k) : Nat × Nat := match e with
    | .ofNat k => (value, den * Nat.pow 10 k)
    | .negSucc k => (value * Nat.pow 10 (k + 1), den)
  let d := n / k
  let below := liesWithin lo hi den ends d e && d != 0
  let above := liesWithin lo hi den ends (d + 1) e
  if below && above then some (roundQuotient n k, e)
  else if below then some (d, e)
  else if above then some (d + 1, e)
  else none

/-- Digits and decimal exponent of the shortest text of `m * 2 ^ e`. -/
def shortest (m : Nat) (e : Int) : Nat × Int :=
  let (unit, den) := scaleDown 1 1 (2 - e)
  let gap := if m = leastNormal && minExponent < e then 1 else 2
  let value := 4 * m * unit
  let lo := (4 * m - gap) * unit
  let hi := (4 * m + 2) * unit
  let point := decimalPoint value den
  ((List.range 17).findSome? fun (n : Nat) =>
    onGrid? value lo hi den (m % 2 == 0) (point - ((n : Int) + 1))).getD (m, e)

def dropZeros (ds : List Char) : List Char :=
  (ds.reverse.dropWhile (· == '0')).reverse

def exponentText (e : Int) : List Char :=
  let ds := Nat.toDigits 10 e.natAbs
  (if e < 0 then '-' else '+') :: (List.replicate (2 - ds.length) '0' ++ ds)

/-- Lays out digits whose decimal point stands after the first `point` of them. -/
def layout (ds : List Char) (point : Int) : List Char :=
  if point ≤ -4 || 16 < point then
    let fraction := ds.drop 1
    ds.take 1 ++ (if fraction.isEmpty then [] else '.' :: fraction)
      ++ 'e' :: exponentText (point - 1)
  else if point ≤ 0 then
    '0' :: '.' :: (List.replicate point.natAbs '0' ++ ds)
  else
    let n := point.toNat
    let fraction := ds.drop n
    ds.take n ++ List.replicate (n - ds.length) '0' ++ '.' ::
      (if fraction.isEmpty then ['0'] else fraction)

def magnitudeText (m : Nat) (e : Int) : List Char :=
  if m = 0 then ['0', '.', '0']
  else
    let (d, k) := shortest m e
    let ds := Nat.toDigits 10 d
    layout (dropZeros ds) ((ds.length : Int) + k)

def toText : Binary64 → String
  | .finite negative m e => String.ofList ((if negative then ['-'] else []) ++ magnitudeText m e)
  | .infinite negative => if negative then "-inf" else "inf"
  | .notANumber => "nan"

end Binary64

end QueryLint
