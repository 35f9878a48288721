import QueryLint.Number.Shortest

/-! # Decimal text of a given precision

A double is rounded once, from its exact value to the digits that are asked for, a half to the even
digit: either to a number of places behind the point, or to a number of digits in all.
-/

namespace QueryLint

namespace Binary64

/-- `m * 2 ^ e` as a quotient of naturals. -/
def quotient (m : Nat) (e : Int) : Nat × Nat :=
  scaleDown m 1 (-e)

/-- `m * 2 ^ e * 10 ^ places`, rounded. -/
def roundPlaces (m : Nat) (e : Int) (places : Nat) : Nat :=
  let (num, den) := quotient m e
  roundQuotient (num * Nat.pow 10 places) den

/-- The first `count` digits of `m * 2 ^ e`, rounded, and the place of the point among them. -/
def roundDigits (m : Nat) (e : Int) (count : Nat) : Nat × Int :=
  if m = 0 then (0, 1)
  else
    let (num, den) := quotient m e
    let point := decimalPoint num den
    let d := match (count : Int) - point with
      | .ofNat k => roundQuotient (num * Nat.pow 10 k) den
      | .negSucc k => roundQuotient num (den * Nat.pow 10 (k + 1))
    if d = Nat.pow 10 count then (Nat.pow 10 (count - 1), point + 1) else (d, point)

/-- The digits of a number, with zeros in front up to a width. -/
def paddedDigits (width n : Nat) : List Char :=
  let ds := Nat.toDigits 10 n
  List.replicate (width - ds.length) '0' ++ ds

/-- Digits behind a point; without digits the point shows on demand only. -/
def pointed (keepPoint : Bool) (fraction : List Char) : List Char :=
  if fraction.isEmpty && !keepPoint then [] else '.' :: fraction

def fixedText (keepPoint : Bool) (places m : Nat) (e : Int) : List Char :=
  let n := roundPlaces m e places
  Nat.toDigits 10 (n / Nat.pow 10 places)
    ++ pointed keepPoint (if places = 0 then [] else paddedDigits places (n % Nat.pow 10 places))

/-- One digit before the point and the power of ten behind it. -/
def scientificText (keepPoint : Bool) (ds : List Char) (point : Int) : List Char :=
  ds.take 1 ++ pointed keepPoint (ds.drop 1) ++ 'e' :: exponentText (point - 1)

def exponentialText (keepPoint : Bool) (places m : Nat) (e : Int) : List Char :=
  let (d, point) := roundDigits m e (places + 1)
  scientificText keepPoint (paddedDigits (places + 1) d) point

/-- Text with a number of digits in all, positional unless the power of ten is below `-4` or too
great for the digits. Zeros at the end are dropped unless the point is kept; a whole number shows a
zero behind its point on demand, and needs a digit for it. -/
def generalText (keepPoint wholeZero : Bool) (digits m : Nat) (e : Int) : List Char :=
  let count := max digits 1
  let (d, point) := roundDigits m e count
  let all := paddedDigits count d
  let short := match dropZeros all with
    | [] => ['0']
    | ds => ds
  let ds := if keepPoint then all else short
  if point ≤ -4 || (count : Int) - (if wholeZero then 1 else 0) < point then
    scientificText keepPoint ds point
  else if point ≤ 0 then '0' :: '.' :: (List.replicate point.natAbs '0' ++ ds)
  else
    let n := point.toNat
    let fraction := ds.drop n
    ds.take n ++ List.replicate (n - ds.length) '0'
      ++ pointed keepPoint (if fraction.isEmpty && wholeZero then ['0'] else fraction)

end Binary64

end QueryLint
