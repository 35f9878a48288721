import QueryLint.Data

/-! # The order of values

Numbers are ordered by what they count, texts by code point, sequences by their first difference and
sets by inclusion. Other values, and values of different types, have no order.
-/

namespace QueryLint

namespace Data

/-- Two types whose values cannot be compared. -/
structure Clash where
  left : String
  right : String
  deriving DecidableEq, Repr

def Clash.message (c : Clash) : String :=
  "'<' not supported between instances of '" ++ c.left ++ "' and '" ++ c.right ++ "'"

/-- A number as a quotient, or an infinity by its side of zero. -/
structure Amount where
  side : Int := 0
  num : Int := 0
  den : Nat := 1

namespace Amount

def ofFloat : Binary64 → Option Amount
  | .finite negative m e =>
    let (num, den) := Binary64.scaleDown m 1 (-e)
    some { num := if negative then -(num : Int) else num, den }
  | .infinite negative => some { side := if negative then -1 else 1 }
  | .notANumber => none

def less (a b : Amount) : Bool :=
  a.side < b.side || (a.side = 0 && b.side = 0 && a.num * b.den < b.num * a.den)

end Amount

/-- What a number counts, if it counts anything. -/
def amount? : Data → Option Amount
  | float x => Amount.ofFloat x
  | d => d.toInt?.map fun n => { num := n }

def isNumber : Data → Bool
  | bool _ | int _ | float _ => true
  | _ => false

def codes? : Data → Option (List Nat)
  | text s => some (s.toList.map Char.toNat)
  | torn t => some (t.glyphs.map Glyph.code)
  | _ => none

/-- The order of values that are not sequences. -/
def scalarBefore (a b : Data) : Except Clash Bool :=
  match a, b with
  | set xs, set ys | set xs, frozenSet ys | frozenSet xs, set ys | frozenSet xs, frozenSet ys =>
    .ok (xs.length < ys.length && allIn xs ys)
  | a, b =>
    match a.codes?, b.codes? with
    | some x, some y => .ok (decide (x < y))
    | _, _ =>
      if a.isNumber && b.isNumber then
        .ok (match a.amount?, b.amount? with
          | some x, some y => x.less y
          | _, _ => false)
      else .error ⟨a.typeName, b.typeName⟩

mutual
/-- Whether one value stands before another. -/
def before : Data → Data → Except Clash Bool
  | list xs, b => match b with
    | list ys => listBefore xs ys
    | b => .error ⟨"list", b.typeName⟩
  | tuple xs, b => match b with
    | tuple ys => listBefore xs ys
    | b => .error ⟨"tuple", b.typeName⟩
  | a, b => scalarBefore a b

def listBefore : List Data → List Data → Except Clash Bool
  | [], ys => .ok (!ys.isEmpty)
  | x :: xs, ys => match ys with
    | [] => .ok false
    | y :: ys => if equal x y then listBefore xs ys else before x y
end

/-- Puts a value in front of the first one that it stands before. -/
def insertOrdered (x : Data) : List Data → Except Clash (List Data)
  | [] => .ok [x]
  | y :: ys => do
    if ← before x y then return x :: y :: ys
    else return y :: (← insertOrdered x ys)

def sort (items : List Data) : Except Clash (List Data) :=
  items.foldlM (fun done x => insertOrdered x done) []

end Data

end QueryLint
