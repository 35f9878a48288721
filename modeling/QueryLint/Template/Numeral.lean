import QueryLint.Number.Fixed
import QueryLint.Template.Spec

/-! # Numerals

The text of a number in a notation, taken apart into sign, mark of the base, digits and the rest,
and put together again by a specification. Only the digits are grouped and filled up with zeros.
-/

namespace QueryLint.Template

structure Numeral where
  negative : Bool
  base : List Char := []
  digits : List Char
  rest : List Char := []
  deriving DecidableEq, Repr

namespace Numeral

/-- Puts digits in groups, the last one first, with zeros in front up to a width. What is left of
the width is `room`; there are as many steps as digits and places. -/
def groupFrom (mark : Char) (size : Nat) : Nat → Nat → List Char → List Char
  | 0, _, reversed => reversed
  | steps + 1, room, reversed =>
    let count := min size (max (max reversed.length room) 1)
    let taken := reversed.take count
    let group := taken ++ List.replicate (count - taken.length) '0'
    let left := reversed.drop count
    let room := room - count
    if left.isEmpty && room = 0 then group
    else group ++ mark :: groupFrom mark size steps (room - 1) left

/-- Digits in groups, with zeros in front up to a width. -/
def group (mark : Option Char) (size room : Nat) (ds : List Char) : List Char :=
  match mark with
  | none => Text.padLeft '0' room ds
  | some m => (groupFrom m size (ds.length + room + 1) room ds.reverse).reverse

def signText (sign : Option Char) (negative : Bool) : List Char :=
  if negative then ['-']
  else match sign with
    | some '+' => ['+']
    | some ' ' => [' ']
    | _ => []

/-- The length of the groups that digits of a notation stand in. -/
def groupSize (letter : Option Char) : Nat :=
  if letter.any fun c => "boxX".toList.contains c then 4 else 3

def layOut (s : Spec) (n : Numeral) : List Char :=
  let sign := signText s.sign n.negative
  let others := sign.length + n.base.length + n.rest.length
  let room := if s.fill = '0' && s.align = .inner then s.width - others else 0
  let digits := if n.digits.isEmpty then []
    else group s.grouping (groupSize s.letter) room n.digits
  let free := s.width - (others + digits.length)
  if s.align = .inner then sign ++ n.base ++ List.replicate free s.fill ++ digits ++ n.rest
  else
    let (before, after) := Spec.split s.align free
    List.replicate before s.fill ++ sign ++ n.base ++ digits ++ n.rest
      ++ List.replicate after s.fill

/-- The parts of decimal text without a sign. -/
def ofText (negative : Bool) (s : List Char) : Numeral :=
  { negative, digits := s.takeWhile Char.isDigit, rest := s.dropWhile Char.isDigit }

/-! ## Integers -/

def upperDigits (s : List Char) : List Char :=
  s.map Char.toUpper

/-- An integer in the base that a letter stands for. -/
def ofInt (alternate : Bool) (letter : Char) (n : Int) : Numeral :=
  let inBase (b : Nat) (mark : Char) : Numeral :=
    { negative := n < 0, base := if alternate then ['0', mark] else []
      digits := Nat.toDigits b n.natAbs }
  match letter with
  | 'b' => inBase 2 'b'
  | 'o' => inBase 8 'o'
  | 'x' => inBase 16 'x'
  | 'X' => { inBase 16 'X' with digits := upperDigits (Nat.toDigits 16 n.natAbs) }
  | _ => { inBase 10 'd' with base := [] }

/-- The character with a number, which is copied as it is. -/
def ofCode (n : Int) : Except Fault Numeral :=
  if n < 0 || 0x10FFFF < n then .error .overflow
  else .ok { negative := false, digits := [], rest := [Char.ofNat n.toNat] }

/-! ## Doubles -/

/-- The precision of a notation that has one, if none is given. -/
def standardPrecision : Nat := 6

def finiteText (s : Spec) (m : Nat) (e : Int) : List Char :=
  let precision := s.precision.getD standardPrecision
  match s.letter.map Char.toLower with
  | some 'e' => Binary64.exponentialText s.alternate precision m e
  | some 'f' | some '%' => Binary64.fixedText s.alternate precision m e
  | some _ => Binary64.generalText s.alternate false precision m e
  | none => match s.precision with
    | some p => Binary64.generalText s.alternate true p m e
    | none =>
      let text := Binary64.magnitudeText m e
      if s.alternate && !text.contains '.' then
        text.takeWhile (· ≠ 'e') ++ '.' :: text.dropWhile (· ≠ 'e')
      else text

def isZeroText (s : List Char) : Bool :=
  (s.takeWhile (· ≠ 'e')).all fun c => !c.isDigit || c = '0'

/-- A double in the notation of a letter. -/
def ofFloat (s : Spec) (x : Binary64) : Numeral :=
  let (negative, text) : Bool × List Char := match x with
    | .finite negative m e => (negative, finiteText s m e)
    | .infinite negative => (negative, "inf".toList)
    | .notANumber => (false, "nan".toList)
  let negative := negative && !(s.plainZero && text.any Char.isDigit && isZeroText text)
  let shown := if s.letter.any Char.isUpper then upperDigits text else text
  ofText negative (if s.letter = some '%' then shown ++ ['%'] else shown)

end Numeral

end QueryLint.Template
