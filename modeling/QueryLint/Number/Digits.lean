import QueryLint.Number.Binary64

/-! # Digits

Numbers written in any base up to sixteen, and characters given by their code. A reader takes the
text that is left and yields what it read together with the rest, or nothing if the text does not
fit.
-/

namespace QueryLint

abbrev Read (α : Type) := List Char → Option (α × List Char)

namespace Digits

/-- The value of a digit, up to sixteen of them. -/
def value? (c : Char) : Option Nat :=
  if c.isDigit then some (c.toNat - '0'.toNat)
  else if 'a' ≤ c && c ≤ 'f' then some (c.toNat - 'a'.toNat + 10)
  else if 'A' ≤ c && c ≤ 'F' then some (c.toNat - 'A'.toNat + 10)
  else none

def hexChar (digits : Nat) : Read Char := fun s =>
  let ds := (s.take digits).mapM value?
  ds.bind fun ds =>
    let n := ds.foldl (fun n d => 16 * n + d) 0
    if ds.length = digits && n.isValidChar then some (Char.ofNat n, s.drop digits) else none

/-- The number that digits stand for in a base. -/
def toNat (base : Nat) (ds : List Char) : Nat :=
  ds.foldl (fun n d => base * n + (value? d).getD 0) 0

end Digits

end QueryLint
