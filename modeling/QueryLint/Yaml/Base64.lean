/-! # Bytes in base 64

Four characters stand for three bytes. Characters outside the alphabet are passed over; what remains
of the last four characters has to be filled up by equal signs, behind which nothing is read.
-/

namespace QueryLint.Yaml.Base64

def alphabet : List Char :=
  "ABCDEFGHIJKLMNOPQRSTUVWXYZabcdefghijklmnopqrstuvwxyz0123456789+/".toList

def value? (c : Char) : Option Nat :=
  alphabet.findIdx? (· = c)

/-- The bytes of the text that is left. Of the present four characters `place` were read, the bits
that they have left over are `bits`, and `pads` equal signs came after them. -/
def decodeFrom (place bits pads : Nat) : List Char → Option (List UInt8)
  | [] => if place = 0 then some [] else none
  | c :: r =>
    if c = '=' then
      if 2 ≤ place && 4 ≤ place + pads + 1 then some []
      else decodeFrom place bits (if 2 ≤ place then pads + 1 else pads) r
    else match value? c with
      | none => decodeFrom place bits pads r
      | some v =>
        match place with
        | 0 => decodeFrom 1 v 0 r
        | 1 => (decodeFrom 2 (v % 16) 0 r).map ((bits * 4 + v / 16).toUInt8 :: ·)
        | 2 => (decodeFrom 3 (v % 4) 0 r).map ((bits * 16 + v / 4).toUInt8 :: ·)
        | _ => (decodeFrom 0 0 0 r).map ((bits * 64 + v).toUInt8 :: ·)

def decode (s : List Char) : Option (List UInt8) :=
  decodeFrom 0 0 0 s

end QueryLint.Yaml.Base64
