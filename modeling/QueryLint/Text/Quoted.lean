import QueryLint.Text.Printable

/-! # Quoted texts

A text is shown between single quotes, or between double quotes when it holds single quotes only.
Characters that cannot be shown are written by their code.
-/

namespace QueryLint.Text

def hexDigits (n : Nat) : List Char :=
  Nat.toDigits 16 n

def padLeft (fill : Char) (width : Nat) (s : List Char) : List Char :=
  List.replicate (width - s.length) fill ++ s

/-- The shortest of the three numeric escapes that has room for the code. -/
def escapeCode (n : Nat) : List Char :=
  if n < 0x100 then '\\' :: 'x' :: padLeft '0' 2 (hexDigits n)
  else if n < 0x10000 then '\\' :: 'u' :: padLeft '0' 4 (hexDigits n)
  else '\\' :: 'U' :: padLeft '0' 8 (hexDigits n)

def quotedChar (quote c : Char) : List Char :=
  if c = quote || c = '\\' then ['\\', c]
  else if c = '\n' then ['\\', 'n']
  else if c = '\r' then ['\\', 'r']
  else if c = '\t' then ['\\', 't']
  else if isPrintable c then [c]
  else escapeCode c.toNat

/-- The quote that needs no escape in a text, the single one if both do. -/
def quoteFor (s : List Char) : Char :=
  if s.contains '\'' && !s.contains '"' then '"' else '\''

def quoted (s : String) : String :=
  let q := quoteFor s.toList
  String.ofList (q :: s.toList.flatMap (quotedChar q) ++ [q])

/-- Bytes between quotes, with a mark in front; those beyond ASCII are written by their code. -/
def quotedBytes (bs : List UInt8) : String :=
  let cs := bs.map fun b => Char.ofNat b.toNat
  let q := quoteFor cs
  let shown (c : Char) : List Char :=
    if c.toNat < 0x7F then quotedChar q c else escapeCode c.toNat
  String.ofList ('b' :: q :: cs.flatMap shown ++ [q])

/-- A text in which every character beyond ASCII is written by its code. -/
def plainLetters (s : String) : String :=
  String.ofList (s.toList.flatMap fun c => if c.toNat < 0x80 then [c] else escapeCode c.toNat)

end QueryLint.Text
