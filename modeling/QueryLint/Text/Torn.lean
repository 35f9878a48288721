import QueryLint.Text.Quoted
import QueryLint.Text.Utf8

/-! # Torn texts

Some encodings write a character as a pair of surrogates. An escape can name one of them alone: it
stands for no character, and a text that holds one is torn. In the names of an environment some
surrogates stand for bytes.
-/

namespace QueryLint

/-- Half of a pair: one of the codes from D800 to DFFF. -/
structure Surrogate where
  place : Fin 0x800
  deriving DecidableEq, Repr

namespace Surrogate

def code (s : Surrogate) : Nat := 0xD800 + s.place

def ofCode? (n : Nat) : Option Surrogate :=
  if h : 0xD800 ≤ n ∧ n < 0xE000 then some ⟨⟨n - 0xD800, by omega⟩⟩ else none

/-- The byte from 80 to FF that a surrogate stands for in a name. -/
def byte? (s : Surrogate) : Option UInt8 :=
  if 0xDC80 ≤ s.code && s.code ≤ 0xDCFF then some (s.code - 0xDC00).toUInt8 else none

end Surrogate

/-- A character, or a surrogate alone. -/
inductive Glyph
  | char (c : Char)
  | half (s : Surrogate)
  deriving DecidableEq, Repr

namespace Glyph

def code : Glyph → Nat
  | char c => c.toNat
  | half s => s.code

def shown : Glyph → Char
  | char c => c
  | half _ => '\ufffd'

def bytes? : Glyph → Option (List UInt8)
  | char c => some (String.utf8EncodeChar c)
  | half s => s.byte?.map fun b => [b]

def nameBytes? (name : List Glyph) : Option (List UInt8) :=
  (name.mapM bytes?).map List.flatten

end Glyph

/-- A text with at least one surrogate that stands alone. -/
structure TornText where
  /-- What comes before the first surrogate. -/
  before : List Char
  half : Surrogate
  after : List Glyph
  deriving DecidableEq, Repr

namespace TornText

def glyphs (t : TornText) : List Glyph :=
  t.before.map .char ++ .half t.half :: t.after

/-- The torn text of some glyphs, if a surrogate is among them. -/
def ofGlyphs? : List Glyph → Option TornText
  | [] => none
  | .half s :: r => some { before := [], half := s, after := r }
  | .char c :: r => (ofGlyphs? r).map fun t => { t with before := c :: t.before }

def shown (t : TornText) : List Char :=
  t.glyphs.map Glyph.shown

def quoted (t : TornText) : String :=
  let q := Text.quoteFor t.shown
  let image : Glyph → List Char
    | .char c => Text.quotedChar q c
    | .half s => Text.escapeCode s.code
  String.ofList (q :: t.glyphs.flatMap image ++ [q])

end TornText

end QueryLint
