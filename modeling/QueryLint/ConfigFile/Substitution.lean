import QueryLint.Data
import QueryLint.Table

/-! # Placeholders

A text may hold placeholders, a dollar sign followed by a name in braces. Filling in goes over the
text once, from left to right: what is filled in is not looked at again, and a placeholder whose
name has no value stays as it is. Keys of mappings are left alone. Filling in goes as deep as the
value does, which takes room on the stack; in a value that is a part of itself it comes to no end.
-/

namespace QueryLint

/-- A piece of a text: a character, or a placeholder with its name. -/
inductive Segment
  | char (c : Char)
  | placeholder (name : List Char)
  deriving DecidableEq, Repr

namespace Segment

/-- The name up to the closing brace, and the text behind that. -/
def closing? (s : List Char) : Option (List Char × List Char) :=
  match s.takeWhile (· ≠ '\x7d'), s.dropWhile (· ≠ '\x7d') with
  | n :: name, _ :: rest => some (n :: name, rest)
  | _, _ => none

theorem length_lt_of_closing? {s name rest : List Char} (h : closing? s = some (name, rest)) :
    rest.length < s.length := by
  have hd := (List.dropWhile_sublist (l := s) (· ≠ '\x7d')).length_le
  unfold closing? at h
  split at h
  · rename_i hs
    simp only [Option.some.injEq, Prod.mk.injEq] at h
    rw [hs, List.length_cons, h.2] at hd
    omega
  · simp at h

/-- The pieces of a text, placeholders found from the left. -/
def ofText : List Char → List Segment
  | '$' :: '\x7b' :: r =>
    match _h : closing? r with
    | some (name, rest) => placeholder name :: ofText rest
    | none => char '$' :: ofText ('\x7b' :: r)
  | c :: r => char c :: ofText r
  | [] => []
termination_by s => s.length
decreasing_by
  · have := length_lt_of_closing? _h
    simp only [List.length_cons]
    omega
  all_goals simp

/-- A piece as it is written. -/
def toText : Segment → List Char
  | char c => [c]
  | placeholder name => '$' :: '\x7b' :: (name ++ ['\x7d'])

/-- A piece with the value of its name filled in. -/
def expand (env : Table String) : Segment → List Char
  | char c => [c]
  | placeholder name =>
    match env.get? (String.ofList name) with
    | some value => value.toList
    | none => toText (placeholder name)

end Segment

def fillText (env : Table String) (s : String) : String :=
  String.ofList ((Segment.ofText s.toList).flatMap (Segment.expand env))

/-! ## Torn texts -/

/-- A piece of a torn text: a glyph, or a placeholder with its name. -/
inductive TornPiece
  | glyph (g : Glyph)
  | placeholder (name : List Glyph)
  deriving DecidableEq, Repr

namespace TornPiece

def shown : TornPiece → Segment
  | glyph g => .char g.shown
  | placeholder name => .placeholder (name.map Glyph.shown)

def written : TornPiece → List Glyph
  | glyph g => [g]
  | placeholder name => .char '$' :: .char '\x7b' :: (name ++ [.char '\x7d'])

/-- Cuts glyphs where the pieces end that show them. -/
def cut : List Segment → List Glyph → List TornPiece
  | .char _ :: ps, g :: gs => glyph g :: cut ps gs
  | .placeholder name :: ps, gs =>
    placeholder ((gs.drop 2).take name.length) :: cut ps (gs.drop (name.length + 3))
  | _, _ => []

def name? (name : List Glyph) : Option String :=
  ((Glyph.nameBytes? name).bind Text.decodeUtf8).map String.ofList

/-- A piece with the value of its name filled in. -/
def expand (env : Table String) : TornPiece → List Glyph
  | glyph g => [g]
  | placeholder name =>
    match (name? name).bind env.get? with
    | some value => value.toList.map .char
    | none => written (placeholder name)

/-- Whether an environment can be asked for the name of a piece. -/
def isAskable : TornPiece → Bool
  | glyph _ => true
  | placeholder name => (Glyph.nameBytes? name).isSome

end TornPiece

namespace TornText

/-- The pieces of a torn text, cut where the text that is shown is cut. -/
def pieces (t : TornText) : List TornPiece :=
  TornPiece.cut (Segment.ofText t.shown) t.glyphs

def fill (env : Table String) (t : TornText) : Data :=
  .ofGlyphs (t.pieces.flatMap (TornPiece.expand env))

end TornText

/-! ## Values -/

/-- Why the placeholders of a value cannot be filled in. -/
inductive Hindrance
  /-- The value goes deeper than the stack has room for. -/
  | exhausted
  /-- A name cannot be encoded, so that the environment cannot be asked for it. -/
  | unaskable
  deriving DecidableEq, Repr

namespace Data

mutual
/-- A value with the placeholders of its texts filled in, in lists and under the keys of mappings.
Other collections are left alone. -/
def fill (env : Table String) : Data → Data
  | text s => text (fillText env s)
  | torn t => t.fill env
  | list items => list (fillAll env items)
  | mapping entries => mapping (fillEntries env entries)
  | d => d

def fillAll (env : Table String) : List Data → List Data
  | [] => []
  | d :: r => fill env d :: fillAll env r

def fillEntries (env : Table String) : List DataEntry → List DataEntry
  | [] => []
  | ⟨k, v⟩ :: r => ⟨k, fill env v⟩ :: fillEntries env r
end

mutual
/-- What hinders filling in a value that lies so many collections deep. Whether a value fits on the
stack in its depth is told by `fits`. -/
def hindrance? (fits : Nat → Data → Bool) (depth : Nat) : Data → Option Hindrance
  | loop _ => some .exhausted
  | torn t =>
    if !fits depth (torn t) then some .exhausted
    else if t.pieces.all TornPiece.isAskable then none
    else some .unaskable
  | list items =>
    if fits depth (list items) then hindranceIn? fits (depth + 1) items else some .exhausted
  | mapping entries =>
    if fits depth (mapping entries) then entriesHindrance? fits (depth + 1) entries
    else some .exhausted
  | d => if fits depth d then none else some .exhausted

def hindranceIn? (fits : Nat → Data → Bool) (depth : Nat) : List Data → Option Hindrance
  | [] => none
  | d :: r => (hindrance? fits depth d).or (hindranceIn? fits depth r)

def entriesHindrance? (fits : Nat → Data → Bool) (depth : Nat) :
    List DataEntry → Option Hindrance
  | [] => none
  | ⟨_, v⟩ :: r => (hindrance? fits depth v).or (entriesHindrance? fits depth r)
end

end Data

end QueryLint
