import QueryLint.Console.EmojiTable
import QueryLint.Text.Blank
import QueryLint.Text.Case
import QueryLint.Text.Search

/-! # Pictures by name

A name between colons stands for a picture. Behind the name may stand which variant of the picture
is meant; names of people and hands may end with a tone of skin. What is no name stays as it is.
-/

namespace QueryLint.Console

/-- A picture with one of its names. -/
structure Emoji where
  name : List Char
  codes : List Char
  /-- Whether the name can be continued by a tone of skin. -/
  toned : Bool
  deriving DecidableEq, Repr

namespace Emoji

def hexDigit (c : Char) : Nat :=
  if c.isDigit then c.toNat - '0'.toNat else c.toNat - 'a'.toNat + 10

/-- The character with a code point in hexadecimal digits. -/
def ofHex (s : List Char) : Char :=
  Char.ofNat (s.foldl (fun n c => 16 * n + hexDigit c) 0)

def ofEntry (entry : List Char) : List Emoji :=
  let codes := (Text.splitAt '.' (entry.takeWhile (· ≠ '='))).map ofHex
  (Text.splitAt ',' ((entry.dropWhile (· ≠ '=')).drop 1)).map fun n =>
    { name := n.filter (· ≠ '~'), codes, toned := n.contains '~' }

/-- All names without tones of skin. -/
def all : List Emoji :=
  pictureLines.flatMap fun line => (Text.splitAt ' ' line.toList).flatMap ofEntry

/-- The ends of names that ask for a tone of skin, and what shows the tone. -/
def tones : List (List Char × Char) :=
  [("_medium-light_skin_tone".toList, Char.ofNat 0x1F3FC),
   ("_medium-dark_skin_tone".toList, Char.ofNat 0x1F3FE),
   ("_medium_skin_tone".toList, Char.ofNat 0x1F3FD),
   ("_light_skin_tone".toList, Char.ofNat 0x1F3FB),
   ("_dark_skin_tone".toList, Char.ofNat 0x1F3FF)]

/-- A tone stands behind the first character, in place of a selector there. -/
def withTone (tone : Char) : List Char → List Char
  | c :: '\ufe0f' :: r => c :: tone :: r
  | c :: r => c :: tone :: r
  | [] => []

def plain? (name : List Char) : Option Emoji :=
  all.find? fun e => e.name = name

/-- The picture of a name that ends with a tone of skin. -/
def toned? (name : List Char) : Option (List Char) :=
  tones.findSome? fun (ending, tone) => do
    let start ← Text.dropStart? ending.reverse name.reverse
    let e ← (plain? start.reverse).filter (·.toned)
    return withTone tone e.codes

def codes? (name : List Char) : Option (List Char) :=
  ((plain? name).map (·.codes)).or (toned? name)

/-- A name behind its opening colon: the name, the selector of the variant, and what follows the
closing colon. -/
def split? (name : List Char) : List Char → Option (List Char × List Char × List Char)
  | [] => none
  | c :: r =>
    if c = ':' then some (name.reverse, [], r)
    else match Text.dropStart? "-emoji:".toList (c :: r), Text.dropStart? "-text:".toList (c :: r)
      with
      | some rest, _ => some (name.reverse, ['\ufe0f'], rest)
      | none, some rest => some (name.reverse, ['\ufe0e'], rest)
      | none, none => if Text.isBlank c then none else split? (c :: name) r

theorem length_lt_of_split? {s name done selector rest : List Char}
    (h : split? done s = some (name, selector, rest)) : rest.length < s.length := by
  induction s generalizing done with
  | nil => simp [split?] at h
  | cons c r ih =>
    rw [split?] at h
    split at h
    · simp only [Option.some.injEq, Prod.mk.injEq] at h
      simp [← h.2.2]
    · split at h
      · rename_i hd
        simp only [Option.some.injEq, Prod.mk.injEq] at h
        have hl := congrArg List.length (Text.dropStart?_eq_some_iff.1 hd)
        rw [List.length_append, h.2.2] at hl
        have : 0 < "-emoji:".toList.length := by decide
        omega
      · rename_i hd
        simp only [Option.some.injEq, Prod.mk.injEq] at h
        have hl := congrArg List.length (Text.dropStart?_eq_some_iff.1 hd)
        rw [List.length_append, h.2.2] at hl
        have : 0 < "-text:".toList.length := by decide
        omega
      · split at h
        · simp at h
        · have := ih h
          simp only [List.length_cons]
          omega

/-- A text with pictures for their names. -/
def replace (s : List Char) : List Char :=
  match s with
  | [] => []
  | c :: r =>
    if c = ':' then
      match _h : split? [] r with
      | none => c :: replace r
      | some (name, selector, rest) =>
        (match codes? (Text.lower name) with
          | some codes => codes ++ selector
          | none => c :: r.take (r.length - rest.length)) ++ replace rest
    else c :: replace r
termination_by s.length
decreasing_by
  · simp
  · have := length_lt_of_split? _h
    simp only [List.length_cons]
    omega
  · simp

end Emoji

end QueryLint.Console
