import QueryLint.Number.Digits
import QueryLint.Text.Torn
import QueryLint.Yaml.Cursor

/-! # Texts of scalars

The text of a scalar without quotes, in quotes, or in a block of its own. Line breaks are folded: a
single one is a space, of several the first is dropped.
-/

namespace QueryLint.Yaml

/-- What line breaks inside a scalar stand for. -/
def foldBreaks (first : Char) (more : List Char) : List Char :=
  if first ≠ '\n' then first :: more
  else if more.isEmpty then [' ']
  else more

/-! ## Without quotes -/

def indicators : List Char :=
  ['-', '?', ':', ',', '[', ']', '\x7b', '\x7d', '#', '&', '*', '!', '|', '>', '\'', '"', '%', '@',
   '\x60']

/-- Whether plain text can begin here; inside brackets a question mark or colon cannot begin it. -/
def startsPlain (flow : Bool) : List Char → Bool
  | [] => false
  | c :: r =>
    !isGapNext [c] && (!indicators.contains c
      || (!isGapNext r && (c = '-' || (!flow && (c = '?' || c = ':')))))

def isFlowMark (c : Char) : Bool :=
  c = ',' || c = '[' || c = ']' || c = '\x7b' || c = '\x7d'

/-- The plain text up to the next blank or the mark that ends it. -/
def plainChunk (flow : Bool) : List Char → List Char
  | [] => []
  | c :: r =>
    let endsKey := c = ':' && (isGapNext r || (flow && r.head?.any isFlowMark))
    if isGapNext [c] || endsKey || (flow && (isFlowMark c || c = '?')) then []
    else c :: plainChunk flow r

/-- Passes over empty lines and the indentation of the next line; yields the breaks, unless a mark
of the document stands in the way. -/
def plainBreaks : Nat → Cursor → Option (List Char) × Cursor
  | 0, c => (some [], c)
  | fuel + 1, c =>
    if c.isAt ' ' then plainBreaks fuel c.step
    else match c.break? with
      | none => (some [], c)
      | some (b, c) =>
        if c.hasMarker then (none, c)
        else
          let (bs, c) := plainBreaks fuel c
          (bs.map (b :: ·), c)

/-- The blanks behind a piece of plain text, folded, and whether they hold a line break. -/
def plainGap (c : Cursor) : List Char × Bool × Cursor :=
  let (blanks, c) := c.takeWhile (· = ' ')
  match c.break? with
  | none => (blanks, false, c)
  | some (b, c) =>
    if c.hasMarker then ([], true, c)
    else match plainBreaks (c.rest.length + 1) c with
      | (none, c) => ([], true, c)
      | (some bs, c) => (foldBreaks b bs, true, c)

/-- Plain text over one or more lines. Further lines are indented at least as far as `indent`,
except in brackets. Tells whether a line break follows the text. -/
def plainText (flow : Bool) (indent : Int) :
    Nat → List Char → Bool → Cursor → List Char × Bool × Cursor
  | 0, _, broken, c => ([], broken, c)
  | fuel + 1, gap, broken, c =>
    let chunk := if c.isAt '#' then [] else plainChunk flow c.rest
    if chunk.isEmpty then ([], broken, c)
    else
      let (next, broken, c) := plainGap (c.skip chunk.length)
      if next.isEmpty || c.isAt '#' || (!flow && (c.column : Int) < indent) then
        (gap ++ chunk, broken, c)
      else
        let (more, broken, c) := plainText flow indent fuel next broken c
        (gap ++ chunk ++ more, broken, c)

/-! ## In quotes -/

/-- The line breaks inside a quoted text with the blanks around them. -/
def quotedBreaks : Nat → Cursor → Except Fault (List Char × Cursor)
  | 0, _ => .error .malformed
  | fuel + 1, c =>
    if c.hasMarker then .error .malformed
    else
      let c := (c.takeWhile fun d => d = ' ' || d = '\t').2
      match c.break? with
      | none => .ok ([], c)
      | some (b, c) => (quotedBreaks fuel c).map fun (bs, c) => (b :: bs, c)

/-- Blanks inside a quoted text: kept within a line, folded around line breaks. -/
def quotedGap (c : Cursor) : Except Fault (List Char × Cursor) :=
  let (blanks, c) := c.takeWhile fun d => d = ' ' || d = '\t'
  match c.break? with
  | some (b, c) =>
    (quotedBreaks (c.rest.length + 1) c).map fun (bs, c) => (foldBreaks b bs, c)
  | none => if c.rest.isEmpty then .error .malformed else .ok (blanks, c)

def simpleEscapes : List (Char × Char) :=
  [('0', '\x00'), ('a', '\x07'), ('b', '\x08'), ('t', '\x09'), ('\t', '\x09'), ('n', '\x0a'),
   ('v', '\x0b'), ('f', '\x0c'), ('r', '\x0d'), ('e', '\x1b'), (' ', ' '), ('"', '"'),
   ('\\', '\\'), ('/', '/'), ('N', '\u0085'), ('_', '\u00a0'), ('L', '\u2028'), ('P', '\u2029')]

def hexEscapes : List (Char × Nat) := [('x', 2), ('u', 4), ('U', 8)]

def glyphOfCode (n : Nat) : Except Fault Glyph :=
  if 0x7FFFFFFF < n then .error .overflow
  else if 0x10FFFF < n then .error (.impossible "chr() arg not in range(0x110000)")
  else match Surrogate.ofCode? n with
    | some s => .ok (.half s)
    | none => .ok (.char (Char.ofNat n))

/-- The escape behind a backslash: what it stands for, and the position behind it. -/
def quotedEscape (c : Cursor) : Except Fault (List Glyph × Cursor) := do
  match c.rest with
  | [] => throw .malformed
  | e :: r =>
    match simpleEscapes.lookup e, hexEscapes.lookup e with
    | some image, _ => return ([.char image], c.step)
    | none, some n =>
      let ds := r.take n
      if ds.length < n || !ds.all fun d => (Digits.value? d).isSome then throw .malformed
      return ([← glyphOfCode (Digits.toNat 16 ds)], c.skip (n + 1))
    | none, none =>
      match c.break? with
      | some (_, c) =>
        let (bs, c) ← quotedBreaks (c.rest.length + 1) c
        return (bs.map .char, c)
      | none => throw .malformed

/-- The text up to the next blank or the closing quote. -/
def quotedRun (double : Bool) : Nat → Cursor → Except Fault (List Glyph × Cursor)
  | 0, c => .ok ([], c)
  | fuel + 1, c =>
    let continue_ (gs : List Glyph) (c : Cursor) : Except Fault (List Glyph × Cursor) :=
      (quotedRun double fuel c).map fun (s, c) => (gs ++ s, c)
    match c.rest with
    | [] => .ok ([], c)
    | d :: r =>
      if isGapNext [d] then .ok ([], c)
      else if d = '\'' && !double then
        if r.head? == some '\'' then continue_ [.char d] (c.skip 2) else .ok ([], c)
      else if d = '"' && double then .ok ([], c)
      else if d = '\\' && double then do
        let (gs, c) ← quotedEscape c.step
        continue_ gs c
      else continue_ [.char d] c.step

/-- The text up to the closing quote, and the position behind that. -/
def quotedRest (double : Bool) : Nat → Cursor → Except Fault (List Glyph × Cursor)
  | 0, _ => .error .malformed
  | fuel + 1, c => do
    let (run, c) ← quotedRun double (c.rest.length + 1) c
    if c.isAt (if double then '"' else '\'') then return (run, c.step)
    let (gap, c) ← quotedGap c
    let (more, c) ← quotedRest double fuel c
    return (run ++ gap.map .char ++ more, c)

def quotedText (c : Cursor) : Except Fault (List Glyph × Cursor) :=
  quotedRest (c.isAt '"') (c.rest.length + 1) c.step

/-! ## In a block -/

/-- What becomes of the line breaks at the end of a block: of all of them one is kept, or none, or
all. -/
inductive Chomping
  | clip
  | strip
  | keep
  deriving DecidableEq, Repr

def chomping? : Char → Option Chomping
  | '-' => some .strip
  | '+' => some .keep
  | _ => none

/-- The marks behind the sign of a block: chomping and indentation, in any order. -/
def blockMarks (c : Cursor) : Except Fault (Chomping × Option Nat × Cursor) := do
  let sign (c : Cursor) : Option Chomping × Cursor :=
    match c.head?.bind chomping? with
    | some m => (some m, c.step)
    | none => (none, c)
  let digit (c : Cursor) : Except Fault (Option Nat × Cursor) :=
    match c.head? with
    | some d =>
      if d = '0' then .error .malformed
      else if d.isDigit then .ok (Digits.value? d, c.step)
      else .ok (none, c)
    | none => .ok (none, c)
  let (first, c) := sign c
  let (indent, c) ← digit c
  let (second, c) := if first.isNone && indent.isSome then sign c else (none, c)
  if !isSpaceNext c.rest then throw .malformed
  return ((first.or second).getD .clip, indent, c)

/-- The empty lines in front of a block and the deepest indentation there. -/
def blockStart : Nat → Nat → Cursor → List Char × Nat × Cursor
  | 0, deepest, c => ([], deepest, c)
  | fuel + 1, deepest, c =>
    if c.isAt ' ' then
      let c := c.step
      blockStart fuel (max deepest c.column) c
    else match c.break? with
      | none => ([], deepest, c)
      | some (b, c) =>
        let (bs, deepest, c) := blockStart fuel deepest c
        (b :: bs, deepest, c)

/-- Passes over spaces up to a column. -/
def skipIndent (indent : Nat) : Nat → Cursor → Cursor
  | 0, c => c
  | fuel + 1, c => if c.column < indent && c.isAt ' ' then skipIndent indent fuel c.step else c

/-- The empty lines between the lines of a block. -/
def blockBreaks (indent : Nat) : Nat → Cursor → List Char × Cursor
  | 0, c => ([], c)
  | fuel + 1, c =>
    let c := skipIndent indent indent c
    match c.break? with
    | none => ([], c)
    | some (b, c) =>
      let (bs, c) := blockBreaks indent fuel c
      (b :: bs, c)

/-- Whether a line of a block begins with a blank, so that it is not folded. -/
def startsBlank (c : Cursor) : Bool :=
  c.isAt ' ' || c.isAt '\t'

/-- The lines of a block from the next one on; the empty lines in front of it are `breaks`. -/
def blockLines (folded : Bool) (chomping : Chomping) (indent : Nat) :
    Nat → List Char → Cursor → List Char × Cursor
  | 0, _, c => ([], c)
  | fuel + 1, breaks, c =>
    let plain := !startsBlank c
    let (line, c) := c.takeWhile fun d => !isBreak d
    let (ending, c) := match c.break? with
      | some (b, c) => ([b], c)
      | none => ([], c)
    let (next, c) := blockBreaks indent (c.rest.length + 1) c
    if c.column = indent && !c.rest.isEmpty then
      let joint := if folded && ending = ['\n'] && plain && !startsBlank c then
          if next.isEmpty then [' '] else []
        else ending
      let (more, c) := blockLines folded chomping indent fuel next c
      (breaks ++ line ++ joint ++ more, c)
    else match chomping with
      | .strip => (breaks ++ line, c)
      | .clip => (breaks ++ line ++ ending, c)
      | .keep => (breaks ++ line ++ ending ++ next, c)

/-- The text of a block behind its sign, inside something indented as far as `outer`. -/
def blockText (folded : Bool) (outer : Int) (c : Cursor) : Except Fault (List Char × Cursor) := do
  let (chomping, increment, c) ← blockMarks c
  let c ← c.endLine
  let least := (max (outer + 1) 1).toNat
  let fuel := c.rest.length + 1
  let (breaks, indent, c) : List Char × Nat × Cursor := match increment with
    | some n =>
      let indent := least + n - 1
      let (breaks, c) := blockBreaks indent fuel c
      (breaks, indent, c)
    | none =>
      let (breaks, deepest, c) := blockStart fuel 0 c
      (breaks, max least deepest, c)
  if c.column = indent && !c.rest.isEmpty then
    return blockLines folded chomping indent fuel breaks c
  else return (if chomping = .keep then breaks else [], c)

end QueryLint.Yaml
