import QueryLint.Proofs.Locality
import QueryLint.Proofs.SourceOrder
import QueryLint.Text.Blank

/-! # Source lines

The line and column of a token are counted while the text is read, character by character and
across the lines of block strings. They agree with the text: the line is the one in which the token
begins, and the column tells how many of its characters stand before the token.
-/

namespace QueryLint

namespace Text

/-! ## Lines of a text -/

/-- A line of a text, and where it begins. -/
structure SourceLine where
  start : Nat
  content : List Char
  deriving DecidableEq, Repr

/-- Puts a character in front of the first line, which begins with it. -/
def SourceLine.cons (start : Nat) (c : Char) : List SourceLine → List SourceLine
  | [] => [⟨start, [c]⟩]
  | l :: ls => ⟨start, c :: l.content⟩ :: ls

/-- The source lines of a text that begins at an offset. A break at the very end opens no further
line. -/
def sourceLinesFrom (start : Nat) : List Char → List SourceLine
  | [] => []
  | '\r' :: '\n' :: r => ⟨start, []⟩ :: sourceLinesFrom (start + 2) r
  | c :: r =>
    if endsLine c then ⟨start, []⟩ :: sourceLinesFrom (start + 1) r
    else SourceLine.cons start c (sourceLinesFrom (start + 1) r)

def sourceLines (text : List Char) : List SourceLine :=
  sourceLinesFrom 0 text

/-- The first of two texts is one line break, and not the first half of one. -/
inductive IsBreak : List Char → List Char → Prop
  | feed (r : List Char) : IsBreak ['\n'] r
  | pair (r : List Char) : IsBreak ['\r', '\n'] r
  | single {r : List Char} (h : r.head? ≠ some '\n') : IsBreak ['\r'] r

variable {start : Nat} {s b r : List Char} {c : Char}

theorem IsBreak.length_pos (h : IsBreak b r) : 0 < b.length := by
  cases h <;> exact Nat.succ_pos _

/-- A text is empty, begins with a character that ends no line, or begins with a break. -/
theorem lineInduction {motive : List Char → Prop} (nil : motive [])
    (char : ∀ c r, endsLine c = false → motive r → motive (c :: r))
    (split : ∀ b r, IsBreak b r → motive r → motive (b ++ r)) (s : List Char) : motive s := by
  induction hn : s.length using Nat.strong_induction_on generalizing s with
  | _ n ih =>
    subst hn
    cases s with
    | nil => exact nil
    | cons c r =>
      cases hc : endsLine c with
      | false => exact char c r hc (ih _ (Nat.lt_succ_self _) r rfl)
      | true =>
        rw [endsLine, Bool.or_eq_true, decide_eq_true_eq, decide_eq_true_eq] at hc
        rcases hc with rfl | rfl
        · exact split _ r (.feed r) (ih _ (Nat.lt_succ_self _) r rfl)
        · by_cases hfeed : r.head? = some '\n'
          · obtain ⟨r, rfl⟩ := List.head?_eq_some_iff.mp hfeed
            exact split _ r (.pair r) (ih _ (by simp only [List.length_cons]; omega) r rfl)
          · exact split _ r (.single hfeed) (ih _ (Nat.lt_succ_self _) r rfl)

theorem sourceLinesFrom_cons (h : endsLine c = false) (start : Nat) (r : List Char) :
    sourceLinesFrom start (c :: r) = SourceLine.cons start c (sourceLinesFrom (start + 1) r) := by
  rw [sourceLinesFrom]
  · rw [h]
    rfl
  · rintro r rfl
    cases h

theorem sourceLinesFrom_break (h : IsBreak b r) (start : Nat) :
    sourceLinesFrom start (b ++ r) = ⟨start, []⟩ :: sourceLinesFrom (start + b.length) r := by
  cases h with
  | feed => rfl
  | pair => rfl
  | single h =>
    rw [List.singleton_append, sourceLinesFrom]
    · rfl
    · rintro r - rfl
      exact h rfl

theorem sourceLinesFrom_line (hs : Unbroken s) (hb : IsBreak b r) (start : Nat) :
    sourceLinesFrom start (s ++ (b ++ r))
      = ⟨start, s⟩ :: sourceLinesFrom (start + s.length + b.length) r := by
  induction s generalizing start with
  | nil => exact sourceLinesFrom_break hb start
  | cons c s ih =>
    obtain ⟨hc, hs⟩ := unbroken_cons.mp hs
    rw [List.cons_append, sourceLinesFrom_cons hc, ih hs, SourceLine.cons, List.length_cons,
      Nat.add_comm s.length, ← Nat.add_assoc start]

theorem exists_sourceLinesFrom (hs : Unbroken s) (hc : endsLine c = false) (start : Nat)
    (r : List Char) : ∃ more rest, sourceLinesFrom start (s ++ c :: r)
      = ⟨start, s ++ c :: more⟩ :: rest := by
  induction s generalizing start with
  | nil =>
    rw [List.nil_append, sourceLinesFrom_cons hc]
    cases sourceLinesFrom (start + 1) r with
    | nil => exact ⟨[], [], rfl⟩
    | cons l ls => exact ⟨l.content, ls, rfl⟩
  | cons d s ih =>
    obtain ⟨hd, hs⟩ := unbroken_cons.mp hs
    obtain ⟨more, rest, hrest⟩ := ih hs (start + 1)
    exact ⟨more, rest, by rw [List.cons_append, sourceLinesFrom_cons hd, hrest]; rfl⟩

/-- A line ends before the next begins. -/
def SourceLine.Before (l m : SourceLine) : Prop :=
  l.start + l.content.length < m.start

theorem pairwise_before_sourceLinesFrom (start : Nat) (s : List Char) :
    (∀ l ∈ sourceLinesFrom start s, start ≤ l.start) ∧
      (sourceLinesFrom start s).Pairwise SourceLine.Before := by
  induction s using lineInduction generalizing start with
  | nil => exact ⟨fun _ h => (nomatch h), .nil⟩
  | char c r hc ih =>
    obtain ⟨hle, hpairs⟩ := ih (start + 1)
    rw [sourceLinesFrom_cons hc]
    cases hlines : sourceLinesFrom (start + 1) r with
    | nil => exact ⟨by simp [SourceLine.cons], List.pairwise_singleton _ _⟩
    | cons l ls =>
      rw [hlines, List.pairwise_cons] at hpairs
      have hl : start + 1 ≤ l.start := hle l (by rw [hlines]; exact List.mem_cons_self)
      refine ⟨?_, List.pairwise_cons.mpr ⟨fun m hm => ?_, hpairs.2⟩⟩
      · rintro m (_ | ⟨_, hm⟩)
        · exact le_rfl
        · have := hle m (by rw [hlines]; exact List.mem_cons_of_mem _ hm)
          omega
      · have := hpairs.1 m hm
        simp only [SourceLine.Before, List.length_cons] at this ⊢
        omega
  | split b r hb ih =>
    obtain ⟨hle, hpairs⟩ := ih (start + b.length)
    have hpos := hb.length_pos
    rw [sourceLinesFrom_break hb]
    constructor
    · rintro l (_ | ⟨_, hl⟩)
      · exact le_rfl
      · have := hle l hl
        omega
    · refine List.pairwise_cons.mpr ⟨fun m hm => ?_, hpairs⟩
      have := hle m hm
      simp only [SourceLine.Before, List.length_nil]
      omega

theorem eq_of_mem_sourceLines {text : List Char} {l m : SourceLine} (hl : l ∈ sourceLines text)
    (hm : m ∈ sourceLines text) {i j : Nat} (hi : i < l.content.length) (hj : j < m.content.length)
    (h : l.start + i = m.start + j) : l = m := by
  obtain ⟨-, hpairs⟩ := pairwise_before_sourceLinesFrom 0 text
  rw [List.pairwise_iff_getElem] at hpairs
  obtain ⟨a, ha, rfl⟩ := List.mem_iff_getElem.mp hl
  obtain ⟨b, hb, rfl⟩ := List.mem_iff_getElem.mp hm
  rcases Nat.lt_trichotomy a b with hab | rfl | hab
  · have hbefore : (sourceLines text)[a].Before (sourceLines text)[b] := hpairs a b ha hb hab
    rw [SourceLine.Before] at hbefore
    omega
  · rfl
  · have hbefore : (sourceLines text)[b].Before (sourceLines text)[a] := hpairs b a hb ha hab
    rw [SourceLine.Before] at hbefore
    omega

end Text

namespace Lexer

open Text

/-! ## The lines of a cursor -/

/-- The cursor is in a text, its line is the first that is not yet passed, and it keeps where that
line begins. -/
def Cursor.Stands (text : List Char) (c : Cursor) : Prop :=
  ∃ passed before current, text = before ++ (current ++ c.rest) ∧ Unbroken current ∧
    c.lineStart = before.length ∧ c.offset = before.length + current.length ∧
    c.line = passed.length + 1 ∧
    sourceLines text = passed ++ sourceLinesFrom before.length (current ++ c.rest)

variable {text s r t b : List Char} {offset line lineStart : Nat}

theorem stands_start (text : List Char) : Cursor.Stands text { rest := text } :=
  ⟨[], [], [], rfl, unbroken_nil, rfl, rfl, rfl, rfl⟩

theorem Cursor.Stands.unbroken (h : Cursor.Stands text ⟨t ++ r, offset, line, lineStart⟩)
    (ht : Unbroken t) : Cursor.Stands text ⟨r, offset + t.length, line, lineStart⟩ := by
  obtain ⟨passed, before, current, htext, hcurrent, hstart, hoffset, hline, hlines⟩ := h
  dsimp only at htext hstart hoffset hline hlines
  refine ⟨passed, before, current ++ t, ?_, hcurrent.append ht, hstart, ?_, hline, ?_⟩
  · rw [List.append_assoc, htext]
  · rw [List.length_append, hoffset, Nat.add_assoc]
  · rw [List.append_assoc, hlines]

theorem Cursor.Stands.char {c : Char} (h : Cursor.Stands text ⟨c :: r, offset, line, lineStart⟩)
    (hc : endsLine c = false) : Cursor.Stands text ⟨r, offset + 1, line, lineStart⟩ :=
  h.unbroken (t := [c]) (unbroken_cons.mpr ⟨hc, unbroken_nil⟩)

theorem Cursor.Stands.break (h : Cursor.Stands text ⟨b ++ r, offset, line, lineStart⟩)
    (hb : IsBreak b r) :
    Cursor.Stands text ⟨r, offset + b.length, line + 1, offset + b.length⟩ := by
  obtain ⟨passed, before, current, htext, hcurrent, -, hoffset, hline, hlines⟩ := h
  dsimp only at htext hoffset hline hlines
  rw [sourceLinesFrom_line hcurrent hb] at hlines
  have hlength : offset + b.length = (before ++ (current ++ b)).length := by
    simp only [List.length_append]
    omega
  refine ⟨passed ++ [⟨before.length, current⟩], before ++ (current ++ b), [], ?_, unbroken_nil,
    hlength, hlength, ?_, ?_⟩
  · simp [htext]
  · simp [hline]
  · dsimp only
    rw [hlines, ← hlength, hoffset, List.append_assoc]
    rfl

/-! ## Gaps -/

theorem skip_break (comment : Bool) (offset line lineStart : Nat) (h : IsBreak b r) :
    (skip comment offset line lineStart (b ++ r)).2
      = (skip false (offset + b.length) (line + 1) (offset + b.length) r).2 := by
  cases h with
  | feed => rfl
  | pair => rfl
  | single h =>
    rw [List.singleton_append, skip]
    · rfl
    · rintro r - rfl
      exact h rfl

theorem skip_char {c : Char} (comment : Bool) (offset line lineStart : Nat)
    (hc : endsLine c = false) : (skip comment offset line lineStart (c :: r)).2
      = if comment || c = '#' || isIgnored c then
          (skip (comment || c = '#') (offset + 1) line lineStart r).2
        else ⟨c :: r, offset, line, lineStart⟩ := by
  rw [skip]
  · rw [if_neg (by simpa [endsLine] using hc)]
    split <;> rfl
  · rintro r rfl
    cases hc

theorem Cursor.Stands.skip (comment : Bool)
    (h : Cursor.Stands text ⟨s, offset, line, lineStart⟩) :
    Cursor.Stands text (Lexer.skip comment offset line lineStart s).2 := by
  induction s using lineInduction generalizing comment offset line lineStart with
  | nil => exact h
  | char c r hc ih =>
    rw [skip_char comment offset line lineStart hc]
    split
    · exact ih _ (h.char hc)
    · exact h
  | split b r hb ih =>
    rw [skip_break comment offset line lineStart hb]
    exact ih false (h.break hb)

/-! ## Block strings -/

/-- The character opens neither the closing quotes of a block string nor an escape of them. -/
structure Ordinary (c : Char) (r : List Char) : Prop where
  unbroken : endsLine c = false
  no_close : ∀ t, c = '"' → r ≠ '"' :: '"' :: t
  no_quotes : ∀ t, c = '\\' → r ≠ '"' :: '"' :: '"' :: t

/-- The lines of a block string are read from a position up to its closing quotes, and `rest` stands
behind them. -/
inductive BlockRead (rest : List Char) : Nat → List Char → Block → Prop
  | close (pos : Nat) : BlockRead rest pos ('"' :: '"' :: '"' :: rest) ⟨[[]], pos + 3, 0⟩
  | quotes {pos : Nat} {r : List Char} {b : Block} (h : BlockRead rest (pos + 4) r b) :
      BlockRead rest pos ('\\' :: '"' :: '"' :: '"' :: r) (b.cons ['"', '"', '"'])
  | split {pos : Nat} {br r : List Char} {b : Block} (hbr : IsBreak br r)
      (h : BlockRead rest (pos + br.length) r b) :
      BlockRead rest pos (br ++ r) (b.breakLine (pos + br.length))
  | char {pos : Nat} {c : Char} {r : List Char} {b : Block} (hc : Ordinary c r)
      (h : BlockRead rest (pos + 1) r b) : BlockRead rest pos (c :: r) (b.cons [c])

theorem exists_blockRead {pos : Nat} {b : Block} (h : blockFrom pos s = .ok b) :
    ∃ rest, BlockRead rest pos s b := by
  fun_induction blockFrom pos s generalizing b with
  | case1 pos => cases h
  | case2 pos rest =>
    cases h
    exact ⟨rest, .close pos⟩
  | case3 pos r ih =>
    obtain ⟨b, hb, rfl⟩ := exists_of_map_eq_ok h
    obtain ⟨rest, hrest⟩ := ih hb
    exact ⟨rest, .quotes hrest⟩
  | case4 pos r ih =>
    obtain ⟨b, hb, rfl⟩ := exists_of_map_eq_ok h
    obtain ⟨rest, hrest⟩ := ih hb
    exact ⟨rest, .split (.pair r) hrest⟩
  | case5 pos c r hclose hquotes hpair hends ih =>
    obtain ⟨b, hb, rfl⟩ := exists_of_map_eq_ok h
    obtain ⟨rest, hrest⟩ := ih hb
    rw [Bool.or_eq_true, decide_eq_true_eq, decide_eq_true_eq] at hends
    rcases hends with rfl | rfl
    · exact ⟨rest, .split (.feed r) hrest⟩
    · refine ⟨rest, .split (.single fun hfeed => ?_) hrest⟩
      obtain ⟨r, rfl⟩ := List.head?_eq_some_iff.mp hfeed
      exact hpair r rfl rfl
  | case6 pos c r hclose hquotes hpair hends ih =>
    obtain ⟨b, hb, rfl⟩ := exists_of_map_eq_ok h
    obtain ⟨rest, hrest⟩ := ih hb
    exact ⟨rest, .char ⟨Bool.not_eq_true _ ▸ hends, hclose, hquotes⟩ hrest⟩

theorem blockFrom_break {pos : Nat} (h : IsBreak b r) : blockFrom pos (b ++ r)
    = (blockFrom (pos + b.length) r).map (Block.breakLine (pos + b.length)) := by
  cases h with
  | feed =>
    rw [List.singleton_append, blockFrom, if_pos (by decide)]
    · rfl
    · rintro t ⟨⟩
    · rintro t ⟨⟩
    · rintro t ⟨⟩
  | pair => rw [List.cons_append, List.singleton_append, blockFrom]; rfl
  | single h =>
    rw [List.singleton_append, blockFrom, if_pos (by decide)]
    · rfl
    · rintro t ⟨⟩
    · rintro t ⟨⟩
    · rintro t - rfl
      exact h rfl

theorem BlockRead.blockFrom_eq {rest : List Char} {pos : Nat} {b : Block}
    (h : BlockRead rest pos s b) : blockFrom pos s = .ok b := by
  induction h with
  | close pos => rw [blockFrom]
  | quotes _ ih =>
    rw [blockFrom, ih]
    rfl
  | split hbr _ ih =>
    rw [blockFrom_break hbr, ih]
    rfl
  | char hc _ ih =>
    rw [blockFrom, if_neg (Bool.not_eq_true _ ▸ hc.unbroken), ih]
    · rfl
    · exact hc.no_close
    · exact hc.no_quotes
    · rintro t rfl
      cases hc.unbroken

/-- The last line begins inside, unless there is only one. -/
structure Block.Closed (k : Block) (pos : Nat) : Prop where
  lines_ne_nil : k.lines ≠ []
  lt_stop : pos < k.stop
  lastLine_eq : k.lines.length = 1 → k.lastLine = 0
  lt_lastLine : k.lines.length ≠ 1 → pos < k.lastLine ∧ k.lastLine < k.stop

theorem Block.cons_of_ne_nil {k : Block} (h : k.lines ≠ []) (piece : List Char) :
    (k.cons piece).lines ≠ [] ∧ (k.cons piece).lines.length = k.lines.length ∧
      (k.cons piece).stop = k.stop ∧ (k.cons piece).lastLine = k.lastLine := by
  unfold Block.cons
  split
  · contradiction
  next hlines => simp [hlines]

theorem Block.Closed.cons {k : Block} {pos pos' : Nat} (h : k.Closed pos') (hle : pos ≤ pos')
    (piece : List Char) : (k.cons piece).Closed pos := by
  obtain ⟨hne, hlength, hstop, hlast⟩ := Block.cons_of_ne_nil h.lines_ne_nil piece
  refine ⟨hne, ?_, ?_, ?_⟩
  · rw [hstop]
    exact hle.trans_lt h.lt_stop
  · rw [hlength, hlast]
    exact h.lastLine_eq
  · rw [hlength, hlast, hstop]
    exact fun hlong => ⟨hle.trans_lt (h.lt_lastLine hlong).1, (h.lt_lastLine hlong).2⟩

/-- A new line in front is the last one exactly if there was only one. -/
theorem Block.Closed.lastLine_breakLine {k : Block} {pos : Nat} (h : k.Closed pos) :
    (k.breakLine pos).lastLine = if k.lines.length = 1 then pos else k.lastLine := by
  rw [breakLine]
  split
  next hone => rw [h.lastLine_eq hone, Nat.max_zero]
  next hlong => exact Nat.max_eq_right (h.lt_lastLine hlong).1.le

theorem Block.Closed.breakLine {k : Block} {pos pos' : Nat} (h : k.Closed pos') (hlt : pos < pos') :
    (k.breakLine pos').Closed pos := by
  refine ⟨List.cons_ne_nil _ _, hlt.trans h.lt_stop, fun hone => ?_, fun _ => ?_⟩
  · exact absurd (Nat.succ.inj hone) (mt List.length_eq_zero_iff.mp h.lines_ne_nil)
  · rw [h.lastLine_breakLine]
    split
    · exact ⟨hlt, h.lt_stop⟩
    next hlong => exact ⟨hlt.trans (h.lt_lastLine hlong).1, (h.lt_lastLine hlong).2⟩

section

variable {rest : List Char} {pos : Nat} {k : Block}

theorem BlockRead.closed (h : BlockRead rest pos s k) : k.Closed pos := by
  induction h with
  | close pos =>
    exact ⟨List.cons_ne_nil _ _, Nat.lt_add_of_pos_right (by decide), fun _ => rfl,
      fun h => absurd rfl h⟩
  | quotes _ ih => exact ih.cons (Nat.le_add_right _ _) _
  | split hbr _ ih => exact ih.breakLine (Nat.lt_add_of_pos_right hbr.length_pos)
  | char _ _ ih => exact ih.cons (Nat.le_add_right _ _) _

theorem BlockRead.exists_append (h : BlockRead rest pos s k) :
    ∃ t, s = t ++ rest ∧ k.stop = pos + t.length := by
  induction h with
  | close pos => exact ⟨['"', '"', '"'], rfl, rfl⟩
  | @quotes pos r k h ih =>
    obtain ⟨t, rfl, ht⟩ := ih
    refine ⟨'\\' :: '"' :: '"' :: '"' :: t, rfl, ?_⟩
    rw [(Block.cons_of_ne_nil h.closed.lines_ne_nil _).2.2.1, ht]
    simp only [List.length_cons]
    omega
  | @split pos br r k hbr h ih =>
    obtain ⟨t, rfl, ht⟩ := ih
    refine ⟨br ++ t, (List.append_assoc ..).symm, ?_⟩
    rw [Block.breakLine, ht, List.length_append, Nat.add_assoc]
  | @char pos c r k _ h ih =>
    obtain ⟨t, rfl, ht⟩ := ih
    refine ⟨c :: t, rfl, ?_⟩
    rw [(Block.cons_of_ne_nil h.closed.lines_ne_nil _).2.2.1, ht, List.length_cons]
    omega

/-- Reading a block string counts its breaks and keeps where its last line begins. -/
theorem BlockRead.stands (h : BlockRead rest pos s k) {base : Nat}
    (hs : Cursor.Stands text ⟨s, base + pos, line, lineStart⟩) :
    Cursor.Stands text ⟨rest, base + k.stop, line + (k.lines.length - 1),
      if k.lines.length = 1 then lineStart else base + k.lastLine⟩ := by
  induction h generalizing line lineStart with
  | close pos =>
    exact hs.unbroken (t := ['"', '"', '"']) (by decide)
  | quotes h ih =>
    obtain ⟨-, hlength, hstop, hlast⟩ := Block.cons_of_ne_nil h.closed.lines_ne_nil ['"', '"', '"']
    rw [hlength, hstop, hlast]
    exact ih (hs.unbroken (t := ['\\', '"', '"', '"']) (by decide))
  | @split pos br r k hbr h ih =>
    have hstep := hs.break hbr
    rw [Nat.add_assoc] at hstep
    have hend := ih hstep
    have hne := List.length_pos_of_ne_nil h.closed.lines_ne_nil
    have hline : line + 1 + (k.lines.length - 1) = line + (k.lines.length + 1 - 1) := by omega
    rw [if_neg (by simp [Block.breakLine, h.closed.lines_ne_nil]), h.closed.lastLine_breakLine]
    rw [hline] at hend
    split at hend
    · rw [if_pos ‹_›]
      exact hend
    · rw [if_neg ‹_›]
      exact hend
  | @char pos c r k hc h ih =>
    obtain ⟨-, hlength, hstop, hlast⟩ := Block.cons_of_ne_nil h.closed.lines_ne_nil [c]
    rw [hlength, hstop, hlast]
    exact ih (hs.char hc.unbroken)

theorem BlockRead.pass_eq (h : BlockRead rest 3 s k) (c : Cursor) :
    c.pass ('"' :: '"' :: s) k.toLexeme = ⟨rest, c.offset + k.stop, c.line + (k.lines.length - 1),
      if k.lines.length = 1 then c.lineStart else c.offset + k.lastLine⟩ := by
  have hne := List.length_pos_of_ne_nil h.closed.lines_ne_nil
  obtain ⟨t, rfl, hstop⟩ := h.exists_append
  have hdrop : ('"' :: '"' :: (t ++ rest)).drop (k.stop - 1) = rest := by
    rw [hstop, show 3 + t.length - 1 = t.length + 2 by omega, List.drop_succ_cons,
      List.drop_succ_cons, List.drop_left]
  have hoffset : c.offset + (k.stop - 1) + 1 = c.offset + k.stop := by omega
  have hone : k.lines.length - 1 = 0 ↔ k.lines.length = 1 := by omega
  simp only [Cursor.pass, Block.toLexeme, hdrop, hoffset, hone]

end

/-! ## Tokens -/

/-- A cursor goes on in the lines of its text behind a lexeme. -/
theorem Cursor.Stands.pass {c : Cursor} {ch : Char} {l : Lexeme} (h : c.Stands text)
    (hrest : c.rest = ch :: r) (hl : readLexeme ch r = .ok l) : (c.pass r l).Stands text := by
  obtain ⟨rest, offset, line, lineStart⟩ := c
  subst hrest
  rcases readLexeme_eq_ok hl with ⟨hbreaks, t, rest, rfl, hextra, ht, -⟩ | ⟨s, k, rfl, rfl, hk, rfl⟩
  · rw [Cursor.pass, hbreaks, if_pos rfl, ← hextra, List.drop_left]
    exact h.unbroken (t := ch :: t) ht
  · obtain ⟨rest, hread⟩ := exists_blockRead hk
    rw [hread.pass_eq]
    exact hread.stands (h.unbroken (t := ['"', '"', '"']) (by decide))

def opens (c : Char) : Bool :=
  (TokenKind.ofChar? c).isSome || c = '.' || c = '"' || isDigit c || c = '-' || isNameStart c

theorem opens_of_readLexeme {c : Char} {l : Lexeme} (h : readLexeme c r = .ok l) :
    opens c = true := by
  by_contra hopens
  simp only [opens, Bool.not_eq_true, Bool.or_eq_false_iff, Option.isSome_eq_false_iff,
    Option.isNone_iff_eq_none, decide_eq_false_iff_not] at hopens
  obtain ⟨⟨⟨⟨⟨hkind, hpoint⟩, hquote⟩, hdigit⟩, hminus⟩, hname⟩ := hopens
  simp only [readLexeme, hkind, hpoint, hquote, hdigit, hminus, hname, decide_false,
    Bool.false_and, Bool.false_or, Bool.false_eq_true, if_false] at h
  split at h <;> cases h

theorem isBlank_of_opens {c : Char} (h : opens c = true) : isBlank c = false := by
  have hblanks : (blanks.any opens) = false := by decide
  by_contra hblank
  rw [Bool.not_eq_false, isBlank, List.contains_iff_mem] at hblank
  exact absurd h (List.any_eq_false.mp hblanks c hblank)

theorem endsLine_of_not_isBlank {c : Char} (h : isBlank c = false) : endsLine c = false := by
  by_contra hends
  rw [Bool.not_eq_false, endsLine, Bool.or_eq_true, decide_eq_true_eq, decide_eq_true_eq] at hends
  rcases hends with rfl | rfl <;> exact absurd h (by decide)

end Lexer

/-- The token begins in a line of the text, at its line number and column, with a character that is
not blank. -/
structure Token.InLine (text : List Char) (t : Token) (l : Text.SourceLine) : Prop where
  line_pos : 0 < t.line
  line_eq : (Text.sourceLines text)[t.line - 1]? = some l
  column_pos : 0 < t.column
  start_eq : t.span.start = l.start + (t.column - 1)
  before_eq : text.take t.span.start = text.take l.start ++ l.content.take (t.column - 1)
  visible : ∃ c, l.content[t.column - 1]? = some c ∧ Text.isBlank c = false

namespace Lexer

open Text

variable {text r : List Char}

theorem Cursor.Stands.inLine {c : Cursor} {ch : Char} {l : Lexeme} (h : c.Stands text)
    (hrest : c.rest = ch :: r) (hl : readLexeme ch r = .ok l) (gap : List Char) :
    ∃ m, (tokenAt gap c l).InLine text m := by
  obtain ⟨passed, before, current, htext, hcurrent, hstart, hoffset, hline, hlines⟩ := h
  have hblank := isBlank_of_opens (opens_of_readLexeme hl)
  rw [hrest] at htext hlines
  obtain ⟨more, others, hmore⟩ :=
    exists_sourceLinesFrom hcurrent (endsLine_of_not_isBlank hblank) before.length r
  have hcolumn : (tokenAt gap c l).column = current.length + 1 := by
    rw [tokenAt, hoffset, hstart, Nat.add_sub_cancel_left]
  refine ⟨⟨before.length, current ++ ch :: more⟩, ?_, ?_, ?_, ?_, ?_, ch, ?_, hblank⟩
  · exact Nat.lt_of_lt_of_eq (Nat.succ_pos _) hline.symm
  · rw [hlines, hmore, tokenAt, hline]
    simp
  · exact Nat.succ_pos _
  · rw [hcolumn]
    exact hoffset
  · rw [hcolumn, Nat.add_sub_cancel, List.take_left, tokenAt, hoffset, htext, List.take_left,
      ← List.append_assoc, ← List.length_append, List.take_left]
  · rw [hcolumn, Nat.add_sub_cancel]
    simp

theorem Cursor.Stands.forall_inLine {c : Cursor} (h : c.Stands text) {ts : List Token}
    (hts : (tokensFrom c).toList = .ok ts) : ∀ t ∈ ts, ∃ l, t.InLine text l := by
  fun_induction tokensFrom c generalizing ts with
  | case1 c skipped hnil =>
    cases hts
    exact List.forall_mem_nil _
  | case2 c skipped ch r hcons f hf => cases hts
  | case3 c skipped ch r hcons l hl ih =>
    have hskipped : skipped.2.Stands text := h.skip false
    obtain ⟨ts, hnext, rfl⟩ := exists_of_map_eq_ok hts
    rintro t (_ | ⟨_, ht⟩)
    · exact hskipped.inLine hcons hl _
    · exact ih (hskipped.pass hcons hl) hnext t ht

end Lexer

theorem TokenStream.Ascends.pairwise {low : Nat} {stream : TokenStream} (h : stream.Ascends low)
    {ts : List Token} (hts : stream.toList = .ok ts) :
    (∀ t ∈ ts, low ≤ t.span.start) ∧ ts.Pairwise fun t u => t.span.start < u.span.start := by
  induction stream generalizing low ts with
  | done t =>
    cases hts
    exact ⟨fun _ h => (nomatch h), .nil⟩
  | broken f => cases hts
  | more t next ih =>
    obtain ⟨ts, hnext, rfl⟩ := exists_of_map_eq_ok hts
    obtain ⟨hle, hpairs⟩ := ih h.2 hnext
    refine ⟨?_, List.pairwise_cons.mpr ⟨hle, hpairs⟩⟩
    rintro u (_ | ⟨_, hu⟩)
    · exact h.1
    · have := h.1
      have := hle u hu
      omega

section

variable {text : List Char} {tokens : List Token}

/-- Every token stands in the line that its number tells. -/
theorem inLine_of_mem_tokenize (h : (tokenize text).toList = .ok tokens) {t : Token}
    (ht : t ∈ tokens) : ∃ l, t.InLine text l :=
  (Lexer.stands_start text).forall_inLine h t ht

theorem pairwise_start_tokenize (h : (tokenize text).toList = .ok tokens) :
    tokens.Pairwise fun t u => t.span.start < u.span.start :=
  ((Lexer.ascends_tokensFrom { rest := text }).pairwise h).2

end

end QueryLint
