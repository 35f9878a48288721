import QueryLint.Proofs.SourceLines

/-! # Line endings

How the lines of a text are ended makes no difference to its lines nor to its tokens. With every
break turned into a line feed the text has the same tokens, with the same values, in the same lines
and columns; only the offsets move.
-/

namespace QueryLint

namespace Text

variable {s r t b : List Char} {c : Char}

/-! ## One line feed for every break -/

theorem unifyBreaks_cons (h : endsLine c = false) (r : List Char) :
    unifyBreaks (c :: r) = c :: unifyBreaks r := by
  rw [unifyBreaks]
  · rw [if_neg]
    rintro rfl
    cases h
  · rintro r rfl
    cases h

theorem unifyBreaks_break (h : IsBreak b r) : unifyBreaks (b ++ r) = '\n' :: unifyBreaks r := by
  cases h with
  | feed => rfl
  | pair => rfl
  | single h =>
    rw [List.singleton_append, unifyBreaks]
    · rfl
    · rintro r - rfl
      exact h rfl

theorem unifyBreaks_append (h : Unbroken t) (r : List Char) :
    unifyBreaks (t ++ r) = t ++ unifyBreaks r := by
  induction t with
  | nil => rfl
  | cons c t ih =>
    obtain ⟨hc, ht⟩ := unbroken_cons.mp h
    rw [List.cons_append, unifyBreaks_cons hc, ih ht, List.cons_append]

theorem unifyBreaks_eq_cons (h : unifyBreaks s = c :: t) (hc : endsLine c = false) :
    ∃ r, s = c :: r ∧ unifyBreaks r = t := by
  induction s using lineInduction with
  | nil => cases h
  | char d r hd _ =>
    rw [unifyBreaks_cons hd] at h
    cases h
    exact ⟨r, rfl, rfl⟩
  | split b r hb _ =>
    rw [unifyBreaks_break hb] at h
    cases h
    cases hc

theorem map_content_cons (start : Nat) (c : Char) (ls : List SourceLine) :
    (SourceLine.cons start c ls).map SourceLine.content
      = consLine c (ls.map SourceLine.content) := by
  cases ls <;> rfl

theorem content_sourceLinesFrom_unifyBreaks (start start' : Nat) (s : List Char) :
    (sourceLinesFrom start' (unifyBreaks s)).map SourceLine.content
      = (sourceLinesFrom start s).map SourceLine.content := by
  induction s using lineInduction generalizing start start' with
  | nil => rfl
  | char c r hc ih =>
    rw [unifyBreaks_cons hc, sourceLinesFrom_cons hc, sourceLinesFrom_cons hc, map_content_cons,
      map_content_cons, ih]
  | split b r hb ih =>
    rw [unifyBreaks_break hb, sourceLinesFrom_break hb, ← List.singleton_append,
      sourceLinesFrom_break (.feed _), List.map_cons, List.map_cons, ih]

end Text

/-- What of a token does not hang on how lines are ended. -/
def Token.face (t : Token) : TokenKind × String × Nat × Nat :=
  (t.kind, t.value, t.line, t.column)

namespace Lexer

open Text

variable {s r rest : List Char} {pos n : Nat} {k : Block}

theorem alike_unifyBreaks (s : List Char) : Alike s.head? (unifyBreaks s).head? := by
  induction s using lineInduction with
  | nil => exact alike_rfl
  | char c r hc _ =>
    rw [unifyBreaks_cons hc]
    exact alike_rfl
  | split b r hb _ =>
    intro p hfeed hreturn
    rw [unifyBreaks_break hb]
    cases hb with
    | feed => rfl
    | pair => exact hfeed.trans hreturn.symm
    | single _ => exact hfeed.trans hreturn.symm

/-! ## Cursors -/

/-- The second cursor is as far in the text with line feeds as the first in the text itself: in the
same line, and as far from its start. -/
structure Cursor.Keeps (c c' : Cursor) : Prop where
  rest_eq : c'.rest = unifyBreaks c.rest
  line_eq : c'.line = c.line
  column_eq : c'.offset + c.lineStart = c.offset + c'.lineStart

theorem keeps_skip (comment : Bool) {offset offset' line lineStart lineStart' : Nat}
    (h : offset' + lineStart = offset + lineStart') (s : List Char) :
    (skip comment offset line lineStart s).2.Keeps
      (skip comment offset' line lineStart' (unifyBreaks s)).2 := by
  induction s using lineInduction generalizing comment offset offset' line lineStart lineStart' with
  | nil => exact ⟨rfl, rfl, h⟩
  | char c r hc ih =>
    rw [unifyBreaks_cons hc, skip_char _ _ _ _ hc, skip_char _ _ _ _ hc]
    split
    · exact ih _ (by omega)
    · exact ⟨(unifyBreaks_cons hc r).symm, rfl, h⟩
  | split b r hb ih =>
    rw [unifyBreaks_break hb, skip_break _ _ _ _ hb, ← List.singleton_append,
      skip_break _ _ _ _ (.feed _)]
    exact ih _ (by omega)

/-! ## Block strings -/

theorem Ordinary.unifyBreaks {c : Char} (h : Ordinary c r) : Ordinary c (unifyBreaks r) := by
  refine ⟨h.unbroken, ?_, ?_⟩
  · intro t hc hr
    obtain ⟨r₁, rfl, hr₁⟩ := unifyBreaks_eq_cons hr rfl
    obtain ⟨r₂, rfl, -⟩ := unifyBreaks_eq_cons hr₁ rfl
    exact h.no_close r₂ hc rfl
  · intro t hc hr
    obtain ⟨r₁, rfl, hr₁⟩ := unifyBreaks_eq_cons hr rfl
    obtain ⟨r₂, rfl, hr₂⟩ := unifyBreaks_eq_cons hr₁ rfl
    obtain ⟨r₃, rfl, -⟩ := unifyBreaks_eq_cons hr₂ rfl
    exact h.no_quotes r₃ hc rfl

/-- Two blocks that were read from two positions have the same lines, the last as long in both. -/
structure Block.Keeps (k k' : Block) (pos pos' : Nat) : Prop where
  lines_eq : k'.lines = k.lines
  single : k.lines.length = 1 → k'.stop + pos = k.stop + pos'
  several : k.lines.length ≠ 1 → k'.stop + k.lastLine = k.stop + k'.lastLine

theorem Block.Keeps.cons {k' : Block} {pos' : Nat} {piece : List Char}
    (h : k.Keeps k' (pos + n) (pos' + n)) (hk : k.lines ≠ []) :
    (k.cons piece).Keeps (k'.cons piece) pos pos' := by
  obtain ⟨-, hlength, hstop, hlast⟩ := Block.cons_of_ne_nil hk piece
  obtain ⟨-, -, hstop', hlast'⟩ := Block.cons_of_ne_nil (h.lines_eq ▸ hk) piece
  refine ⟨?_, ?_, ?_⟩
  · unfold Block.cons
    rw [h.lines_eq]
    split <;> rfl
  · rw [hlength, hstop, hstop']
    intro hone
    have := h.single hone
    omega
  · rw [hlength, hstop, hstop', hlast, hlast']
    exact h.several

theorem Block.Keeps.breakLine {k' : Block} {pos' : Nat} (h : k.Keeps k' pos pos')
    (hk : k.Closed pos) (hk' : k'.Closed pos') (start start' : Nat) :
    (k.breakLine pos).Keeps (k'.breakLine pos') start start' := by
  refine ⟨?_, fun hone => ?_, fun _ => ?_⟩
  · exact congrArg ([] :: ·) h.lines_eq
  · exact absurd (Nat.succ.inj hone) (mt List.length_eq_zero_iff.mp hk.lines_ne_nil)
  · rw [hk.lastLine_breakLine, hk'.lastLine_breakLine, h.lines_eq]
    split
    next hone => exact h.single hone
    next hlong => exact h.several hlong

/-- The lines of a block string do not depend on how they are ended. -/
theorem BlockRead.unifyBreaks (h : BlockRead rest pos s k) (pos' : Nat) :
    ∃ k', BlockRead (unifyBreaks rest) pos' (unifyBreaks s) k' ∧ k.Keeps k' pos pos' := by
  induction h generalizing pos' with
  | close pos =>
    refine ⟨_, .close pos', rfl, fun _ => ?_, fun h => absurd rfl h⟩
    dsimp only
    omega
  | quotes h ih =>
    obtain ⟨k', hread, hkeeps⟩ := ih (pos' + 4)
    exact ⟨_, .quotes hread, hkeeps.cons h.closed.lines_ne_nil⟩
  | split hbr h ih =>
    obtain ⟨k', hread, hkeeps⟩ := ih (pos' + 1)
    rw [unifyBreaks_break hbr]
    exact ⟨_, .split (.feed _) hread, hkeeps.breakLine h.closed hread.closed _ _⟩
  | char hc h ih =>
    obtain ⟨k', hread, hkeeps⟩ := ih (pos' + 1)
    rw [unifyBreaks_cons hc.unbroken]
    exact ⟨_, .char hc.unifyBreaks hread, hkeeps.cons h.closed.lines_ne_nil⟩

/-! ## Tokens -/

/-- A lexeme is read again, and the cursors behind it are as far as those before. -/
theorem Cursor.Keeps.pass {c c' : Cursor} (h : c.Keeps c') {ch : Char} {l : Lexeme}
    (hrest : c.rest = ch :: r) (hl : readLexeme ch r = .ok l) :
    ∃ l', readLexeme ch (Text.unifyBreaks r) = .ok l' ∧ l'.kind = l.kind ∧ l'.value = l.value ∧
      (c.pass r l).Keeps (c'.pass (Text.unifyBreaks r) l') := by
  have hcolumn := h.column_eq
  rcases readLexeme_eq_ok hl with ⟨hbreaks, t, rest, rfl, hextra, ht, hread⟩ | hblock
  · have hagain := hread _ (alike_unifyBreaks rest)
    rw [unifyBreaks_append (unbroken_cons.mp ht).2]
    refine ⟨l, hagain, rfl, rfl, ?_, ?_, ?_⟩
    · rw [Cursor.pass, Cursor.pass, ← hextra, List.drop_left, List.drop_left]
    · exact congrArg (· + l.breaks) h.line_eq
    · simp only [Cursor.pass, hbreaks, if_true]
      omega
  · obtain ⟨s, k, rfl, rfl, hk, rfl⟩ := hblock
    obtain ⟨rest, hread⟩ := exists_blockRead hk
    obtain ⟨k', hread', hkeeps⟩ := hread.unifyBreaks 3
    have hquotes : Text.unifyBreaks ('"' :: '"' :: s) = '"' :: '"' :: Text.unifyBreaks s :=
      unifyBreaks_append (t := ['"', '"']) (by decide) s
    rw [hquotes]
    refine ⟨k'.toLexeme, ?_, rfl, ?_, ?_⟩
    · rw [readLexeme]
      simp [TokenKind.ofChar?, readBlockString, hread'.blockFrom_eq]
      rfl
    · rw [Block.toLexeme, Block.toLexeme, hkeeps.lines_eq]
    · rw [hread.pass_eq, hread'.pass_eq, hkeeps.lines_eq, h.line_eq]
      refine ⟨rfl, rfl, ?_⟩
      dsimp only
      split
      next hone =>
        have := hkeeps.single hone
        omega
      next hlong =>
        have := hkeeps.several hlong
        omega

theorem tokensFrom_done {c : Cursor}
    (h : (skip false c.offset c.line c.lineStart c.rest).2.rest = []) :
    (tokensFrom c).toList = .ok [] := by
  rw [tokensFrom]
  split
  · rfl
  next hcons =>
    rw [h] at hcons
    cases hcons

theorem tokensFrom_more {c : Cursor} {ch : Char} {l : Lexeme}
    (h : (skip false c.offset c.line c.lineStart c.rest).2.rest = ch :: r)
    (hl : readLexeme ch r = .ok l) :
    tokensFrom c = .more (tokenAt (skip false c.offset c.line c.lineStart c.rest).1
      (skip false c.offset c.line c.lineStart c.rest).2 l)
      (tokensFrom ((skip false c.offset c.line c.lineStart c.rest).2.pass r l)) := by
  rw [tokensFrom]
  split
  next hnil =>
    rw [h] at hnil
    cases hnil
  next hcons =>
    rw [h] at hcons
    cases hcons
    rw [hl]

/-- The gaps in front of the next tokens leave the cursors as far as before. -/
theorem Cursor.Keeps.skip {c c' : Cursor} (h : c.Keeps c') :
    (Lexer.skip false c.offset c.line c.lineStart c.rest).2.Keeps
      (Lexer.skip false c'.offset c'.line c'.lineStart c'.rest).2 := by
  rw [h.rest_eq, h.line_eq]
  exact keeps_skip false h.column_eq c.rest

theorem Cursor.Keeps.face {c c' : Cursor} (h : c.Keeps c') {l l' : Lexeme} {gap gap' : List Char}
    (hkind : l'.kind = l.kind) (hvalue : l'.value = l.value) :
    (tokenAt gap' c' l').face = (tokenAt gap c l).face := by
  have hcolumn : c'.offset - c'.lineStart = c.offset - c.lineStart := by
    have := h.column_eq
    omega
  simp only [Token.face, tokenAt, hkind, hvalue, h.line_eq, hcolumn]

theorem Cursor.Keeps.tokens {c c' : Cursor} (h : c.Keeps c') {ts : List Token}
    (hts : (tokensFrom c).toList = .ok ts) :
    ∃ ts', (tokensFrom c').toList = .ok ts' ∧ ts'.map Token.face = ts.map Token.face := by
  fun_induction tokensFrom c generalizing c' ts with
  | case1 =>
    rename_i c skipped hnil
    have hskip := h.skip
    cases hts
    refine ⟨[], tokensFrom_done ?_, rfl⟩
    rw [hskip.rest_eq, hnil]
    rfl
  | case2 => cases hts
  | case3 =>
    rename_i c skipped ch r hcons l hl ih
    have hskip := h.skip
    obtain ⟨ts, hnext, rfl⟩ := exists_of_map_eq_ok hts
    obtain ⟨l', hl', hkind, hvalue, hpass⟩ := hskip.pass hcons hl
    have hch := endsLine_of_not_isBlank (isBlank_of_opens (opens_of_readLexeme hl))
    have hcons' := hskip.rest_eq
    rw [hcons, unifyBreaks_cons hch] at hcons'
    obtain ⟨ts', hnext', hkeeps⟩ := ih hpass hnext
    rw [tokensFrom_more hcons' hl', TokenStream.toList, hnext']
    exact ⟨_, rfl, congrArg₂ List.cons (hskip.face hkind hvalue) hkeeps⟩

end Lexer

theorem tokens_unifyBreaks {text : List Char} {tokens : List Token}
    (h : (tokenize text).toList = .ok tokens) :
    ∃ tokens', (tokenize (Text.unifyBreaks text)).toList = .ok tokens' ∧
      tokens'.map Token.face = tokens.map Token.face := by
  have hkeeps : Lexer.Cursor.Keeps { rest := text } { rest := Text.unifyBreaks text } :=
    ⟨rfl, rfl, rfl⟩
  exact hkeeps.tokens h

end QueryLint
