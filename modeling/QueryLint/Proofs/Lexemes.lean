import Mathlib.Data.List.Infix
import QueryLint.Token.Lexer

/-! # Lexemes

A text is read to its end if it begins with a lexeme and can be read on behind it. Names and numbers
are read the same wherever a character follows that goes on with neither, so what was once read as a
name or a number is one again when it is written down elsewhere.
-/

namespace QueryLint

theorem exists_of_bind_eq_ok {ε α β : Type} {e : Except ε α} {f : α → Except ε β} {b : β}
    (h : e >>= f = .ok b) : ∃ a, e = .ok a ∧ f a = .ok b := by
  cases e with
  | error reason => cases h
  | ok a => exact ⟨a, rfl, h⟩

def TokenStream.Ends (s : TokenStream) : Prop :=
  ∃ ts, s.toList = .ok ts

namespace TokenStream

theorem ends_done (t : Token) : (done t).Ends :=
  ⟨[], rfl⟩

theorem not_ends_broken (f : FaultAt) : ¬ (broken f).Ends := by
  rintro ⟨ts, h⟩
  cases h

theorem ends_more {t : Token} {next : TokenStream} : (more t next).Ends ↔ next.Ends := by
  unfold Ends
  rw [toList]
  constructor
  · rintro ⟨ts, h⟩
    cases hn : next.toList with
    | ok us => exact ⟨us, rfl⟩
    | error f =>
      rw [hn] at h
      cases h
  · rintro ⟨ts, h⟩
    exact ⟨t :: ts, by rw [h]; rfl⟩

end TokenStream

namespace Lexer

/-! ## Reading on -/

/-- The text can be read to its end, wherever it stands. -/
def Readable (s : List Char) : Prop :=
  ∀ offset line lineStart, (tokensFrom ⟨s, offset, line, lineStart⟩).Ends

def begins (c : Char) : Bool :=
  c ≠ '\n' && c ≠ '\r' && c ≠ '#' && !isIgnored c

/-- The text is read as one lexeme if `rest` follows it. -/
def ReadsBefore (rest l : List Char) : Prop :=
  ∃ c r lexeme, l ++ rest = c :: r ∧ begins c = true ∧ readLexeme c r = .ok lexeme ∧
    r.drop lexeme.extra = rest

theorem ends_tokensFrom_iff (c : Cursor) :
    (tokensFrom c).Ends ↔ ∀ ch r, (skip false c.offset c.line c.lineStart c.rest).2.rest = ch :: r →
      ∃ l, readLexeme ch r = .ok l ∧
        (tokensFrom ((skip false c.offset c.line c.lineStart c.rest).2.pass r l)).Ends := by
  rw [tokensFrom]
  split
  · rename_i hnil
    refine iff_of_true (TokenStream.ends_done _) fun ch r hcons => ?_
    rw [hnil] at hcons
    cases hcons
  · rename_i ch r hcons
    rw [hcons]
    constructor
    · rintro h ch' r' heq
      cases heq
      split at h
      · exact absurd h (TokenStream.not_ends_broken _)
      · exact ⟨_, ‹_›, TokenStream.ends_more.mp h⟩
    · intro h
      obtain ⟨l, hl, hends⟩ := h ch r rfl
      rw [hl]
      exact TokenStream.ends_more.mpr hends

theorem skip_of_begins {c : Char} (h : begins c = true) (offset line lineStart : Nat)
    (r : List Char) :
    skip false offset line lineStart (c :: r) = ([], ⟨c :: r, offset, line, lineStart⟩) := by
  simp only [begins, Bool.and_eq_true, decide_eq_true_eq, Bool.not_eq_true', ne_eq] at h
  obtain ⟨⟨⟨hfeed, hreturn⟩, hhash⟩, hignored⟩ := h
  rw [skip]
  · simp [hfeed, hreturn, hhash, hignored]
  · exact fun _ hr _ => hreturn hr

theorem readable_nil : Readable [] := by
  intro offset line lineStart
  rw [ends_tokensFrom_iff]
  exact fun ch r h => nomatch h

theorem Readable.lexeme {l rest : List Char} (hl : ReadsBefore rest l) (h : Readable rest) :
    Readable (l ++ rest) := by
  obtain ⟨c, r, lexeme, happend, hc, hread, hdrop⟩ := hl
  intro offset line lineStart
  rw [happend, ends_tokensFrom_iff, skip_of_begins hc]
  rintro ch r' heq
  cases heq
  refine ⟨lexeme, hread, ?_⟩
  rw [Cursor.pass, hdrop]
  exact h _ _ _

theorem Readable.blank {c : Char} {rest : List Char} (hc : isIgnored c = true ∨ c = '\n')
    (h : Readable rest) : Readable (c :: rest) := by
  have hreturn : c ≠ '\r' := by
    rintro rfl
    revert hc
    decide
  intro offset line lineStart
  have hskip : ∃ line' lineStart', (skip false offset line lineStart (c :: rest)).2
      = (skip false (offset + 1) line' lineStart' rest).2 := by
    rw [skip]
    · rcases hc with hc | rfl
      · have hmarks : c ≠ '\n' ∧ c ≠ '#' := by
          constructor <;> rintro rfl <;> revert hc <;> decide
        exact ⟨line, lineStart, by simp [hmarks, hreturn, hc]⟩
      · exact ⟨line + 1, offset + 1, by simp⟩
    · exact fun _ hr _ => hreturn hr
  obtain ⟨line', lineStart', hskip⟩ := hskip
  have hrest := h (offset + 1) line' lineStart'
  rw [ends_tokensFrom_iff] at hrest ⊢
  rw [hskip]
  exact hrest

/-! ## Marks -/

/-- Separators, line feeds and the punctuators of one character. -/
def isMark (c : Char) : Bool :=
  isIgnored c || c = '\n' || (TokenKind.ofChar? c).isSome

/-- A character that goes on with no name, number or string. -/
def isParting (c : Char) : Bool :=
  !isNameContinue c && c ≠ '.' && c ≠ '"'

/-- Nothing follows, or a character that goes on with no lexeme. -/
def Parted (rest : List Char) : Prop :=
  ∀ c ∈ rest.head?, isParting c = true

theorem parted_nil : Parted [] := by
  intro c h
  cases h

theorem isParting_of_isMark {c : Char} (h : isMark c = true) : isParting c = true := by
  simp only [isMark, isIgnored, Bool.or_eq_true, decide_eq_true_eq] at h
  rcases h with ((((rfl | rfl) | rfl) | rfl) | rfl) | h
  · decide
  · decide
  · decide
  · decide
  · decide
  · unfold TokenKind.ofChar? at h
    split at h <;> first | decide | cases h

theorem parted_cons {c : Char} (h : isMark c = true) (rest : List Char) : Parted (c :: rest) := by
  rintro c' ⟨⟩
  exact isParting_of_isMark h

theorem begins_of_ofChar? {c : Char} {kind : TokenKind} (h : TokenKind.ofChar? c = some kind) :
    begins c = true := by
  unfold TokenKind.ofChar? at h
  split at h <;> first | decide | cases h

theorem readsBefore_punctuator {c : Char} {kind : TokenKind} (h : TokenKind.ofChar? c = some kind)
    (rest : List Char) : ReadsBefore rest [c] :=
  ⟨c, rest, _, rfl, begins_of_ofChar? h, by rw [readLexeme, h], rfl⟩

theorem readsBefore_spread (rest : List Char) : ReadsBefore rest ['.', '.', '.'] :=
  ⟨'.', '.' :: '.' :: rest, ⟨.spread, "", 2, 0, 0⟩, rfl, by decide, rfl, rfl⟩

/-! ## Whole lexemes -/

/-- A text on one line that is read as one lexeme unless it is gone on with. -/
structure Whole (l : List Char) : Prop where
  unbroken : '\n' ∉ l
  reads : ∀ rest, Parted rest → ReadsBefore rest l

def isName : List Char → Bool
  | [] => false
  | c :: r => isNameStart c && r.all isNameContinue

theorem not_isMark_of_isNameContinue {c : Char} (h : isNameContinue c = true) :
    isMark c = false := by
  by_contra hmark
  have hparting := isParting_of_isMark (Bool.not_eq_false _ ▸ hmark)
  simp [isParting, h] at hparting

theorem begins_of_isNameContinue {c : Char} (h : isNameContinue c = true) : begins c = true := by
  have hmark := not_isMark_of_isNameContinue h
  simp only [isMark, Bool.or_eq_false_iff, decide_eq_false_iff_not] at hmark
  have hothers : c ≠ '\r' ∧ c ≠ '#' := by
    constructor <;> rintro rfl <;> revert h <;> decide
  simp [begins, hmark, hothers]

theorem ofChar?_of_isNameContinue {c : Char} (h : isNameContinue c = true) :
    TokenKind.ofChar? c = none := by
  have hmark := not_isMark_of_isNameContinue h
  simp only [isMark, Bool.or_eq_false_iff, Option.isSome_eq_false_iff, Option.isNone_iff_eq_none]
    at hmark
  exact hmark.2

theorem not_isDigit_of_isNameStart {c : Char} (h : isNameStart c = true) : isDigit c = false := by
  by_contra hdigit
  simp only [isDigit, Bool.not_eq_false, Bool.and_eq_true, decide_eq_true_eq] at hdigit
  simp only [isNameStart, Bool.or_eq_true, Bool.and_eq_true, decide_eq_true_eq] at h
  rcases h with (h | h) | rfl
  · exact absurd (Char.le_trans h.1 hdigit.2) (by decide)
  · exact absurd (Char.le_trans h.1 hdigit.2) (by decide)
  · exact absurd hdigit.2 (by decide)

theorem readLexeme_name {c : Char} (h : isNameStart c = true) (r : List Char) :
    readLexeme c r = .ok (readName (c :: r)) := by
  have hcontinue : isNameContinue c = true := by simp [isNameContinue, h]
  have hothers : c ≠ '.' ∧ c ≠ '"' ∧ c ≠ '-' := by
    refine ⟨?_, ?_, ?_⟩ <;> rintro rfl <;> revert h <;> decide
  simp [readLexeme, ofChar?_of_isNameContinue hcontinue, hothers, not_isDigit_of_isNameStart h, h]

/-- What a character class holds of stops where the class ends. -/
theorem takeWhile_append_parted {p : Char → Bool} {l rest : List Char}
    (hl : ∀ c ∈ l, p c = true) (hp : ∀ c, isParting c = true → p c = false) (hr : Parted rest) :
    (l ++ rest).takeWhile p = l := by
  have hrest : rest.takeWhile p = [] := by
    cases rest with
    | nil => rfl
    | cons c rest => rw [List.takeWhile_cons, if_neg (by simp [hp c (hr c rfl)])]
  rw [List.takeWhile_append_of_pos hl, hrest, List.append_nil]

theorem whole_of_isName {l : List Char} (h : isName l = true) : Whole l := by
  cases l with
  | nil => cases h
  | cons c r =>
    rw [isName, Bool.and_eq_true] at h
    have hall : ∀ x ∈ c :: r, isNameContinue x = true := by
      rintro x (_ | ⟨_, hx⟩)
      · simp [isNameContinue, h.1]
      · exact List.all_eq_true.mp h.2 x hx
    refine ⟨fun hfeed => absurd (hall _ hfeed) (by decide), fun rest hrest => ?_⟩
    have hname : (c :: r ++ rest).takeWhile isNameContinue = c :: r :=
      takeWhile_append_parted hall (fun x hx => by simp_all [isParting]) hrest
    refine ⟨c, r ++ rest, _, rfl, begins_of_isNameContinue (hall c List.mem_cons_self),
      readLexeme_name h.1 _, ?_⟩
    rw [readName]
    dsimp only
    rw [← List.cons_append, hname, List.length_cons, Nat.add_sub_cancel, List.drop_left]

/-! ## Numbers -/

theorem charAt?_eq_getElem? (s : List Char) (i : Nat) : charAt? s i = s[i]? := by
  rw [charAt?, List.head?_drop]

theorem length_takeWhile_iff {p : Char → Bool} {t : List Char} {k : Nat} :
    (t.takeWhile p).length = k ↔ (∀ j < k, t[j]?.any p = true) ∧ t[k]?.any p = false := by
  induction t generalizing k with
  | nil =>
    cases k with
    | zero => simp
    | succ k => exact iff_of_false (fun h => nomatch h) fun h => nomatch h.1 0 k.succ_pos
  | cons c t ih =>
    cases k with
    | zero => cases hc : p c <;> simp [hc]
    | succ k =>
      rw [Nat.forall_lt_succ_left, List.getElem?_cons_zero, List.getElem?_cons_succ, and_assoc]
      simp only [List.getElem?_cons_succ, ← ih]
      cases hc : p c <;> simp [hc]

theorem digitsFrom_eq_ok_iff {s : List Char} {pos stop : Nat} : digitsFrom s pos = .ok stop ↔
    pos < stop ∧ (∀ i, pos ≤ i → i < stop → (charAt? s i).any isDigit = true) ∧
      (charAt? s stop).any isDigit = false := by
  have hlength : pos < stop → (((s.drop pos).takeWhile isDigit).length = stop - pos ↔
      (∀ i, pos ≤ i → i < stop → (charAt? s i).any isDigit = true) ∧
        (charAt? s stop).any isDigit = false) := by
    intro hlt
    rw [length_takeWhile_iff, List.getElem?_drop, Nat.add_sub_cancel' hlt.le,
      charAt?_eq_getElem?]
    refine and_congr_left fun _ => ⟨fun h i hle hi => ?_, fun h j hj => ?_⟩
    · have hi := h (i - pos) (by omega)
      rwa [List.getElem?_drop, Nat.add_sub_cancel' hle, ← charAt?_eq_getElem?] at hi
    · rw [List.getElem?_drop, ← charAt?_eq_getElem?]
      exact h (pos + j) (by omega) (by omega)
  unfold digitsFrom
  dsimp only
  split
  next hnil =>
    rw [List.isEmpty_iff_length_eq_zero] at hnil
    refine iff_of_false (fun h => nomatch h) fun ⟨hlt, h⟩ => ?_
    have := (hlength hlt).mpr h
    omega
  next hne =>
    rw [List.isEmpty_iff_length_eq_zero] at hne
    rw [Except.ok.injEq]
    constructor
    · intro h
      have hlt : pos < stop := by omega
      exact ⟨hlt, (hlength hlt).mp (by omega)⟩
    · rintro ⟨hlt, h⟩
      have := (hlength hlt).mpr h
      omega

/-- The other text has the same characters up to an end, where it is parted from what follows. -/
structure CutAt (stop : Nat) (s s' : List Char) : Prop where
  same : ∀ i < stop, charAt? s' i = charAt? s i
  parted : Parted (s'.drop stop)

namespace CutAt

variable {stop i : Nat} {s s' : List Char} {p : Char → Bool}

theorem any_eq_false (h : CutAt stop s s') (hp : ∀ c, isParting c = true → p c = false)
    (hi : i ≤ stop) (hs : (charAt? s i).any p = false) : (charAt? s' i).any p = false := by
  rcases hi.lt_or_eq with hlt | rfl
  · rw [h.same i hlt, hs]
  · cases hc : charAt? s' i with
    | none => rfl
    | some c => exact hp c (h.parted c hc)

theorem ne_some {x : Char} (h : CutAt stop s s') (hx : isParting x = false) (hi : i ≤ stop)
    (hs : charAt? s i ≠ some x) : charAt? s' i ≠ some x := by
  rcases hi.lt_or_eq with hlt | rfl
  · rwa [h.same i hlt]
  · intro hc
    rw [h.parted x hc] at hx
    cases hx

theorem digitsFrom (h : CutAt stop s s') {pos e : Nat} (he : e ≤ stop)
    (hs : Lexer.digitsFrom s pos = .ok e) : Lexer.digitsFrom s' pos = .ok e := by
  obtain ⟨hlt, hdigits, hend⟩ := digitsFrom_eq_ok_iff.mp hs
  refine digitsFrom_eq_ok_iff.mpr ⟨hlt, fun i hle hi => ?_, ?_⟩
  · rw [h.same i (by omega)]
    exact hdigits i hle hi
  · exact h.any_eq_false (fun c hc => by simp_all [isParting, isNameContinue]) he hend

theorem wholeFrom (h : CutAt stop s s') {pos e : Nat} (he : e ≤ stop)
    (hs : Lexer.wholeFrom s pos = .ok e) : Lexer.wholeFrom s' pos = .ok e := by
  unfold Lexer.wholeFrom at hs ⊢
  split at hs
  next hzero =>
    split at hs
    · cases hs
    next hdigit =>
      obtain rfl := Except.ok.inj hs
      rw [h.same pos (by omega), if_pos hzero, if_neg]
      rw [Bool.not_eq_true] at hdigit ⊢
      exact h.any_eq_false (fun c hc => by simp_all [isParting, isNameContinue]) he hdigit
  next hzero =>
    have hlt := (digitsFrom_eq_ok_iff.mp hs).1
    rw [h.same pos (by omega), if_neg hzero]
    exact h.digitsFrom he hs

theorem fractionFrom (h : CutAt stop s s') {pos e : Nat} (he : e ≤ stop)
    (hs : Lexer.fractionFrom s pos = .ok e) : Lexer.fractionFrom s' pos = .ok e := by
  unfold Lexer.fractionFrom at hs ⊢
  split at hs
  next hpoint =>
    have hlt := (digitsFrom_eq_ok_iff.mp hs).1
    rw [h.same pos (by omega), if_pos hpoint]
    exact h.digitsFrom he hs
  next hpoint =>
    obtain rfl := Except.ok.inj hs
    rw [if_neg (h.ne_some (by decide) he hpoint)]

theorem exponentFrom (h : CutAt stop s s') {pos e : Nat} (he : e ≤ stop)
    (hs : Lexer.exponentFrom s pos = .ok e) : Lexer.exponentFrom s' pos = .ok e := by
  unfold Lexer.exponentFrom at hs ⊢
  split at hs
  next hletter =>
    split at hs
    all_goals
      have hlt := (digitsFrom_eq_ok_iff.mp hs).1
      rw [h.same pos (by omega), if_pos hletter, h.same (pos + 1) (by omega)]
    · rw [if_pos ‹_›]
      exact h.digitsFrom he hs
    · rw [if_neg ‹_›]
      exact h.digitsFrom he hs
  next hletter =>
    obtain rfl := Except.ok.inj hs
    rw [if_neg]
    rw [Bool.not_eq_true] at hletter ⊢
    refine h.any_eq_false (fun c hc => ?_) he hletter
    by_contra hc'
    simp only [Bool.not_eq_false, Bool.or_eq_true, decide_eq_true_eq] at hc'
    rcases hc' with rfl | rfl <;> revert hc <;> decide

end CutAt

def isNumeric (c : Char) : Bool :=
  isDigit c || c = '-' || c = '+' || c = '.' || c = 'e' || c = 'E'

/-- Only characters of numbers stand between two positions. -/
def NumericFrom (s : List Char) (pos stop : Nat) : Prop :=
  pos ≤ stop ∧ ∀ i, pos ≤ i → i < stop → (charAt? s i).any isNumeric = true

theorem NumericFrom.trans {s : List Char} {pos mid stop : Nat} (h : NumericFrom s pos mid)
    (h' : NumericFrom s mid stop) : NumericFrom s pos stop := by
  refine ⟨h.1.trans h'.1, fun i hle hi => ?_⟩
  rcases Nat.lt_or_ge i mid with hmid | hmid
  · exact h.2 i hle hmid
  · exact h'.2 i hmid hi

theorem numericFrom_self (s : List Char) (pos : Nat) : NumericFrom s pos pos :=
  ⟨le_rfl, fun _ hle hlt => absurd (hle.trans_lt hlt) (lt_irrefl _)⟩

theorem numericFrom_succ {s : List Char} {pos : Nat} {p : Char → Bool}
    (h : (charAt? s pos).any p = true) (hp : ∀ c, p c = true → isNumeric c = true) :
    NumericFrom s pos (pos + 1) := by
  refine ⟨Nat.le_succ pos, fun i hle hi => ?_⟩
  obtain rfl : i = pos := by omega
  cases hc : charAt? s i with
  | none => simp [hc] at h
  | some c => exact hp c (by simpa [hc] using h)

theorem numericFrom_digits {s : List Char} {pos stop : Nat} (h : digitsFrom s pos = .ok stop) :
    NumericFrom s pos stop := by
  obtain ⟨hlt, hdigits, -⟩ := digitsFrom_eq_ok_iff.mp h
  refine ⟨hlt.le, fun i hle hi => ?_⟩
  have hdigit := hdigits i hle hi
  cases hc : charAt? s i with
  | none => simp [hc] at hdigit
  | some c => simp_all [isNumeric]

theorem numericFrom_whole {s : List Char} {pos stop : Nat} (h : wholeFrom s pos = .ok stop) :
    pos < stop ∧ NumericFrom s pos stop := by
  unfold wholeFrom at h
  split at h
  next hzero =>
    split at h
    · cases h
    · obtain rfl := Except.ok.inj h
      refine ⟨Nat.lt_succ_self pos, numericFrom_succ (p := (· = '0')) (by simp [hzero]) ?_⟩
      rintro c hc
      obtain rfl := of_decide_eq_true hc
      decide
  next => exact ⟨(digitsFrom_eq_ok_iff.mp h).1, numericFrom_digits h⟩

theorem numericFrom_fraction {s : List Char} {pos stop : Nat} (h : fractionFrom s pos = .ok stop) :
    NumericFrom s pos stop := by
  unfold fractionFrom at h
  split at h
  next hpoint =>
    refine (numericFrom_succ (p := (· = '.')) (by simp [hpoint]) ?_).trans (numericFrom_digits h)
    rintro c hc
    obtain rfl := of_decide_eq_true hc
    decide
  next =>
    obtain rfl := Except.ok.inj h
    exact numericFrom_self s pos

theorem numericFrom_exponent {s : List Char} {pos stop : Nat} (h : exponentFrom s pos = .ok stop) :
    NumericFrom s pos stop := by
  unfold exponentFrom at h
  split at h
  next hletter =>
    refine (numericFrom_succ hletter fun c hc => ?_).trans ?_
    · rw [Bool.or_eq_true, decide_eq_true_eq, decide_eq_true_eq] at hc
      rcases hc with rfl | rfl <;> decide
    · split at h
      next hsign =>
        refine (numericFrom_succ hsign fun c hc => ?_).trans (numericFrom_digits h)
        rw [Bool.or_eq_true, decide_eq_true_eq, decide_eq_true_eq] at hc
        rcases hc with rfl | rfl <;> decide
      next => exact numericFrom_digits h
  next =>
    obtain rfl := Except.ok.inj h
    exact numericFrom_self s pos

/-- The positions that a number is read by. -/
structure NumberParts (s : List Char) (whole fraction stop : Nat) : Prop where
  whole_eq : wholeFrom s (if s.head? = some '-' then 1 else 0) = .ok whole
  fraction_eq : fractionFrom s whole = .ok fraction
  exponent_eq : exponentFrom s fraction = .ok stop
  parted : ((charAt? s stop).any fun c => c = '.' || isNameStart c) = false

theorem readNumber_eq_ok {s : List Char} {l : Lexeme} (h : readNumber s = .ok l) :
    ∃ whole fraction stop, NumberParts s whole fraction stop ∧
      l.value = String.ofList (s.take stop) ∧ (l.kind = .int ∨ l.kind = .float) := by
  obtain ⟨whole, hwhole, h⟩ := exists_of_bind_eq_ok h
  obtain ⟨fraction, hfraction, h⟩ := exists_of_bind_eq_ok h
  obtain ⟨stop, hstop, h⟩ := exists_of_bind_eq_ok h
  dsimp only at h
  by_cases hparted : ((charAt? s stop).any fun c => c = '.' || isNameStart c) = true
  · rw [if_pos hparted] at h
    cases h
  · rw [if_neg hparted] at h
    rw [Bool.not_eq_true] at hparted
    obtain rfl := Except.ok.inj h
    refine ⟨whole, fraction, stop, ⟨hwhole, hfraction, hstop, hparted⟩, rfl, ?_⟩
    dsimp only
    split
    · exact .inl rfl
    · exact .inr rfl

theorem NumberParts.readNumber_eq {s : List Char} {whole fraction stop : Nat}
    (h : NumberParts s whole fraction stop) : ∃ l, readNumber s = .ok l ∧ l.extra = stop - 1 := by
  refine ⟨{ kind := if stop = whole then .int else .float, value := String.ofList (s.take stop),
            extra := stop - 1 }, ?_, rfl⟩
  unfold readNumber
  simp only [h.whole_eq, h.fraction_eq, h.exponent_eq, bind, Except.bind]
  rw [if_neg (by simp [h.parted])]
  rfl

theorem NumberParts.numeric {s : List Char} {whole fraction stop : Nat}
    (h : NumberParts s whole fraction stop) : 0 < stop ∧ NumericFrom s 0 stop := by
  obtain ⟨hlt, hwhole⟩ := numericFrom_whole h.whole_eq
  have htail := (numericFrom_fraction h.fraction_eq).trans (numericFrom_exponent h.exponent_eq)
  have hrest := hwhole.trans htail
  refine ⟨(Nat.zero_le _).trans_lt (hlt.trans_le htail.1), ?_⟩
  split at hrest
  next hminus =>
    have hsign : NumericFrom s 0 1 := by
      refine numericFrom_succ (p := (· = '-')) (by rw [charAt?, List.drop_zero]; simp [hminus]) ?_
      rintro c hc
      obtain rfl := of_decide_eq_true hc
      decide
    exact hsign.trans hrest
  next => exact hrest

/-- A number cut off at its end is read as before, whatever parts it from what follows. -/
theorem NumberParts.cut {s s' : List Char} {whole fraction stop : Nat}
    (h : NumberParts s whole fraction stop) (hcut : CutAt stop s s') :
    NumberParts s' whole fraction stop := by
  have hfraction := (numericFrom_fraction h.fraction_eq).1
  have hexponent := (numericFrom_exponent h.exponent_eq).1
  have hhead : s'.head? = s.head? := by
    have hzero := hcut.same 0 h.numeric.1
    rwa [charAt?, charAt?, List.drop_zero, List.drop_zero] at hzero
  refine ⟨?_, hcut.fractionFrom hexponent h.fraction_eq, hcut.exponentFrom le_rfl h.exponent_eq, ?_⟩
  · rw [hhead]
    exact hcut.wholeFrom (hfraction.trans hexponent) h.whole_eq
  · refine hcut.any_eq_false (fun c hc => ?_) le_rfl h.parted
    simp_all [isParting, isNameContinue]

theorem cutAt_take_append {s rest : List Char} {stop : Nat} (hstop : stop ≤ s.length)
    (hrest : Parted rest) : CutAt stop s (s.take stop ++ rest) := by
  have hlength : (s.take stop).length = stop := List.length_take_of_le hstop
  constructor
  · intro i hi
    rw [charAt?_eq_getElem?, charAt?_eq_getElem?, List.getElem?_append_left (by omega),
      List.getElem?_take_of_lt hi]
  · rwa [List.drop_left' hlength]

theorem readLexeme_number {c : Char} (h : isDigit c = true ∨ c = '-') (r : List Char) :
    begins c = true ∧ readLexeme c r = readNumber (c :: r) := by
  rcases h with h | rfl
  · have hcontinue : isNameContinue c = true := by simp [isNameContinue, h]
    have hothers : c ≠ '.' ∧ c ≠ '"' := by
      constructor <;> rintro rfl <;> revert h <;> decide
    refine ⟨begins_of_isNameContinue hcontinue, ?_⟩
    simp [readLexeme, ofChar?_of_isNameContinue hcontinue, hothers, h]
  · exact ⟨by decide, rfl⟩

theorem whole_of_readNumber {c : Char} {r : List Char} {l : Lexeme}
    (hc : isDigit c = true ∨ c = '-') (h : readNumber (c :: r) = .ok l) : Whole l.value.toList := by
  obtain ⟨whole, fraction, stop, hparts, hvalue, -⟩ := readNumber_eq_ok h
  obtain ⟨hpos, -, hnumeric⟩ := hparts.numeric
  have hstop : stop ≤ (c :: r).length := by
    have hlast := hnumeric (stop - 1) (Nat.zero_le _) (by omega)
    rw [charAt?_eq_getElem?] at hlast
    by_contra hlong
    rw [List.getElem?_eq_none (by omega)] at hlast
    cases hlast
  rw [hvalue, String.toList_ofList]
  constructor
  · intro hfeed
    obtain ⟨i, hi, hget⟩ := List.mem_iff_getElem.mp hfeed
    rw [List.length_take_of_le hstop] at hi
    have hnum := hnumeric i (Nat.zero_le i) hi
    rw [List.getElem_take] at hget
    rw [charAt?_eq_getElem?, List.getElem?_eq_getElem (by omega), hget] at hnum
    revert hnum
    decide
  · intro rest hrest
    obtain ⟨l', hread, hextra⟩ := (hparts.cut (cutAt_take_append hstop hrest)).readNumber_eq
    obtain ⟨k, rfl⟩ : ∃ k, stop = k + 1 := ⟨stop - 1, by omega⟩
    have hnumber := readLexeme_number hc (r.take k ++ rest)
    refine ⟨c, r.take k ++ rest, l', rfl, hnumber.1, hnumber.2.trans hread, ?_⟩
    rw [hextra, Nat.add_sub_cancel, List.drop_left']
    exact List.length_take_of_le (Nat.le_of_succ_le_succ hstop)

end Lexer

end QueryLint
