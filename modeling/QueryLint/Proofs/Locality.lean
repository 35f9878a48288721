import Mathlib.Data.List.TakeWhile
import QueryLint.Proofs.Lexemes

/-! # Lexemes on one line

A source line ends at a line feed, at a carriage return or at the pair of both. Every lexeme but a
block string stands on one line. It is read from its own characters and one look at the next, and
that look does not tell one way of ending a line from the other.
-/

namespace QueryLint

theorem exists_of_map_eq_ok {ε α β : Type} {e : Except ε α} {f : α → β} {b : β}
    (h : e.map f = .ok b) : ∃ a, e = .ok a ∧ f a = b := by
  cases e with
  | error reason => cases h
  | ok a => exact ⟨a, rfl, Except.ok.inj h⟩

namespace Text

def endsLine (c : Char) : Bool :=
  c = '\n' || c = '\r'

/-- No character of the text ends a line. -/
def Unbroken (s : List Char) : Prop :=
  ∀ c ∈ s, endsLine c = false

instance (s : List Char) : Decidable (Unbroken s) :=
  List.decidableBAll _ s

theorem unbroken_nil : Unbroken [] :=
  fun _ h => nomatch h

theorem unbroken_cons {c : Char} {s : List Char} :
    Unbroken (c :: s) ↔ endsLine c = false ∧ Unbroken s :=
  List.forall_mem_cons

theorem Unbroken.append {s t : List Char} (hs : Unbroken s) (ht : Unbroken t) :
    Unbroken (s ++ t) :=
  List.forall_mem_append.mpr ⟨hs, ht⟩

/-- A class of characters without the line ends has only unbroken texts. -/
theorem unbroken_of_forall {p : Char → Bool} (hfeed : p '\n' = false) (hreturn : p '\r' = false)
    {s : List Char} (h : ∀ c ∈ s, p c = true) : Unbroken s := by
  intro c hc
  by_contra hends
  rw [Bool.not_eq_false, endsLine, Bool.or_eq_true, decide_eq_true_eq, decide_eq_true_eq] at hends
  have hp := h c hc
  rcases hends with rfl | rfl
  · exact absurd (hfeed ▸ hp) Bool.false_ne_true
  · exact absurd (hreturn ▸ hp) Bool.false_ne_true

end Text

namespace Lexer

open Text

/-! ## What follows -/

/-- A look at what follows tells the two apart only if both end a line. -/
def Alike (x y : Option Char) : Prop :=
  ∀ p : Char → Bool, p '\n' = false → p '\r' = false → y.any p = x.any p

theorem alike_rfl {x : Option Char} : Alike x x :=
  fun _ _ _ => rfl

theorem Alike.eq_some_iff {x y : Option Char} (h : Alike x y) {c : Char} (hc : endsLine c = false) :
    y = some c ↔ x = some c := by
  have hany : ∀ z : Option Char, z.any (· = c) = true ↔ z = some c := by
    intro z
    cases z <;> simp
  rw [← hany, ← hany, h]
  · rw [decide_eq_false_iff_not]
    rintro rfl
    cases hc
  · rw [decide_eq_false_iff_not]
    rintro rfl
    cases hc

/-- The two texts look alike up to a position. -/
def AlikeUpTo (stop : Nat) (s s' : List Char) : Prop :=
  ∀ i ≤ stop, Alike (charAt? s i) (charAt? s' i)

theorem alikeUpTo_append {t rest rest' : List Char} (h : Alike rest.head? rest'.head?) :
    AlikeUpTo t.length (t ++ rest) (t ++ rest') := by
  intro i hi
  rw [charAt?, charAt?]
  rcases hi.lt_or_eq with hlt | rfl
  · rw [List.drop_append_of_le_length hi, List.drop_append_of_le_length hi,
      List.head?_append_of_ne_nil _ (by simpa using hlt),
      List.head?_append_of_ne_nil _ (by simpa using hlt)]
    exact alike_rfl
  · rwa [List.drop_left, List.drop_left]

/-! ## Numbers -/

namespace AlikeUpTo

variable {stop pos e : Nat} {s s' : List Char}

theorem digitsFrom (h : AlikeUpTo stop s s') (he : e ≤ stop)
    (hs : Lexer.digitsFrom s pos = .ok e) : Lexer.digitsFrom s' pos = .ok e := by
  obtain ⟨hlt, hdigits, hend⟩ := digitsFrom_eq_ok_iff.mp hs
  refine digitsFrom_eq_ok_iff.mpr ⟨hlt, fun i hle hi => ?_, ?_⟩
  · rw [h i (by omega) _ rfl rfl]
    exact hdigits i hle hi
  · rw [h e he _ rfl rfl, hend]

theorem wholeFrom (h : AlikeUpTo stop s s') (he : e ≤ stop)
    (hs : Lexer.wholeFrom s pos = .ok e) : Lexer.wholeFrom s' pos = .ok e := by
  unfold Lexer.wholeFrom at hs ⊢
  split at hs
  next hzero =>
    split at hs
    · cases hs
    next hdigit =>
      obtain rfl := Except.ok.inj hs
      rw [if_pos (((h pos (by omega)).eq_some_iff rfl).mpr hzero), h (pos + 1) he _ rfl rfl,
        if_neg hdigit]
  next hzero =>
    have hlt := (digitsFrom_eq_ok_iff.mp hs).1
    rw [if_neg (hzero ∘ ((h pos (by omega)).eq_some_iff rfl).mp)]
    exact h.digitsFrom he hs

theorem fractionFrom (h : AlikeUpTo stop s s') (he : e ≤ stop)
    (hs : Lexer.fractionFrom s pos = .ok e) : Lexer.fractionFrom s' pos = .ok e := by
  have hle := (numericFrom_fraction hs).1
  have hpoint := (h pos (hle.trans he)).eq_some_iff (c := '.') rfl
  unfold Lexer.fractionFrom at hs ⊢
  split at hs
  · rw [if_pos (hpoint.mpr ‹_›)]
    exact h.digitsFrom he hs
  · rw [if_neg (mt hpoint.mp ‹_›), hs]

theorem exponentFrom (h : AlikeUpTo stop s s') (he : e ≤ stop)
    (hs : Lexer.exponentFrom s pos = .ok e) : Lexer.exponentFrom s' pos = .ok e := by
  have hle := (numericFrom_exponent hs).1
  unfold Lexer.exponentFrom at hs ⊢
  rw [h pos (hle.trans he) _ rfl rfl]
  split at hs
  next hletter =>
    have hlt : pos + 1 ≤ stop := by
      split at hs <;> have := (digitsFrom_eq_ok_iff.mp hs).1 <;> omega
    rw [if_pos hletter, h (pos + 1) hlt _ rfl rfl]
    split at hs
    · rw [if_pos ‹_›]
      exact h.digitsFrom he hs
    · rw [if_neg ‹_›]
      exact h.digitsFrom he hs
  next hletter => rw [if_neg hletter, hs]

end AlikeUpTo

theorem NumberParts.alike {s s' : List Char} {whole fraction stop : Nat}
    (h : NumberParts s whole fraction stop) (hs : AlikeUpTo stop s s') :
    NumberParts s' whole fraction stop := by
  have hfraction := (numericFrom_fraction h.fraction_eq).1
  have hexponent := (numericFrom_exponent h.exponent_eq).1
  have hminus : s'.head? = some '-' ↔ s.head? = some '-' :=
    (hs 0 (Nat.zero_le _)).eq_some_iff rfl
  refine ⟨?_, hs.fractionFrom hexponent h.fraction_eq, hs.exponentFrom le_rfl h.exponent_eq, ?_⟩
  · have hwhole := hs.wholeFrom (hfraction.trans hexponent) h.whole_eq
    simpa only [hminus] using hwhole
  · rw [hs stop le_rfl _ rfl rfl, h.parted]

theorem NumberParts.readNumber {s : List Char} {whole fraction stop : Nat}
    (h : NumberParts s whole fraction stop) : readNumber s = .ok
      { kind := if stop = whole then .int else .float, value := String.ofList (s.take stop),
        extra := stop - 1 } := by
  unfold Lexer.readNumber
  simp only [h.whole_eq, h.fraction_eq, h.exponent_eq, bind, Except.bind]
  rw [if_neg (by simp [h.parted])]
  rfl

/-! ## Escapes -/

theorem endsLine_of_hexValue? {c : Char} {d : Nat} (h : hexValue? c = some d) :
    endsLine c = false := by
  by_contra hends
  rw [Bool.not_eq_false, endsLine, Bool.or_eq_true, decide_eq_true_eq, decide_eq_true_eq] at hends
  rcases hends with rfl | rfl <;> cases h

/-- The fold has failed once it meets what is no digit. -/
theorem unbroken_of_hexNumber? {s : List Char} {n : Nat} (h : hexNumber? s = some n) :
    Unbroken s := by
  suffices hfold : ∀ (s : List Char) (n? : Option Nat) (n : Nat),
      s.foldl (fun n? c => do return 16 * (← n?) + (← hexValue? c)) n? = some n →
        n?.isSome = true ∧ Unbroken s from (hfold s (some 0) n h).2
  intro s
  induction s with
  | nil =>
    rintro n? n rfl
    exact ⟨rfl, unbroken_nil⟩
  | cons c s ih =>
    intro n? n h
    obtain ⟨hsome, hs⟩ := ih _ n h
    cases n? with
    | none => cases hsome
    | some m =>
      cases hc : hexValue? c with
      | none =>
        dsimp only at hsome
        rw [hc] at hsome
        cases hsome
      | some d => exact ⟨rfl, unbroken_cons.mpr ⟨endsLine_of_hexValue? hc, hs⟩⟩

theorem fourDigits_eq_ok {s : List Char} {n : Nat} (h : fourDigits s = .ok (some n)) :
    ∃ a b c d rest, s = a :: b :: c :: d :: rest ∧ Unbroken [a, b, c, d] ∧
      hexNumber? [a, b, c, d] = some n := by
  unfold fourDigits at h
  split at h
  · cases h
  · match s with
    | a :: b :: c :: d :: rest =>
      have hn := Except.ok.inj h
      exact ⟨a, b, c, d, rest, rfl, unbroken_of_hexNumber? hn, hn⟩
    | [] | [_] | [_, _] | [_, _, _] => simp at *

theorem fourDigits_of_hexNumber? {a b c d : Char} {n : Nat}
    (h : hexNumber? [a, b, c, d] = some n) (rest : List Char) :
    fourDigits (a :: b :: c :: d :: rest) = .ok (some n) := by
  unfold fourDigits
  rw [if_neg (by simp)]
  exact congrArg _ h

/-- An escape: its characters behind the backslash are on one line, and none behind them matters. -/
def EscapesBy (t : List Char) (e : Char) : Prop :=
  Unbroken t ∧ ∀ rest, readEscape ('\\' :: (t ++ rest)) = .ok (e, t.length)

theorem bracedDigits_eq_ok {s r : List Char} {size code extra : Nat} {e : Char}
    (h : bracedDigits s size code r = .ok (e, extra)) :
    ∃ t rest, r = t ++ rest ∧ extra = size + t.length - 1 ∧ 0 < t.length ∧ Unbroken t ∧
      ∀ s' rest', bracedDigits s' size code (t ++ rest') = .ok (e, extra) := by
  induction r generalizing size code with
  | nil => cases h
  | cons c r ih =>
    rw [bracedDigits] at h
    split at h
    · cases h
    next hsize =>
      split at h
      next hc =>
        split at h
        next hscalar =>
          cases h
          refine ⟨[c], r, rfl, rfl, Nat.one_pos, ?_, fun s' rest' => ?_⟩
          · subst hc
            exact unbroken_cons.mpr ⟨rfl, unbroken_nil⟩
          · rw [List.singleton_append, bracedDigits, if_neg hsize, if_pos hc, if_pos hscalar]
        · cases h
      next hc =>
        split at h
        next d hd =>
          obtain ⟨t, rest, rfl, hextra, hpos, ht, hread⟩ := ih h
          refine ⟨c :: t, rest, rfl, ?_, Nat.succ_pos _, ?_, fun s' rest' => ?_⟩
          · rw [List.length_cons]
            omega
          · exact unbroken_cons.mpr ⟨endsLine_of_hexValue? hd, ht⟩
          · rw [List.cons_append, bracedDigits, if_neg hsize, if_neg hc, hd]
            exact hread s' rest'
        · cases h

theorem trailingHalf_eq_ok {s : List Char} {high extra : Nat} {e : Char}
    (h : trailingHalf s high = .ok (e, extra)) :
    ∃ t rest, s.drop 6 = t ++ rest ∧ t.length = 6 ∧ extra = 11 ∧ Unbroken t ∧
      ∀ s' rest', s'.drop 6 = t ++ rest' → trailingHalf s' high = .ok (e, extra) := by
  unfold trailingHalf at h
  split at h
  · cases h
  next r hr =>
    split at h
    · cases h
    next r =>
      obtain ⟨low?, hlow, hpair⟩ := exists_of_bind_eq_ok h
      split at hpair
      next low =>
        obtain ⟨a, b, c, d, rest, rfl, hunbroken, hcode⟩ := fourDigits_eq_ok hlow
        split at hpair
        next hrange =>
          obtain ⟨rfl, rfl⟩ := Prod.mk.inj (Except.ok.inj hpair)
          refine ⟨['\\', 'u', a, b, c, d], rest, hr, rfl, rfl, ?_, fun s' rest' hs' => ?_⟩
          · exact unbroken_cons.mpr ⟨rfl, unbroken_cons.mpr ⟨rfl, hunbroken⟩⟩
          · unfold trailingHalf
            rw [hs']
            simp only [List.cons_append, List.nil_append]
            rw [fourDigits_of_hexNumber? hcode]
            simp only [bind, Except.bind]
            rw [if_pos hrange]
            rfl
        · cases hpair
      · cases hpair
    · cases h
  · cases h

theorem fixedEscape_eq_ok {r : List Char} {extra : Nat} {e : Char}
    (h : fixedEscape ('\\' :: 'u' :: r) = .ok (e, extra)) :
    ∃ t rest, r = t ++ rest ∧ extra = t.length + 1 ∧ 0 < t.length ∧ Unbroken t ∧
      ∀ rest', fixedEscape ('\\' :: 'u' :: (t ++ rest')) = .ok (e, extra) := by
  obtain ⟨n?, hn, h⟩ := exists_of_bind_eq_ok h
  split at h
  next n =>
    obtain ⟨a, b, c, d, rest, hr, hunbroken, hcode⟩ := fourDigits_eq_ok hn
    obtain rfl : r = a :: b :: c :: d :: rest := hr
    have hfixed : ∀ rest', fixedEscape ('\\' :: 'u' :: a :: b :: c :: d :: rest')
        = if isScalar n then .ok (Char.ofNat n, 5)
          else if n ≤ 0xDBFF then trailingHalf ('\\' :: 'u' :: a :: b :: c :: d :: rest') n
          else .error (badUnicode ('\\' :: 'u' :: a :: b :: c :: d :: rest') 6) := by
      intro rest'
      unfold fixedEscape
      rw [List.drop_succ_cons, List.drop_succ_cons, List.drop_zero, fourDigits_of_hexNumber? hcode]
      rfl
    split at h
    next hscalar =>
      cases h
      refine ⟨[a, b, c, d], rest, rfl, rfl, Nat.succ_pos _, hunbroken, fun rest' => ?_⟩
      exact (hfixed rest').trans (if_pos hscalar)
    next hscalar =>
      split at h
      next hhigh =>
        obtain ⟨t, rest₂, hdrop, hlength, rfl, ht, hread⟩ := trailingHalf_eq_ok h
        obtain rfl : rest = t ++ rest₂ := hdrop
        refine ⟨a :: b :: c :: d :: t, rest₂, rfl, ?_, Nat.succ_pos _, ?_, fun rest' => ?_⟩
        · simp [hlength]
        · exact hunbroken.append ht
        · refine (hfixed _).trans ?_
          rw [if_neg hscalar, if_pos hhigh]
          exact hread _ rest' rfl
      · cases h
  · cases h

theorem escapesBy_simple {c e : Char} (hu : c ≠ 'u') (he : simpleEscape? c = some e) :
    EscapesBy [c] e := by
  constructor
  · refine unbroken_cons.mpr ⟨?_, unbroken_nil⟩
    by_contra hends
    rw [Bool.not_eq_false, endsLine, Bool.or_eq_true, decide_eq_true_eq, decide_eq_true_eq] at hends
    rcases hends with rfl | rfl <;> cases he
  · intro rest
    unfold readEscape
    rw [List.singleton_append, List.drop_succ_cons, List.drop_zero]
    split
    · cases ‹_ = []›
    next heq =>
      cases heq
      exact absurd rfl hu
    next heq =>
      cases heq
      rw [he]
      rfl

theorem readEscape_eq_ok {r : List Char} {extra : Nat} {e : Char}
    (h : readEscape ('\\' :: r) = .ok (e, extra)) :
    ∃ t rest, r = t ++ rest ∧ t.length = extra ∧ EscapesBy t e := by
  unfold readEscape at h
  rw [List.drop_succ_cons, List.drop_zero] at h
  split at h
  · cases h
  next r =>
    split at h
    · cases h
    next r =>
      obtain ⟨t, rest, rfl, rfl, hpos, ht, hread⟩ := bracedDigits_eq_ok h
      refine ⟨'u' :: '\x7b' :: t, rest, rfl, ?_, ?_, fun rest' => ?_⟩
      · simp only [List.length_cons]
        omega
      · exact unbroken_cons.mpr ⟨rfl, unbroken_cons.mpr ⟨rfl, ht⟩⟩
      · have hlength : 3 + t.length - 1 = ('u' :: '\x7b' :: t).length := by
          simp only [List.length_cons]
          omega
        rw [← hlength]
        exact hread _ rest'
    next hbrace =>
      obtain ⟨t, rest, rfl, rfl, hpos, ht, hread⟩ := fixedEscape_eq_ok h
      refine ⟨'u' :: t, rest, rfl, rfl, unbroken_cons.mpr ⟨rfl, ht⟩, fun rest' => ?_⟩
      cases t with
      | nil => cases hpos
      | cons x t =>
        have hx : x ≠ '\x7b' := by
          rintro rfl
          exact hbrace _ rfl
        have hread := hread rest'
        unfold readEscape
        simpa [hx] using hread
  next c r hu =>
    split at h
    next e' he =>
      cases h
      exact ⟨[c], r, rfl, rfl, escapesBy_simple hu he⟩
    · cases h

/-! ## Strings -/

theorem stringFrom_eq_ok {s content : List Char} {pos stop : Nat}
    (h : stringFrom s pos = .ok (content, stop)) :
    ∃ t rest, s = t ++ rest ∧ stop = pos + t.length ∧ 0 < t.length ∧ Unbroken t ∧
      ∀ rest', stringFrom (t ++ rest') pos = .ok (content, stop) := by
  fun_induction stringFrom s pos generalizing content stop with
  | case1 pos => cases h
  | case2 pos r =>
    cases h
    refine ⟨['"'], r, rfl, rfl, Nat.one_pos, unbroken_cons.mpr ⟨rfl, unbroken_nil⟩, fun rest' => ?_⟩
    rw [List.singleton_append, stringFrom]
  | case3 pos r f hf => cases h
  | case4 pos r c extra hescape ih =>
    obtain ⟨⟨content, stop⟩, hrest, heq⟩ := exists_of_map_eq_ok h
    cases heq
    obtain ⟨t, rest, rfl, rfl, ht, hread⟩ := readEscape_eq_ok hescape
    rw [List.drop_left] at hrest ih
    obtain ⟨u, rest, rfl, rfl, hpos, hu, hstring⟩ := ih hrest
    refine ⟨'\\' :: (t ++ u), rest, by simp, ?_, Nat.succ_pos _,
      unbroken_cons.mpr ⟨rfl, ht.append hu⟩, fun rest' => ?_⟩
    · simp only [List.length_cons, List.length_append]
      omega
    · rw [List.cons_append, List.append_assoc, stringFrom, hread]
      dsimp only
      rw [List.drop_left, hstring]
      rfl
  | case5 pos c r hquote hbackslash hends => cases h
  | case6 pos c r hquote hbackslash hends ih =>
    obtain ⟨⟨content, stop⟩, hrest, heq⟩ := exists_of_map_eq_ok h
    cases heq
    obtain ⟨t, rest, rfl, rfl, hpos, ht, hstring⟩ := ih hrest
    rw [Bool.not_eq_true] at hends
    refine ⟨c :: t, rest, rfl, ?_, Nat.succ_pos _, unbroken_cons.mpr ⟨hends, ht⟩, fun rest' => ?_⟩
    · rw [List.length_cons]
      omega
    · rw [List.cons_append, stringFrom, if_neg (by simpa using hends), hstring]
      · rfl
      · exact hquote
      · exact hbackslash

/-! ## Lexemes -/

/-- What the lines of a block string amount to. -/
def Block.toLexeme (b : Block) : Lexeme :=
  { kind := .blockString, value := String.ofList (joinLines (dedent b.lines))
    extra := b.stop - 1, breaks := b.lines.length - 1, lastLine := b.lastLine }

/-- The lexeme stands on one line, and what follows matters for it only by the next character. -/
def OnOneLine (c : Char) (r : List Char) (l : Lexeme) : Prop :=
  l.breaks = 0 ∧ ∃ t rest, r = t ++ rest ∧ t.length = l.extra ∧ Unbroken (c :: t) ∧
    ∀ rest', Alike rest.head? rest'.head? → readLexeme c (t ++ rest') = .ok l

theorem take_two_eq_iff {s : List Char} {a b : Char} :
    s.take 2 = [a, b] ↔ charAt? s 0 = some a ∧ charAt? s 1 = some b := by
  match s with
  | [] => simp [charAt?]
  | [x] => simp [charAt?]
  | x :: y :: s => simp [charAt?]

theorem onOneLine_string {r : List Char} {l : Lexeme} (hblock : r.take 2 ≠ ['"', '"'])
    (h : readString ('"' :: r) = .ok l) : OnOneLine '"' r l := by
  obtain ⟨⟨content, stop⟩, hstring, h⟩ := exists_of_bind_eq_ok h
  cases h
  obtain ⟨t, rest, hr, rfl, hpos, ht, hread⟩ := stringFrom_eq_ok hstring
  obtain rfl : r = t ++ rest := hr
  refine ⟨rfl, t, rest, rfl, ?_, unbroken_cons.mpr ⟨rfl, ht⟩, fun rest' halike => ?_⟩
  · exact (Nat.add_sub_cancel_left ..).symm
  · have hsame := alikeUpTo_append (t := t) halike
    have htake : (t ++ rest').take 2 ≠ ['"', '"'] := by
      rw [ne_eq, take_two_eq_iff] at hblock ⊢
      rwa [(hsame 0 (Nat.zero_le _)).eq_some_iff rfl, (hsame 1 hpos).eq_some_iff rfl]
    have hlexeme : readLexeme '"' (t ++ rest') = readString ('"' :: (t ++ rest')) := by
      simp [readLexeme, TokenKind.ofChar?, htake]
    rw [hlexeme, readString, List.drop_succ_cons, List.drop_zero, hread]
    rfl

theorem onOneLine_number {c : Char} {r : List Char} {l : Lexeme} (hc : isDigit c = true ∨ c = '-')
    (h : readNumber (c :: r) = .ok l) : OnOneLine c r l := by
  obtain ⟨whole, fraction, stop, hparts, -, -⟩ := readNumber_eq_ok h
  obtain ⟨hpos, -, hnumeric⟩ := hparts.numeric
  obtain ⟨k, rfl⟩ : ∃ k, stop = k + 1 := ⟨stop - 1, by omega⟩
  have hl := hparts.readNumber
  rw [h] at hl
  obtain rfl := Except.ok.inj hl
  have hk : k ≤ r.length := by
    have hlast := hnumeric k (Nat.zero_le _) k.lt_succ_self
    rw [charAt?_eq_getElem?] at hlast
    by_contra hlong
    rw [List.getElem?_eq_none (Nat.not_le.mp hlong)] at hlast
    cases hlast
  have hchars : ∀ x ∈ c :: r.take k, isNumeric x = true := by
    intro x hx
    rw [← List.take_succ_cons] at hx
    obtain ⟨i, hi, rfl⟩ := List.mem_iff_getElem.mp hx
    have hlt : i < k + 1 := (List.length_take_le _ _).trans_lt' hi
    have hnum := hnumeric i (Nat.zero_le _) hlt
    rw [charAt?_eq_getElem?, List.getElem?_eq_getElem (by simp at hi ⊢; omega)] at hnum
    rwa [List.getElem_take]
  refine ⟨rfl, r.take k, r.drop k, (List.take_append_drop k r).symm, List.length_take_of_le hk,
    unbroken_of_forall (by decide) (by decide) hchars, fun rest' halike => ?_⟩
  have hsame := alikeUpTo_append (t := c :: r.take k) halike
  rw [List.cons_append, List.take_append_drop, List.length_cons, List.length_take_of_le hk] at hsame
  rw [(readLexeme_number hc _).2, ← List.cons_append, (hparts.alike hsame).readNumber]
  rw [List.take_append_of_le_length (by simp [hk]), List.take_succ_cons, List.take_succ_cons,
    List.take_take, min_self]

theorem onOneLine_name {c : Char} (hc : isNameStart c = true) (r : List Char) :
    OnOneLine c r (readName (c :: r)) := by
  have hcontinue : isNameContinue c = true := by simp [isNameContinue, hc]
  have hname : ∀ s : List Char, readName (c :: s)
      = { kind := .name, value := String.ofList (c :: s.takeWhile isNameContinue),
          extra := (s.takeWhile isNameContinue).length } := by
    intro s
    rw [readName, List.takeWhile_cons, if_pos hcontinue]
    rfl
  have hchars : ∀ x ∈ c :: r.takeWhile isNameContinue, isNameContinue x = true := by
    rintro x (_ | ⟨_, hx⟩)
    · exact hcontinue
    · exact List.mem_takeWhile_imp hx
  rw [hname]
  refine ⟨rfl, r.takeWhile isNameContinue, r.dropWhile isNameContinue,
    List.takeWhile_append_dropWhile.symm, rfl, unbroken_of_forall (by decide) (by decide) hchars,
    fun rest' halike => ?_⟩
  have hstops : rest'.takeWhile isNameContinue = [] := by
    have hhead := halike isNameContinue (by decide) (by decide)
    have hdrop : (r.dropWhile isNameContinue).head?.any isNameContinue = false := by
      have hhead := List.head?_dropWhile_not isNameContinue r
      cases hrest : (r.dropWhile isNameContinue).head? with
      | none => rfl
      | some x =>
        rw [hrest] at hhead
        exact hhead
    rw [hdrop] at hhead
    cases rest' with
    | nil => rfl
    | cons x rest' => exact List.takeWhile_cons_of_neg (by simpa using hhead)
  rw [readLexeme_name hc, hname, List.takeWhile_append_of_pos fun x hx => List.mem_takeWhile_imp hx,
    hstops, List.append_nil]

/-- A lexeme stands on one line, or it is a block string. -/
theorem readLexeme_eq_ok {c : Char} {r : List Char} {l : Lexeme} (h : readLexeme c r = .ok l) :
    OnOneLine c r l ∨
      ∃ s b, c = '"' ∧ r = '"' :: '"' :: s ∧ blockFrom 3 s = .ok b ∧ l = b.toLexeme := by
  cases hkind : TokenKind.ofChar? c with
  | some kind =>
    rw [readLexeme, hkind] at h
    cases h
    refine .inl ⟨rfl, [], r, rfl, rfl, unbroken_cons.mpr ⟨?_, unbroken_nil⟩, fun rest' _ => ?_⟩
    · have hbegins := begins_of_ofChar? hkind
      simp_all [begins, endsLine]
    · rw [readLexeme, hkind, List.nil_append]
  | none =>
    rw [readLexeme, hkind] at h
    dsimp only at h
    split at h
    next hspread =>
      simp only [Bool.and_eq_true, decide_eq_true_eq] at hspread
      obtain ⟨rfl, htake⟩ := hspread
      cases h
      refine .inl ⟨rfl, ['.', '.'], r.drop 2, ?_, rfl, by decide, fun rest' _ => rfl⟩
      rw [← htake, List.take_append_drop]
    · split at h
      next hquote =>
        subst hquote
        split at h
        next hblock =>
          obtain ⟨b, hb, h⟩ := exists_of_bind_eq_ok h
          cases h
          refine .inr ⟨r.drop 2, b, rfl, ?_, hb, rfl⟩
          conv_lhs => rw [← List.take_append_drop 2 r, hblock]
          rfl
        next hblock => exact .inl (onOneLine_string hblock h)
      · split at h
        next hnumber =>
          rw [Bool.or_eq_true, decide_eq_true_eq] at hnumber
          exact .inl (onOneLine_number hnumber h)
        · split at h
          next hname =>
            cases h
            exact .inl (onOneLine_name hname r)
          · split at h <;> cases h

end Lexer

end QueryLint
