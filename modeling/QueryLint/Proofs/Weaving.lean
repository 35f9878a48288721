import QueryLint.Document.Printer
import QueryLint.Proofs.Lexemes

/-! # Texts made of lexemes

A text is woven if it is put together from lexemes with the marks between them that keep one from
running into the next. Such a text is read to its end, and it stays woven when its lines are
indented and when another woven text follows that begins with a mark.
-/

namespace QueryLint

namespace Lexer

/-! ## Strings -/

open Printer in
theorem hexUpper_cases {n : Nat} (h : n < 0xA0) : ∃ a b c d, hexUpper n = [a, b, c, d] ∧
    a ≠ '\x7b' ∧ (hexNumber? [a, b, c, d]).any isScalar = true ∧ '\n' ∉ [a, b, c, d] := by
  have hall : ∀ n < 0xA0, (hexUpper n).length = 3 + 1 ∧ (hexUpper n).head? ≠ some '\x7b' ∧
      (hexNumber? (hexUpper n)).any isScalar = true ∧ '\n' ∉ hexUpper n := by decide +kernel
  obtain ⟨hlength, hbrace, hscalar, hfeed⟩ := hall n h
  obtain ⟨a, s, hs⟩ := List.exists_cons_of_length_eq_add_one hlength
  rw [hs] at hlength hbrace hscalar hfeed
  obtain ⟨b, c, d, rfl⟩ := List.length_eq_three.mp (Nat.succ.inj hlength)
  exact ⟨a, b, c, d, hs, fun ha => hbrace (congrArg some ha), hscalar, hfeed⟩

theorem stringFrom_simpleEscape {x e : Char} (h : simpleEscape? x = some e)
    (t : List Char) (pos : Nat) : stringFrom ('\\' :: x :: t) pos
      = (stringFrom t (pos + 2)).map fun (cs, stop) => (e :: cs, stop) := by
  have hx : x ≠ 'u' := by
    rintro rfl
    cases h
  rw [stringFrom]
  simp [readEscape, h]

theorem stringFrom_unicodeEscape {n : Nat} (h : n < 0xA0) (t : List Char) (pos : Nat) :
    ∃ e, stringFrom ('\\' :: 'u' :: (Printer.hexUpper n ++ t)) pos
      = (stringFrom t (pos + 6)).map fun (cs, stop) => (e :: cs, stop) := by
  obtain ⟨a, b, c, d, heq, hbrace, hscalar, -⟩ := hexUpper_cases h
  cases hcode : hexNumber? [a, b, c, d] with
  | none => simp [hcode] at hscalar
  | some code =>
    have hscalar : isScalar code = true := by simpa [hcode] using hscalar
    have hdigits : fourDigits (a :: b :: c :: d :: t) = .ok (some code) := by
      rw [fourDigits, if_neg (by simp), ← hcode]
      rfl
    have hread : readEscape ('\\' :: 'u' :: a :: b :: c :: d :: t) = .ok (Char.ofNat code, 5) := by
      simp [readEscape, hbrace, fixedEscape, hdigits, bind, Except.bind, hscalar, pure, Except.pure]
    refine ⟨Char.ofNat code, ?_⟩
    rw [stringFrom, heq]
    simp [hread]

theorem stringFrom_plain {c : Char} (h : c ≠ '"' ∧ c ≠ '\\' ∧ c ≠ '\n' ∧ c ≠ '\r')
    (t : List Char) (pos : Nat) :
    stringFrom (c :: t) pos = (stringFrom t (pos + 1)).map fun (cs, stop) => (c :: cs, stop) := by
  rw [stringFrom]
  · simp [h.2.2.1, h.2.2.2]
  · exact h.1
  · exact h.2.1

/-- A character is written as a simple escape, by its code or as itself. -/
theorem escapeChar_cases (c : Char) :
    (∃ x e, Printer.escapeChar c = ['\\', x] ∧ simpleEscape? x = some e) ∨
      (c.toNat < 0xA0 ∧ Printer.escapeChar c = '\\' :: 'u' :: Printer.hexUpper c.toNat) ∨
      (Printer.escapeChar c = [c] ∧ c ≠ '"' ∧ c ≠ '\\' ∧ c ≠ '\n' ∧ c ≠ '\r') := by
  unfold Printer.escapeChar
  split
  · exact .inl ⟨'"', _, rfl, rfl⟩
  split
  · exact .inl ⟨'\\', _, rfl, rfl⟩
  split
  · exact .inl ⟨'b', _, rfl, rfl⟩
  split
  · exact .inl ⟨'t', _, rfl, rfl⟩
  split
  · exact .inl ⟨'n', _, rfl, rfl⟩
  split
  · exact .inl ⟨'f', _, rfl, rfl⟩
  split
  · exact .inl ⟨'r', _, rfl, rfl⟩
  split
  next hcontrol =>
    simp only [Bool.or_eq_true, Bool.and_eq_true, decide_eq_true_eq] at hcontrol
    exact .inr (.inl ⟨by omega, rfl⟩)
  next => exact .inr (.inr ⟨rfl, ‹_›, ‹_›, ‹_›, ‹_›⟩)

theorem stringFrom_escapeChar (c : Char) (t : List Char) (pos : Nat) :
    ∃ e, stringFrom (Printer.escapeChar c ++ t) pos
      = (stringFrom t (pos + (Printer.escapeChar c).length)).map
          fun (cs, stop) => (e :: cs, stop) := by
  rcases escapeChar_cases c with ⟨x, e, heq, he⟩ | ⟨hn, heq⟩ | ⟨heq, hc⟩ <;> rw [heq]
  · exact ⟨e, stringFrom_simpleEscape he t pos⟩
  · obtain ⟨a, b, c', d, hhex, -⟩ := hexUpper_cases hn
    obtain ⟨e, he⟩ := stringFrom_unicodeEscape hn t pos
    exact ⟨e, by rw [List.cons_append, List.cons_append, he, hhex]; rfl⟩
  · exact ⟨c, stringFrom_plain hc t pos⟩

theorem feed_not_mem_escapeChar (c : Char) : '\n' ∉ Printer.escapeChar c := by
  rcases escapeChar_cases c with ⟨x, e, heq, he⟩ | ⟨hn, heq⟩ | ⟨heq, hc⟩ <;> rw [heq]
  · have hx : x ≠ '\n' := by
      rintro rfl
      cases he
    simp [hx.symm]
  · obtain ⟨a, b, c', d, hhex, -, -, hfeed⟩ := hexUpper_cases hn
    simp [hhex] at hfeed ⊢
    exact hfeed
  · simp [hc.2.2.1.symm]

theorem head_escapeChar (c : Char) : ∃ x xs, Printer.escapeChar c = x :: xs ∧ x ≠ '"' := by
  rcases escapeChar_cases c with ⟨x, e, heq, he⟩ | ⟨hn, heq⟩ | ⟨heq, hc⟩
  · exact ⟨_, _, heq, by decide⟩
  · exact ⟨_, _, heq, by decide⟩
  · exact ⟨_, _, heq, hc.1⟩

theorem stringFrom_escaped (content rest : List Char) (pos : Nat) :
    ∃ cs, stringFrom (content.flatMap Printer.escapeChar ++ '"' :: rest) pos
      = .ok (cs, pos + (content.flatMap Printer.escapeChar).length + 1) := by
  induction content generalizing pos with
  | nil => exact ⟨[], by simp [stringFrom]⟩
  | cons c content ih =>
    obtain ⟨e, he⟩ := stringFrom_escapeChar c
      (content.flatMap Printer.escapeChar ++ '"' :: rest) pos
    obtain ⟨cs, hcs⟩ := ih (pos + (Printer.escapeChar c).length)
    refine ⟨e :: cs, ?_⟩
    rw [List.flatMap_cons, List.append_assoc, he, hcs, List.length_append, Nat.add_assoc pos]
    rfl

theorem whole_string (content : List Char) : Whole (Printer.string content) := by
  refine ⟨?_, fun rest hrest => ?_⟩
  · simp [Printer.string, feed_not_mem_escapeChar]
  · -- Two quotes in a row would begin a block string.
    have htake : (content.flatMap Printer.escapeChar ++ '"' :: rest).take 2 ≠ ['"', '"'] := by
      cases content with
      | nil =>
        cases rest with
        | nil => simp
        | cons c rest =>
          have hc := hrest c rfl
          rintro ⟨⟩
          revert hc
          decide
      | cons c content =>
        obtain ⟨x, xs, heq, hx⟩ := head_escapeChar c
        simp [heq, hx]
    obtain ⟨cs, hcs⟩ := stringFrom_escaped content rest 1
    have hread : readString ('"' :: (content.flatMap Printer.escapeChar ++ '"' :: rest))
        = .ok { kind := .string, value := String.ofList cs,
                extra := (content.flatMap Printer.escapeChar).length + 1 } := by
      rw [readString, List.drop_one, List.tail_cons, hcs, Nat.add_comm 1]
      rfl
    have hlexeme : readLexeme '"' (content.flatMap Printer.escapeChar ++ '"' :: rest)
        = readString ('"' :: (content.flatMap Printer.escapeChar ++ '"' :: rest)) := by
      simp [readLexeme, TokenKind.ofChar?, htake]
    refine ⟨'"', _, _, by simp [Printer.string], by decide, hlexeme.trans hread, ?_⟩
    simp [List.drop_append]

/-! ## Block strings -/

/-- What may stand between the quotes of a block string: three quotes only behind a backslash, and
neither a quote nor a backslash at the end. -/
inductive BlockBody : List Char → Prop
  | nil : BlockBody []
  | quotes {b : List Char} : BlockBody b → BlockBody ('\\' :: '"' :: '"' :: '"' :: b)
  | char {c : Char} {b : List Char} : c ≠ '"' → c ≠ '\\' → BlockBody b → BlockBody (c :: b)
  | quote {b : List Char} : b ≠ [] → ¬ ['"', '"'] <+: b → BlockBody b → BlockBody ('"' :: b)
  | backslash {b : List Char} : b ≠ [] → ¬ ['"', '"', '"'] <+: b → BlockBody b →
      BlockBody ('\\' :: b)

@[simp] theorem Block.stop_cons (piece : List Char) (k : Block) : (k.cons piece).stop = k.stop := by
  unfold Block.cons
  split <;> rfl

@[simp] theorem Block.stop_breakLine (start : Nat) (k : Block) :
    (k.breakLine start).stop = k.stop := rfl

theorem blockFrom_cons {c : Char} {r : List Char} {pos : Nat} {k : Block}
    (hquotes : ¬ ['"', '"', '"'] <+: c :: r) (hescape : ¬ ['\\', '"', '"', '"'] <+: c :: r)
    (h : blockFrom (pos + 1) r = .ok k) :
    ∃ k', blockFrom pos (c :: r) = .ok k' ∧ k'.stop = k.stop := by
  by_cases hbreak : ∃ r', c = '\r' ∧ r = '\n' :: r'
  · -- The pair of both breaks is one break, which ends where the line feed does.
    obtain ⟨r', rfl, rfl⟩ := hbreak
    rw [blockFrom, if_pos (by decide)] at h
    · cases hr' : blockFrom (pos + 2) r' with
      | error f =>
        rw [hr'] at h
        cases h
      | ok k' =>
        rw [hr'] at h
        obtain rfl := Except.ok.inj h
        refine ⟨k'.breakLine (pos + 2), ?_, rfl⟩
        rw [blockFrom, hr']
        rfl
    all_goals intros; simp_all
  · rw [blockFrom]
    · split
      · exact ⟨k.breakLine (pos + 1), by rw [h]; rfl, rfl⟩
      · exact ⟨k.cons [c], by rw [h]; rfl, k.stop_cons [c]⟩
    · rintro r' rfl rfl
      exact hquotes ⟨r', rfl⟩
    · rintro r' rfl rfl
      exact hescape ⟨r', rfl⟩
    · exact fun r' hc hr => hbreak ⟨r', hc, hr⟩

/-- A run of quotes does not reach into the closing ones unless it ends the body. -/
theorem BlockBody.prefix_of_prefix_append {b : List Char} (h : BlockBody b) (hne : b ≠ []) {n : Nat}
    {rest : List Char} (hn : List.replicate n '"' <+: b ++ rest) : List.replicate n '"' <+: b := by
  induction n generalizing b with
  | zero => exact List.nil_prefix
  | succ n ih =>
    cases h with
    | nil => exact absurd rfl hne
    | quotes _ => simp [List.replicate_succ] at hn
    | char hquote _ _ => simp [List.replicate_succ, hquote.symm] at hn
    | quote hb _ h =>
      rw [List.cons_append, List.replicate_succ, List.cons_prefix_cons] at hn
      rw [List.replicate_succ, List.cons_prefix_cons]
      exact ⟨rfl, ih h hb hn.2⟩
    | backslash _ _ _ => simp [List.replicate_succ] at hn

theorem BlockBody.exists_blockFrom {b : List Char} (h : BlockBody b) (rest : List Char)
    (pos : Nat) : ∃ k, blockFrom pos (b ++ '"' :: '"' :: '"' :: rest) = .ok k ∧
      k.stop = pos + b.length + 3 := by
  induction h generalizing pos with
  | nil => exact ⟨_, rfl, rfl⟩
  | @quotes b _ ih =>
    obtain ⟨k, hk, hstop⟩ := ih (pos + 4)
    refine ⟨k.cons ['"', '"', '"'], ?_, ?_⟩
    · simp only [List.cons_append, blockFrom, hk]
      rfl
    · simp only [Block.stop_cons, hstop, List.length_cons]
      omega
  | @char c b hquote hslash _ ih =>
    obtain ⟨k, hk, hstop⟩ := ih (pos + 1)
    obtain ⟨k', hk', hsame⟩ := blockFrom_cons (c := c) (by simp [hquote.symm])
      (by simp [hslash.symm]) hk
    exact ⟨k', hk', by rw [hsame, hstop, List.length_cons]; omega⟩
  | @quote b hne hquotes hb ih =>
    obtain ⟨k, hk, hstop⟩ := ih (pos + 1)
    have hrun : ¬ ['"', '"', '"'] <+: '"' :: (b ++ '"' :: '"' :: '"' :: rest) := by
      rw [List.cons_prefix_cons]
      exact fun hpre => hquotes (hb.prefix_of_prefix_append (n := 2) hne hpre.2)
    obtain ⟨k', hk', hsame⟩ := blockFrom_cons hrun (by simp) hk
    exact ⟨k', hk', by rw [hsame, hstop, List.length_cons]; omega⟩
  | @backslash b hne hquotes hb ih =>
    obtain ⟨k, hk, hstop⟩ := ih (pos + 1)
    have hrun : ¬ ['\\', '"', '"', '"'] <+: '\\' :: (b ++ '"' :: '"' :: '"' :: rest) := by
      rw [List.cons_prefix_cons]
      exact fun hpre => hquotes (hb.prefix_of_prefix_append (n := 3) hne hpre.2)
    obtain ⟨k', hk', hsame⟩ := blockFrom_cons (by simp) hrun hk
    exact ⟨k', hk', by rw [hsame, hstop, List.length_cons]; omega⟩

/-- A text between the quotes of a block string. -/
def blocked (b : List Char) : List Char :=
  '"' :: '"' :: '"' :: (b ++ ['"', '"', '"'])

theorem BlockBody.readsBefore {b : List Char} (h : BlockBody b) (rest : List Char) :
    ReadsBefore rest (blocked b) := by
  obtain ⟨k, hk, hstop⟩ := h.exists_blockFrom rest 3
  have hread : readLexeme '"' ('"' :: '"' :: (b ++ '"' :: '"' :: '"' :: rest))
      = .ok { kind := .blockString, value := String.ofList (joinLines (dedent k.lines)),
              extra := k.stop - 1, breaks := k.lines.length - 1, lastLine := k.lastLine } := by
    simp [readLexeme, TokenKind.ofChar?, readBlockString, hk, bind, Except.bind, pure, Except.pure]
  refine ⟨_, _, _, by simp [blocked], by decide, hread, ?_⟩
  have hextra : k.stop - 1 = b.length + 3 + 2 := by omega
  simp [hextra, List.drop_append]

theorem prefix_of_prefix_flatMap_indentChar {n : Nat} {b : List Char}
    (h : List.replicate n '"' <+: b.flatMap Printer.indentChar) : List.replicate n '"' <+: b := by
  induction n generalizing b with
  | zero => exact List.nil_prefix
  | succ n ih =>
    cases b with
    | nil => simp [List.replicate_succ] at h
    | cons c b =>
      rw [List.flatMap_cons, Printer.indentChar] at h
      split at h
      next => simp [List.replicate_succ] at h
      next =>
        rw [List.singleton_append, List.replicate_succ, List.cons_prefix_cons] at h
        rw [List.replicate_succ, List.cons_prefix_cons]
        exact ⟨h.1, ih h.2⟩

theorem flatMap_indentChar_of_not_mem {l : List Char} (h : '\n' ∉ l) :
    l.flatMap Printer.indentChar = l := by
  induction l with
  | nil => rfl
  | cons c l ih =>
    rw [List.mem_cons, not_or] at h
    rw [List.flatMap_cons, Printer.indentChar, if_neg (Ne.symm h.1), ih h.2]
    rfl

theorem BlockBody.indent {b : List Char} (h : BlockBody b) :
    BlockBody (b.flatMap Printer.indentChar) := by
  have hne : ∀ {b : List Char}, b ≠ [] → b.flatMap Printer.indentChar ≠ [] := by
    intro b hb
    cases b with
    | nil => exact absurd rfl hb
    | cons c b =>
      rw [List.flatMap_cons, Printer.indentChar]
      split <;> simp
  induction h with
  | nil => exact .nil
  | quotes _ ih => exact .quotes ih
  | @char c b hquote hslash _ ih =>
    rw [List.flatMap_cons, Printer.indentChar]
    split
    · exact .char (by decide) (by decide) (.char (by decide) (by decide)
        (.char (by decide) (by decide) ih))
    · exact .char hquote hslash ih
  | quote hb hquotes _ ih =>
    exact .quote (hne hb)
      (fun hpre => hquotes (prefix_of_prefix_flatMap_indentChar (n := 2) hpre)) ih
  | backslash hb hquotes _ ih =>
    exact .backslash (hne hb)
      (fun hpre => hquotes (prefix_of_prefix_flatMap_indentChar (n := 3) hpre)) ih

/-! ## Woven texts -/

/-- A text made of lexemes, apart by marks where one could run into the next. -/
inductive Woven : List Char → Prop
  | nil : Woven []
  | mark {c : Char} {rest : List Char} : isMark c = true → Woven rest → Woven (c :: rest)
  | spread {rest : List Char} : Woven rest → Woven ('.' :: '.' :: '.' :: rest)
  | whole {l rest : List Char} : Whole l → Parted rest → Woven rest → Woven (l ++ rest)
  | block {b rest : List Char} : BlockBody b → Woven rest → Woven (blocked b ++ rest)

namespace Woven

variable {a b : List Char}

/-- A woven text is read to its end. -/
theorem readable (h : Woven a) : Readable a := by
  induction h with
  | nil => exact readable_nil
  | @mark c rest hc _ ih =>
    rw [isMark, Bool.or_eq_true, Bool.or_eq_true, decide_eq_true_eq] at hc
    rcases hc with hc | hc
    · exact ih.blank hc
    · obtain ⟨kind, hkind⟩ := Option.isSome_iff_exists.mp hc
      exact ih.lexeme (readsBefore_punctuator hkind rest)
  | spread _ ih => exact ih.lexeme (readsBefore_spread _)
  | whole hl hrest _ ih => exact ih.lexeme (hl.reads _ hrest)
  | block hb _ ih => exact ih.lexeme (hb.readsBefore _)

theorem ends_tokenize (h : Woven a) : (tokenize a).Ends :=
  h.readable 0 1 0

theorem of_whole (h : Whole a) : Woven a := by
  have happend := whole h parted_nil nil
  rwa [List.append_nil] at happend

theorem append (ha : Woven a) (hb : Woven b) (hp : Parted b) : Woven (a ++ b) := by
  induction ha with
  | nil => exact hb
  | mark hc _ ih => exact ih.mark hc
  | spread _ ih => exact ih.spread
  | @whole l rest hl hrest _ ih =>
    rw [List.append_assoc]
    refine whole hl ?_ ih
    cases rest with
    | nil => exact hp
    | cons c rest => exact hrest
  | block hbody _ ih =>
    rw [List.append_assoc]
    exact block hbody ih

theorem marks {marks : List Char} (h : marks.all isMark = true) (ha : Woven a) :
    Woven (marks ++ a) := by
  induction marks with
  | nil => exact ha
  | cons c marks ih =>
    rw [List.all_cons, Bool.and_eq_true] at h
    exact mark h.1 (ih h.2)

theorem indent (h : Woven a) : Woven (a.flatMap Printer.indentChar) := by
  induction h with
  | nil => exact nil
  | @mark c rest hc _ ih =>
    rw [List.flatMap_cons, Printer.indentChar]
    split
    · exact mark (by decide) (mark (by decide) (mark (by decide) ih))
    · exact mark hc ih
  | spread _ ih => exact ih.spread
  | @whole l rest hl hrest _ ih =>
    rw [List.flatMap_append, flatMap_indentChar_of_not_mem hl.unbroken]
    refine whole hl ?_ ih
    cases rest with
    | nil => exact hrest
    | cons c rest =>
      rw [List.flatMap_cons, Printer.indentChar]
      split
      · exact parted_cons (by decide) _
      · exact fun c' hc' => hrest c' hc'
  | @block b rest hb _ ih =>
    have hblocked : (blocked b).flatMap Printer.indentChar
        = blocked (b.flatMap Printer.indentChar) := by
      simp [blocked, Printer.indentChar]
    rw [List.flatMap_append, hblocked]
    exact block hb.indent ih

end Woven

end Lexer

end QueryLint
