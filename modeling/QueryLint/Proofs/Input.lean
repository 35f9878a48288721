import QueryLint.Linter.Basic

/-! # Inputs that are documents

A text of blanks only is not a document: whatever the lexer does not skip of it begins no token, and
nothing at all is no definition. Hence a text is linted exactly if it can be read, and every other
input but the absent one ends in a single error.
-/

namespace QueryLint

namespace Lexer

open Text

theorem skip_rest_suffix (comment : Bool) (offset line lineStart : Nat) (s : List Char) :
    (skip comment offset line lineStart s).2.rest <:+ s := by
  fun_induction skip comment offset line lineStart s with
  | case1 => exact List.suffix_refl _
  | case2 offset line lineStart comment r gap cursor hs ih =>
    rw [hs] at ih
    exact (ih.trans (List.suffix_cons '\n' r)).trans (List.suffix_cons '\r' _)
  | case3 offset line lineStart comment c r _ _ gap cursor hs ih =>
    rw [hs] at ih
    exact ih.trans (List.suffix_cons c r)
  | case4 offset line lineStart comment c r _ _ _ gap cursor hs ih =>
    rw [hs] at ih
    exact ih.trans (List.suffix_cons c r)
  | case5 => exact List.suffix_refl _

theorem readLexeme_of_isBlank {c : Char} (hc : isBlank c = true) (r : List Char) :
    ∃ f, readLexeme c r = .error f := by
  have begins : blanks.all (fun b => decide (TokenKind.ofChar? b = none ∧ b ≠ '.' ∧ b ≠ '"' ∧
      b ≠ '-' ∧ b ≠ '\'' ∧ isDigit b = false ∧ isNameStart b = false)) = true := by decide
  obtain ⟨hk, hdot, hquote, hminus, hsingle, hdigit, hname⟩ :=
    of_decide_eq_true (List.all_eq_true.mp begins c (List.contains_iff_mem.mp hc))
  exact ⟨⟨.character c, 0⟩, by simp [readLexeme, hk, hdot, hquote, hminus, hsingle, hdigit, hname]⟩

theorem tokensFrom_of_allBlank {c : Cursor} (h : allBlank c.rest = true) :
    (∃ f, tokensFrom c = .broken f) ∨ ∃ t, tokensFrom c = .done t ∧ t.kind = .endOfText := by
  rw [tokensFrom]
  split
  · exact .inr ⟨_, rfl, rfl⟩
  · rename_i ch r hr
    have hmem : ch ∈ c.rest :=
      (skip_rest_suffix false c.offset c.line c.lineStart c.rest).subset (by rw [hr]; simp)
    obtain ⟨f, hf⟩ := readLexeme_of_isBlank (List.all_eq_true.mp h ch hmem) r
    exact .inl ⟨_, by rw [hf]⟩

end Lexer

/-- What is left to read at the end of a text is no definition. -/
theorem Parser.definition_endOfText {s : ParserState} (h : s.current.kind = .endOfText)
    (budget : Nat) :
    (Parser.definition budget).run s = .error ⟨.unexpected s.current, s.current.span.start⟩ := by
  simp [Parser.definition, Parser.peek, Parser.peekDescription, Parser.current, Parser.unexpected,
    Parser.failAt, h]
  rfl

theorem Document.parse_of_allBlank {s : List Char} (h : Text.allBlank s = true) :
    ∃ f, Document.parse s = .error f := by
  rcases Lexer.tokensFrom_of_allBlank (c := { rest := s }) h with ⟨f, hf⟩ | ⟨t, ht, hk⟩
  · exact ⟨f, by simp only [Document.parse, tokenize, hf]; rfl⟩
  · have hd := Parser.definition_endOfText (s := { current := t, ahead := .done t }) hk 2
    refine ⟨⟨.unexpected t, t.span.start⟩, ?_⟩
    simp only [StateT.run] at hd
    simp only [Document.parse, tokenize, ht, Parser.start, TokenStream.length, Parser.itemsUntil,
      bind, Except.bind, StateT.run, StateT.bind, hd]

/-- The document that an input is or can be read as. -/
def Input.document? : Input → Option Document
  | .nothing => none
  | .text s => (Document.parse s).toOption
  | .document d => some d
  | .unsupported _ => none

namespace Linter

variable {input : Input} {d : Document}

theorem prepare_text_of_parse {s : List Char} (h : Document.parse s = .ok d) :
    prepare (.text s) = .ok d := by
  cases hb : Text.allBlank s with
  | false => simp [prepare, hb, h]
  | true =>
    obtain ⟨f, hf⟩ := Document.parse_of_allBlank hb
    rw [h] at hf
    cases hf

theorem prepare_of_document? (h : input.document? = some d) : prepare input = .ok d := by
  cases input with
  | nothing => cases h
  | document d' => rw [prepare, Option.some.inj h]
  | unsupported typeName => cases h
  | text s =>
    cases hs : Document.parse s with
    | error f => simp [Input.document?, hs, Except.toOption] at h
    | ok d' =>
      simp only [Input.document?, hs, Except.toOption, Option.some.injEq] at h
      rw [prepare_text_of_parse hs, h]

theorem lint_of_document? (l : Linter) (h : input.document? = some d) :
    l.lint input = l.lintContext ⟨d, l.config⟩ := by
  rw [lint, prepare_of_document? h]

theorem severity_parseError (s : List Char) (f : FaultAt) : (parseError s f).severity = .error := by
  unfold parseError
  dsimp only
  split <;> rfl

/-- An input that is there but no document ends the run with one error, before any rule. -/
theorem prepare_of_document?_eq_none (h : input.document? = none) (hi : input ≠ .nothing) :
    ∃ e : Diagnostic, e.severity = .error ∧ prepare input = .error (.ofList [e]) := by
  cases input with
  | nothing => exact absurd rfl hi
  | document d => cases h
  | unsupported typeName => exact ⟨_, rfl, rfl⟩
  | text s =>
    cases hp : Document.parse s with
    | ok d => simp [Input.document?, hp, Except.toOption] at h
    | error f =>
      cases hb : Text.allBlank s with
      | true =>
        refine ⟨{ ruleId := "EMPTY_QUERY", message := "Query text is empty", severity := .error },
          rfl, ?_⟩
        rw [prepare, if_pos hb]
      | false => exact ⟨parseError s f, severity_parseError s f, by simp [prepare, hb, hp]⟩

end Linter

end QueryLint
