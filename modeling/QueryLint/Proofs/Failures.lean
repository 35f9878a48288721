import QueryLint.Proofs.Faults
import QueryLint.Proofs.Overrides
import QueryLint.Proofs.Parsing
import QueryLint.Proofs.Stack

/-! # When a built-in rule fails

A document is read from a text, with spans or without, or put together from operations that lack
their selections and from definitions that were read. Either way the text that its layout is judged
by is read to its end, so the check of style does not break off. The other checks do not either, if
the vocabularies hold only texts and the stack has room for the calls that depth asks for. Where it
has not, what should be told of a deep document is lost, and a run tells of the failure instead.
-/

namespace QueryLint

/-! ## Documents and their texts -/

def Definition.IsRead (x : Definition) : Prop :=
  ∃ text located d, Document.parse text located = .ok d ∧ x ∈ d.definitions

theorem Definition.IsRead.written {x : Definition} (h : x.IsRead) :
    Parser.Written x := by
  obtain ⟨text, located, d, hd, hx⟩ := h
  exact (Document.written_of_parse hd).2.1 x hx

/-- The document was read, or put together from operations without selections followed by
definitions that were read. -/
inductive Document.Obtained : Document → Prop
  | read {d : Document} {text : List Char} {located : Bool}
      (h : Document.parse text located = .ok d) : Obtained d
  | assembled {os : List Operation} {xs : List Definition} {text : List Char}
      (hos : ∀ o ∈ os, o.selectionSet = none) (hxs : ∀ x ∈ xs, x.IsRead) :
      Obtained { definitions := os.map .operation ++ xs, text }

namespace Document

variable {d : Document}

/-- An operation without selections has no text at all. -/
theorem written_of_selectionSet_eq_none {o : Operation} (h : o.selectionSet = none) :
    Parser.Written (.operation o) := by
  intro text htext
  rw [Printer.definition?, Printer.operation?, h] at htext
  cases htext

theorem Obtained.written (h : d.Obtained) : ∀ x ∈ d.definitions, Parser.Written x := by
  cases h with
  | read h => exact (written_of_parse h).2.1
  | assembled hos hxs =>
    intro x hx
    rcases List.mem_append.mp hx with hx | hx
    · obtain ⟨o, ho, rfl⟩ := List.mem_map.mp hx
      exact written_of_selectionSet_eq_none (hos o ho)
    · exact (hxs x hx).written

theorem Obtained.ends_printed (h : d.Obtained) : (tokenize d.printed).Ends :=
  (woven_printed h.written).ends_tokenize

/-- The text a document was read from was read to its end, and otherwise the printed text is. -/
theorem Obtained.ends_sourceText (h : d.Obtained) : (tokenize d.sourceText).Ends := by
  cases hspan : d.span with
  | none =>
    rw [sourceText, hspan]
    exact h.ends_printed
  | some span =>
    cases h with
    | assembled _ _ => cases hspan
    | read h =>
      obtain ⟨hends, -, htext⟩ := written_of_parse h
      rw [sourceText, hspan, Option.isSome_some, if_pos rfl, htext]
      exact hends

end Document

namespace Linter

/-! ## Rules -/

variable {d : Document} {config : Config}

section Contribution

variable {title id description : String} {handle : Nat} {check check' : Context → Checked}
  {c : Context}

end Contribution

/-- An operation without selections whose name could not even be written. -/
def unwritable : Operation :=
  { kind := .mutation, name := some ⟨"two words", none⟩, declarations := [], directives := []
    selectionSet := none, span := none }

end Linter

end QueryLint
