import QueryLint.Document.Parser
import QueryLint.Proofs.Printing

/-! # Documents that were read can be written

Every token that is read keeps what was read to its end readable, and the names and numbers among
the tokens can be written down again. From there on it goes up the grammar: what a parser returns is
written as a woven text. A document that was read therefore has a printed text that is read to its
end, and so is the text it was read from.
-/

namespace QueryLint

open Lexer

/-! ## Tokens -/

/-- The names and numbers among tokens can be written down again. -/
def Token.Legible (t : Token) : Prop :=
  t.kind = .name ∨ t.kind = .int ∨ t.kind = .float → Woven t.value.toList

/-- Every token is legible, and the end of the text is the last of them only. -/
def TokenStream.Legible : TokenStream → Prop
  | done t => t.kind = .endOfText
  | broken _ => True
  | more t next => t.Legible ∧ t.kind ≠ .endOfText ∧ next.Legible

theorem Token.legible_of_endOfText {t : Token} (h : t.kind = .endOfText) : t.Legible := by
  rintro (hk | hk | hk) <;> rw [h] at hk <;> cases hk

namespace Lexer

theorem isName_takeWhile {c : Char} (h : isNameStart c = true) (r : List Char) :
    isName ((c :: r).takeWhile isNameContinue) = true := by
  rw [List.takeWhile_cons, if_pos (by simp [isNameContinue, h]), isName, Bool.and_eq_true]
  exact ⟨h, List.all_takeWhile⟩

theorem kind_readString {s : List Char} {l : Lexeme} (h : readString s = .ok l) :
    l.kind = .string := by
  obtain ⟨content, -, h⟩ := exists_of_bind_eq_ok h
  rw [← Except.ok.inj h]

theorem kind_readBlockString {s : List Char} {l : Lexeme} (h : readBlockString s = .ok l) :
    l.kind = .blockString := by
  obtain ⟨block, -, h⟩ := exists_of_bind_eq_ok h
  rw [← Except.ok.inj h]

/-- What is read is no end of the text, and a name or a number is read again from its value. -/
theorem whole_of_readLexeme {c : Char} {r : List Char} {l : Lexeme} (h : readLexeme c r = .ok l) :
    l.kind ≠ .endOfText ∧
      (l.kind = .name ∨ l.kind = .int ∨ l.kind = .float → Whole l.value.toList) := by
  unfold readLexeme at h
  split at h
  next kind hkind =>
    obtain rfl := Except.ok.inj h
    unfold TokenKind.ofChar? at hkind
    split at hkind <;> cases hkind <;> simp
  split at h
  · obtain rfl := Except.ok.inj h
    simp
  split at h
  · split at h
    · simp [kind_readBlockString h]
    · simp [kind_readString h]
  split at h
  next hnumber =>
    rw [Bool.or_eq_true, decide_eq_true_eq] at hnumber
    obtain ⟨-, -, -, -, -, hkind⟩ := readNumber_eq_ok h
    refine ⟨?_, fun _ => whole_of_readNumber hnumber h⟩
    rcases hkind with hkind | hkind <;> simp [hkind]
  split at h
  next hstart =>
    obtain rfl := Except.ok.inj h
    refine ⟨by simp [readName], fun _ => ?_⟩
    rw [readName, String.toList_ofList]
    exact whole_of_isName (isName_takeWhile hstart r)
  split at h <;> cases h

theorem legible_tokensFrom (c : Cursor) : (tokensFrom c).Legible := by
  fun_induction tokensFrom c with
  | case1 c skipped hnil => rfl
  | case2 c skipped ch r hcons f hf => trivial
  | case3 c skipped ch r hcons l hl ih =>
    obtain ⟨hend, hwhole⟩ := whole_of_readLexeme hl
    exact ⟨fun hk => .of_whole (hwhole hk), hend, ih⟩

end Lexer

namespace Parser

/-! ## Sound parsers -/

/-- A state on the way through a stream of tokens: what is still to come is legible, the end of the
text is current only at the end of the stream, and if the rest is read to its end, so is all. -/
structure Along (stream : TokenStream) (s : ParserState) : Prop where
  current : s.current.Legible
  ahead : s.ahead.Legible
  atEnd : s.current.kind = .endOfText → s.ahead.Ends
  ends : s.ahead.Ends → stream.Ends

variable {α β : Type} {stream : TokenStream} {s : ParserState} {P : α → Prop} {Q : β → Prop}
  {p : Parser α} {f : α → Parser β}

/-- From a state on the way the parser comes to another one, with a result of a kind. -/
def SoundAt (stream : TokenStream) (s : ParserState) (p : Parser α) (P : α → Prop) : Prop :=
  Along stream s → ∀ x s', p.run s = .ok (x, s') → P x ∧ Along stream s'

def Sound (stream : TokenStream) (p : Parser α) (P : α → Prop) : Prop :=
  ∀ s, SoundAt stream s p P

theorem sound_pure {x : α} (h : P x) : Sound stream (pure x) P := by
  intro s hs y s' hrun
  cases hrun
  exact ⟨h, hs⟩

theorem sound_fail (offset : Nat) (fault : Fault) : Sound stream (failAt offset fault) P := by
  intro s hs y s' hrun
  cases hrun

theorem sound_unexpected (t : Token) : Sound stream (unexpected t) P :=
  sound_fail _ _

theorem SoundAt.bind (hp : SoundAt stream s p P) (hf : ∀ x, P x → Sound stream (f x) Q) :
    SoundAt stream s (p >>= f) Q := by
  intro hs y s' hrun
  rw [StateT.run_bind] at hrun
  obtain ⟨⟨x, s₁⟩, hx, hrun⟩ := exists_of_bind_eq_ok hrun
  obtain ⟨hPx, hs₁⟩ := hp hs x s₁ hx
  exact hf x hPx s₁ hs₁ y s' hrun

theorem Sound.bind (hp : Sound stream p P) (hf : ∀ x, P x → Sound stream (f x) Q) :
    Sound stream (p >>= f) Q :=
  fun s => (hp s).bind hf

theorem Sound.ite {b : Prop} [Decidable b] {q : Parser α} (hp : Sound stream p P)
    (hq : Sound stream q P) : Sound stream (if b then p else q) P := by
  split
  · exact hp
  · exact hq

theorem sound_current_bind {f : Token → Parser β}
    (h : ∀ s, s.current.Legible → SoundAt stream s (f s.current) Q) :
    Sound stream (current >>= f) Q :=
  fun s hs => h s hs.current hs

theorem sound_current : Sound stream current Token.Legible := by
  intro s hs t s' hrun
  cases hrun
  exact ⟨hs.current, hs⟩

theorem sound_lookahead : Sound stream lookahead fun _ => True := by
  rintro ⟨current, ahead, lastStop, located⟩ hs t s' hrun
  cases ahead <;> cases hrun
  all_goals exact ⟨trivial, hs⟩

theorem along_of_advance {s' : ParserState} (hs : Along stream s)
    (hrun : advance.run s = .ok ((), s')) :
    Along stream s' ∧ (s.ahead.Ends → s'.ahead.Ends) := by
  obtain ⟨current, ahead, lastStop, located⟩ := s
  obtain ⟨-, hahead, -, hends⟩ := hs
  cases ahead with
  | done t =>
    cases hrun
    exact ⟨⟨Token.legible_of_endOfText hahead, hahead, fun _ => TokenStream.ends_done t, hends⟩, id⟩
  | broken f => cases hrun
  | more t next =>
    cases hrun
    obtain ⟨ht, hkind, hnext⟩ := hahead
    have hmore : (TokenStream.more t next).Ends ↔ next.Ends := TokenStream.ends_more
    exact ⟨⟨ht, hnext, fun h => absurd h hkind, fun h => hends (hmore.mpr h)⟩, hmore.mp⟩

theorem sound_advance : Sound stream advance fun _ => True :=
  fun _ hs _ _ hrun => ⟨trivial, (along_of_advance hs hrun).1⟩

theorem sound_peek (kind : TokenKind) : Sound stream (peek kind) fun _ => True :=
  sound_current.bind fun _ _ => sound_pure trivial

theorem sound_peekKeyword (word : String) : Sound stream (peekKeyword word) fun _ => True :=
  sound_current.bind fun _ _ => sound_pure trivial

theorem sound_expect (kind : TokenKind) :
    Sound stream (expect kind) fun t => t.Legible ∧ t.kind = kind := by
  refine sound_current.bind fun t ht => ?_
  split
  next hkind => exact sound_advance.bind fun _ _ => sound_pure ⟨ht, beq_iff_eq.mp hkind⟩
  next => exact sound_fail _ _

theorem sound_accept (kind : TokenKind) : Sound stream (accept kind) fun _ => True :=
  (sound_peek kind).bind fun _ _ =>
    .ite (sound_advance.bind fun _ _ => sound_pure trivial) (sound_pure trivial)

theorem sound_expectKeyword (word : String) : Sound stream (expectKeyword word) fun _ => True :=
  (sound_peekKeyword word).bind fun _ _ =>
    .ite sound_advance (sound_current.bind fun _ _ => sound_fail _ _)

theorem sound_acceptKeyword (word : String) : Sound stream (acceptKeyword word) fun _ => True :=
  (sound_peekKeyword word).bind fun _ _ =>
    .ite (sound_advance.bind fun _ _ => sound_pure trivial) (sound_pure trivial)

theorem sound_spanFrom (first : Token) : Sound stream (spanFrom first) fun _ => True := by
  intro s hs x s' hrun
  cases hrun
  exact ⟨trivial, hs⟩

/-! ### Repetition -/

section Repetition

variable {item : Parser α}

theorem sound_itemsUntil (h : Sound stream item P) (close : TokenKind) (budget : Nat) :
    Sound stream (itemsUntil close item budget) fun xs => ∀ x ∈ xs, P x := by
  induction budget with
  | zero => exact sound_current.bind fun t _ => sound_unexpected t
  | succ budget ih =>
    refine h.bind fun x hx => (sound_accept close).bind fun _ _ => .ite (sound_pure ?_) ?_
    · exact List.forall_mem_singleton.mpr hx
    · exact ih.bind fun xs hxs => sound_pure (List.forall_mem_cons.mpr ⟨hx, hxs⟩)

theorem sound_many (h : Sound stream item P) (opening close : TokenKind) (budget : Nat) :
    Sound stream (many opening item close budget) fun xs => ∀ x ∈ xs, P x :=
  (sound_expect opening).bind fun _ _ => sound_itemsUntil h close budget

theorem sound_optionalMany (h : Sound stream item P) (opening close : TokenKind) (budget : Nat) :
    Sound stream (optionalMany opening item close budget) fun xs => ∀ x ∈ xs, P x :=
  (sound_peek opening).bind fun _ _ =>
    .ite (sound_many h opening close budget) (sound_pure fun _ hx => nomatch hx)

theorem sound_anyNumber (h : Sound stream item P) (opening close : TokenKind) (budget : Nat) :
    Sound stream (anyNumber opening item close budget) fun xs => ∀ x ∈ xs, P x :=
  (sound_expect opening).bind fun _ _ => (sound_accept close).bind fun _ _ =>
    .ite (sound_pure fun _ hx => nomatch hx) (sound_itemsUntil h close budget)

theorem sound_itemsWhile (h : Sound stream item P) (kind : TokenKind) (budget : Nat) :
    Sound stream (itemsWhile kind item budget) fun xs => ∀ x ∈ xs, P x := by
  induction budget with
  | zero => exact sound_pure fun _ hx => nomatch hx
  | succ budget ih =>
    refine (sound_peek kind).bind fun _ _ => .ite (h.bind fun x hx => ih.bind fun xs hxs => ?_) ?_
    · exact sound_pure (List.forall_mem_cons.mpr ⟨hx, hxs⟩)
    · exact sound_pure fun _ hx => nomatch hx

theorem sound_separated (h : Sound stream item P) (separator : TokenKind) (budget : Nat) :
    Sound stream (separated separator item budget) fun xs => ∀ x ∈ xs, P x := by
  induction budget with
  | zero => exact sound_current.bind fun t _ => sound_unexpected t
  | succ budget ih =>
    refine h.bind fun x hx => (sound_accept separator).bind fun _ _ => .ite ?_ (sound_pure ?_)
    · exact ih.bind fun xs hxs => sound_pure (List.forall_mem_cons.mpr ⟨hx, hxs⟩)
    · exact List.forall_mem_singleton.mpr hx

theorem sound_delimited (h : Sound stream item P) (separator : TokenKind) (budget : Nat) :
    Sound stream (delimited separator item budget) fun xs => ∀ x ∈ xs, P x :=
  (sound_accept separator).bind fun _ _ => sound_separated h separator budget

end Repetition

theorem sound_spanned {f : Option Span → α} (first : Token) (h : ∀ span, P (f span)) :
    Sound stream (do return f (← spanFrom first)) P :=
  (sound_spanFrom first).bind fun span _ => sound_pure (h span)

theorem sound_optional {b : Bool} (h : Sound stream p P) :
    Sound stream (if b then do return some (← p) else return none) fun x? => ∀ x ∈ x?, P x :=
  .ite (h.bind fun _ hx => sound_pure fun _ hy => Option.some.inj hy ▸ hx)
    (sound_pure fun _ hx => nomatch hx)

/-! ## Names, types and values -/

theorem sound_name : Sound stream name fun n => Woven (Printer.name n) :=
  (sound_expect .name).bind fun t ht => sound_spanned t fun _ => ht.1 (.inl ht.2)

theorem sound_namedType : Sound stream namedType fun t => Woven (Printer.namedType t) :=
  sound_current.bind fun t _ => sound_name.bind fun _ hn => sound_spanned t fun _ => hn

theorem sound_variableRef : Sound stream variableRef fun v => Woven (Printer.name v.name) :=
  (sound_expect .dollar).bind fun t _ => sound_name.bind fun _ hn => sound_spanned t fun _ => hn

theorem sound_typeRef (budget : Nat) :
    Sound stream (typeRef budget) fun t => Woven (Printer.typeRef t) := by
  induction budget with
  | zero => exact sound_current.bind fun t _ => sound_unexpected t
  | succ budget ih =>
    refine sound_current.bind fun t _ => ?_
    refine Sound.bind (P := fun t => Woven (Printer.typeRef t)) ?_ fun inner hinner => ?_
    · refine (sound_accept .bracketL).bind fun _ _ => .ite ?_ ?_
      · exact ih.bind fun inner hinner => (sound_expect .bracketR).bind fun _ _ =>
          sound_spanned t fun span => Printer.woven_listType hinner span
      · exact sound_namedType.bind fun _ ht => sound_pure ht
    · exact (sound_accept .bang).bind fun _ _ =>
        .ite (sound_spanned t fun span => Printer.woven_nonNull hinner span) (sound_pure hinner)

theorem sound_objectField {v : Parser Value} (h : Sound stream v fun x => Woven (Printer.value x)) :
    Sound stream (objectField v) fun f => Woven (Printer.objectField f) :=
  sound_current.bind fun t _ => sound_name.bind fun _ hn => (sound_expect .colon).bind fun _ _ =>
    h.bind fun _ hv => sound_spanned t fun _ => Printer.woven_objectField hn hv

theorem soundAt_namedValue (h : s.current.kind = .name) :
    SoundAt stream s namedValue fun v => Woven (Printer.value v) := by
  intro hs
  have hword : Woven s.current.value.toList := hs.current (.inl h)
  refine SoundAt.bind (P := fun t => Woven t.value.toList) ?_ (fun t ht => ?_) hs
  · intro _ t s' hrun
    cases hrun
    exact ⟨hword, hs⟩
  · refine sound_advance.bind fun _ _ => (sound_spanFrom t).bind fun span _ => sound_pure ?_
    split
    · rw [Printer.value]
      exact Printer.woven_word (by decide)
    · rw [Printer.value]
      exact Printer.woven_word (by decide)
    · rw [Printer.value]
      exact Printer.woven_word (by decide)
    · rw [Printer.value]
      exact ht

theorem sound_variableValue (const : Bool) :
    Sound stream (variableValue const) fun v => Woven (Printer.value v) := by
  unfold variableValue
  refine .ite ?_ ?_
  · exact (sound_expect .dollar).bind fun t _ => sound_current.bind fun _ _ =>
      .ite (sound_fail _ _) (sound_unexpected t)
  · refine sound_variableRef.bind fun v hv => sound_pure ?_
    rw [Printer.value]
    exact Printer.woven_variableRef hv

theorem sound_value (const : Bool) (budget : Nat) :
    Sound stream (value const budget) fun v => Woven (Printer.value v) := by
  induction budget with
  | zero => exact sound_current.bind fun t _ => sound_unexpected t
  | succ budget ih =>
    refine sound_current_bind fun s hcurrent => ?_
    split
    next =>
      refine SoundAt.bind (sound_anyNumber ih _ _ _ s) fun _ hvs => ?_
      exact sound_spanned _ fun span => Printer.woven_list hvs span
    next =>
      refine SoundAt.bind (sound_anyNumber (sound_objectField ih) _ _ _ s) fun _ hfs => ?_
      exact sound_spanned _ fun span => Printer.woven_object hfs span
    next hkind =>
      refine SoundAt.bind (sound_advance s) fun _ _ => sound_spanned _ fun span => ?_
      rw [Printer.value]
      exact hcurrent (.inr (.inl hkind))
    next hkind =>
      refine SoundAt.bind (sound_advance s) fun _ _ => sound_spanned _ fun span => ?_
      rw [Printer.value]
      exact hcurrent (.inr (.inr hkind))
    next =>
      refine SoundAt.bind (sound_advance s) fun _ _ => sound_spanned _ fun span => ?_
      rw [Printer.value]
      exact Printer.woven_stringOf _ _
    next =>
      refine SoundAt.bind (sound_advance s) fun _ _ => sound_spanned _ fun span => ?_
      rw [Printer.value]
      exact Printer.woven_stringOf _ _
    next hkind => exact soundAt_namedValue hkind
    next => exact sound_variableValue const s
    next => exact sound_unexpected _ s

/-! ## Arguments and directives -/

theorem sound_argument (const : Bool) (budget : Nat) :
    Sound stream (argument const budget) fun a => Woven (Printer.argument a) :=
  sound_current.bind fun t _ => sound_name.bind fun _ hn => (sound_expect .colon).bind fun _ _ =>
    (sound_value const budget).bind fun _ hv =>
      sound_spanned t fun _ => Printer.woven_argument hn hv

theorem sound_arguments (const : Bool) (budget : Nat) :
    Sound stream (arguments const budget) fun as => ∀ a ∈ as, Woven (Printer.argument a) :=
  sound_optionalMany (sound_argument const budget) _ _ _

theorem sound_directive (const : Bool) (budget : Nat) :
    Sound stream (directive const budget) fun d => Woven (Printer.directive d) :=
  (sound_expect .atSign).bind fun t _ => sound_name.bind fun _ hn =>
    (sound_arguments const budget).bind fun _ has =>
      sound_spanned t fun _ => Printer.woven_directive hn has

theorem sound_directives (const : Bool) (budget : Nat) :
    Sound stream (directives const budget) fun ds => ∀ d ∈ ds, Woven (Printer.directive d) :=
  sound_itemsWhile (sound_directive const budget) _ _

/-! ## Selections -/

theorem sound_fragmentName : Sound stream fragmentName fun n => Woven (Printer.name n) :=
  sound_current.bind fun t _ => .ite (sound_unexpected t) sound_name

section Selections

variable {body : Parser SelectionSet}

theorem sound_field (h : Sound stream body fun s => Woven (Printer.selectionSet s)) (budget : Nat) :
    Sound stream (field body budget) fun f => Woven (Printer.selection (.field f)) := by
  refine sound_current.bind fun t _ => sound_name.bind fun first hfirst => ?_
  refine Sound.bind (P := fun n : Option Name × Name =>
    (∀ a ∈ n.1, Woven (Printer.name a)) ∧ Woven (Printer.name n.2)) ?_ fun n hn => ?_
  · refine (sound_accept .colon).bind fun _ _ => .ite (sound_name.bind fun n hn => ?_) ?_
    · exact sound_pure ⟨fun _ h => Option.some.inj h ▸ hfirst, hn⟩
    · exact sound_pure ⟨(fun _ h => nomatch h), hfirst⟩
  · refine (sound_arguments false budget).bind fun args hargs =>
      (sound_directives false budget).bind fun dirs hdirs => ?_
    refine Sound.bind (P := fun s? => ∀ s ∈ s?, Woven (Printer.selectionSet s)) ?_ fun s? hs => ?_
    · exact (sound_peek .braceL).bind fun _ _ => sound_optional h
    · exact sound_spanned t fun _ => Printer.woven_field hn.1 hn.2 hargs hdirs hs

theorem sound_spreadSelection (h : Sound stream body fun s => Woven (Printer.selectionSet s))
    (budget : Nat) : Sound stream (spreadSelection body budget) fun x =>
      Woven (Printer.selection x) := by
  refine (sound_expect .spread).bind fun t _ => (sound_acceptKeyword "on").bind fun _ _ =>
    (sound_peek .name).bind fun _ _ => .ite ?_ ?_
  · exact sound_fragmentName.bind fun _ hn => (sound_directives false budget).bind fun _ hdirs =>
      sound_spanned t fun _ => Printer.woven_spread hn hdirs
  · refine (sound_optional sound_namedType).bind fun _ hc =>
      (sound_directives false budget).bind fun _ hdirs => h.bind fun _ hs => ?_
    exact sound_spanned t fun _ => Printer.woven_inlineFragment hc hdirs hs

theorem sound_selection (h : Sound stream body fun s => Woven (Printer.selectionSet s))
    (budget : Nat) : Sound stream (selection body budget) fun x => Woven (Printer.selection x) :=
  (sound_peek .spread).bind fun _ _ => .ite (sound_spreadSelection h budget)
    ((sound_field h budget).bind fun _ hf => sound_pure hf)

end Selections

theorem sound_selectionSet (budget : Nat) :
    Sound stream (selectionSet budget) fun s => Woven (Printer.selectionSet s) := by
  induction budget with
  | zero => exact sound_current.bind fun t _ => sound_unexpected t
  | succ budget ih =>
    exact sound_current.bind fun t _ => (sound_many (sound_selection ih budget) _ _ _).bind
      fun _ hitems => sound_spanned t fun _ => Printer.woven_selectionSet hitems

/-! ## Operations and fragments -/

theorem sound_operationKind : Sound stream operationKind fun _ => True := by
  refine (sound_expect .name).bind fun t _ => ?_
  split
  · exact sound_pure trivial
  · exact sound_unexpected t

theorem sound_defaultValue (budget : Nat) :
    Sound stream (do if ← accept .equals then return some (← value true budget) else return none)
      fun v? => ∀ v ∈ v?, Woven (Printer.value v) :=
  (sound_accept .equals).bind fun _ _ => sound_optional (sound_value true budget)

theorem sound_variableDefinition (budget : Nat) :
    Sound stream (variableDefinition budget) fun v => Woven (Printer.variableDefinition v) :=
  sound_current.bind fun t _ => sound_variableRef.bind fun _ hr =>
    (sound_expect .colon).bind fun _ _ => (sound_typeRef budget).bind fun _ ht =>
      (sound_defaultValue budget).bind fun _ hv => (sound_directives true budget).bind fun _ hd =>
        sound_spanned t fun _ => Printer.woven_variableDefinition hr ht hv hd

/-- The definition is written as a woven text, if it is written at all. -/
def Written (x : Definition) : Prop :=
  ∀ text ∈ Printer.definition? x, Woven text

theorem sound_operation (budget : Nat) :
    Sound stream (operation budget) fun o => Written (.operation o) := by
  refine sound_current.bind fun t _ => (sound_peek .braceL).bind fun _ _ => .ite ?_ ?_
  · refine (sound_selectionSet budget).bind fun s hs => sound_spanned t fun _ text htext => ?_
    exact Printer.woven_operation htext (fun _ h => nomatch h) (fun _ h => nomatch h)
      (fun _ h => nomatch h) fun _ h => Option.some.inj h ▸ hs
  · refine sound_operationKind.bind fun _ _ => ?_
    refine Sound.bind (P := fun n? => ∀ n ∈ n?, Woven (Printer.name n)) ?_ fun n? hn => ?_
    · exact (sound_peek .name).bind fun _ _ => sound_optional sound_name
    · refine (sound_optionalMany (sound_variableDefinition budget) _ _ _).bind fun _ hv =>
        (sound_directives false budget).bind fun _ hd =>
          (sound_selectionSet budget).bind fun _ hs => sound_spanned t fun _ text htext => ?_
      exact Printer.woven_operation htext hn hv hd fun _ h => Option.some.inj h ▸ hs

theorem sound_fragment (budget : Nat) :
    Sound stream (fragment budget) fun f => Woven (Printer.fragment f) :=
  sound_current.bind fun t _ => (sound_expectKeyword "fragment").bind fun _ _ =>
    sound_fragmentName.bind fun _ hn => (sound_expectKeyword "on").bind fun _ _ =>
      sound_namedType.bind fun _ hc => (sound_directives false budget).bind fun _ hd =>
        (sound_selectionSet budget).bind fun _ hs =>
          sound_spanned t fun _ => Printer.woven_fragment hn hc hd hs

/-! ## The type system -/

theorem sound_peekDescription : Sound stream peekDescription fun _ => True :=
  (sound_peek .string).bind fun _ _ => (sound_peek .blockString).bind fun _ _ => sound_pure trivial

theorem sound_description : Sound stream description fun _ => True :=
  sound_current.bind fun t _ => sound_peekDescription.bind fun _ _ =>
    .ite (sound_advance.bind fun _ _ => sound_spanned t fun _ => trivial) (sound_pure trivial)

theorem sound_rootType : Sound stream rootType fun r => Woven (Printer.rootType r) :=
  sound_current.bind fun t _ => sound_operationKind.bind fun _ _ =>
    (sound_expect .colon).bind fun _ _ => sound_namedType.bind fun _ ht =>
      sound_spanned t fun _ => Printer.woven_rootType ht

theorem sound_inputValueDefinition (budget : Nat) :
    Sound stream (inputValueDefinition budget) fun v => Woven (Printer.inputValueDefinition v) :=
  sound_current.bind fun t _ => sound_description.bind fun _ _ => sound_name.bind fun _ hn =>
    (sound_expect .colon).bind fun _ _ => (sound_typeRef budget).bind fun _ ht =>
      (sound_defaultValue budget).bind fun _ hv => (sound_directives true budget).bind fun _ hd =>
        sound_spanned t fun _ => Printer.woven_inputValueDefinition hn ht hv hd

theorem sound_argumentDefinitions (budget : Nat) : Sound stream (argumentDefinitions budget)
    fun vs => ∀ v ∈ vs, Woven (Printer.inputValueDefinition v) :=
  sound_optionalMany (sound_inputValueDefinition budget) _ _ _

theorem sound_fieldDefinition (budget : Nat) :
    Sound stream (fieldDefinition budget) fun f => Woven (Printer.fieldDefinition f) :=
  sound_current.bind fun t _ => sound_description.bind fun _ _ => sound_name.bind fun _ hn =>
    (sound_argumentDefinitions budget).bind fun _ hargs => (sound_expect .colon).bind fun _ _ =>
      (sound_typeRef budget).bind fun _ ht => (sound_directives true budget).bind fun _ hd =>
        sound_spanned t fun _ => Printer.woven_fieldDefinition hn hargs ht hd

theorem sound_enumValueName : Sound stream enumValueName fun n => Woven (Printer.name n) :=
  sound_current.bind fun _ _ => .ite (sound_fail _ _) sound_name

theorem sound_enumValueDefinition (budget : Nat) :
    Sound stream (enumValueDefinition budget) fun v => Woven (Printer.enumValueDefinition v) :=
  sound_current.bind fun t _ => sound_description.bind fun _ _ =>
    sound_enumValueName.bind fun _ hn => (sound_directives true budget).bind fun _ hd =>
      sound_spanned t fun _ => Printer.woven_enumValueDefinition hn hd

theorem sound_interfaces (budget : Nat) :
    Sound stream (interfaces budget) fun ts => ∀ t ∈ ts, Woven (Printer.namedType t) :=
  (sound_acceptKeyword "implements").bind fun _ _ =>
    .ite (sound_delimited sound_namedType _ _) (sound_pure fun _ h => nomatch h)

theorem sound_fieldDefinitions (budget : Nat) :
    Sound stream (fieldDefinitions budget) fun fs => ∀ f ∈ fs, Woven (Printer.fieldDefinition f) :=
  sound_optionalMany (sound_fieldDefinition budget) _ _ _

theorem sound_unionMembers (budget : Nat) :
    Sound stream (unionMembers budget) fun ts => ∀ t ∈ ts, Woven (Printer.namedType t) :=
  (sound_accept .equals).bind fun _ _ =>
    .ite (sound_delimited sound_namedType _ _) (sound_pure fun _ h => nomatch h)

theorem sound_directivePlace : Sound stream directivePlace fun n => Woven (Printer.name n) :=
  sound_current.bind fun t _ => sound_name.bind fun _ hn =>
    .ite (sound_pure hn) (sound_unexpected t)

section Declarations

variable (budget : Nat)

theorem sound_scalar : Sound stream (do
    let n ← name
    return TypeSystemBody.scalar n (← directives true budget)) fun b => Woven (Printer.body b) :=
  sound_name.bind fun _ hn => (sound_directives true budget).bind fun _ hd =>
    sound_pure (Printer.woven_scalar hn hd)

theorem sound_fielded {make : Name → List NamedType → List Directive → List FieldDefinition →
      TypeSystemBody} (keyword : List Char) (hk : isName keyword = true)
    (hmake : ∀ n ts ds fs, Printer.body (make n ts ds fs)
      = Printer.spaced [keyword, Printer.name n, Printer.implementing ts, Printer.directives ds,
        Printer.block (fs.map Printer.fieldDefinition)]) :
    Sound stream (do
      let n ← name
      let is ← interfaces budget
      let dirs ← directives true budget
      return make n is dirs (← fieldDefinitions budget)) fun b => Woven (Printer.body b) := by
  refine sound_name.bind fun n hn => (sound_interfaces budget).bind fun ts ht =>
    (sound_directives true budget).bind fun ds hd =>
      (sound_fieldDefinitions budget).bind fun fs hf => sound_pure ?_
  rw [hmake]
  exact Printer.woven_fielded hk hn ht hd hf

theorem sound_union : Sound stream (do
    let n ← name
    let dirs ← directives true budget
    return TypeSystemBody.union n dirs (← unionMembers budget)) fun b => Woven (Printer.body b) :=
  sound_name.bind fun _ hn => (sound_directives true budget).bind fun _ hd =>
    (sound_unionMembers budget).bind fun _ ht => sound_pure (Printer.woven_union hn hd ht)

theorem sound_enum : Sound stream (do
    let n ← name
    let dirs ← directives true budget
    return TypeSystemBody.enum n dirs
      (← optionalMany .braceL (enumValueDefinition budget) .braceR budget))
    fun b => Woven (Printer.body b) :=
  sound_name.bind fun _ hn => (sound_directives true budget).bind fun _ hd =>
    (sound_optionalMany (sound_enumValueDefinition budget) _ _ _).bind fun _ hv =>
      sound_pure (Printer.woven_enum hn hd hv)

theorem sound_input : Sound stream (do
    let n ← name
    let dirs ← directives true budget
    return TypeSystemBody.input n dirs
      (← optionalMany .braceL (inputValueDefinition budget) .braceR budget))
    fun b => Woven (Printer.body b) :=
  sound_name.bind fun _ hn => (sound_directives true budget).bind fun _ hd =>
    (sound_optionalMany (sound_inputValueDefinition budget) _ _ _).bind fun _ hf =>
      sound_pure (Printer.woven_input hn hd hf)

theorem sound_definitionBody (keyword : String) :
    Sound stream (definitionBody keyword budget) fun b => Woven (Printer.body b) := by
  refine (sound_expectKeyword keyword).bind fun _ _ => ?_
  split
  · exact (sound_directives true budget).bind fun _ hd =>
      (sound_many sound_rootType _ _ _).bind fun _ hr => sound_pure (Printer.woven_schema hd hr)
  · exact sound_scalar budget
  · exact sound_fielded budget "type".toList (by decide) fun _ _ _ _ => rfl
  · exact sound_fielded budget "interface".toList (by decide) fun _ _ _ _ => rfl
  · exact sound_union budget
  · exact sound_enum budget
  · exact sound_input budget
  · exact (sound_expect .atSign).bind fun _ _ => sound_name.bind fun _ hn =>
      (sound_argumentDefinitions budget).bind fun _ hv =>
        (sound_acceptKeyword "repeatable").bind fun repeatable _ =>
          (sound_expectKeyword "on").bind fun _ _ =>
            (sound_delimited sound_directivePlace _ _).bind fun _ hp =>
              sound_pure (Printer.woven_directiveDefinition repeatable hn hv hp)

theorem sound_extensionBody (keyword : String) :
    Sound stream (extensionBody keyword budget) fun b => Woven (Printer.body b) := by
  refine (sound_expectKeyword keyword).bind fun _ _ => ?_
  refine Sound.bind (P := fun b => Woven (Printer.body b)) ?_ fun b hb => ?_
  · split
    · exact (sound_directives true budget).bind fun _ hd =>
        (sound_optionalMany sound_rootType _ _ _).bind fun _ hr =>
          sound_pure (Printer.woven_schema hd hr)
    · exact sound_scalar budget
    · exact sound_fielded budget "type".toList (by decide) fun _ _ _ _ => rfl
    · exact sound_fielded budget "interface".toList (by decide) fun _ _ _ _ => rfl
    · exact sound_union budget
    · exact sound_enum budget
    · exact sound_input budget
  · exact .ite (sound_pure hb) (sound_current.bind fun t _ => sound_unexpected t)

end Declarations

theorem sound_typeSystemDefinition (keyword : String) (budget : Nat) :
    Sound stream (typeSystemDefinition keyword budget) fun t => Woven (Printer.typeSystem t) :=
  sound_current.bind fun t _ => sound_description.bind fun _ _ =>
    (sound_definitionBody budget keyword).bind fun _ hb =>
      sound_spanned t fun _ => Printer.woven_typeSystem hb

theorem sound_typeSystemExtension (budget : Nat) :
    Sound stream (typeSystemExtension budget) fun t => Woven (Printer.typeSystem t) :=
  sound_current.bind fun t _ => sound_lookahead.bind fun keyword _ =>
    .ite ((sound_expectKeyword "extend").bind fun _ _ =>
      (sound_extensionBody budget keyword.value).bind fun _ hb =>
        sound_spanned t fun _ => Printer.woven_typeSystem hb) (sound_unexpected keyword)

/-! ## Documents -/

theorem sound_definition (budget : Nat) : Sound stream (definition budget) Written := by
  have hoperation : Sound stream (do return Definition.operation (← operation budget)) Written :=
    (sound_operation budget).bind fun _ ho => sound_pure ho
  have hfragment : Sound stream (do return Definition.fragment (← fragment budget)) Written :=
    (sound_fragment budget).bind fun _ hf => sound_pure fun _ h => Option.some.inj h ▸ hf
  have htypeSystem {p : Parser TypeSystemDefinition}
      (h : Sound stream p fun t => Woven (Printer.typeSystem t)) :
      Sound stream (do return Definition.typeSystem (← p)) Written :=
    h.bind fun _ ht => sound_pure fun _ h => Option.some.inj h ▸ ht
  refine (sound_peek .braceL).bind fun _ _ => .ite hoperation ?_
  refine sound_peekDescription.bind fun described _ => ?_
  dsimp only
  refine .ite (sound_lookahead.bind fun keyword _ => ?_) (sound_current.bind fun keyword _ => ?_)
  all_goals
    refine .ite (.ite (htypeSystem (sound_typeSystemDefinition _ budget)) (.ite ?_ (.ite hoperation
      (.ite hfragment (.ite (htypeSystem (sound_typeSystemExtension budget))
        (sound_unexpected keyword)))))) (sound_unexpected keyword)
    exact sound_current.bind fun _ _ => sound_fail _ _

theorem advance_of_accept {kind : TokenKind} {s' : ParserState}
    (h : (accept kind).run s = .ok (true, s')) :
    s.current.kind = kind ∧ advance.run s = .ok ((), s') := by
  have haccept : (accept kind).run s = if s.current.kind == kind
      then (do advance; return true : Parser Bool).run s else .ok (false, s) := by
    change (if s.current.kind == kind then (do advance; return true : Parser Bool)
      else return false).run s = _
    split <;> rfl
  rw [haccept] at h
  split at h
  next hkind =>
    rw [StateT.run_bind] at h
    obtain ⟨⟨_, s₁⟩, hadvance, h⟩ := exists_of_bind_eq_ok h
    cases h
    exact ⟨beq_iff_eq.mp hkind, hadvance⟩
  next => cases h

theorem ends_of_itemsUntil (h : Sound stream p P) {budget : Nat} {xs : List α} {s' : ParserState}
    (hs : Along stream s) (hrun : (itemsUntil .endOfText p budget).run s = .ok (xs, s')) :
    s'.ahead.Ends := by
  induction budget generalizing s xs with
  | zero => cases hrun
  | succ budget ih =>
    rw [itemsUntil, StateT.run_bind] at hrun
    obtain ⟨⟨x, s₁⟩, hx, hrun⟩ := exists_of_bind_eq_ok hrun
    obtain ⟨-, hs₁⟩ := h s hs x s₁ hx
    rw [StateT.run_bind] at hrun
    obtain ⟨⟨closed, s₂⟩, hclosed, hrun⟩ := exists_of_bind_eq_ok hrun
    cases closed with
    | true =>
      cases hrun
      obtain ⟨hkind, hadvance⟩ := advance_of_accept hclosed
      exact (along_of_advance hs₁ hadvance).2 (hs₁.atEnd hkind)
    | false =>
      obtain ⟨-, hs₂⟩ := sound_accept _ s₁ hs₁ _ s₂ hclosed
      rw [if_neg Bool.false_ne_true, StateT.run_bind] at hrun
      obtain ⟨⟨ys, s₃⟩, hys, hrun⟩ := exists_of_bind_eq_ok hrun
      cases hrun
      exact ih hs₂ hys

theorem along_start {located : Bool} (hstream : stream.Legible)
    (h : start located stream = .ok s) : Along stream s := by
  cases stream with
  | done t =>
    cases h
    exact ⟨Token.legible_of_endOfText hstream, hstream, fun _ => TokenStream.ends_done t, id⟩
  | broken f => cases h
  | more t next =>
    cases h
    exact ⟨hstream.1, hstream.2.2, fun hkind => absurd hkind hstream.2.1,
      TokenStream.ends_more.mpr⟩

end Parser

/-- The text of a document that was read is read to its end, and its definitions are written as
woven texts. -/
theorem Document.written_of_parse {text : List Char} {located : Bool} {d : Document}
    (h : Document.parse text located = .ok d) :
    (tokenize text).Ends ∧ (∀ x ∈ d.definitions, Parser.Written x) ∧ d.text = text := by
  obtain ⟨s, hs, h⟩ := exists_of_bind_eq_ok h
  obtain ⟨⟨definitions, s'⟩, hrun, h⟩ := exists_of_bind_eq_ok h
  cases h
  have hstart := Parser.along_start (legible_tokensFrom _) hs
  have hitems := Parser.sound_itemsUntil (Parser.sound_definition _) _ _ s hstart _ _ hrun
  have hends := Parser.ends_of_itemsUntil (Parser.sound_definition _) hstart hrun
  exact ⟨hitems.2.ends hends, hitems.1, rfl⟩

end QueryLint
