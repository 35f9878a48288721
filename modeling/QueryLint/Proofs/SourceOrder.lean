import QueryLint.Document.Parser
import QueryLint.Proofs.Lexemes
import QueryLint.Proofs.Reach

/-! # The walk goes through a document in source order

Tokens begin one behind the other, and a parser only goes forward. What it builds from the tokens
between two positions begins between them, with every node before the nodes under it and these in
the order in which they were read. That is the order of the walk, so the nodes of a document that
was read begin one behind the other, and so do those of any one kind.
-/

namespace QueryLint

/-! ## Rising starts -/

/-- Every span is there, and they begin one behind the other between two positions. -/
inductive Rises : Nat → List (Option Span) → Nat → Prop
  | nil {low high : Nat} (h : low ≤ high) : Rises low [] high
  | cons {low high : Nat} {span : Span} {rest : List (Option Span)} (h : low ≤ span.start)
      (hrest : Rises span.start rest high) : Rises low (some span :: rest) high

namespace Rises

variable {low mid high : Nat} {spans spans' : List (Option Span)}

theorem le (h : Rises low spans high) : low ≤ high := by
  induction h with
  | nil h => exact h
  | cons h _ ih => exact h.trans ih

theorem of_le {low' : Nat} (h : Rises low spans high) (hlow : low' ≤ low) :
    Rises low' spans high := by
  cases h with
  | nil h => exact .nil (hlow.trans h)
  | cons h hrest => exact .cons (hlow.trans h) hrest

theorem append (h : Rises low spans mid) (h' : Rises mid spans' high) :
    Rises low (spans ++ spans') high := by
  induction h with
  | nil h => exact h'.of_le h
  | cons h _ ih => exact .cons h (ih h')

end Rises

namespace Node

variable {low mid high : Nat} {ns ns' : List Node}

/-- All nodes under some nodes begin between two positions, in the order of the walk. -/
def Between (low : Nat) (ns : List Node) (high : Nat) : Prop :=
  Rises low ((walkStack ns).map span) high

theorem between_nil (h : low ≤ high) : Between low [] high := by
  rw [Between, walkStack]
  exact .nil h

theorem Between.le (h : Between low ns high) : low ≤ high :=
  Rises.le h

theorem Between.of_le {low' : Nat} (h : Between low ns high) (hlow : low' ≤ low) :
    Between low' ns high :=
  Rises.of_le h hlow

theorem Between.append (h : Between low ns mid) (h' : Between mid ns' high) :
    Between low (ns ++ ns') high := by
  rw [Between, walkStack_append, List.map_append]
  exact Rises.append h h'

/-- A node begins before the nodes under it. -/
theorem Between.node {n : Node} {start stop : Nat} (hspan : n.span = some ⟨start, stop⟩)
    (hstart : start = low) (h : Between low n.children high) : Between low [n] high := by
  subst hstart
  rw [Between, walkStack, List.append_nil, List.map_cons, hspan]
  exact .cons le_rfl h

end Node

/-! ## Tokens -/

/-- The tokens begin one behind the other from a position on. -/
def TokenStream.Ascends (low : Nat) : TokenStream → Prop
  | done t => low ≤ t.span.start
  | broken _ => True
  | more t next => low ≤ t.span.start ∧ next.Ascends (t.span.start + 1)

theorem TokenStream.Ascends.of_le {low low' : Nat} {stream : TokenStream}
    (h : stream.Ascends low) (hlow : low' ≤ low) : stream.Ascends low' := by
  cases stream with
  | done t => exact hlow.trans h
  | broken f => trivial
  | more t next => exact ⟨hlow.trans h.1, h.2⟩

namespace Lexer

theorem le_offset_skip (comment : Bool) (offset line lineStart : Nat) (s : List Char) :
    offset ≤ (skip comment offset line lineStart s).2.offset := by
  fun_induction skip comment offset line lineStart s <;> simp_all <;> omega

theorem ascends_tokensFrom (c : Cursor) : (tokensFrom c).Ascends c.offset := by
  fun_induction tokensFrom c with
  | case1 c skipped hnil => exact le_offset_skip false c.offset c.line c.lineStart c.rest
  | case2 c skipped ch r hcons f hf => trivial
  | case3 c skipped ch r hcons l hl ih =>
    refine ⟨le_offset_skip false c.offset c.line c.lineStart c.rest, ih.of_le ?_⟩
    exact Nat.succ_le_succ (Nat.le_add_right _ _)

end Lexer

namespace Parser

/-! ## Reading from a position on -/

/-- A state in which spans are kept and the tokens still to come begin behind the current one. -/
structure Placed (s : ParserState) : Prop where
  located : s.located = true
  ahead : s.ahead.Ascends s.current.span.start

variable {α β : Type} {low : Nat} {p : Parser α} {f : α → Parser β} {Q Q' : α → Nat → Prop}
  {R : β → Nat → Prop}

/-- From a state whose current token begins at a position, the parser comes to a result and to a
further position that belong together. -/
def Reads (low : Nat) (p : Parser α) (Q : α → Nat → Prop) : Prop :=
  ∀ s, Placed s → s.current.span.start = low → ∀ x s', p.run s = .ok (x, s') →
    Placed s' ∧ Q x s'.current.span.start

/-- The parser goes forward. -/
def Moves (p : Parser α) : Prop :=
  ∀ low, Reads low p fun _ high => low ≤ high

/-- The nodes of the result lie between the position before and the one behind. -/
def Yields (p : Parser α) (nodes : α → List Node) : Prop :=
  ∀ low, Reads low p fun x high => Node.Between low (nodes x) high

theorem reads_pure {x : α} (h : Q x low) : Reads low (pure x) Q := by
  rintro s hs rfl y s' hrun
  cases hrun
  exact ⟨hs, h⟩

theorem reads_fail (offset : Nat) (fault : Fault) : Reads low (failAt offset fault) Q := by
  intro s hs _ x s' hrun
  cases hrun

theorem reads_unexpected (t : Token) : Reads low (unexpected t) Q :=
  reads_fail _ _

theorem Reads.bind (hp : Reads low p Q) (hf : ∀ x mid, Q x mid → Reads mid (f x) R) :
    Reads low (p >>= f) R := by
  intro s hs hlow y s' hrun
  rw [StateT.run_bind] at hrun
  obtain ⟨⟨x, s₁⟩, hx, hrun⟩ := exists_of_bind_eq_ok hrun
  obtain ⟨hs₁, hQ⟩ := hp s hs hlow x s₁ hx
  exact hf x _ hQ s₁ hs₁ rfl y s' hrun

theorem Reads.ite {b : Prop} [Decidable b] {q : Parser α} (hp : Reads low p Q)
    (hq : Reads low q Q) : Reads low (if b then p else q) Q := by
  split
  · exact hp
  · exact hq

theorem Reads.mono (hp : Reads low p Q) (h : ∀ x high, Q x high → Q' x high) : Reads low p Q' := by
  intro s hs hlow x s' hrun
  obtain ⟨hs', hQ⟩ := hp s hs hlow x s' hrun
  exact ⟨hs', h x _ hQ⟩

theorem Yields.moves {nodes : α → List Node} (h : Yields p nodes) : Moves p :=
  fun low => (h low).mono fun _ _ => Node.Between.le

theorem reads_current : Reads low current fun t high => t.span.start = low ∧ high = low := by
  rintro s hs rfl t s' hrun
  cases hrun
  exact ⟨hs, rfl, rfl⟩

theorem reads_current_bind {f : Token → Parser β}
    (h : ∀ t : Token, t.span.start = low → Reads low (f t) R) : Reads low (current >>= f) R := by
  refine reads_current.bind ?_
  rintro t mid ⟨ht, rfl⟩
  exact h t ht

theorem moves_advance : Moves advance := by
  rintro low ⟨current, ahead, lastStop, located⟩ ⟨hlocated, hahead⟩ rfl x s' hrun
  cases ahead with
  | done t =>
    cases hrun
    exact ⟨⟨hlocated, le_rfl⟩, hahead⟩
  | broken f => cases hrun
  | more t next =>
    cases hrun
    exact ⟨⟨hlocated, hahead.2.of_le (Nat.le_succ _)⟩, hahead.1⟩

theorem reads_spanned {g : Option Span → α} {t : Token}
    (h : ∀ stop, Q (g (some ⟨t.span.start, stop⟩)) low) :
    Reads low (do return g (← spanFrom t)) Q := by
  rintro s hs rfl x s' hrun
  have hspan : (spanFrom t).run s = .ok (some ⟨t.span.start, s.lastStop⟩, s) := by
    change Except.ok (if s.located then some _ else none, s) = _
    rw [if_pos hs.located]
  rw [StateT.run_bind, hspan] at hrun
  cases hrun
  exact ⟨hs, h _⟩

/-! ### Going forward -/

section Forward

variable {q : Parser α}

theorem moves_pure (x : α) : Moves (pure x : Parser α) :=
  fun _ => reads_pure le_rfl

theorem moves_fail (offset : Nat) (fault : Fault) : Moves (failAt offset fault : Parser α) :=
  fun _ => reads_fail _ _

theorem moves_unexpected (t : Token) : Moves (unexpected t : Parser α) :=
  moves_fail _ _

theorem Moves.bind (hp : Moves p) (hf : ∀ x, Moves (f x)) : Moves (p >>= f) :=
  fun low => (hp low).bind fun x mid hmid => (hf x mid).mono fun _ _ h => hmid.trans h

theorem Moves.ite {b : Prop} [Decidable b] (hp : Moves p) (hq : Moves q) :
    Moves (if b then p else q) :=
  fun low => (hp low).ite (hq low)

theorem Moves.optional {b : Bool} (h : Moves p) :
    Moves (if b then do return some (← p) else return none) :=
  .ite (h.bind fun _ => moves_pure _) (moves_pure _)

theorem moves_current : Moves current :=
  fun _ => reads_current.mono fun _ _ h => h.2.ge

theorem moves_lookahead : Moves lookahead := by
  rintro low ⟨current, ahead, lastStop, located⟩ hs rfl t s' hrun
  cases ahead <;> cases hrun
  all_goals exact ⟨hs, le_rfl⟩

theorem moves_spanned {g : Option Span → α} (t : Token) :
    Moves (do return g (← spanFrom t) : Parser α) :=
  fun _ => reads_spanned fun _ => le_rfl

theorem moves_peek (kind : TokenKind) : Moves (peek kind) :=
  moves_current.bind fun _ => moves_pure _

theorem moves_peekKeyword (word : String) : Moves (peekKeyword word) :=
  moves_current.bind fun _ => moves_pure _

theorem moves_accept (kind : TokenKind) : Moves (accept kind) :=
  (moves_peek kind).bind fun _ => .ite (moves_advance.bind fun _ => moves_pure _) (moves_pure _)

theorem moves_expectKeyword (word : String) : Moves (expectKeyword word) :=
  (moves_peekKeyword word).bind fun _ =>
    .ite moves_advance (moves_current.bind fun _ => moves_fail _ _)

theorem moves_acceptKeyword (word : String) : Moves (acceptKeyword word) :=
  (moves_peekKeyword word).bind fun _ =>
    .ite (moves_advance.bind fun _ => moves_pure _) (moves_pure _)

theorem reads_expect (kind : TokenKind) :
    Reads low (expect kind) fun t high => t.span.start = low ∧ low ≤ high := by
  refine reads_current_bind fun t ht => .ite ?_ (reads_fail _ _)
  exact (moves_advance low).bind fun _ mid hmid => reads_pure ⟨ht, hmid⟩

theorem moves_expect (kind : TokenKind) : Moves (expect kind) :=
  fun _ => (reads_expect kind).mono fun _ _ h => h.2

theorem moves_name : Moves name :=
  (moves_expect .name).bind fun t => moves_spanned t

theorem moves_namedType : Moves namedType :=
  moves_current.bind fun t => moves_name.bind fun _ => moves_spanned t

theorem moves_typeRef (budget : Nat) : Moves (typeRef budget) := by
  induction budget with
  | zero => exact moves_current.bind fun t => moves_unexpected t
  | succ budget ih =>
    refine moves_current.bind fun t => Moves.bind ?_ fun inner => ?_
    · refine (moves_accept .bracketL).bind fun _ => .ite ?_ ?_
      · exact ih.bind fun _ => (moves_expect .bracketR).bind fun _ => moves_spanned t
      · exact moves_namedType.bind fun _ => moves_pure _
    · exact (moves_accept .bang).bind fun _ => .ite (moves_spanned t) (moves_pure _)

end Forward

/-! ### Repetition -/

section Repetition

variable {item : Parser α} {make : α → Node}

theorem Moves.itemsUntil (h : Moves item) (close : TokenKind) (budget : Nat) :
    Moves (itemsUntil close item budget) := by
  induction budget with
  | zero => exact moves_current.bind fun t => moves_unexpected t
  | succ budget ih =>
    exact h.bind fun _ => (moves_accept close).bind fun _ =>
      .ite (moves_pure _) (ih.bind fun _ => moves_pure _)

theorem Moves.many (h : Moves item) (opening close : TokenKind) (budget : Nat) :
    Moves (many opening item close budget) :=
  (moves_expect opening).bind fun _ => h.itemsUntil close budget

theorem Moves.optionalMany (h : Moves item) (opening close : TokenKind) (budget : Nat) :
    Moves (optionalMany opening item close budget) :=
  (moves_peek opening).bind fun _ => .ite (h.many opening close budget) (moves_pure _)

theorem Moves.separated (h : Moves item) (separator : TokenKind) (budget : Nat) :
    Moves (separated separator item budget) := by
  induction budget with
  | zero => exact moves_current.bind fun t => moves_unexpected t
  | succ budget ih =>
    exact h.bind fun _ => (moves_accept separator).bind fun _ =>
      .ite (ih.bind fun _ => moves_pure _) (moves_pure _)

theorem Moves.delimited (h : Moves item) (separator : TokenKind) (budget : Nat) :
    Moves (delimited separator item budget) :=
  (moves_accept separator).bind fun _ => h.separated separator budget

/-- What follows a step forward lies behind where the step began. -/
theorem Reads.after {q : Parser β} {nodes : β → List Node} {mid : Nat} (h : low ≤ mid)
    (hq : Yields q nodes) : Reads mid q fun x high => Node.Between low (nodes x) high :=
  (hq mid).mono fun _ _ hnodes => hnodes.of_le h

theorem Moves.bind_yields {nodes : β → List Node} (hp : Moves p) (hf : ∀ x, Yields (f x) nodes) :
    Yields (p >>= f) nodes :=
  fun low => (hp low).bind fun x _ h => .after h (hf x)

theorem yields_pure {nodes : α → List Node} {x : α} (h : nodes x = []) :
    Yields (pure x : Parser α) nodes := by
  intro low
  refine reads_pure ?_
  rw [h]
  exact Node.between_nil le_rfl

theorem Yields.ite {b : Prop} [Decidable b] {q : Parser α} {nodes : α → List Node}
    (hp : Yields p nodes) (hq : Yields q nodes) : Yields (if b then p else q) nodes :=
  fun low => (hp low).ite (hq low)

theorem Yields.map {g : α → β} {nodes : α → List Node} {nodes' : β → List Node}
    (h : Yields p nodes) (hg : ∀ x, nodes' (g x) = nodes x) :
    Yields (do return g (← p)) nodes' := by
  refine fun low => (h low).bind fun x high hx => reads_pure ?_
  rwa [hg]

theorem Yields.cons {rest : Parser (List α)} (h : Yields item fun x => [make x])
    (hrest : Yields rest fun xs => xs.map make) :
    Yields (do let x ← item; return x :: (← rest)) fun xs => xs.map make :=
  fun low => (h low).bind fun _ mid hx => (hrest mid).bind fun _ _ hxs =>
    reads_pure (Node.Between.append hx hxs)

theorem Yields.itemsUntil (h : Yields item fun x => [make x]) (close : TokenKind) (budget : Nat) :
    Yields (itemsUntil close item budget) fun xs => xs.map make := by
  induction budget with
  | zero => exact moves_current.bind_yields fun t _ => reads_unexpected t
  | succ budget ih =>
    refine fun low => (h low).bind fun x mid hx => (moves_accept close mid).bind
      fun closed mid' hmid => .ite ?_ ?_
    · exact reads_pure (Node.Between.append hx (Node.between_nil hmid))
    · refine (Reads.after hmid ih).bind fun xs high hxs => reads_pure ?_
      exact Node.Between.append hx hxs

theorem Yields.many (h : Yields item fun x => [make x]) (opening close : TokenKind)
    (budget : Nat) : Yields (many opening item close budget) fun xs => xs.map make :=
  (moves_expect opening).bind_yields fun _ => h.itemsUntil close budget

theorem Yields.optionalMany (h : Yields item fun x => [make x]) (opening close : TokenKind)
    (budget : Nat) : Yields (optionalMany opening item close budget) fun xs => xs.map make :=
  (moves_peek opening).bind_yields fun _ => .ite (h.many opening close budget) (yields_pure rfl)

theorem Yields.anyNumber (h : Yields item fun x => [make x]) (opening close : TokenKind)
    (budget : Nat) : Yields (anyNumber opening item close budget) fun xs => xs.map make :=
  (moves_expect opening).bind_yields fun _ => (moves_accept close).bind_yields fun _ =>
    .ite (yields_pure rfl) (h.itemsUntil close budget)

theorem Yields.itemsWhile (h : Yields item fun x => [make x]) (kind : TokenKind) (budget : Nat) :
    Yields (itemsWhile kind item budget) fun xs => xs.map make := by
  induction budget with
  | zero => exact yields_pure rfl
  | succ budget ih =>
    exact (moves_peek kind).bind_yields fun _ => .ite (h.cons ih) (yields_pure rfl)

theorem Yields.optional {b : Bool} (h : Yields p fun x => [make x]) :
    Yields (if b then do return some (← p) else return none) fun x? => x?.toList.map make :=
  .ite (h.map fun _ => rfl) (yields_pure rfl)

end Repetition

/-! ## Values -/

theorem yields_variableRef : Yields variableRef fun v => [.value (.var v)] := by
  refine fun low => (reads_expect .dollar).bind ?_
  rintro t mid ⟨ht, hmid⟩
  exact (moves_name mid).bind fun _ _ hname =>
    reads_spanned fun _ => .node rfl ht (Node.between_nil (hmid.trans hname))

theorem yields_objectField {v : Parser Value} (h : Yields v fun x => [.value x]) :
    Yields (objectField v) fun f => [.objectField f] :=
  fun low => reads_current_bind fun _ ht => (moves_name low).bind fun _ mid hname =>
    (moves_expect .colon mid).bind fun _ _ hcolon =>
      (Reads.after (hname.trans hcolon) h).bind fun _ _ hv =>
        reads_spanned fun _ => .node rfl ht hv

theorem reads_leaf {make : Option Span → Value} {t : Token} (ht : t.span.start = low)
    (hspan : ∀ span, (make span).span = span)
    (hleaf : ∀ span, (Node.value (make span)).children = []) :
    Reads low (do advance; return make (← spanFrom t))
      fun v high => Node.Between low [.value v] high := by
  refine (moves_advance low).bind fun _ mid hmid => reads_spanned fun stop => ?_
  refine .node (hspan _) ht ?_
  rw [hleaf]
  exact Node.between_nil hmid

theorem yields_namedValue : Yields namedValue fun v => [.value v] := by
  refine fun low => reads_current_bind fun t ht => reads_leaf ht (fun span => ?_) fun span => ?_
  · split <;> rfl
  · split <;> rfl

theorem yields_variableValue (const : Bool) :
    Yields (variableValue const) fun v => [.value v] := by
  unfold variableValue
  refine .ite ?_ (yields_variableRef.map fun _ => rfl)
  exact (moves_expect .dollar).bind_yields fun t => moves_current.bind_yields fun _ =>
    .ite (fun _ => reads_fail _ _) fun _ => reads_unexpected t

theorem yields_value (const : Bool) (budget : Nat) :
    Yields (value const budget) fun v => [.value v] := by
  induction budget with
  | zero => exact moves_current.bind_yields fun t _ => reads_unexpected t
  | succ budget ih =>
    refine fun low => reads_current_bind fun t ht => ?_
    split
    next =>
      exact (ih.anyNumber _ _ _ low).bind fun _ _ hitems =>
        reads_spanned fun _ => .node rfl ht hitems
    next =>
      exact ((yields_objectField ih).anyNumber _ _ _ low).bind fun _ _ hfields =>
        reads_spanned fun _ => .node rfl ht hfields
    next => exact reads_leaf ht (fun _ => rfl) fun _ => rfl
    next => exact reads_leaf ht (fun _ => rfl) fun _ => rfl
    next => exact reads_leaf ht (fun _ => rfl) fun _ => rfl
    next => exact reads_leaf ht (fun _ => rfl) fun _ => rfl
    next => exact yields_namedValue low
    next => exact yields_variableValue const low
    next => exact reads_unexpected t

/-! ## Arguments and directives -/

theorem yields_argument (const : Bool) (budget : Nat) :
    Yields (argument const budget) fun a => [.argument a] :=
  fun low => reads_current_bind fun _ ht => (moves_name low).bind fun _ mid hname =>
    (moves_expect .colon mid).bind fun _ _ hcolon =>
      (Reads.after (hname.trans hcolon) (yields_value const budget)).bind fun _ _ hv =>
        reads_spanned fun _ => .node rfl ht hv

theorem yields_arguments (const : Bool) (budget : Nat) :
    Yields (arguments const budget) fun as => as.map .argument :=
  (yields_argument const budget).optionalMany _ _ _

theorem yields_directive (const : Bool) (budget : Nat) :
    Yields (directive const budget) fun d => [.directive d] := by
  refine fun low => (reads_expect .atSign).bind ?_
  rintro t mid ⟨ht, hmid⟩
  exact (moves_name mid).bind fun _ _ hname =>
    (Reads.after (hmid.trans hname) (yields_arguments const budget)).bind fun _ _ hargs =>
      reads_spanned fun _ => .node rfl ht hargs

theorem yields_directives (const : Bool) (budget : Nat) :
    Yields (directives const budget) fun ds => ds.map .directive :=
  (yields_directive const budget).itemsWhile _ _

/-! ## Selections -/

theorem moves_fragmentName : Moves fragmentName :=
  moves_current.bind fun t => .ite (moves_unexpected t) moves_name

theorem yields_field {body : Parser SelectionSet} (budget : Nat)
    (h : Yields body fun s => [.selectionSet s]) :
    Yields (field body budget) fun f => [.field f] := by
  refine fun low => reads_current_bind fun t ht => (moves_name low).bind fun first mid hfirst => ?_
  have hnames : Moves (do
      if ← accept .colon then return (some first, ← name) else return (none, first)) :=
    (moves_accept .colon).bind fun _ => .ite (moves_name.bind fun _ => moves_pure _) (moves_pure _)
  have hbody : Yields (do if ← peek .braceL then return some (← body) else return none)
      fun s? => s?.toList.map .selectionSet :=
    (moves_peek .braceL).bind_yields fun _ => h.optional
  refine (hnames mid).bind fun (aliasName, fieldName) mid' hname => ?_
  refine (Reads.after (hfirst.trans hname) (yields_arguments false budget)).bind fun _ _ hargs =>
    (yields_directives false budget _).bind fun _ _ hdirs => (hbody _).bind fun _ _ hset =>
      reads_spanned fun _ => .node rfl ht ?_
  exact (hargs.append hdirs).append hset

theorem yields_spreadSelection {body : Parser SelectionSet} (budget : Nat)
    (h : Yields body fun s => [.selectionSet s]) :
    Yields (spreadSelection body budget) fun x => [.ofSelection x] := by
  refine fun low => (reads_expect .spread).bind ?_
  rintro t mid ⟨ht, hdots⟩
  refine (moves_acceptKeyword "on" mid).bind fun conditional mid' hon =>
    (moves_peek .name mid').bind fun _ mid'' hpeek => .ite ?_ ?_
  all_goals have hbehind : low ≤ mid'' := (hdots.trans hon).trans hpeek
  · exact (moves_fragmentName mid'').bind fun _ _ hname =>
      (Reads.after (hbehind.trans hname) (yields_directives false budget)).bind fun _ _ hdirs =>
        reads_spanned fun _ => .node rfl ht hdirs
  · exact (moves_namedType.optional mid'').bind fun _ _ hcondition =>
      (Reads.after (hbehind.trans hcondition) (yields_directives false budget)).bind
        fun _ _ hdirs => (h _).bind fun _ _ hset =>
          reads_spanned fun _ => .node rfl ht (hdirs.append hset)

theorem yields_selection {body : Parser SelectionSet} (budget : Nat)
    (h : Yields body fun s => [.selectionSet s]) :
    Yields (selection body budget) fun x => [.ofSelection x] :=
  (moves_peek .spread).bind_yields fun _ =>
    .ite (yields_spreadSelection budget h) ((yields_field budget h).map fun _ => rfl)

theorem yields_selectionSet (budget : Nat) :
    Yields (selectionSet budget) fun s => [.selectionSet s] := by
  induction budget with
  | zero => exact moves_current.bind_yields fun t _ => reads_unexpected t
  | succ budget ih =>
    exact fun low => reads_current_bind fun _ ht =>
      ((yields_selection budget ih).many _ _ _ low).bind fun _ _ hitems =>
        reads_spanned fun _ => .node rfl ht hitems

/-! ## Operations and fragments -/

theorem moves_operationKind : Moves operationKind := by
  refine (moves_expect .name).bind fun t => ?_
  split
  · exact moves_pure _
  · exact moves_unexpected t

theorem yields_defaultValue (budget : Nat) : Yields (do
    if ← accept .equals then return some (← value true budget) else return none)
    fun v? => v?.toList.map .value :=
  (moves_accept .equals).bind_yields fun _ => (yields_value true budget).optional

theorem yields_variableDefinition (budget : Nat) :
    Yields (variableDefinition budget) fun v => [.variableDefinition v] :=
  fun low => reads_current_bind fun _ ht => (yields_variableRef.moves low).bind fun _ mid href =>
    (moves_expect .colon mid).bind fun _ mid' hcolon =>
      (moves_typeRef budget mid').bind fun _ _ htype =>
        (Reads.after ((href.trans hcolon).trans htype) (yields_defaultValue budget)).bind
          fun _ _ hdefault => (yields_directives true budget _).bind fun _ _ hdirs =>
            reads_spanned fun _ => .node rfl ht (hdefault.append hdirs)

theorem yields_operation (budget : Nat) : Yields (operation budget) fun o => [.operation o] := by
  have hname : Moves (do if ← peek .name then return some (← name) else return none) :=
    (moves_peek .name).bind fun _ => moves_name.optional
  refine fun low => reads_current_bind fun t ht => (moves_peek .braceL low).bind
    fun _ mid hmid => .ite ?_ ?_
  · exact (Reads.after hmid (yields_selectionSet budget)).bind fun _ _ hset =>
      reads_spanned fun _ => .node rfl ht hset
  · exact (moves_operationKind mid).bind fun _ mid' hkind => (hname mid').bind fun _ _ hn =>
      (Reads.after ((hmid.trans hkind).trans hn)
        ((yields_variableDefinition budget).optionalMany _ _ _)).bind fun _ _ hvars =>
        (yields_directives false budget _).bind fun _ _ hdirs =>
          (yields_selectionSet budget _).bind fun _ _ hset =>
            reads_spanned fun _ => .node rfl ht ((hvars.append hdirs).append hset)

theorem yields_fragment (budget : Nat) : Yields (fragment budget) fun f => [.fragment f] :=
  fun low => reads_current_bind fun _ ht => (moves_expectKeyword "fragment" low).bind
    fun _ mid hword => (moves_fragmentName mid).bind fun _ mid' hname =>
      (moves_expectKeyword "on" mid').bind fun _ mid'' hon =>
        (moves_namedType mid'').bind fun _ _ hcond =>
          (Reads.after (((hword.trans hname).trans hon).trans hcond)
            (yields_directives false budget)).bind fun _ _ hdirs =>
            (yields_selectionSet budget _).bind fun _ _ hset =>
              reads_spanned fun _ => .node rfl ht (hdirs.append hset)

/-! ## The type system -/

theorem moves_peekDescription : Moves peekDescription :=
  (moves_peek .string).bind fun _ => (moves_peek .blockString).bind fun _ => moves_pure _

theorem moves_description : Moves description :=
  moves_current.bind fun t => moves_peekDescription.bind fun _ =>
    .ite (moves_advance.bind fun _ => moves_spanned t) (moves_pure _)

section TypeSystem

variable (budget : Nat)

theorem moves_directives (const : Bool) : Moves (directives const budget) :=
  (yields_directives const budget).moves

theorem moves_rootType : Moves rootType :=
  moves_current.bind fun t => moves_operationKind.bind fun _ => (moves_expect .colon).bind fun _ =>
    moves_namedType.bind fun _ => moves_spanned t

theorem moves_inputValueDefinition : Moves (inputValueDefinition budget) :=
  moves_current.bind fun t => moves_description.bind fun _ => moves_name.bind fun _ =>
    (moves_expect .colon).bind fun _ => (moves_typeRef budget).bind fun _ =>
      (yields_defaultValue budget).moves.bind fun _ => (moves_directives budget true).bind fun _ =>
        moves_spanned t

theorem moves_argumentDefinitions : Moves (argumentDefinitions budget) :=
  (moves_inputValueDefinition budget).optionalMany _ _ _

theorem moves_fieldDefinition : Moves (fieldDefinition budget) :=
  moves_current.bind fun t => moves_description.bind fun _ => moves_name.bind fun _ =>
    (moves_argumentDefinitions budget).bind fun _ => (moves_expect .colon).bind fun _ =>
      (moves_typeRef budget).bind fun _ => (moves_directives budget true).bind fun _ =>
        moves_spanned t

theorem moves_fieldDefinitions : Moves (fieldDefinitions budget) :=
  (moves_fieldDefinition budget).optionalMany _ _ _

theorem moves_enumValueName : Moves enumValueName :=
  moves_current.bind fun _ => .ite (moves_fail _ _) moves_name

theorem moves_enumValueDefinition : Moves (enumValueDefinition budget) :=
  moves_current.bind fun t => moves_description.bind fun _ => moves_enumValueName.bind fun _ =>
    (moves_directives budget true).bind fun _ => moves_spanned t

theorem moves_interfaces : Moves (interfaces budget) :=
  (moves_acceptKeyword "implements").bind fun _ =>
    .ite (moves_namedType.delimited _ _) (moves_pure _)

theorem moves_unionMembers : Moves (unionMembers budget) :=
  (moves_accept .equals).bind fun _ => .ite (moves_namedType.delimited _ _) (moves_pure _)

theorem moves_directivePlace : Moves directivePlace :=
  moves_current.bind fun t => moves_name.bind fun _ => .ite (moves_pure _) (moves_unexpected t)

theorem moves_fielded {make : Name → List NamedType → List Directive → List FieldDefinition →
    TypeSystemBody} : Moves (do
      let n ← name
      let is ← interfaces budget
      let dirs ← directives true budget
      return make n is dirs (← fieldDefinitions budget)) :=
  moves_name.bind fun _ => (moves_interfaces budget).bind fun _ =>
    (moves_directives budget true).bind fun _ => (moves_fieldDefinitions budget).bind fun _ =>
      moves_pure _

theorem moves_listed {make : Name → List Directive → α → TypeSystemBody} (h : Moves p) :
    Moves (do
      let n ← name
      let dirs ← directives true budget
      return make n dirs (← p)) :=
  moves_name.bind fun _ => (moves_directives budget true).bind fun _ => h.bind fun _ =>
    moves_pure _

theorem moves_definitionBody (keyword : String) : Moves (definitionBody keyword budget) := by
  refine (moves_expectKeyword keyword).bind fun _ => ?_
  split
  · exact (moves_directives budget true).bind fun _ =>
      (moves_rootType.many _ _ _).bind fun _ => moves_pure _
  · exact moves_name.bind fun _ => (moves_directives budget true).bind fun _ => moves_pure _
  · exact moves_fielded budget
  · exact moves_fielded budget
  · exact moves_listed budget (moves_unionMembers budget)
  · exact moves_listed budget ((moves_enumValueDefinition budget).optionalMany _ _ _)
  · exact moves_listed budget ((moves_inputValueDefinition budget).optionalMany _ _ _)
  · exact (moves_expect .atSign).bind fun _ => moves_name.bind fun _ =>
      (moves_argumentDefinitions budget).bind fun _ =>
        (moves_acceptKeyword "repeatable").bind fun _ => (moves_expectKeyword "on").bind fun _ =>
          (moves_directivePlace.delimited _ _).bind fun _ => moves_pure _

theorem moves_extensionBody (keyword : String) : Moves (extensionBody keyword budget) := by
  refine (moves_expectKeyword keyword).bind fun _ => Moves.bind ?_ fun body => ?_
  · split
    · exact (moves_directives budget true).bind fun _ =>
        (moves_rootType.optionalMany _ _ _).bind fun _ => moves_pure _
    · exact moves_name.bind fun _ => (moves_directives budget true).bind fun _ => moves_pure _
    · exact moves_fielded budget
    · exact moves_fielded budget
    · exact moves_listed budget (moves_unionMembers budget)
    · exact moves_listed budget ((moves_enumValueDefinition budget).optionalMany _ _ _)
    · exact moves_listed budget ((moves_inputValueDefinition budget).optionalMany _ _ _)
  · exact .ite (moves_pure _) (moves_current.bind fun t => moves_unexpected t)

theorem yields_typeSystemDefinition (keyword : String) :
    Yields (typeSystemDefinition keyword budget) fun t => [.typeSystem t] :=
  fun low => reads_current_bind fun _ ht => (moves_description low).bind fun _ mid hdesc =>
    (moves_definitionBody budget keyword mid).bind fun _ _ hbody =>
      reads_spanned fun _ => .node rfl ht (Node.between_nil (hdesc.trans hbody))

theorem yields_typeSystemExtension :
    Yields (typeSystemExtension budget) fun t => [.typeSystem t] :=
  fun low => reads_current_bind fun _ ht => (moves_lookahead low).bind fun keyword mid hmid =>
    .ite ((moves_expectKeyword "extend" mid).bind fun _ mid' hword =>
      (moves_extensionBody budget keyword.value mid').bind fun _ _ hbody =>
        reads_spanned fun _ => .node rfl ht (Node.between_nil ((hmid.trans hword).trans hbody)))
      (reads_unexpected keyword)

end TypeSystem

/-! ## Documents -/

theorem yields_definition (budget : Nat) :
    Yields (definition budget) fun x => [.ofDefinition x] := by
  let nodes (x : Definition) : List Node := [.ofDefinition x]
  have hoperation : Yields (do return Definition.operation (← operation budget)) nodes :=
    (yields_operation budget).map fun _ => rfl
  have hfragment : Yields (do return Definition.fragment (← fragment budget)) nodes :=
    (yields_fragment budget).map fun _ => rfl
  have hextension : Yields (do return Definition.typeSystem (← typeSystemExtension budget)) nodes :=
    (yields_typeSystemExtension budget).map fun _ => rfl
  have hdefinition (keyword : String) :
      Yields (do return Definition.typeSystem (← typeSystemDefinition keyword budget)) nodes :=
    (yields_typeSystemDefinition budget keyword).map fun _ => rfl
  refine (moves_peek .braceL).bind_yields fun _ => .ite hoperation ?_
  refine moves_peekDescription.bind_yields fun described => ?_
  dsimp only
  refine .ite (moves_lookahead.bind_yields fun keyword => ?_)
    (moves_current.bind_yields fun keyword => ?_)
  all_goals
    refine .ite (.ite (hdefinition keyword.value) (.ite ?_ (.ite hoperation
      (.ite hfragment (.ite hextension fun _ => reads_unexpected keyword)))))
      fun _ => reads_unexpected keyword
    exact moves_current.bind_yields fun _ _ => reads_fail _ _

theorem placed_start {stream : TokenStream} {s : ParserState} (hstream : stream.Ascends 0)
    (h : start true stream = .ok s) : Placed s := by
  cases stream with
  | done t =>
    cases h
    exact ⟨rfl, le_rfl⟩
  | broken f => cases h
  | more t next =>
    cases h
    exact ⟨rfl, hstream.2.of_le (Nat.le_succ _)⟩

end Parser

/-! ## The order of the walk -/

/-- All the spans are there, and they begin one behind the other. -/
def InOrder (spans : List (Option Span)) : Prop :=
  ∃ starts : List Nat, spans.map (·.map Span.start) = starts.map some ∧ starts.Pairwise (· ≤ ·)

theorem InOrder.of_sublist {spans spans' : List (Option Span)} (h : InOrder spans)
    (hsub : spans'.Sublist spans) : InOrder spans' := by
  obtain ⟨starts, hstarts, hsorted⟩ := h
  have hsub' := hsub.map (·.map Span.start)
  rw [hstarts] at hsub'
  obtain ⟨starts', hsub'', hstarts'⟩ := List.sublist_map_iff.mp hsub'
  exact ⟨starts', hstarts', hsorted.sublist hsub''⟩

theorem Rises.inOrder {low high : Nat} {spans : List (Option Span)} (h : Rises low spans high) :
    InOrder spans := by
  suffices hlow : ∃ starts : List Nat,
      spans.map (·.map Span.start) = starts.map some ∧ (low :: starts).Pairwise (· ≤ ·) by
    obtain ⟨starts, hstarts, hsorted⟩ := hlow
    exact ⟨starts, hstarts, (List.pairwise_cons.mp hsorted).2⟩
  induction h with
  | nil h => exact ⟨[], rfl, List.pairwise_singleton _ _⟩
  | @cons low high span rest h _ ih =>
    obtain ⟨starts, hstarts, hsorted⟩ := ih
    refine ⟨span.start :: starts, by simp [hstarts], List.pairwise_cons.mpr ⟨?_, hsorted⟩⟩
    rintro n (_ | ⟨_, hn⟩)
    · exact h
    · exact h.trans ((List.pairwise_cons.mp hsorted).1 n hn)

/-- What is picked out of a list keeps its order, if it keeps its place. -/
theorem InOrder.picked {α β : Type} {place : α → Option Span} {place' : β → Option Span}
    {view : α → Option β} {items : List α} (h : InOrder (items.map place))
    (hview : ∀ x y, view x = some y → place x = place' y) (keep : β → Bool) :
    InOrder (((items.filterMap view).filter keep).map place') := by
  refine (h.of_sublist ?_).of_sublist (List.filter_sublist.map place')
  clear h
  induction items with
  | nil => exact .slnil
  | cons x items ih =>
    rw [List.filterMap_cons, List.map_cons]
    cases hx : view x with
    | none => exact ih.cons _
    | some y =>
      rw [hview x y hx]
      exact ih.cons_cons _

namespace Document

variable {text : List Char} {d : Document}

theorem rises_nodes (h : Document.parse text = .ok d) :
    ∃ high, Rises 0 (d.nodes.map Node.span) high := by
  obtain ⟨s, hs, h⟩ := exists_of_bind_eq_ok h
  obtain ⟨⟨definitions, s'⟩, hrun, h⟩ := exists_of_bind_eq_ok h
  cases h
  have hplaced := Parser.placed_start (Lexer.ascends_tokensFrom { rest := text }) hs
  obtain ⟨-, hbetween⟩ := (Parser.yields_definition _).itemsUntil _ _ _ s hplaced rfl _ _ hrun
  exact ⟨_, Node.Between.node rfl rfl (hbetween.of_le (Nat.zero_le _))⟩

theorem sublist_nodes (d : Document) :
    (d.definitions.map Node.ofDefinition).Sublist d.nodes := by
  have hwalks : ∀ ns : List Node, ns.Sublist (ns.flatMap Node.walk) := by
    intro ns
    induction ns with
    | nil => exact .slnil
    | cons n ns ih =>
      rw [List.flatMap_cons, Node.walk_eq, List.cons_append]
      exact (ih.trans (List.sublist_append_right _ _)).cons_cons n
  rw [nodes, Node.walk_eq]
  exact (hwalks _).cons d.root

/-- The walk of a document that was read meets the nodes in the order in which they begin in the
text. So every list of the nodes of one kind is in source order as well. -/
theorem walk_in_source_order (h : Document.parse text = .ok d) :
    InOrder (d.nodes.map Node.span) ∧
      (∀ keep, InOrder ((d.nodes.filter keep).map Node.span)) ∧
      (∀ keep, InOrder ((d.fields.filter keep).map Field.span)) ∧
      (∀ keep, InOrder ((d.arguments.filter keep).map Argument.span)) ∧
      (∀ keep, InOrder ((d.directives.filter keep).map Directive.span)) ∧
      (∀ keep, InOrder ((d.selectionSets.filter keep).map SelectionSet.span)) ∧
      (∀ keep, InOrder ((d.spreads.filter keep).map Spread.span)) ∧
      (∀ keep, InOrder ((d.variableDefinitions.filter keep).map VariableDefinition.span)) ∧
      (∀ keep, InOrder ((d.references.filter keep).map Variable.span)) ∧
      (∀ keep, InOrder ((d.operations.filter keep).map Operation.span)) ∧
      (∀ keep, InOrder ((d.fragments.filter keep).map Fragment.span)) := by
  obtain ⟨high, hrises⟩ := rises_nodes h
  have hnodes := hrises.inOrder
  have hdefinitions : InOrder (d.definitions.map fun x => (Node.ofDefinition x).span) := by
    have hsub := d.sublist_nodes.map Node.span
    rw [List.map_map] at hsub
    exact hnodes.of_sublist hsub
  have hreference : ∀ n v, Node.reference? n = some v → n.span = v.span := by
    rintro n v hview
    unfold Node.reference? at hview
    split at hview <;> cases hview
    rfl
  refine ⟨hnodes, fun keep => hnodes.of_sublist (List.filter_sublist.map _),
    hnodes.picked ?_, hnodes.picked ?_, hnodes.picked ?_, hnodes.picked ?_, hnodes.picked ?_,
    hnodes.picked ?_, hnodes.picked hreference, hdefinitions.picked ?_, hdefinitions.picked ?_⟩
  all_goals
    rintro n x hview
    cases n <;> cases hview
    rfl

/-- Every kind of node is there, and the nodes that have children of several kinds have all of
them. -/
def mixedText : List Char :=
  ("query Q($a: [In!] = [1, \x7bk: \"x\"\x7d] @x(y: 2)) @d \x7b f: g(a: $a) @h(i: 1) \x7b j"
    ++ " ...F @k ... on T @l \x7b m \x7d \x7d \x7d scalar S @n"
    ++ " fragment F on T @o \x7b p \x7d").toList

def mixedKinds : List String :=
  ["document", "operation_definition", "variable_definition", "list_value", "int_value",
   "object_value", "object_field", "string_value", "directive", "argument", "int_value",
   "directive", "selection_set", "field", "argument", "variable", "directive", "argument",
   "int_value", "selection_set", "field", "fragment_spread", "directive", "inline_fragment",
   "directive", "selection_set", "field", "scalar_type_definition", "fragment_definition",
   "directive", "selection_set", "field"]

theorem walk_in_source_order_mixed :
    ∃ d, Document.parse mixedText = .ok d ∧ d.nodes.map Node.kind = mixedKinds ∧
      InOrder (d.nodes.map Node.span) ∧
      InOrder ((d.directives.filter (·.arguments.isEmpty)).map Directive.span) := by
  have hread : (Document.parse mixedText).toOption.map (fun d => d.nodes.map Node.kind)
      = some mixedKinds := by
    decide +kernel
  cases hd : Document.parse mixedText with
  | error f =>
    rw [hd] at hread
    cases hread
  | ok d =>
    rw [hd] at hread
    obtain ⟨hnodes, -, -, -, hdirectives, -⟩ := walk_in_source_order hd
    exact ⟨d, rfl, Option.some.inj hread, hnodes, hdirectives _⟩

end Document

end QueryLint
