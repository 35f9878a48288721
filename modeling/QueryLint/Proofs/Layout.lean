import QueryLint.Proofs.Failures
import QueryLint.Proofs.LineEndings

/-! # Layout

What the rule on style reports falls apart by its headings, so the reports on indentation and on the
length of lines can be looked at alone. Indentation is reported exactly if the indents of some lines
are uneven. These are the lines that begin with a token, as long as no carriage return ends a line
by itself; then it makes no difference how lines are ended.
-/

namespace QueryLint

/-! ## Headings -/

def Finding.Headed (headings : List String) (f : Finding) : Prop :=
  ∃ h ∈ headings, h.toList <+: f.message.toList

theorem Finding.Headed.not_begins {headings : List String} {f : Finding} (h : f.Headed headings)
    {heading : String}
    (hapart : ∀ x ∈ headings, ¬ (heading.toList <+: x.toList ∨ x.toList <+: heading.toList)) :
    ¬ heading.toList <+: f.message.toList := by
  obtain ⟨x, hx, hbegins⟩ := h
  intro hheading
  exact hapart x hx <| List.prefix_or_prefix_of_prefix hheading hbegins

namespace Style

variable {c : Context} {text : List Char} {tokens : List Token} {f : Finding}

theorem prefix_append {heading s : String} (h : heading.toList <+: s.toList) (t : String) :
    heading.toList <+: (s ++ t).toList := by
  rw [String.toList_append]
  exact h.trans (List.prefix_append _ _)

theorem prefix_append_self (heading t : String) : heading.toList <+: (heading ++ t).toList :=
  prefix_append List.prefix_rfl t

theorem prefix_camelFindings {owner name : String} {camelCase reserved : Bool} {n : Node}
    (h : f ∈ camelFindings owner name camelCase reserved n) :
    owner.toList <+: f.message.toList := by
  have hname := prefix_append (prefix_append_self owner " name '") name
  simp only [camelFindings, List.mem_append, List.mem_ite_nil_right, List.mem_singleton] at h
  rcases h with ((⟨-, rfl⟩ | ⟨-, rfl⟩) | ⟨hfield, rfl⟩) | ⟨-, rfl⟩
  · exact prefix_append hname _
  · exact prefix_append hname _
  · rw [Bool.and_eq_true, decide_eq_true_eq] at hfield
    rw [hfield.1]
    exact prefix_append (prefix_append (by decide) name) _
  · exact prefix_append hname _

theorem prefix_pascalFindings {owner name : String} {n : Node}
    (h : f ∈ pascalFindings owner name n) : owner.toList <+: f.message.toList := by
  have hname := prefix_append (prefix_append_self owner " name '") name
  simp only [pascalFindings, List.mem_append, List.mem_ite_nil_right, List.mem_singleton] at h
  rcases h with ⟨-, rfl⟩ | ⟨-, rfl⟩
  · exact prefix_append hname _
  · exact prefix_append hname _

theorem headed_naming (h : f ∈ naming c) :
    f.Headed ["Field", "Argument", "Directive", "Fragment", "Operation"] := by
  obtain ⟨n, -, h⟩ := List.mem_flatMap.mp h
  unfold nameFindings at h
  split at h
  · split at h
    · cases h
    · exact ⟨"Field", by simp, prefix_camelFindings h⟩
  · exact ⟨"Argument", by simp, prefix_camelFindings h⟩
  · exact ⟨"Directive", by simp, prefix_camelFindings h⟩
  · exact ⟨"Fragment", by simp, prefix_pascalFindings h⟩
  · split at h
    · exact ⟨"Operation", by simp, prefix_pascalFindings h⟩
    · cases h
  · cases h

theorem headed_firstFaults {seen : List SpacingFault} {faults : List (SpacingFault × Token)}
    (h : f ∈ firstFaults seen faults) : f.Headed ["Multiple", "Missing"] := by
  induction faults generalizing seen with
  | nil => cases h
  | cons fault rest ih =>
    obtain ⟨fault, t⟩ := fault
    rw [firstFaults] at h
    split at h
    · exact ih h
    · rcases List.mem_cons.mp h with rfl | h
      · cases fault with
        | spaces => exact ⟨"Multiple", by simp, by dsimp only [SpacingFault.finding]; decide⟩
        | colon => exact ⟨"Missing", by simp, by dsimp only [SpacingFault.finding]; decide⟩
        | comma => exact ⟨"Missing", by simp, by dsimp only [SpacingFault.finding]; decide⟩
      · exact ih h

theorem headed_nestingLevel (h : f ∈ nestingLevel c) : f.Headed ["Indentation level"] := by
  unfold nestingLevel at h
  dsimp only at h
  split at h
  · obtain rfl := List.mem_singleton.mp h
    exact ⟨_, List.mem_singleton_self _, prefix_append (prefix_append (prefix_append
      (prefix_append (by decide) _) _) _) _⟩
  · cases h

theorem headed_lineLength (h : f ∈ lineLength c text) : f.Headed ["Line "] := by
  unfold lineLength at h
  dsimp only at h
  split at h
  · obtain rfl := List.mem_singleton.mp h
    exact ⟨_, List.mem_singleton_self _, prefix_append (prefix_append (prefix_append
      (prefix_append (prefix_append (prefix_append_self _ _) _) _) _) _) _⟩
  · cases h

theorem headed_consistency (h : f ∈ consistency c text tokens) :
    f.Headed ["Inconsistent indentation"] := by
  unfold consistency at h
  obtain ⟨-, h⟩ := List.mem_ite_nil_right.mp h
  obtain rfl := List.mem_singleton.mp h
  exact ⟨_, List.mem_singleton_self _, by dsimp only [Finding.warning]; decide⟩

end Style

namespace Text

/-! ## Indents of lines -/

/-- The number of blanks in front of the first visible character. -/
def SourceLine.indent (l : SourceLine) : Nat :=
  (l.content.takeWhile isBlank).length

def SourceLine.begun (tokens : List Token) (l : SourceLine) : Bool :=
  l.indent < l.content.length && tokens.any fun t => t.span.start = l.start + l.indent

/-- Only blanks stand between the line and the last line feed before it. -/
def SourceLine.clear (text : List Char) (l : SourceLine) : Bool :=
  allBlank ((text.take l.start).reverse.takeWhile (· ≠ '\n'))

def begunIndents (text : List Char) (tokens : List Token) : List Nat :=
  ((sourceLines text).filter (·.begun tokens)).map SourceLine.indent

def clearIndents (text : List Char) (tokens : List Token) : List Nat :=
  ((sourceLines text).filter fun l => l.begun tokens && l.clear text).map SourceLine.indent

/-- Not all positive indents are multiples of the smallest of them. -/
def Uneven (indents : List Nat) : Prop :=
  ∃ step ∈ indents, 0 < step ∧ (∀ i ∈ indents, 0 < i → step ≤ i) ∧ ∃ i ∈ indents, ¬ step ∣ i

instance (indents : List Nat) : Decidable (Uneven indents) :=
  inferInstanceAs (Decidable (∃ step ∈ indents, 0 < step ∧ (∀ i ∈ indents, 0 < i → step ≤ i) ∧
    ∃ i ∈ indents, ¬ step ∣ i))

/-- Every carriage return stands before a line feed. -/
def Paired (text : List Char) : Prop :=
  ∀ i < text.length, text[i]? = some '\r' → text[i + 1]? = some '\n'

instance (text : List Char) : Decidable (Paired text) :=
  inferInstanceAs (Decidable (∀ i < text.length, text[i]? = some '\r' → text[i + 1]? = some '\n'))

variable {text s : List Char} {tokens : List Token} {l : SourceLine} {t : Token}

theorem Uneven.congr {is js : List Nat} (h : ∀ i, i ∈ is ↔ i ∈ js) : Uneven is ↔ Uneven js := by
  simp only [Uneven, h]

theorem inconsistent_iff (is : List Nat) : Style.inconsistent is = true ↔ Uneven is := by
  unfold Style.inconsistent
  dsimp only
  cases hstep : (is.filter (0 < ·)).min? with
  | none =>
    rw [List.min?_eq_none_iff, List.filter_eq_nil_iff] at hstep
    refine iff_of_false Bool.false_ne_true ?_
    rintro ⟨step, hmem, hpos, -⟩
    exact hstep step hmem (decide_eq_true hpos)
  | some step =>
    obtain ⟨hmem, hleast⟩ := List.min?_eq_some_iff.mp hstep
    simp only [List.mem_filter, decide_eq_true_eq] at hmem hleast
    simp only [List.any_eq_true, List.mem_filter, decide_eq_true_eq]
    constructor
    · rintro ⟨i, ⟨hi, -⟩, hmod⟩
      exact ⟨step, hmem.1, hmem.2, fun j hj hpos => hleast j ⟨hj, hpos⟩, i, hi,
        fun hdvd => hmod (Nat.mod_eq_zero_of_dvd hdvd)⟩
    · rintro ⟨step', hmem', hpos', hleast', i, hi, hdvd⟩
      have heq : step' = step :=
        Nat.le_antisymm (hleast' step hmem.1 hmem.2) (hleast step' ⟨hmem', hpos'⟩)
      subst heq
      refine ⟨i, ⟨hi, Nat.pos_of_ne_zero ?_⟩, fun hmod => hdvd (Nat.dvd_of_mod_eq_zero hmod)⟩
      rintro rfl
      exact hdvd (Nat.dvd_zero _)

/-! ## First tokens of lines -/

theorem unbroken_sourceLinesFrom (start : Nat) (s : List Char) :
    ∀ l ∈ sourceLinesFrom start s, Unbroken l.content := by
  induction s using lineInduction generalizing start with
  | nil => exact fun _ h => (nomatch h)
  | char c r hc ih =>
    have ih := ih (start + 1)
    rw [sourceLinesFrom_cons hc]
    cases hlines : sourceLinesFrom (start + 1) r with
    | nil =>
      intro l hl
      obtain rfl := List.mem_singleton.mp hl
      exact unbroken_cons.mpr ⟨hc, unbroken_nil⟩
    | cons m ms =>
      rw [hlines] at ih
      rintro l (_ | ⟨_, hl⟩)
      · exact unbroken_cons.mpr ⟨hc, ih m List.mem_cons_self⟩
      · exact ih l (List.mem_cons_of_mem _ hl)
  | split b r hb ih =>
    rw [sourceLinesFrom_break hb]
    rintro l (_ | ⟨_, hl⟩)
    · exact unbroken_nil
    · exact ih _ l hl

end Text

namespace Token.InLine

open Text

variable {text : List Char} {tokens : List Token} {l : SourceLine} {t u : Token}

theorem mem (h : t.InLine text l) : l ∈ sourceLines text :=
  List.mem_of_getElem? h.line_eq

theorem lt_length (h : t.InLine text l) : t.column - 1 < l.content.length := by
  obtain ⟨c, hc, -⟩ := h.visible
  exact (List.getElem?_eq_some_iff.mp hc).1

/-- No visible character of the line stands before the token, or the indent is smaller. -/
theorem indent_le (h : t.InLine text l) : l.indent ≤ t.column - 1 := by
  obtain ⟨c, hc, hvisible⟩ := h.visible
  have hindent := (Lexer.length_takeWhile_iff (k := l.indent)).mp rfl
  by_contra hlt
  have hblank := hindent.1 (t.column - 1) (Nat.lt_of_not_le hlt)
  rw [hc, Option.any_some, hvisible] at hblank
  cases hblank

theorem indent_eq_iff (h : t.InLine text l) :
    l.indent = t.column - 1 ↔ allBlank (l.content.take (t.column - 1)) = true := by
  obtain ⟨c, hc, hvisible⟩ := h.visible
  rw [SourceLine.indent, Lexer.length_takeWhile_iff, hc, Option.any_some]
  simp only [hvisible, and_true, allBlank, List.all_eq_true]
  constructor
  · intro hblank x hx
    obtain ⟨i, hi, rfl⟩ := List.mem_iff_getElem.mp hx
    rw [List.length_take] at hi
    have := hblank i (by omega)
    rw [List.getElem?_eq_getElem (by omega), Option.any_some] at this
    rwa [List.getElem_take]
  · intro hblank j hj
    have hlength := h.lt_length
    rw [List.getElem?_eq_getElem (by omega), Option.any_some]
    exact hblank _ (List.mem_take_iff_getElem.mpr ⟨j, by omega, rfl⟩)

/-- Nothing but blanks stands before the token since the last line feed: neither in its line nor in
lines before it that end at a carriage return. -/
theorem beginsLine_iff (h : t.InLine text l) :
    Style.beginsLine text t = true ↔ l.indent = t.column - 1 ∧ l.clear text = true := by
  have hfeed : ∀ x ∈ (l.content.take (t.column - 1)).reverse, (x ≠ '\n') := by
    rintro x hx rfl
    exact absurd (unbroken_sourceLinesFrom 0 text l h.mem _
      (List.mem_of_mem_take (List.mem_reverse.mp hx))) (by decide)
  rw [h.indent_eq_iff, Style.beginsLine, h.before_eq, List.reverse_append,
    List.takeWhile_append_of_pos fun x hx => decide_eq_true (hfeed x hx), allBlank, List.all_append,
    List.all_reverse, Bool.and_eq_true]
  rfl

end Token.InLine

namespace Style

open Text

variable {text : List Char} {tokens : List Token} {l : SourceLine} {t : Token}

theorem mem_of_mem_lineTokens {last : Nat} {ts : List Token} (h : t ∈ lineTokens last ts) :
    t ∈ ts := by
  induction ts generalizing last with
  | nil => cases h
  | cons u us ih =>
    rw [lineTokens] at h
    split at h
    · exact List.mem_cons_of_mem _ (ih h)
    · rcases List.mem_cons.mp h with rfl | h
      · exact List.mem_cons_self
      · exact List.mem_cons_of_mem _ (ih h)

theorem mem_lineTokens {last : Nat} {before after : List Token} (hlast : last ≠ t.line)
    (h : ∀ u ∈ before, u.line ≠ t.line) : t ∈ lineTokens last (before ++ t :: after) := by
  induction before generalizing last with
  | nil =>
    rw [List.nil_append, lineTokens, if_neg hlast.symm]
    exact List.mem_cons_self
  | cons u us ih =>
    obtain ⟨hu, hus⟩ := List.forall_mem_cons.mp h
    rw [List.cons_append, lineTokens]
    split
    · exact ih hlast hus
    · exact List.mem_cons_of_mem _ (ih hu hus)

theorem exists_of_begun (h : (tokenize text).toList = .ok tokens) (hl : l ∈ sourceLines text)
    (hbegun : l.begun tokens = true) :
    ∃ t ∈ lineTokens 0 tokens, t.InLine text l ∧ t.column - 1 = l.indent := by
  simp only [SourceLine.begun, Bool.and_eq_true, decide_eq_true_eq, List.any_eq_true] at hbegun
  obtain ⟨hlt, t, ht, hstart⟩ := hbegun
  obtain ⟨m, hm⟩ := inLine_of_mem_tokenize h ht
  obtain rfl : l = m :=
    eq_of_mem_sourceLines hl hm.mem hlt hm.lt_length (hstart.symm.trans hm.start_eq)
  have hcolumn : t.column - 1 = l.indent := by
    have := hm.start_eq
    omega
  refine ⟨t, ?_, hm, hcolumn⟩
  obtain ⟨before, after, rfl⟩ := List.append_of_mem ht
  refine mem_lineTokens hm.line_pos.ne fun u hu hline => ?_
  -- An earlier token of the line would begin inside the indent.
  obtain ⟨k, hk⟩ := inLine_of_mem_tokenize h (List.mem_append_left _ hu)
  have hsame := hk.line_eq
  rw [hline, hm.line_eq] at hsame
  obtain rfl := Option.some.inj hsame
  have hbefore : u.span.start < t.span.start :=
    (List.pairwise_append.mp (pairwise_start_tokenize h)).2.2 u hu t List.mem_cons_self
  have hindent := hk.indent_le
  have := hk.start_eq
  omega

theorem begun_of_inLine (ht : t ∈ tokens) (h : t.InLine text l)
    (hcolumn : l.indent = t.column - 1) :
    l.begun tokens = true := by
  simp only [SourceLine.begun, Bool.and_eq_true, decide_eq_true_eq, List.any_eq_true]
  exact ⟨hcolumn ▸ h.lt_length, t, ht, hcolumn ▸ h.start_eq⟩

/-- The indents that are compared: those of the lines whose first visible character begins a token,
unless something stands before the line and behind the last line feed. -/
theorem mem_indents_iff (h : (tokenize text).toList = .ok tokens) (i : Nat) :
    i ∈ indents text tokens ↔ i ∈ clearIndents text tokens := by
  simp only [indents, clearIndents, List.mem_map, List.mem_filter, Bool.and_eq_true]
  constructor
  · rintro ⟨t, ⟨ht, hbegins⟩, rfl⟩
    have hmem := mem_of_mem_lineTokens ht
    obtain ⟨l, hl⟩ := inLine_of_mem_tokenize h hmem
    obtain ⟨hindent, hclear⟩ := hl.beginsLine_iff.mp hbegins
    exact ⟨l, ⟨hl.mem, begun_of_inLine hmem hl hindent, hclear⟩, hindent⟩
  · rintro ⟨l, ⟨hmem, hbegun, hclear⟩, rfl⟩
    obtain ⟨t, ht, hl, hcolumn⟩ := exists_of_begun h hmem hbegun
    exact ⟨t, ⟨ht, hl.beginsLine_iff.mpr ⟨hcolumn.symm, hclear⟩⟩, hcolumn⟩

/-! ## Line endings and indents -/

theorem mem_begunIndents_iff (h : (tokenize text).toList = .ok tokens) {i : Nat} :
    i ∈ begunIndents text tokens ↔ ∃ kind value line column,
      (kind, value, line, column) ∈ tokens.map Token.face ∧ column - 1 = i ∧
      ∃ w, ((sourceLines text).map SourceLine.content)[line - 1]? = some w ∧
        (w.takeWhile isBlank).length = i := by
  simp only [begunIndents, List.mem_map, List.mem_filter, List.getElem?_map,
    Option.map_eq_some_iff]
  constructor
  · rintro ⟨l, ⟨hmem, hbegun⟩, rfl⟩
    obtain ⟨t, ht, hl, hcolumn⟩ := exists_of_begun h hmem hbegun
    exact ⟨_, _, _, _, ⟨t, mem_of_mem_lineTokens ht, rfl⟩, hcolumn, l.content,
      ⟨l, hl.line_eq, rfl⟩, rfl⟩
  · rintro ⟨_, _, _, _, ⟨t, ht, ⟨⟩⟩, rfl, w, ⟨m, hm, rfl⟩, hindent⟩
    obtain ⟨l, hl⟩ := inLine_of_mem_tokenize h ht
    rw [hl.line_eq] at hm
    obtain rfl := Option.some.inj hm
    exact ⟨l, ⟨hl.mem, begun_of_inLine ht hl hindent⟩, hindent⟩

/-- The indents of lines are those of the text with line feeds. -/
theorem mem_begunIndents_unifyBreaks (h : (tokenize text).toList = .ok tokens)
    {tokens' : List Token} (h' : (tokenize (unifyBreaks text)).toList = .ok tokens') (i : Nat) :
    i ∈ begunIndents (unifyBreaks text) tokens' ↔ i ∈ begunIndents text tokens := by
  obtain ⟨ts, hts, hface⟩ := tokens_unifyBreaks h
  obtain rfl := Except.ok.inj (hts.symm.trans h')
  rw [mem_begunIndents_iff h, mem_begunIndents_iff h', hface, sourceLines, sourceLines,
    content_sourceLinesFrom_unifyBreaks 0 0]

end Style

namespace Text

theorem tail_cons_sourceLines (start : Nat) (c : Char) (ls : List SourceLine) :
    (SourceLine.cons start c ls).tail = ls.tail := by
  cases ls <;> rfl

theorem start_of_head? (start : Nat) (s : List Char) :
    ∀ l ∈ (sourceLinesFrom start s).head?, l.start = start := by
  induction s using lineInduction with
  | nil => exact fun _ h => (nomatch h)
  | char c r hc _ =>
    rw [sourceLinesFrom_cons hc]
    cases sourceLinesFrom (start + 1) r <;> simp [SourceLine.cons]
  | split b r hb _ => simp [sourceLinesFrom_break hb]

theorem Paired.of_append {b r : List Char} (h : Paired (b ++ r)) : Paired r := by
  intro i hi hreturn
  have hnext := h (b.length + i) (by simpa using hi)
  rw [Nat.add_assoc, List.getElem?_append_right (Nat.le_add_right _ _),
    List.getElem?_append_right (Nat.le_add_right _ _), Nat.add_sub_cancel_left,
    Nat.add_sub_cancel_left] at hnext
  exact hnext hreturn

theorem Paired.exists_feed {b r : List Char} (h : Paired (b ++ r)) (hb : IsBreak b r) :
    ∃ before, b = before ++ ['\n'] := by
  cases hb with
  | feed => exact ⟨[], rfl⟩
  | pair => exact ⟨['\r'], rfl⟩
  | single hsingle =>
    have hnext := h 0 (Nat.succ_pos _) rfl
    rw [List.singleton_append, List.getElem?_cons_succ, ← List.head?_eq_getElem?] at hnext
    exact absurd hnext hsingle

/-- Every line but the first begins behind a line feed, if no carriage return ends a line. -/
theorem feed_before_line {start : Nat} {s : List Char} (hs : Paired s) :
    ∀ l ∈ (sourceLinesFrom start s).tail, start < l.start ∧
      ∃ before, s.take (l.start - start) = before ++ ['\n'] := by
  induction s using lineInduction generalizing start with
  | nil => exact fun _ h => (nomatch h)
  | char c r hc ih =>
    have hr : Paired r := Paired.of_append (b := [c]) hs
    intro l hl
    rw [sourceLinesFrom_cons hc, tail_cons_sourceLines] at hl
    obtain ⟨hlt, before, hbefore⟩ := ih hr l hl
    refine ⟨by omega, c :: before, ?_⟩
    rw [show l.start - start = l.start - (start + 1) + 1 by omega, List.take_succ_cons, hbefore,
      List.cons_append]
  | split b r hb ih =>
    have hpos := hb.length_pos
    intro l hl
    rw [sourceLinesFrom_break hb, List.tail_cons] at hl
    cases hlines : sourceLinesFrom (start + b.length) r with
    | nil =>
      rw [hlines] at hl
      cases hl
    | cons m ms =>
      rw [hlines] at hl
      rcases List.mem_cons.mp hl with rfl | hl
      · have hstart := start_of_head? (start + b.length) r l (by rw [hlines]; rfl)
        rw [hstart, Nat.add_sub_cancel_left, List.take_left]
        exact ⟨by omega, hs.exists_feed hb⟩
      · obtain ⟨hlt, before, hbefore⟩ := ih hs.of_append l (by rw [hlines]; exact hl)
        refine ⟨by omega, b ++ before, ?_⟩
        rw [List.append_assoc, ← hbefore,
          show l.start - start = b.length + (l.start - (start + b.length)) by omega,
          List.take_length_add_append]

theorem clear_of_paired {text : List Char} (h : Paired text) {l : SourceLine}
    (hl : l ∈ sourceLines text) : l.clear text = true := by
  rw [sourceLines] at hl
  cases hlines : sourceLinesFrom 0 text with
  | nil =>
    rw [hlines] at hl
    cases hl
  | cons m ms =>
    rw [hlines] at hl
    rcases List.mem_cons.mp hl with rfl | hl
    · have hstart := start_of_head? 0 text l (by rw [hlines]; rfl)
      rw [SourceLine.clear, hstart]
      rfl
    · obtain ⟨-, before, hbefore⟩ := feed_before_line h l (by rw [hlines]; exact hl)
      rw [Nat.sub_zero] at hbefore
      rw [SourceLine.clear, hbefore, List.reverse_append]
      rfl

end Text

namespace Style

open Text

variable {c : Context} {text : List Char} {tokens : List Token} {f : Finding} {d d' : Document}
  {config config' : Config}

theorem findings_check (h : (tokenize c.document.sourceText).toList = .ok tokens) :
    (check c).findings = naming c ++ layout c c.document.sourceText tokens := by
  rw [check, h]
  rfl

def reportsUnder (heading : String) (handle : Nat) (c : Context) : List Diagnostic :=
  ((rule handle).run c).findings.filter fun e => heading.toList <+: e.message.toList

theorem reportsUnder_eq (heading : String) (handle : Nat) (c : Context) :
    reportsUnder heading handle c
      = ((check c).findings.filter fun f => heading.toList <+: f.message.toList).map
          (Finding.toDiagnostic "STYLE" c.document.text) := by
  change ((check c).findings.map (Finding.toDiagnostic "STYLE" c.document.text)).filter _ = _
  rw [List.filter_map]
  simp only [Function.comp_def, message_toDiagnostic]

theorem filter_eq_nil {heading : String} {headings : List String} {fs : List Finding}
    (h : ∀ f ∈ fs, f.Headed headings)
    (hapart : ∀ x ∈ headings, ¬ (heading.toList <+: x.toList ∨ x.toList <+: heading.toList)) :
    (fs.filter fun f => heading.toList <+: f.message.toList) = [] := by
  refine List.filter_eq_nil_iff.mpr fun f hf hbegins => ?_
  exact (h f hf).not_begins hapart (of_decide_eq_true hbegins)

theorem filter_eq_self {heading : String} {fs : List Finding} (h : ∀ f ∈ fs, f.Headed [heading]) :
    (fs.filter fun f => heading.toList <+: f.message.toList) = fs := by
  refine List.filter_eq_self.mpr fun f hf => ?_
  obtain ⟨x, hx, hbegins⟩ := h f hf
  obtain rfl := List.mem_singleton.mp hx
  exact decide_eq_true hbegins

theorem headed_spacing (on : Bool) (tokens : List Token) :
    ∀ f ∈ (if on then spacing tokens else []), f.Headed ["Multiple", "Missing"] := by
  intro f h
  exact headed_firstFaults (List.mem_ite_nil_right.mp h).2

theorem reportsUnder_indentation (h : (tokenize c.document.sourceText).toList = .ok tokens)
    (hflag : c.config.flag .indentation = true) (handle : Nat) :
    reportsUnder "Inconsistent indentation" handle c
      = (consistency c c.document.sourceText tokens).map
          (Finding.toDiagnostic "STYLE" c.document.text) := by
  rw [reportsUnder_eq, findings_check h, layout, if_pos hflag]
  simp only [List.filter_append]
  rw [filter_eq_nil (fun _ => headed_naming) (by decide),
    filter_eq_nil (headed_spacing _ _) (by decide), filter_eq_self fun _ => headed_consistency,
    filter_eq_nil (fun _ => headed_nestingLevel) (by decide),
    filter_eq_nil (fun _ => headed_lineLength) (by decide)]
  simp only [List.nil_append, List.append_nil]

theorem reportsUnder_line (h : (tokenize c.document.sourceText).toList = .ok tokens)
    (handle : Nat) :
    reportsUnder "Line " handle c
      = (lineLength c c.document.sourceText).map
          (Finding.toDiagnostic "STYLE" c.document.text) := by
  have hindents : ∀ f ∈ (if c.config.flag .indentation then
      consistency c c.document.sourceText tokens ++ nestingLevel c else []),
      f.Headed ["Inconsistent indentation", "Indentation level"] := by
    intro f hf
    rcases List.mem_append.mp (List.mem_ite_nil_right.mp hf).2 with hf | hf
    · obtain ⟨x, hx, hbegins⟩ := headed_consistency hf
      exact ⟨x, by simp_all, hbegins⟩
    · obtain ⟨x, hx, hbegins⟩ := headed_nestingLevel hf
      exact ⟨x, by simp_all, hbegins⟩
  rw [reportsUnder_eq, findings_check h, layout]
  simp only [List.filter_append]
  rw [filter_eq_nil (fun _ => headed_naming) (by decide),
    filter_eq_nil (headed_spacing _ _) (by decide), filter_eq_nil hindents (by decide),
    filter_eq_self fun _ => headed_lineLength]
  simp only [List.nil_append]

theorem sourceText_of_parse (h : Document.parse text = .ok d) :
    d.sourceText = text ∧ ∃ tokens, (tokenize text).toList = .ok tokens := by
  refine ⟨?_, (Document.written_of_parse h).1⟩
  obtain ⟨s, hs, h⟩ := exists_of_bind_eq_ok h
  obtain ⟨⟨definitions, s'⟩, hrun, h⟩ := exists_of_bind_eq_ok h
  cases h
  rfl

theorem reports_indentation_iff (h : Document.parse text = .ok d)
    (htokens : (tokenize text).toList = .ok tokens) (hflag : config.flag .indentation = true)
    (handle : Nat) :
    reportsUnder "Inconsistent indentation" handle ⟨d, config⟩ ≠ [] ↔
      Uneven (clearIndents text tokens) := by
  have htext := (sourceText_of_parse h).1
  rw [reportsUnder_indentation (c := ⟨d, config⟩) (by rw [htext]; exact htokens) hflag, htext,
    ← Uneven.congr (mem_indents_iff htokens), ← inconsistent_iff, consistency]
  cases inconsistent (indents text tokens) <;> simp

theorem reports_indentation_iff_of_paired (h : Document.parse text = .ok d)
    (htokens : (tokenize text).toList = .ok tokens) (hflag : config.flag .indentation = true)
    (hpaired : Paired text) (handle : Nat) :
    reportsUnder "Inconsistent indentation" handle ⟨d, config⟩ ≠ [] ↔
      Uneven (begunIndents text tokens) := by
  have hclear : clearIndents text tokens = begunIndents text tokens := by
    refine congrArg (List.map _) (List.filter_congr fun l hl => ?_)
    rw [clear_of_paired hpaired hl, Bool.and_true]
  rw [reports_indentation_iff h htokens hflag, hclear]

/-- The rule reports uneven indentation exactly if the indents of the lines that begin with a token
are uneven, where lines count that have only blanks between them and the last line feed before them.
If no carriage return ends a line by itself, these are all the lines that begin with a token, and
then it makes no difference whether lines end with line feeds or with pairs. -/
theorem indentation_reported_iff (h : Document.parse text = .ok d)
    (hflag : config.flag .indentation = true) (handle : Nat) :
    ∃ tokens, (tokenize text).toList = .ok tokens ∧
      (reportsUnder "Inconsistent indentation" handle ⟨d, config⟩ ≠ [] ↔
        Uneven (clearIndents text tokens)) ∧
      (Paired text → (reportsUnder "Inconsistent indentation" handle ⟨d, config⟩ ≠ [] ↔
        Uneven (begunIndents text tokens))) ∧
      (Paired text → ∀ text' d' config' handle', Document.parse text' = .ok d' →
        config'.flag .indentation = true → Paired text' → unifyBreaks text' = unifyBreaks text →
          (reportsUnder "Inconsistent indentation" handle' ⟨d', config'⟩ ≠ [] ↔
            reportsUnder "Inconsistent indentation" handle ⟨d, config⟩ ≠ [])) := by
  obtain ⟨-, tokens, htokens⟩ := sourceText_of_parse h
  refine ⟨tokens, htokens, reports_indentation_iff h htokens hflag handle, ?_, ?_⟩
  · intro hpaired
    exact reports_indentation_iff_of_paired h htokens hflag hpaired handle
  · intro hpaired text' d' config' handle' h' hflag' hpaired' hunify
    obtain ⟨-, tokens', htokens'⟩ := sourceText_of_parse h'
    obtain ⟨ts, hts, -⟩ := tokens_unifyBreaks htokens
    rw [reports_indentation_iff_of_paired h htokens hflag hpaired,
      reports_indentation_iff_of_paired h' htokens' hflag' hpaired']
    refine Uneven.congr fun i => ?_
    rw [← mem_begunIndents_unifyBreaks htokens hts, ← mem_begunIndents_unifyBreaks htokens'
      (hunify ▸ hts), hunify]

/-- A selection that is not indented by a multiple of the first step. -/
def crookedText (ending : List Char) : List Char :=
  ending.intercalate (["\x7b", "  a \x7b", "     b", "  \x7d", "\x7d"].map String.toList)

/-- Line feeds and pairs bring the report, carriage returns alone do not, though the indents are the
same. -/
theorem indentation_reported_iff_crooked :
    (∃ d, Document.parse (crookedText ['\n']) = .ok d ∧
      reportsUnder "Inconsistent indentation" 0 ⟨d, .standard⟩ ≠ []) ∧
    (∃ d, Document.parse (crookedText ['\r', '\n']) = .ok d ∧
      reportsUnder "Inconsistent indentation" 0 ⟨d, .standard⟩ ≠ []) ∧
    (∃ d tokens, Document.parse (crookedText ['\r']) = .ok d ∧
      (tokenize (crookedText ['\r'])).toList = .ok tokens ∧
      Uneven (begunIndents (crookedText ['\r']) tokens) ∧
      reportsUnder "Inconsistent indentation" 0 ⟨d, .standard⟩ = []) := by
  have hflag : Config.standard.flag .indentation = true := by decide +kernel
  have hread : ∀ ending ∈ [['\n'], ['\r', '\n'], ['\r']],
      ((Document.parse (crookedText ending)).toOption.isSome = true ∧
        (tokenize (crookedText ending)).toList.toOption.map (begunIndents (crookedText ending))
          = some [0, 2, 5, 2, 0]) := by
    decide +kernel
  have hdocument : ∀ ending ∈ [['\n'], ['\r', '\n'], ['\r']],
      ∃ d, Document.parse (crookedText ending) = .ok d := by
    intro ending hending
    have hsome := (hread ending hending).1
    cases hd : Document.parse (crookedText ending) with
    | error fault =>
      rw [hd] at hsome
      cases hsome
    | ok d => exact ⟨d, rfl⟩
  have hindents : ∀ ending ∈ [['\n'], ['\r', '\n'], ['\r']], ∀ tokens,
      (tokenize (crookedText ending)).toList = .ok tokens →
        Uneven (begunIndents (crookedText ending) tokens) := by
    intro ending hending tokens htokens
    have heq := (hread ending hending).2
    rw [htokens] at heq
    rw [Option.some.inj heq]
    decide
  obtain ⟨d₁, h₁⟩ := hdocument ['\n'] (by simp)
  obtain ⟨d₂, h₂⟩ := hdocument ['\r', '\n'] (by simp)
  obtain ⟨d₃, h₃⟩ := hdocument ['\r'] (by simp)
  obtain ⟨tokens, htokens, -, hpaired, hconvert⟩ := indentation_reported_iff h₁ hflag 0
  obtain ⟨tokens₃, htokens₃, hexact, -⟩ := indentation_reported_iff h₃ hflag 0
  have hfeeds := (hpaired (by decide +kernel)).mpr (hindents _ (by simp) tokens htokens)
  refine ⟨⟨d₁, h₁, hfeeds⟩, ⟨d₂, h₂, ?_⟩, d₃, tokens₃, h₃, htokens₃, ?_, ?_⟩
  · exact (hconvert (by decide +kernel) _ d₂ .standard 0 h₂ hflag (by decide +kernel)
      (by decide +kernel)).mpr hfeeds
  · exact hindents _ (by simp) tokens₃ htokens₃
  · have hclear : (tokenize (crookedText ['\r'])).toList.toOption.map
        (clearIndents (crookedText ['\r'])) = some [0] := by
      decide +kernel
    rw [htokens₃] at hclear
    rw [Option.some.inj hclear] at hexact
    exact not_not.mp (mt hexact.mp (by decide))

end Style

end QueryLint
