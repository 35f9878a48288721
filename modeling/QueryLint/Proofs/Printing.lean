import QueryLint.Proofs.Weaving

/-! # Written documents are woven

What the printer writes for a node is woven if what it writes for the parts of the node is. Strings
are woven whatever they hold: what could end them early is escaped, and a block string whose content
could run into its closing quotes has them on a line of their own.
-/

namespace QueryLint

namespace Printer

open Lexer

/-! ## Joining and wrapping -/

theorem parted_of_marks {marks : Chars} (h : marks.all isMark = true) (rest : Chars)
    (hrest : Parted rest) : Parted (marks ++ rest) := by
  cases marks with
  | nil => exact hrest
  | cons c marks => exact parted_cons (List.all_eq_true.mp h c List.mem_cons_self) _

theorem woven_join {separator : Chars} (hne : separator ≠ [])
    (hmarks : separator.all isMark = true) {parts : List Chars}
    (h : ∀ p ∈ parts, Woven p) : Woven (join separator parts) := by
  have hparts : ∀ ps : List Chars, (∀ p ∈ ps, Woven p) → Woven (separator.intercalate ps) := by
    intro ps
    induction ps with
    | nil => exact fun _ => .nil
    | cons p ps ih =>
      intro hps
      cases ps with
      | nil => exact List.intercalate_singleton ▸ hps p List.mem_cons_self
      | cons q ps =>
        rw [List.intercalate_cons_cons, List.append_assoc]
        refine (hps p List.mem_cons_self).append (.marks hmarks (ih fun x hx => ?_)) ?_
        · exact hps x (List.mem_cons_of_mem p hx)
        · obtain ⟨c, r, rfl⟩ := List.exists_cons_of_ne_nil hne
          exact parted_cons (List.all_eq_true.mp hmarks c List.mem_cons_self) _
  exact hparts _ fun p hp => h p (List.mem_of_mem_filter hp)

theorem woven_spaced {parts : List Chars} (h : ∀ p ∈ parts, Woven p) : Woven (spaced parts) :=
  woven_join (by decide) (by decide) h

theorem woven_commas {parts : List Chars} (h : ∀ p ∈ parts, Woven p) : Woven (commas parts) :=
  woven_join (by decide) (by decide) h

theorem woven_wrap {before middle after : Chars} (hbefore : before.all isMark = true)
    (h : Woven middle) (hafter : after.all isMark = true) :
    Woven (wrap before middle after) := by
  have hend : Woven (after ++ []) := .marks hafter .nil
  have hparted := parted_of_marks hafter [] parted_nil
  rw [List.append_nil] at hend hparted
  unfold wrap
  split
  · exact .nil
  · rw [List.append_assoc]
    exact .marks hbefore (h.append hend hparted)

theorem parted_wrap {before : Chars} (hne : before ≠ []) (hbefore : before.all isMark = true)
    (middle after : Chars) : Parted (wrap before middle after) := by
  unfold wrap
  split
  · exact parted_nil
  · obtain ⟨c, r, rfl⟩ := List.exists_cons_of_ne_nil hne
    exact parted_cons (List.all_eq_true.mp hbefore c List.mem_cons_self) _

theorem woven_lines {items : List Chars} (h : ∀ i ∈ items, Woven i) :
    Woven (indent (join ['\n'] items)) :=
  woven_wrap (by decide) (woven_join (by decide) (by decide) h).indent (by decide)

theorem woven_block {items : List Chars} (h : ∀ i ∈ items, Woven i) : Woven (block items) :=
  woven_wrap (by decide) (woven_lines h) (by decide)

theorem woven_word {word : Chars} (h : isName word = true) : Woven word :=
  .of_whole (whole_of_isName h)

end Printer

namespace Lexer.Woven

open Printer

variable {a b : List Char}

theorem spacing (ha : Woven a) (hb : Woven b) : Woven (a ++ wrap [' '] b []) :=
  ha.append (woven_wrap (by decide) hb (by decide)) (parted_wrap (by decide) (by decide) _ _)

theorem space (ha : Woven a) (hb : Woven b) : Woven (a ++ ' ' :: b) :=
  ha.append (.mark (by decide) hb) (parted_cons (by decide) _)

theorem colon (ha : Woven a) (hb : Woven b) : Woven (a ++ ':' :: ' ' :: b) :=
  ha.append (.mark (by decide) (.mark (by decide) hb)) (parted_cons (by decide) _)

variable {items : List (List Char)}

theorem inParens (ha : Woven a) (h : ∀ i ∈ items, Woven i) : Woven (a ++ inParens items) :=
  ha.append (woven_wrap (by decide) (woven_commas h) (by decide))
    (parted_wrap (by decide) (by decide) _ _)

theorem inParenLines (ha : Woven a) (h : ∀ i ∈ items, Woven i) : Woven (a ++ inParenLines items) :=
  ha.append (woven_wrap (by decide) (woven_lines h) (by decide))
    (parted_wrap (by decide) (by decide) _ _)

end Lexer.Woven

namespace Printer

open Lexer

/-! ## Strings -/

theorem prefix_of_prefix_escapeQuotes {n : Nat} {content after : Chars}
    (hafter : after = ['\n'] ∨ after = [])
    (h : List.replicate n '"' <+: escapeQuotes content ++ after) :
    List.replicate n '"' <+: content := by
  induction n generalizing content with
  | zero => exact List.nil_prefix
  | succ n ih =>
    rw [List.replicate_succ] at h ⊢
    unfold escapeQuotes at h
    split at h
    next => rcases hafter with rfl | rfl <;> simp at h
    next => simp at h
    next c r _ =>
      rw [List.cons_append, List.cons_prefix_cons] at h
      exact List.cons_prefix_cons.mpr ⟨h.1, ih h.2⟩

/-- Three quotes in a row are never left as they are. -/
theorem not_prefix_escapeQuotes {content after : Chars} (hafter : after = ['\n'] ∨ after = []) :
    ¬ ['"', '"', '"'] <+: escapeQuotes content ++ after := by
  intro h
  obtain ⟨r, rfl⟩ := prefix_of_prefix_escapeQuotes (n := 3) hafter h
  simp [escapeQuotes] at h

theorem blockBody_escapeQuotes {content after : Chars}
    (h : after = ['\n'] ∨ after = [] ∧ content.getLast? ≠ some '"' ∧
      content.getLast? ≠ some '\\') : BlockBody (escapeQuotes content ++ after) := by
  have hafter : after = ['\n'] ∨ after = [] := h.imp_right And.left
  have htail (c : Char) (r : Chars) {x : Char} (hx : (c :: r).getLast? ≠ some x) :
      r.getLast? ≠ some x := by
    cases r with
    | nil => simp
    | cons d r => rwa [List.getLast?_cons_cons] at hx
  have hne (c : Char) (r : Chars) (hc : c = '"' ∨ c = '\\') (h : after = ['\n'] ∨ after = [] ∧
      (c :: r).getLast? ≠ some '"' ∧ (c :: r).getLast? ≠ some '\\') :
      escapeQuotes r ++ after ≠ [] := by
    rcases h with rfl | ⟨rfl, hlast⟩
    · simp
    · cases r with
      | nil => rcases hc with rfl | rfl <;> simp at hlast
      | cons d r =>
        unfold escapeQuotes
        split <;> simp_all
  fun_induction escapeQuotes content with
  | case1 =>
    rcases hafter with rfl | rfl
    · exact .char (by decide) (by decide) .nil
    · exact .nil
  | case2 r ih =>
    refine .quotes (ih (h.imp_right fun ⟨hnil, hquote, hslash⟩ => ⟨hnil, ?_, ?_⟩))
    · exact htail _ _ (htail _ _ (htail _ _ hquote))
    · exact htail _ _ (htail _ _ (htail _ _ hslash))
  | case3 c r hquotes ih =>
    have hr := ih (h.imp_right fun ⟨hnil, hquote, hslash⟩ =>
      ⟨hnil, htail c r hquote, htail c r hslash⟩)
    by_cases hquote : c = '"'
    · subst hquote
      refine .quote (hne _ _ (.inl rfl) h) (fun hpre => ?_) hr
      obtain ⟨t, rfl⟩ := prefix_of_prefix_escapeQuotes (n := 2) hafter hpre
      exact hquotes t rfl rfl
    by_cases hslash : c = '\\'
    · subst hslash
      exact .backslash (hne _ _ (.inr rfl) h) (not_prefix_escapeQuotes hafter) hr
    · exact .char hquote hslash hr

theorem woven_blockString (content : Chars) : Woven (blockString content) := by
  have hblock {before after : Chars} (hbefore : before = ['\n'] ∨ before = [])
      (hafter : after = ['\n'] ∨ after = [] ∧ content.getLast? ≠ some '"' ∧
        content.getLast? ≠ some '\\') :
      Woven (['"', '"', '"'] ++ before ++ escapeQuotes content ++ after ++ ['"', '"', '"']) := by
    have hbody := blockBody_escapeQuotes hafter
    rcases hbefore with rfl | rfl
    · have hwoven := Woven.block (.char (by decide) (by decide) hbody : BlockBody ('\n' :: _)) .nil
      simpa [blocked] using hwoven
    · have hwoven := Woven.block hbody .nil
      simpa [blocked] using hwoven
  unfold blockString
  refine hblock ?_ ?_
  · split <;> simp
  · split
    · exact .inl rfl
    next hsingle =>
      simp only [Bool.or_eq_true, Bool.and_eq_true, beq_iff_eq, not_or] at hsingle
      obtain ⟨⟨-, hends⟩, hquote, hslash⟩ := hsingle
      exact .inr ⟨rfl, fun hq => hquote ⟨hq, by simp [hends]⟩, hslash⟩

theorem woven_stringOf (content : String) (isBlock : Bool) : Woven (stringOf content isBlock) := by
  unfold stringOf
  split
  · exact woven_blockString _
  · exact .of_whole (whole_string _)

/-! ## Values, arguments and types -/

variable {before : Chars}

theorem woven_variableRef {v : Variable} (h : Woven (name v.name)) : Woven (variableRef v) :=
  h.mark (by decide)

theorem values_eq_map (vs : List Value) : values vs = vs.map value := by
  induction vs with
  | nil => rw [values, List.map_nil]
  | cons v vs ih => rw [values, ih, List.map_cons]

def objectField (f : ObjectField) : Chars :=
  name f.name ++ ':' :: ' ' :: value f.value

theorem objectFields_eq_map (fs : List ObjectField) : objectFields fs = fs.map objectField := by
  induction fs with
  | nil => rw [objectFields, List.map_nil]
  | cons f fs ih =>
    obtain ⟨n, v, span⟩ := f
    rw [objectFields, ih, List.map_cons]
    rfl

theorem woven_objectField {f : ObjectField} (hn : Woven (name f.name))
    (hv : Woven (value f.value)) : Woven (objectField f) :=
  hn.colon hv

theorem woven_list {vs : List Value} (h : ∀ v ∈ vs, Woven (value v)) (span : Option Span) :
    Woven (value (.list vs span)) := by
  rw [value, values_eq_map]
  refine .mark (by decide) ((woven_commas ?_).append (.mark (by decide) .nil)
    (parted_cons (by decide) _))
  exact List.forall_mem_map.mpr h

theorem woven_object {fs : List ObjectField} (h : ∀ f ∈ fs, Woven (objectField f))
    (span : Option Span) : Woven (value (.object fs span)) := by
  rw [value, objectFields_eq_map]
  refine .mark (by decide) ((woven_commas ?_).append (.mark (by decide) .nil)
    (parted_cons (by decide) _))
  exact List.forall_mem_map.mpr h

theorem woven_argument {a : Argument} (hn : Woven (name a.name)) (hv : Woven (value a.value)) :
    Woven (argument a) :=
  hn.colon hv

theorem woven_directive {d : Directive} (hn : Woven (name d.name))
    (hargs : ∀ a ∈ d.arguments, Woven (argument a)) : Woven (directive d) :=
  .mark (by decide) (hn.inParens (List.forall_mem_map.mpr hargs))

theorem woven_directives {ds : List Directive} (h : ∀ d ∈ ds, Woven (directive d)) :
    Woven (directives ds) :=
  woven_spaced (List.forall_mem_map.mpr h)

theorem woven_listType {t : TypeRef} (h : Woven (typeRef t)) (span : Option Span) :
    Woven (typeRef (.list t span)) :=
  .mark (by decide) (h.append (.mark (by decide) .nil) (parted_cons (by decide) _))

theorem woven_nonNull {t : TypeRef} (h : Woven (typeRef t)) (span : Option Span) :
    Woven (typeRef (.nonNull t span)) :=
  h.append (.mark (by decide) .nil) (parted_cons (by decide) _)

theorem woven_defaultValue (hbefore : before.all isMark = true) {v : Option Value}
    (h : ∀ x ∈ v, Woven (value x)) : Woven (defaultValue before v) := by
  cases v with
  | none => exact .nil
  | some x => exact woven_wrap hbefore (h x rfl) (by simp)

theorem parted_defaultValue (hne : before ≠ []) (hbefore : before.all isMark = true)
    (v : Option Value) : Parted (defaultValue before v) := by
  cases v with
  | none => exact parted_nil
  | some x => exact parted_wrap hne hbefore _ _

theorem woven_variableDefinition {v : VariableDefinition} (hr : Woven (name v.ref.name))
    (ht : Woven (typeRef v.type)) (hv : ∀ x ∈ v.defaultValue, Woven (value x))
    (hd : ∀ d ∈ v.directives, Woven (directive d)) : Woven (variableDefinition v) := by
  refine .spacing (.append ((woven_variableRef hr).colon ht) ?_ ?_) (woven_directives hd)
  · exact woven_defaultValue (by decide) hv
  · exact parted_defaultValue (by decide) (by decide) _

/-! ## Selections -/

theorem woven_fieldHead {aliasName : Option Name} {n : Name} {arguments : List Argument}
    (ha : ∀ a ∈ aliasName, Woven (name a)) (hn : Woven (name n))
    (hargs : ∀ a ∈ arguments, Woven (argument a)) : Woven (fieldHead aliasName n arguments) := by
  have hline {label : Chars} (hlabel : Woven label) :
      Woven (if maxArgumentLine < (label ++ inParens (arguments.map argument)).length
        then label ++ inParenLines (arguments.map argument)
        else label ++ inParens (arguments.map argument)) := by
    split
    · exact hlabel.inParenLines (List.forall_mem_map.mpr hargs)
    · exact hlabel.inParens (List.forall_mem_map.mpr hargs)
  cases aliasName with
  | none => exact hline hn
  | some a =>
    refine hline ?_
    rw [List.append_assoc]
    exact (ha a rfl).colon hn

theorem selections_eq_map (ss : List Selection) : selections ss = ss.map selection := by
  induction ss with
  | nil => rw [selections, List.map_nil]
  | cons s ss ih => rw [selections, ih, List.map_cons]

theorem woven_selectionSet {s : SelectionSet} (h : ∀ x ∈ s.selections, Woven (selection x)) :
    Woven (selectionSet s) := by
  obtain ⟨items, span⟩ := s
  rw [selectionSet, selections_eq_map]
  exact woven_block (List.forall_mem_map.mpr h)

theorem woven_field {f : Field} (ha : ∀ a ∈ f.aliasName, Woven (name a)) (hn : Woven (name f.name))
    (hargs : ∀ a ∈ f.arguments, Woven (argument a))
    (hd : ∀ d ∈ f.directives, Woven (directive d))
    (hs : ∀ s ∈ f.selectionSet, Woven (selectionSet s)) : Woven (selection (.field f)) := by
  obtain ⟨aliasName, n, arguments, dirs, body, span⟩ := f
  have hbody : Woven (optionalSelectionSet body) := by
    cases body with
    | none => rw [optionalSelectionSet]; exact .nil
    | some s => rw [optionalSelectionSet]; exact hs s rfl
  rw [selection, field]
  refine woven_spaced ?_
  simp only [List.forall_mem_cons]
  exact ⟨woven_fieldHead ha hn hargs, woven_directives hd, hbody, fun _ h => nomatch h⟩

theorem woven_spread {s : Spread} (hn : Woven (name s.name))
    (hd : ∀ d ∈ s.directives, Woven (directive d)) : Woven (selection (.spread s)) := by
  rw [selection]
  exact (hn.spacing (woven_directives hd)).spread

theorem woven_inlineFragment {i : InlineFragment} (hc : ∀ t ∈ i.condition, Woven (namedType t))
    (hd : ∀ d ∈ i.directives, Woven (directive d)) (hs : Woven (selectionSet i.selectionSet)) :
    Woven (selection (.inlineFragment i)) := by
  obtain ⟨condition, dirs, body, span⟩ := i
  have hparts {on : Chars} (hon : Woven on) :
      Woven (spaced ["...".toList, on, directives dirs, selectionSet body]) := by
    refine woven_spaced ?_
    simp only [List.forall_mem_cons]
    exact ⟨Woven.nil.spread, hon, woven_directives hd, hs, fun _ h => nomatch h⟩
  cases condition with
  | none =>
    rw [selection, inlineFragment]
    exact hparts .nil
  | some t =>
    have hon : isName "on".toList = true := by decide
    rw [selection, inlineFragment]
    exact hparts ((woven_word hon).space (hc t rfl))

/-! ## Definitions -/

theorem woven_keyword (k : OperationKind) : Woven k.keyword.toList := by
  cases k <;> exact woven_word (by decide)

theorem woven_operation {o : Operation} {text : Chars} (ho : operation? o = some text)
    (hn : ∀ n ∈ o.name, Woven (name n))
    (hv : ∀ v ∈ o.declarations, Woven (variableDefinition v))
    (hd : ∀ d ∈ o.directives, Woven (directive d))
    (hs : ∀ s ∈ o.selectionSet, Woven (selectionSet s)) : Woven text := by
  obtain ⟨kind, aliasName, declarations, dirs, selectionSet?, span⟩ := o
  have hhead {named : Chars} (hnamed : Woven named) :
      Woven (spaced [kind.keyword.toList, named ++ inParens (declarations.map variableDefinition),
        directives dirs]) := by
    refine woven_spaced ?_
    simp only [List.forall_mem_cons]
    exact ⟨woven_keyword kind, hnamed.inParens (List.forall_mem_map.mpr hv), woven_directives hd,
      fun _ h => nomatch h⟩
  have htext {head body : Chars} (hh : Woven head) (hb : Woven body) :
      Woven ((if head = "query".toList then [] else head ++ [' ']) ++ body) := by
    split
    · exact hb
    · rw [List.append_assoc]
      exact hh.space hb
  cases selectionSet? with
  | none => cases ho
  | some body =>
    cases aliasName with
    | none => exact Option.some.inj ho ▸ htext (hhead .nil) (hs body rfl)
    | some n => exact Option.some.inj ho ▸ htext (hhead (hn n rfl)) (hs body rfl)

theorem woven_fragment {f : Fragment} (hn : Woven (name f.name))
    (hc : Woven (namedType f.condition)) (hd : ∀ d ∈ f.directives, Woven (directive d))
    (hs : Woven (selectionSet f.selectionSet)) : Woven (fragment f) := by
  have hfragment : isName "fragment".toList = true := by decide
  have hon : isName "on".toList = true := by decide
  have hbody : Woven (wrap [] (directives f.directives) [' '] ++ selectionSet f.selectionSet) := by
    unfold wrap
    split
    · exact hs
    · rw [List.append_assoc, List.nil_append]
      exact (woven_directives hd).space hs
  have hall := (woven_word hfragment).space (hn.space ((woven_word hon).space (hc.space hbody)))
  change Woven ("fragment".toList ++ [' '] ++ name f.name ++ ' ' :: ("on".toList ++ [' '])
    ++ namedType f.condition ++ ' ' :: wrap [] (directives f.directives) [' ']
    ++ selectionSet f.selectionSet)
  simpa only [List.append_assoc, List.cons_append, List.nil_append] using hall

/-! ## The type system -/

variable {rest : Chars}

theorem woven_description (d : Option Description) (h : Woven rest) :
    Woven (description d ++ rest) := by
  cases d with
  | none => exact h
  | some d =>
    rw [description, wrap]
    split
    · exact h
    · rw [List.append_assoc, List.nil_append]
      exact (woven_stringOf _ _).append (.mark (by decide) h) (parted_cons (by decide) _)

theorem woven_rootType {r : RootType} (h : Woven (namedType r.type)) : Woven (rootType r) :=
  (woven_keyword r.kind).colon h

theorem woven_inputValueDefinition {v : InputValueDefinition} (hn : Woven (name v.name))
    (ht : Woven (typeRef v.type)) (hv : ∀ x ∈ v.defaultValue, Woven (value x))
    (hd : ∀ d ∈ v.directives, Woven (directive d)) : Woven (inputValueDefinition v) := by
  refine woven_description _ (woven_spaced ?_)
  simp only [List.forall_mem_cons]
  exact ⟨hn.colon ht, woven_defaultValue (by decide) hv, woven_directives hd, fun _ h => nomatch h⟩

theorem woven_argumentDefinitions (h : Woven rest) {vs : List InputValueDefinition}
    (hv : ∀ v ∈ vs, Woven (inputValueDefinition v)) : Woven (rest ++ argumentDefinitions vs) := by
  unfold argumentDefinitions
  dsimp only
  split
  · exact h.inParenLines (List.forall_mem_map.mpr hv)
  · exact h.inParens (List.forall_mem_map.mpr hv)

theorem woven_fieldDefinition {f : FieldDefinition} (hn : Woven (name f.name))
    (hargs : ∀ v ∈ f.arguments, Woven (inputValueDefinition v)) (ht : Woven (typeRef f.type))
    (hd : ∀ d ∈ f.directives, Woven (directive d)) : Woven (fieldDefinition f) := by
  have hhead := (woven_argumentDefinitions (woven_description f.description hn) hargs).colon ht
  exact hhead.spacing (woven_directives hd)

theorem woven_enumValueDefinition {v : EnumValueDefinition} (hn : Woven (name v.name))
    (hd : ∀ d ∈ v.directives, Woven (directive d)) : Woven (enumValueDefinition v) := by
  refine woven_description _ (woven_spaced ?_)
  simp only [List.forall_mem_cons]
  exact ⟨hn, woven_directives hd, fun _ h => nomatch h⟩

theorem woven_implementing {ts : List NamedType} (h : ∀ t ∈ ts, Woven (namedType t)) :
    Woven (implementing ts) := by
  have hword : isName "implements".toList = true := by decide
  have hjoin : Woven (join " & ".toList (ts.map namedType)) :=
    woven_join (by decide) (by decide) (List.forall_mem_map.mpr h)
  unfold implementing wrap
  split
  · exact .nil
  · rw [List.append_nil]
    exact (woven_word hword).space hjoin

theorem woven_members {ts : List NamedType} (h : ∀ t ∈ ts, Woven (namedType t)) :
    Woven (members ts) :=
  woven_wrap (by decide) (woven_join (by decide) (by decide) (List.forall_mem_map.mpr h))
    (by decide)

/-- A declaration is its keyword and what it declares, part by part. -/
theorem woven_declaration {keyword : Chars} (hk : isName keyword = true) {parts : List Chars}
    (h : ∀ p ∈ parts, Woven p) : Woven (spaced (keyword :: parts)) :=
  woven_spaced (List.forall_mem_cons.mpr ⟨woven_word hk, h⟩)

section Declarations

variable {n : Name} {ds : List Directive}

theorem woven_schema {rs : List RootType} (hd : ∀ d ∈ ds, Woven (directive d))
    (hr : ∀ r ∈ rs, Woven (rootType r)) : Woven (body (.schema ds rs)) := by
  refine woven_declaration (by decide) ?_
  simp only [List.forall_mem_cons]
  exact ⟨woven_directives hd, woven_block (List.forall_mem_map.mpr hr), fun _ h => nomatch h⟩

theorem woven_scalar (hn : Woven (name n)) (hd : ∀ d ∈ ds, Woven (directive d)) :
    Woven (body (.scalar n ds)) := by
  refine woven_declaration (by decide) ?_
  simp only [List.forall_mem_cons]
  exact ⟨hn, woven_directives hd, fun _ h => nomatch h⟩

theorem woven_fielded {keyword : Chars} (hk : isName keyword = true) {ts : List NamedType}
    {fs : List FieldDefinition} (hn : Woven (name n)) (ht : ∀ t ∈ ts, Woven (namedType t))
    (hd : ∀ d ∈ ds, Woven (directive d)) (hf : ∀ f ∈ fs, Woven (fieldDefinition f)) :
    Woven (spaced [keyword, name n, implementing ts, directives ds,
      block (fs.map fieldDefinition)]) := by
  refine woven_declaration hk ?_
  simp only [List.forall_mem_cons]
  exact ⟨hn, woven_implementing ht, woven_directives hd,
    woven_block (List.forall_mem_map.mpr hf), fun _ h => nomatch h⟩

theorem woven_union {ts : List NamedType} (hn : Woven (name n))
    (hd : ∀ d ∈ ds, Woven (directive d)) (ht : ∀ t ∈ ts, Woven (namedType t)) :
    Woven (body (.union n ds ts)) := by
  refine woven_declaration (by decide) ?_
  simp only [List.forall_mem_cons]
  exact ⟨hn, woven_directives hd, woven_members ht, fun _ h => nomatch h⟩

theorem woven_enum {vs : List EnumValueDefinition} (hn : Woven (name n))
    (hd : ∀ d ∈ ds, Woven (directive d)) (hv : ∀ v ∈ vs, Woven (enumValueDefinition v)) :
    Woven (body (.enum n ds vs)) := by
  refine woven_declaration (by decide) ?_
  simp only [List.forall_mem_cons]
  exact ⟨hn, woven_directives hd, woven_block (List.forall_mem_map.mpr hv), fun _ h => nomatch h⟩

theorem woven_input {fs : List InputValueDefinition} (hn : Woven (name n))
    (hd : ∀ d ∈ ds, Woven (directive d)) (hf : ∀ f ∈ fs, Woven (inputValueDefinition f)) :
    Woven (body (.input n ds fs)) := by
  refine woven_declaration (by decide) ?_
  simp only [List.forall_mem_cons]
  exact ⟨hn, woven_directives hd, woven_block (List.forall_mem_map.mpr hf), fun _ h => nomatch h⟩

end Declarations

theorem woven_directiveDefinition {n : Name} {vs : List InputValueDefinition} (repeatable : Bool)
    {places : List Name} (hn : Woven (name n)) (hv : ∀ v ∈ vs, Woven (inputValueDefinition v))
    (hp : ∀ p ∈ places, Woven (name p)) : Woven (body (.directive n vs repeatable places)) := by
  have hdirective : isName "directive".toList = true := by decide
  have hrepeatable : isName "repeatable".toList = true := by decide
  have hon : isName "on".toList = true := by decide
  have hplaces : Woven (join " | ".toList (places.map name)) :=
    woven_join (by decide) (by decide) (List.forall_mem_map.mpr hp)
  have hhead := (woven_word hdirective).space
    (.mark (c := '@') (by decide) (woven_argumentDefinitions hn hv))
  have hon' := (woven_word hon).space hplaces
  change Woven ("directive".toList ++ [' ', '@'] ++ name n ++ argumentDefinitions vs
    ++ (if repeatable then ' ' :: "repeatable".toList else []) ++ ' ' :: ("on".toList ++ [' '])
    ++ join " | ".toList (places.map name))
  cases repeatable with
  | true =>
    have hall := hhead.space ((woven_word hrepeatable).space hon')
    simpa only [if_true, List.append_assoc, List.cons_append, List.nil_append] using hall
  | false =>
    have hall := hhead.space hon'
    simpa only [Bool.false_eq_true, if_false, List.append_assoc, List.cons_append,
      List.nil_append] using hall

theorem woven_typeSystem {t : TypeSystemDefinition} (h : Woven (body t.body)) :
    Woven (typeSystem t) := by
  have hextend : isName "extend".toList = true := by decide
  unfold typeSystem
  split
  · exact (woven_word hextend).space h
  · exact woven_description _ h

end Printer

open Lexer in
/-- A document of which every definition is woven has a woven text, or none. -/
theorem Document.woven_printed {d : Document}
    (h : ∀ x ∈ d.definitions, ∀ text ∈ Printer.definition? x, Woven text) : Woven d.printed := by
  have hall : ∀ {xs : List Definition} {texts : List (List Char)},
      (∀ x ∈ xs, ∀ text ∈ Printer.definition? x, Woven text) →
      xs.mapM Printer.definition? = some texts → ∀ text ∈ texts, Woven text := by
    intro xs
    induction xs with
    | nil =>
      intro texts _ hm
      simp_all
    | cons x xs ih =>
      intro texts hxs hm
      rw [List.mapM_cons] at hm
      cases hx : Printer.definition? x with
      | none => simp [hx] at hm
      | some text =>
        cases hrest : xs.mapM Printer.definition? with
        | none => simp [hx, hrest] at hm
        | some rest =>
          have htexts : texts = text :: rest := by simpa [hx, hrest, eq_comm] using hm
          rw [htexts]
          exact List.forall_mem_cons.mpr ⟨hxs x List.mem_cons_self text hx,
            ih (fun y hy => hxs y (List.mem_cons_of_mem x hy)) hrest⟩
  unfold printed print?
  cases hm : d.definitions.mapM Printer.definition? with
  | none => exact .nil
  | some texts => exact Printer.woven_join (by decide) (by decide) (hall h hm)

end QueryLint
