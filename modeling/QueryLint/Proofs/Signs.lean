import Mathlib.Data.List.Perm.Basic
import QueryLint.Proofs.Matching
import QueryLint.Proofs.Vocabulary

/-! # What the signs of injection are

A text is told to look like an injection of some class exactly if it holds a sign of that class:
certain pieces of text, in any case where they have letters, or a keyword between two word edges.
Keywords stand for themselves, whatever characters they hold, and more of them never tell less.
-/

namespace QueryLint

namespace Text

/-! ## Spelling without regard to case -/

/-- A piece of text spells a pattern: it agrees with it character by character, in any case. -/
def Spells (p span : List Char) : Prop :=
  List.Forall₂ (fun a c => agrees a c = true) p span

instance (p span : List Char) : Decidable (Spells p span) :=
  inferInstanceAs (Decidable (List.Forall₂ (fun a c => agrees a c = true) p span))

def SpelledIn (p text : List Char) : Prop :=
  ∃ span, Spells p span ∧ span <:+: text

variable {p s rest span text : List Char}

theorem spells_iff_eq (h : p.any hasCase = false) : Spells p span ↔ span = p := by
  induction p generalizing span with
  | nil => exact List.forall₂_nil_left_iff
  | cons a p ih =>
    rw [List.any_cons, Bool.or_eq_false_iff] at h
    have ha : ∀ c, agrees a c = true ↔ c = a := by
      intro c
      rw [agrees, if_neg (by simp [h.1]), beq_iff_eq]
    cases span with
    | nil => simp [Spells]
    | cons c span =>
      rw [Spells, List.forall₂_cons, ha, List.cons.injEq, ← Spells, ih h.2]

theorem spelledIn_iff_infix (h : p.any hasCase = false) : SpelledIn p text ↔ p <:+: text := by
  simp only [SpelledIn, spells_iff_eq h, exists_eq_left]

theorem infix_iff_append : span <:+: text ↔ ∃ before after, text = before ++ (span ++ after) := by
  simp only [List.IsInfix, List.append_assoc, eq_comm]

theorem spelledIn_iff : SpelledIn p text ↔
    ∃ before span after, text = before ++ (span ++ after) ∧ Spells p span := by
  simp only [SpelledIn, infix_iff_append]
  constructor
  · rintro ⟨span, hspan, before, after, heq⟩
    exact ⟨before, span, after, heq, hspan⟩
  · rintro ⟨before, span, after, heq, hspan⟩
    exact ⟨span, hspan, before, after, heq⟩

theorem SpelledIn.of_append {q : List Char} (h : SpelledIn (p ++ q) text) : SpelledIn p text := by
  obtain ⟨span, hspan, hin⟩ := h
  have hfront := List.forall₂_take p.length hspan
  rw [List.take_left] at hfront
  exact ⟨_, hfront, (List.take_prefix _ _).isInfix.trans hin⟩

theorem spelledIn_iff_search : SpelledIn p text ↔
    (Pattern.Group.fresh.spell p).close.searchFrom agrees none text = true := by
  rw [Pattern.search_iff, spelledIn_iff]
  simp only [Pattern.Group.matches_close_fresh_spell]
  rfl

instance (p text : List Char) : Decidable (SpelledIn p text) :=
  decidable_of_iff _ spelledIn_iff_search.symm

/-! ## Words -/

/-- A pattern is spelled between two edges of a text. -/
structure WordAt (p before span after : List Char) : Prop where
  spells : Spells p span
  left : Edge before (span ++ after)
  right : Edge (before ++ span) after

def HasWord (p text : List Char) : Prop :=
  ∃ before span after, text = before ++ (span ++ after) ∧ WordAt p before span after

/-- A word is what matches between two boundaries. -/
theorem wordAt_iff_matches {before after : List Char} : WordAt p before span after ↔
    (Pattern.word (Pattern.Group.fresh.spell p).close).Matches agrees before span after := by
  rw [Pattern.matches_word, Pattern.Group.matches_close_fresh_spell]
  constructor
  · rintro ⟨hspells, hleft, hright⟩
    exact ⟨hleft, hspells, hright⟩
  · rintro ⟨hleft, hspells, hright⟩
    exact ⟨hspells, hleft, hright⟩

theorem hasWord_iff_search : HasWord p text ↔
    (Pattern.word (Pattern.Group.fresh.spell p).close).searchFrom agrees none text = true := by
  simp only [HasWord, Pattern.search_iff, wordAt_iff_matches]

instance (p text : List Char) : Decidable (HasWord p text) :=
  decidable_of_iff _ hasWord_iff_search.symm

end Text

namespace Injection

open Text Pattern

/-! ## Signs -/

/-- Punctuation that ends a database statement or comments out what follows. -/
def Punctuated (text : List Char) : Prop :=
  ∃ p ∈ ["'", ";", "--", "/*", "*/"], p.toList <:+: text

instance (text : List Char) : Decidable (Punctuated text) :=
  inferInstanceAs (Decidable (∃ p ∈ ["'", ";", "--", "/*", "*/"], p.toList <:+: text))

def SqlSign (ks : List String) (text : List Char) : Prop :=
  Punctuated text ∨ ∃ k ∈ ks, k ≠ "" ∧ HasWord k.toList text

def MarkupSign (text : List Char) : Prop :=
  ∃ p ∈ ["<script", "javascript:", "onload=", "onerror=", "onclick=", "<iframe", "<img", "<svg"],
    SpelledIn p.toList text

def TraversalSign (text : List Char) : Prop :=
  "../".toList <:+: text ∨ "..\\".toList <:+: text ∨ SpelledIn "%2e%2e".toList text

variable {ks : List String} {text : List Char}

instance (ks : List String) (text : List Char) : Decidable (SqlSign ks text) :=
  inferInstanceAs (Decidable (_ ∨ _))

instance (text : List Char) : Decidable (MarkupSign text) :=
  inferInstanceAs (Decidable (∃ p ∈ [_, _, _, _, _, _, _, _], SpelledIn (String.toList p) text))

instance (text : List Char) : Decidable (TraversalSign text) :=
  inferInstanceAs (Decidable (_ ∨ _ ∨ _))

theorem SqlSign.mono {ks' : List String} (hsub : ks ⊆ ks') (h : SqlSign ks text) :
    SqlSign ks' text :=
  h.imp_right fun ⟨k, hk, hword⟩ => ⟨k, hsub hk, hword⟩

/-! ## Patterns of signs -/

/-- A pattern is found in the texts of which a condition holds. -/
def Finds (pattern : String) (P : List Char → Prop) : Prop :=
  ∃ s, compile pattern = .ok s ∧ ∀ text : String, s.found text = true ↔ P text.toList

theorem finds_anyCase {pattern : String} {p : Pattern} {P : List Char → Prop}
    (hread : readFrom? [] .fresh pattern.toList = some p)
    (h : ∀ text, p.searchFrom agrees none text = true ↔ P text) : Finds ("(?i)" ++ pattern) P := by
  refine ⟨⟨true, p⟩, ?_, fun text => h text.toList⟩
  rw [compile, Search.compile?_anyCase, hread]
  rfl

variable {ws : List String}

theorem finds_group (h : List.Forall₂ Writes ws ks) (hne : ks ≠ []) :
    Finds ("(?i)" ++ ("(" ++ "|".intercalate ws ++ ")"))
      fun text => ∃ k ∈ ks, SpelledIn k.toList text := by
  refine finds_anyCase (p := .append .empty (Group.fresh.spellAll ks).close) ?_ fun text => ?_
  · rw [String.toList_append, String.toList_append, List.append_assoc]
    exact readFrom?_intercalate h
  · rw [search_iff]
    simp only [Matches, Group.matches_close_fresh_spellAll hne, spelledIn_iff]
    constructor
    · rintro ⟨before, _, after, heq, _, span, rfl, rfl, k, hk, hspelled⟩
      exact ⟨k, hk, before, span, after, heq, hspelled⟩
    · rintro ⟨k, hk, before, span, after, heq, hspelled⟩
      exact ⟨before, span, after, heq, [], span, rfl, rfl, k, hk, hspelled⟩

theorem finds_markup : Finds markupPattern MarkupSign := by
  have hpattern : markupPattern = "(?i)" ++ ("(" ++ "|".intercalate (["<script", "javascript:",
      "onload=", "onerror=", "onclick=", "<iframe", "<img", "<svg"].map escape) ++ ")") := by
    decide +kernel
  rw [hpattern]
  exact finds_group (writes_map_escape _) (List.cons_ne_nil _ _)

/-- Two of the alternatives are longer forms of a third. -/
theorem finds_traversal : Finds traversalPattern TraversalSign := by
  have hpattern : traversalPattern = "(?i)" ++ ("(" ++ "|".intercalate (["../", "..\\", "%2e%2e",
      "%2e%2e%2f", "%2e%2e%5c"].map escape) ++ ")") := by
    decide +kernel
  obtain ⟨s, hs, hfound⟩ := finds_group (writes_map_escape
    ["../", "..\\", "%2e%2e", "%2e%2e%2f", "%2e%2e%5c"]) (List.cons_ne_nil _ _)
  refine ⟨s, by rw [hpattern, hs], fun text => (hfound text).trans ?_⟩
  have hslash : SpelledIn "../".toList text.toList ↔ "../".toList <:+: text.toList :=
    spelledIn_iff_infix (by decide)
  have hbackslash : SpelledIn "..\\".toList text.toList ↔ "..\\".toList <:+: text.toList :=
    spelledIn_iff_infix (by decide)
  have hlong : ∀ rest : String, SpelledIn ("%2e%2e" ++ rest).toList text.toList →
      SpelledIn "%2e%2e".toList text.toList := by
    intro rest h
    rw [String.toList_append] at h
    exact h.of_append
  simp only [List.exists_mem_cons_iff, List.not_mem_nil, false_and, exists_false, or_false,
    TraversalSign, hslash, hbackslash]
  refine or_congr_right (or_congr_right ⟨?_, .inl⟩)
  rintro (h | h | h)
  exacts [h, hlong "%2f" h, hlong "%5c" h]

theorem writes_punctuation :
    List.Forall₂ Writes ["'", ";", "--", "/\\*", "\\*/"] ["'", ";", "--", "/*", "*/"] := by
  refine .cons ?_ (.cons ?_ (.cons ?_ (.cons ?_ (.cons ?_ .nil)))) <;> exact fun _ _ _ => rfl

theorem readFrom?_punctuation (g : Group) : readFrom? [] g sqlPunctuation.toList
    = some (g.spellAll ["'", ";", "--", "/*", "*/"]).close := by
  have hbars : sqlPunctuation = "|".intercalate ["'", ";", "--", "/\\*", "\\*/"] := by
    decide +kernel
  rw [hbars, ← List.append_nil (String.toList _), readFrom?_intercalate writes_punctuation]
  rfl

/-- Punctuation is without letters, so the case is of no account. -/
theorem spelled_punctuation_iff {p : String} {span : List Char} (b : Bool) (q : Pattern)
    (hp : p ∈ ["'", ";", "--", "/*", "*/"]) :
    Spelled (Search.same ⟨b, q⟩) p.toList span ↔ span = p.toList := by
  have hcase : ∀ p ∈ ["'", ";", "--", "/*", "*/"], p.toList.any hasCase = false := by
    decide +kernel
  cases b
  · have hsame : (fun c x => Search.same ⟨false, q⟩ c x = true) = fun c x => c = x := by
      funext c x
      rw [Search.same, if_neg Bool.false_ne_true, beq_iff_eq, @eq_comm _ c x]
    rw [Spelled, hsame, List.forall₂_eq_eq_eq, eq_comm]
  · exact spells_iff_eq (hcase p hp)

theorem punctuated_iff (b : Bool) (q : Pattern) : Punctuated text ↔ ∃ before span after,
    text = before ++ (span ++ after) ∧
      ∃ p ∈ ["'", ";", "--", "/*", "*/"], Spelled (Search.same ⟨b, q⟩) p.toList span := by
  simp only [Punctuated, infix_iff_append]
  constructor
  · rintro ⟨p, hp, before, after, heq⟩
    exact ⟨before, _, after, heq, p, hp, (spelled_punctuation_iff b q hp).mpr rfl⟩
  · rintro ⟨before, span, after, heq, p, hp, hspelled⟩
    rw [(spelled_punctuation_iff b q hp).mp hspelled] at heq
    exact ⟨p, hp, before, after, heq⟩

/-- Without keywords the search is for the punctuation alone. -/
theorem finds_punctuation : Finds sqlPunctuation Punctuated := by
  have hread := readFrom?_punctuation .fresh
  have hflag : Text.dropStart? "(?i)".toList sqlPunctuation.toList = none := rfl
  refine ⟨⟨false, (Group.fresh.spellAll ["'", ";", "--", "/*", "*/"]).close⟩, ?_, fun text => ?_⟩
  · rw [compile, Search.compile?, hflag]
    simp only [hread]
    rfl
  · rw [Search.found, search_iff, punctuated_iff false]
    simp only [Group.matches_close_fresh_spellAll (List.cons_ne_nil _ _)]
    rfl

/-- Keywords are found between word boundaries, beside the punctuation. -/
theorem finds_words (h : List.Forall₂ Writes ws ks) (hne : ks ≠ []) :
    Finds ("(?i)" ++ ("\\b(" ++ "|".intercalate ws ++ ")\\b|" ++ sqlPunctuation))
      fun text => Punctuated text ∨ ∃ k ∈ ks, HasWord k.toList text := by
  let words : Group := ⟨none, word (Group.fresh.spellAll ks).close⟩
  refine finds_anyCase (p := (words.alternative.spellAll ["'", ";", "--", "/*", "*/"]).close)
    ?_ fun text => ?_
  · simp only [String.toList_append, List.append_assoc]
    refine Eq.trans ?_ (readFrom?_punctuation words.alternative)
    exact readFrom?_intercalate h
  · rw [search_iff]
    have hwords : ∀ before span after, words.close.Matches agrees before span after ↔
        ∃ k ∈ ks, WordAt k.toList before span after := by
      intro before span after
      rw [show words.close = word (Group.fresh.spellAll ks).close from rfl, matches_word,
        Group.matches_close_fresh_spellAll hne]
      constructor
      · rintro ⟨hleft, ⟨k, hk, hspelled⟩, hright⟩
        exact ⟨k, hk, hspelled, hleft, hright⟩
      · rintro ⟨k, hk, hspelled, hleft, hright⟩
        exact ⟨hleft, ⟨k, hk, hspelled⟩, hright⟩
    simp only [Group.matches_close_alternative_spellAll (List.cons_ne_nil _ _), hwords,
      punctuated_iff true .empty, HasWord]
    constructor
    · rintro ⟨before, span, after, heq, ⟨k, hk, hword⟩ | hspelled⟩
      · exact .inr ⟨k, hk, before, span, after, heq, hword⟩
      · exact .inl ⟨before, span, after, heq, hspelled⟩
    · rintro (⟨before, span, after, heq, hspelled⟩ | ⟨k, hk, before, span, after, heq, hword⟩)
      · exact ⟨before, span, after, heq, .inr hspelled⟩
      · exact ⟨before, span, after, heq, .inl ⟨k, hk, hword⟩⟩

theorem escape_ne_empty {k : String} (h : k ≠ "") : escape k ≠ "" := by
  obtain ⟨c, r, hk⟩ := List.exists_cons_of_ne_nil (mt String.toList_eq_nil_iff.mp h)
  rw [Ne, ← String.toList_eq_nil_iff, escape, String.toList_ofList, hk, List.flatMap_cons]
  split <;> exact List.cons_ne_nil _ _

theorem intercalate_bar_eq_empty_iff (h : ∀ w ∈ ws, w ≠ "") :
    "|".intercalate ws = "" ↔ ws = [] := by
  constructor
  · intro hempty
    rw [← String.toList_eq_nil_iff, String.toList_intercalate] at hempty
    match ws with
    | [] => rfl
    | [w] =>
      rw [List.map_singleton, List.intercalate_singleton, String.toList_eq_nil_iff] at hempty
      exact absurd hempty (h w List.mem_cons_self)
    | w :: w' :: ws =>
      rw [List.map_cons, List.map_cons, List.intercalate_cons_cons, List.append_assoc] at hempty
      exact absurd (List.append_eq_nil_iff.mp (List.append_eq_nil_iff.mp hempty).2).1
        (List.cons_ne_nil _ _)
  · rintro rfl
    rfl

/-- Sorting moves the keywords together with what is written for them. -/
theorem exists_sqlPattern_eq (ks : List String) : ∃ ws ks', List.Forall₂ Writes ws ks' ∧
    (∀ k, k ∈ ks' ↔ k ∈ ks ∧ k ≠ "") ∧ sqlPattern ks = if ks' = [] then sqlPunctuation
      else "(?i)" ++ ("\\b(" ++ "|".intercalate ws ++ ")\\b|" ++ sqlPunctuation) := by
  let kept := ks.eraseDups.filter (· ≠ "")
  let ws := Data.sortTexts (kept.map escape)
  have hsorted : ws.Perm (kept.map escape) := List.mergeSort_perm _ _
  obtain ⟨ks', hwrites, hperm⟩ := List.perm_comp_forall₂ hsorted (writes_map_escape kept)
  have hmem : ∀ k, k ∈ ks' ↔ k ∈ ks ∧ k ≠ "" := by
    intro k
    rw [hperm.mem_iff, List.mem_filter, List.mem_eraseDups, decide_eq_true_eq]
  refine ⟨ws, ks', hwrites, hmem, ?_⟩
  have hwords : ∀ w ∈ ws, w ≠ "" := by
    intro w hw
    obtain ⟨k, hk, rfl⟩ := List.mem_map.mp (hsorted.mem_iff.mp hw)
    exact escape_ne_empty (of_decide_eq_true (List.mem_filter.mp hk).2)
  have hnil : ws = [] ↔ ks' = [] := by
    rw [← List.length_eq_zero_iff, hwrites.length_eq, List.length_eq_zero_iff]
  have hpattern : sqlPattern ks = if "|".intercalate ws = "" then sqlPunctuation
      else "(?i)\\b(" ++ "|".intercalate ws ++ ")\\b|" ++ sqlPunctuation := rfl
  have hflag : "(?i)\\b(" = "(?i)" ++ "\\b(" := rfl
  simp only [hpattern, intercalate_bar_eq_empty_iff hwords, hnil, hflag, String.append_assoc]

theorem finds_sql (ks : List String) : Finds (sqlPattern ks) (SqlSign ks) := by
  obtain ⟨ws, ks', hwrites, hmem, hpattern⟩ := exists_sqlPattern_eq ks
  have hsign : SqlSign ks = fun text => Punctuated text ∨ ∃ k ∈ ks', HasWord k.toList text := by
    funext text
    simp only [SqlSign, hmem, and_assoc]
  rw [hpattern, hsign]
  split
  next hnil =>
    subst hnil
    simpa using finds_punctuation
  next hne => exact finds_words hwrites hne

/-- The classes of signs that a text holds. -/
def labels (ks : List String) (text : String) : List String :=
  (if SqlSign ks text.toList then ["SQL injection"] else [])
  ++ (if MarkupSign text.toList then ["XSS"] else [])
  ++ (if TraversalSign text.toList then ["path traversal"] else [])

theorem labels?_of_allTexts {vocabulary : List Data} (h : Data.AllTexts vocabulary)
    (text : String) : labels? vocabulary text = .ok (labels (keywords vocabulary) text) := by
  obtain ⟨sql, hsql, hfoundSql⟩ := finds_sql (keywords vocabulary)
  obtain ⟨markup, hmarkup, hfoundMarkup⟩ := finds_markup
  obtain ⟨traversal, htraversal, hfoundTraversal⟩ := finds_traversal
  simp only [labels?, keywords?_of_allTexts h, hsql, hmarkup, htraversal, bind, Except.bind, pure,
    Except.pure, labels, ← hfoundSql, ← hfoundMarkup, ← hfoundTraversal, List.filter_cons,
    List.filter_nil]
  cases sql.found text <;> cases markup.found text <;> cases traversal.found text <;> rfl

theorem labels_sublist {ks ks' : List String} (h : ks ⊆ ks') (text : String) :
    (labels ks text).Sublist (labels ks' text) := by
  refine List.Sublist.append (List.Sublist.append ?_ (.refl _)) (.refl _)
  by_cases hs : SqlSign ks text.toList
  · rw [if_pos hs, if_pos (hs.mono h)]
  · rw [if_neg hs]
    exact List.nil_sublist _

theorem allTexts_map_text (ks : List String) : Data.AllTexts (ks.map .text) := by
  intro x hx
  obtain ⟨k, -, rfl⟩ := List.mem_map.mp hx
  rfl

theorem mem_keywords_map_text {k : String} : k ∈ keywords (ks.map .text) ↔ k ∈ ks ∧ k ≠ "" := by
  rw [keywords, List.mem_filter, Data.mem_filterMap_asText?]
  simp

theorem sqlSign_keywords : SqlSign (keywords (ks.map .text)) text ↔ SqlSign ks text := by
  simp only [SqlSign, mem_keywords_map_text]
  refine or_congr_right (exists_congr fun k => ?_)
  tauto

theorem mem_labels_iff {label text : String} : label ∈ labels ks text ↔
    label = "SQL injection" ∧ SqlSign ks text.toList ∨ label = "XSS" ∧ MarkupSign text.toList ∨
      label = "path traversal" ∧ TraversalSign text.toList := by
  simp only [labels, List.mem_append, List.mem_ite_nil_right, List.mem_singleton, or_assoc,
    and_comm]

theorem labels_sublist_classes (ks : List String) (text : String) :
    (labels ks text).Sublist ["SQL injection", "XSS", "path traversal"] := by
  have hpart : ∀ (P : Prop) [Decidable P] (label : String),
      (if P then [label] else []).Sublist [label] := by
    intro P _ label
    split <;> simp
  exact ((hpart _ "SQL injection").append (hpart _ "XSS")).append (hpart _ "path traversal")

theorem sql_mem_labels_iff {text : String} :
    "SQL injection" ∈ labels (keywords (ks.map .text)) text ↔ SqlSign ks text.toList := by
  rw [mem_labels_iff, sqlSign_keywords]
  simp

/-- A search for signs always comes to an answer. It tells the classes in a fixed order, each at
most once and exactly if the text holds a sign of it, and with more keywords it tells no less. -/
theorem labels?_tell_signs (ks : List String) (text : String) :
    ∃ found, labels? (ks.map .text) text = .ok found ∧
      found.Sublist ["SQL injection", "XSS", "path traversal"] ∧
      ("SQL injection" ∈ found ↔ SqlSign ks text.toList) ∧
      ("XSS" ∈ found ↔ MarkupSign text.toList) ∧
      ("path traversal" ∈ found ↔ TraversalSign text.toList) ∧
      ∀ more, ks ⊆ more →
        ∃ found', labels? (more.map .text) text = .ok found' ∧ found ⊆ found' := by
  refine ⟨_, labels?_of_allTexts (allTexts_map_text ks) text, labels_sublist_classes _ _,
    sql_mem_labels_iff, ?_, ?_,
    fun more hmore => ⟨_, labels?_of_allTexts (allTexts_map_text more) text, ?_⟩⟩
  · rw [mem_labels_iff]
    simp
  · rw [mem_labels_iff]
    simp
  · exact (labels_sublist (keywords_subset (List.map_subset _ hmore)) text).subset

/-- A keyword inside a longer word is no sign, and the longer word is one if it is a keyword too. -/
theorem labels?_tell_signs_order : ["or"] ⊆ ["or", "order"] ∧
    ¬ SqlSign ["or"] "Order %2E%2e".toList ∧ SqlSign ["or", "order"] "Order %2E%2e".toList ∧
      TraversalSign "Order %2E%2e".toList ∧
      ∃ found', labels? (["or", "order"].map .text) "Order %2E%2e" = .ok found' ∧
        ["path traversal"] ⊆ found' := by
  have hsub : ["or"] ⊆ ["or", "order"] := by decide
  have hfew : labels? (["or"].map .text) "Order %2E%2e" = .ok ["path traversal"] := by
    rw [labels?_of_allTexts (allTexts_map_text _)]
    decide +kernel
  have hmore : labels? (["or", "order"].map .text) "Order %2E%2e"
      = .ok ["SQL injection", "path traversal"] := by
    rw [labels?_of_allTexts (allTexts_map_text _)]
    decide +kernel
  obtain ⟨found, hfound, -, hsql, -, htraversal, hgrows⟩ := labels?_tell_signs ["or"] "Order %2E%2e"
  obtain ⟨found', hfound', -, hsql', -⟩ := labels?_tell_signs ["or", "order"] "Order %2E%2e"
  obtain rfl := Except.ok.inj (hfew.symm.trans hfound)
  obtain rfl := Except.ok.inj (hmore.symm.trans hfound')
  exact ⟨hsub, hsql.not.mp (by decide), hsql'.mp (by decide), htraversal.mp (by decide),
    hgrows _ hsub⟩

end Injection

end QueryLint
