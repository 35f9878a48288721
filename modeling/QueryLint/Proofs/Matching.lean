import Mathlib.Data.List.Forall2
import QueryLint.Text.Pattern

/-! # What a search finds

A search goes through a text from left to right and, at each place, through the alternatives of its
pattern one after the other. It finds something exactly if some piece of the text matches the
pattern where it stands, whatever the order of the alternatives. What is written behind backslashes
and joined by bars matches as one of the texts that were written.
-/

namespace QueryLint

namespace Text

/-! ## Word edges -/

def BeginsWithWord (s : List Char) : Prop :=
  ∃ c ∈ s.head?, isWord c = true

def EndsWithWord (s : List Char) : Prop :=
  ∃ c ∈ s.getLast?, isWord c = true

theorem isWordAt_iff {o : Option Char} : isWordAt o = true ↔ ∃ c ∈ o, isWord c = true := by
  cases o <;> simp [isWordAt]

instance (s : List Char) : Decidable (BeginsWithWord s) :=
  decidable_of_iff _ (isWordAt_iff (o := s.head?))

instance (s : List Char) : Decidable (EndsWithWord s) :=
  decidable_of_iff _ (isWordAt_iff (o := s.getLast?))

/-- A word edge between two parts of a text: of the two characters next to it exactly one is a word
character. Beyond the ends of the text there is none. -/
def Edge (before after : List Char) : Prop :=
  Xor (EndsWithWord before) (BeginsWithWord after)

theorem edge_nil_left {after : List Char} : Edge [] after ↔ BeginsWithWord after := by
  simp [Edge, Xor, EndsWithWord]

theorem edge_nil_right {before : List Char} : Edge before [] ↔ EndsWithWord before := by
  simp [Edge, Xor, BeginsWithWord]

theorem isBoundary_iff {before after : List Char} :
    isBoundary before.getLast? after.head? = true ↔ Edge before after := by
  rw [isBoundary, Edge, EndsWithWord, BeginsWithWord, ← isWordAt_iff, ← isWordAt_iff]
  cases isWordAt before.getLast? <;> cases isWordAt after.head? <;> simp [Xor]

end Text

namespace Pattern

variable {same : Char → Char → Bool} {p q : Pattern} {front before span after s : List Char}

/-! ## Matches -/

/-- A piece of a text, standing between two others, matches a pattern. -/
def Matches (same : Char → Char → Bool) : Pattern → (before span after : List Char) → Prop
  | empty, _, span, _ => span = []
  | char c, _, span, _ => ∃ x, span = [x] ∧ same c x = true
  | boundary, before, span, after => span = [] ∧ Text.Edge before after
  | append p q, before, span, after => ∃ s t, span = s ++ t ∧
      p.Matches same before s (t ++ after) ∧ q.Matches same (before ++ s) t after
  | choice p q, before, span, after =>
      p.Matches same before span after ∨ q.Matches same before span after

def Place.between (before after : List Char) : Place :=
  ⟨before.getLast?, after⟩

/-- The places that are tried are the ends of the pieces that match. -/
theorem mem_ends_iff {t : Place} : t ∈ p.ends same (.between front s) ↔ ∃ span after,
    s = span ++ after ∧ p.Matches same front span after ∧ t = .between (front ++ span) after := by
  induction p generalizing front s t with
  | empty => simp [ends, Matches]
  | char c =>
    cases s with
    | nil => simp [ends, Place.between, Matches]
    | cons x r =>
      rw [ends, Place.between, List.mem_ite_nil_right, List.mem_singleton]
      constructor
      · rintro ⟨hx, rfl⟩
        exact ⟨[x], r, rfl, ⟨x, rfl, hx⟩, by simp [Place.between]⟩
      · rintro ⟨_, after, heq, ⟨x', rfl, hx⟩, rfl⟩
        obtain ⟨rfl, rfl⟩ := List.cons.inj heq
        exact ⟨hx, by simp [Place.between]⟩
  | boundary =>
    rw [ends, List.mem_ite_nil_right, List.mem_singleton, Place.between, Text.isBoundary_iff]
    constructor
    · rintro ⟨hedge, rfl⟩
      exact ⟨[], s, rfl, ⟨rfl, hedge⟩, by rw [List.append_nil]; rfl⟩
    · rintro ⟨_, after, rfl, ⟨rfl, hedge⟩, rfl⟩
      exact ⟨hedge, by rw [List.append_nil]; rfl⟩
  | append p q ihp ihq =>
    rw [ends, List.mem_flatMap]
    constructor
    · rintro ⟨m, hm, ht⟩
      obtain ⟨left, rest, rfl, hleft, rfl⟩ := ihp.mp hm
      obtain ⟨right, after, rfl, hright, rfl⟩ := ihq.mp ht
      exact ⟨left ++ right, after, (List.append_assoc ..).symm, ⟨left, right, rfl, hleft, hright⟩,
        by rw [List.append_assoc]⟩
    · rintro ⟨_, after, rfl, ⟨left, right, rfl, hleft, hright⟩, rfl⟩
      exact ⟨_, ihp.mpr ⟨left, right ++ after, List.append_assoc .., hleft, rfl⟩,
        ihq.mpr ⟨right, after, rfl, hright, by rw [List.append_assoc]⟩⟩
  | choice p q ihp ihq =>
    rw [ends, List.mem_append, ihp, ihq]
    constructor
    · rintro (⟨span, after, heq, hp, ht⟩ | ⟨span, after, heq, hq, ht⟩)
      · exact ⟨span, after, heq, .inl hp, ht⟩
      · exact ⟨span, after, heq, .inr hq, ht⟩
    · rintro ⟨span, after, heq, hp | hq, ht⟩
      · exact .inl ⟨span, after, heq, hp, ht⟩
      · exact .inr ⟨span, after, heq, hq, ht⟩

theorem ends_isEmpty_eq_false_iff : (p.ends same (.between front s)).isEmpty = false ↔
    ∃ span after, s = span ++ after ∧ p.Matches same front span after := by
  rw [List.isEmpty_eq_false_iff_exists_mem]
  constructor
  · rintro ⟨t, ht⟩
    obtain ⟨span, after, heq, hp, -⟩ := mem_ends_iff.mp ht
    exact ⟨span, after, heq, hp⟩
  · rintro ⟨span, after, heq, hp⟩
    exact ⟨_, mem_ends_iff.mpr ⟨span, after, heq, hp, rfl⟩⟩

/-- The search moves on character by character; what it has passed stands in front. -/
theorem searchFrom_iff : p.searchFrom same front.getLast? s = true ↔ ∃ before span after,
    s = before ++ (span ++ after) ∧ p.Matches same (front ++ before) span after := by
  induction s generalizing front with
  | nil =>
    rw [searchFrom, Bool.not_eq_true', ← Place.between, ends_isEmpty_eq_false_iff]
    constructor
    · rintro ⟨span, after, heq, hp⟩
      exact ⟨[], span, after, heq, by rwa [List.append_nil]⟩
    · rintro ⟨before, span, after, heq, hp⟩
      obtain ⟨rfl, hrest⟩ := List.append_eq_nil_iff.mp heq.symm
      exact ⟨span, after, hrest.symm, by rwa [List.append_nil] at hp⟩
  | cons c r ih =>
    have hstep : some c = (front ++ [c]).getLast? := by simp
    rw [searchFrom, Bool.or_eq_true, Bool.not_eq_true', ← Place.between, ends_isEmpty_eq_false_iff,
      hstep, ih]
    constructor
    · rintro (⟨span, after, heq, hp⟩ | ⟨before, span, after, rfl, hp⟩)
      · exact ⟨[], span, after, heq, by rwa [List.append_nil]⟩
      · exact ⟨c :: before, span, after, rfl, by rwa [List.append_cons]⟩
    · rintro ⟨_ | ⟨c', before⟩, span, after, heq, hp⟩
      · exact .inl ⟨span, after, heq, by rwa [List.append_nil] at hp⟩
      · obtain ⟨rfl, rfl⟩ := List.cons.inj heq
        exact .inr ⟨before, span, after, rfl, by rwa [List.append_cons] at hp⟩

theorem search_iff {text : List Char} : p.searchFrom same none text = true ↔
    ∃ before span after, text = before ++ (span ++ after) ∧ p.Matches same before span after := by
  rw [show (none : Option Char) = [].getLast? from rfl, searchFrom_iff]
  rfl

/-- A piece agrees with a text character by character. -/
def Spelled (same : Char → Char → Bool) (w span : List Char) : Prop :=
  List.Forall₂ (fun c x => same c x = true) w span

/-! ## Groups -/

namespace Group

variable {g : Group} {w : List Char} {ks : List String}

def spell (g : Group) (w : List Char) : Group :=
  w.foldl (fun g c => g.push (.char c)) g

/-- The texts are spelled one after the other, all but the first as further alternatives. -/
def spellAll (g : Group) : List String → Group
  | [] => g
  | k :: ks => ks.foldl (fun g k => g.alternative.spell k.toList) (g.spell k.toList)

theorem spell_cons (c : Char) : g.spell (c :: w) = (g.push (.char c)).spell w := rfl

theorem matches_close_spell : (g.spell w).close.Matches same before span after ↔
    (∃ q ∈ g.complete, q.Matches same before span after) ∨ ∃ s t, span = s ++ t ∧
      g.last.Matches same before s (t ++ after) ∧ Spelled same w t := by
  induction w generalizing g with
  | nil =>
    obtain ⟨_ | q, last⟩ := g <;> simp [spell, close, Matches, Spelled]
  | cons c w ih =>
    rw [spell_cons, ih]
    refine or_congr Iff.rfl ?_
    simp only [push, Matches, Spelled, List.forall₂_cons_left_iff]
    constructor
    · rintro ⟨_, t, rfl, ⟨s, _, rfl, hs, x, rfl, hx⟩, hw⟩
      exact ⟨s, x :: t, by simp, by simpa using hs, x, t, hx, hw, rfl⟩
    · rintro ⟨s, _, rfl, hs, x, t, hx, hw, rfl⟩
      exact ⟨s ++ [x], t, by simp, ⟨s, [x], rfl, by simpa using hs, x, rfl, hx⟩, hw⟩

theorem matches_close_fresh_spell :
    (fresh.spell w).close.Matches same before span after ↔ Spelled same w span := by
  simp [matches_close_spell, fresh, Matches]

theorem matches_close_alternative_spell :
    (g.alternative.spell w).close.Matches same before span after ↔
      g.close.Matches same before span after ∨ Spelled same w span := by
  simp [matches_close_spell, alternative, Matches]

theorem matches_close_foldl_spell :
    (ks.foldl (fun g k => g.alternative.spell k.toList) g).close.Matches same before span after ↔
      g.close.Matches same before span after ∨ ∃ k ∈ ks, Spelled same k.toList span := by
  induction ks generalizing g with
  | nil => simp
  | cons k ks ih => simp [ih, matches_close_alternative_spell, or_assoc]

theorem matches_close_fresh_spellAll (h : ks ≠ []) :
    (fresh.spellAll ks).close.Matches same before span after ↔
      ∃ k ∈ ks, Spelled same k.toList span := by
  cases ks with
  | nil => exact absurd rfl h
  | cons k ks => simp [spellAll, matches_close_foldl_spell, matches_close_fresh_spell]

theorem matches_close_alternative_spellAll (h : ks ≠ []) :
    (g.alternative.spellAll ks).close.Matches same before span after ↔
      g.close.Matches same before span after ∨ ∃ k ∈ ks, Spelled same k.toList span := by
  cases ks with
  | nil => exact absurd rfl h
  | cons k ks =>
    simp [spellAll, matches_close_foldl_spell, matches_close_alternative_spell, or_assoc]

end Group

/-! ## Reading -/

variable {outer : List Group} {g : Group} {r : List Char}

/-- A pattern text stands for a text: it is read as the characters of it, wherever it stands. -/
def Writes (w k : String) : Prop :=
  ∀ outer g r, readFrom? outer g (w.toList ++ r) = readFrom? outer (g.spell k.toList) r

theorem readFrom?_of_not_mem_escaped {c : Char} (h : c ∉ escaped) :
    readFrom? outer g (c :: r) = readFrom? outer (g.push (.char c)) r := by
  have hall : ('\\' :: '(' :: ')' :: '|' :: operators).all (escaped.contains ·) = true := by decide
  have hc : c ∉ '\\' :: '(' :: ')' :: '|' :: operators := fun hmem =>
    h (List.contains_iff_mem.mp (List.all_eq_true.mp hall c hmem))
  simp only [List.mem_cons, not_or] at hc
  obtain ⟨hbackslash, hopen, hclose, hbar, hoperator⟩ := hc
  rw [readFrom?, if_neg (mt List.contains_iff_mem.mp hoperator)]
  exacts [fun h _ => hbackslash h, fun _ _ h _ => hbackslash h, hopen, hclose, hbar]

theorem readFrom?_backslash {c : Char} (h : c ∈ escaped) :
    readFrom? outer g ('\\' :: c :: r) = readFrom? outer (g.push (.char c)) r := by
  have hall : escaped.all (fun d => d != 'b' && !d.isAlphanum) = true := by decide
  have hc := List.all_eq_true.mp hall c h
  simp only [Bool.and_eq_true, bne_iff_ne, ne_eq, Bool.not_eq_true'] at hc
  obtain ⟨hb, halnum⟩ := hc
  rw [readFrom?, if_neg hb, if_neg (by simp [halnum])]

theorem writes_escape (k : String) : Writes (escape k) k := by
  rw [Writes, escape, String.toList_ofList]
  induction k.toList with
  | nil => exact fun _ _ _ => rfl
  | cons c k ih =>
    intro outer g r
    rw [List.flatMap_cons, List.append_assoc, Group.spell_cons, ← ih]
    split
    next hc => exact readFrom?_backslash (List.contains_iff_mem.mp hc)
    next hc => exact readFrom?_of_not_mem_escaped (mt List.contains_iff_mem.mpr hc)

theorem writes_map_escape (ks : List String) : List.Forall₂ Writes (ks.map escape) ks :=
  List.forall₂_map_left_iff.mpr (List.forall₂_same.mpr fun k _ => writes_escape k)

/-- Pattern texts joined by bars are read as the alternatives of a group. -/
theorem readFrom?_intercalate {ws ks : List String} (h : List.Forall₂ Writes ws ks) :
    readFrom? outer g (("|".intercalate ws).toList ++ r) = readFrom? outer (g.spellAll ks) r := by
  rw [String.toList_intercalate]
  cases h with
  | nil => rfl
  | @cons w k ws ks hw h =>
    rw [Group.spellAll]
    induction h generalizing w k g with
    | nil => rw [List.map_cons, List.map_nil, List.intercalate_singleton, hw, List.foldl_nil]
    | cons hw' _ ih =>
      have hbar : "|".toList = ['|'] := rfl
      rw [List.map_cons, List.map_cons, List.intercalate_cons_cons, List.append_assoc,
        List.append_assoc, hw, hbar, List.singleton_append]
      exact ih hw'

def word (p : Pattern) : Pattern :=
  append (append (append empty boundary) p) boundary

theorem matches_word : (word p).Matches same before span after ↔
    Text.Edge before (span ++ after) ∧ p.Matches same before span after ∧
      Text.Edge (before ++ span) after := by
  simp only [word, Matches]
  constructor
  · rintro ⟨_, _, rfl, ⟨_, s, rfl, ⟨_, _, rfl, rfl, rfl, hleft⟩, hp⟩, rfl, hright⟩
    simp_all
  · rintro ⟨hleft, hp, hright⟩
    refine ⟨span, [], by simp, ⟨[], span, rfl, ⟨[], [], rfl, rfl, rfl, ?_⟩, ?_⟩, rfl, hright⟩
    · rwa [List.append_nil, List.nil_append]
    · rwa [List.append_nil, List.nil_append]

end Pattern

namespace Search

theorem compile?_anyCase (pattern : String) : compile? ("(?i)" ++ pattern)
    = (Pattern.readFrom? [] .fresh pattern.toList).map (⟨true, ·⟩) := by
  have hflag : Text.dropStart? "(?i)".toList ("(?i)" ++ pattern).toList = some pattern.toList :=
    Text.dropStart?_eq_some_iff.mpr String.toList_append
  rw [compile?, hflag]

end Search

end QueryLint
