import QueryLint.Proofs.Signs
import QueryLint.Text.Blank

/-! # Keywords that stand alone

A keyword stands alone in a text if nothing but blanks or the ends of the text are next to it. It is
then found if it begins and ends with a word character, since blanks are none. A keyword that does
not is never found as such: the blanks next to it leave it without a word edge. It is told of only
for the sake of the punctuation or of a shorter keyword that it holds.
-/

namespace QueryLint

namespace Text

def EndsBlank (s : List Char) : Prop :=
  ∀ c ∈ s.getLast?, isBlank c = true

def BeginsBlank (s : List Char) : Prop :=
  ∀ c ∈ s.head?, isBlank c = true

instance (s : List Char) : Decidable (EndsBlank s) :=
  decidable_of_iff (s.getLast?.all isBlank = true) (Option.all_eq_true isBlank s.getLast?)

instance (s : List Char) : Decidable (BeginsBlank s) :=
  decidable_of_iff (s.head?.all isBlank = true) (Option.all_eq_true isBlank s.head?)

/-- A piece of text with nothing but blanks or the ends of the text next to it. -/
def StandsAlone (span text : List Char) : Prop :=
  ∃ before after, text = before ++ (span ++ after) ∧ EndsBlank before ∧ BeginsBlank after

variable {p span text before after s : List Char}

theorem not_isWord_of_isBlank {c : Char} (h : isBlank c = true) : ¬ isWord c = true := by
  have hnone : blanks.any isWord = false := by decide +kernel
  exact List.any_eq_false.mp hnone c (List.contains_iff_mem.mp h)

theorem EndsBlank.not_endsWithWord (h : EndsBlank before) : ¬ EndsWithWord before := by
  rintro ⟨c, hc, hword⟩
  exact not_isWord_of_isBlank (h c hc) hword

theorem BeginsBlank.not_beginsWithWord (h : BeginsBlank after) : ¬ BeginsWithWord after := by
  rintro ⟨c, hc, hword⟩
  exact not_isWord_of_isBlank (h c hc) hword

theorem EndsBlank.endsWithWord_append (h : EndsBlank before) :
    EndsWithWord (before ++ s) ↔ EndsWithWord s := by
  by_cases hs : s = []
  · subst hs
    rw [List.append_nil]
    exact iff_of_false h.not_endsWithWord (by simp [EndsWithWord])
  · rw [EndsWithWord, EndsWithWord, List.getLast?_append_of_ne_nil before hs]

theorem BeginsBlank.beginsWithWord_append (h : BeginsBlank after) :
    BeginsWithWord (s ++ after) ↔ BeginsWithWord s := by
  cases s with
  | nil =>
    rw [List.nil_append]
    exact iff_of_false h.not_beginsWithWord (by simp [BeginsWithWord])
  | cons c s => rfl

theorem standsAlone_self (span : List Char) : StandsAlone span span :=
  ⟨[], [], (List.append_nil span).symm, by simp [EndsBlank], by simp [BeginsBlank]⟩

/-- The edges of a piece that stands alone are edges of the text. -/
theorem WordAt.widen (h : WordAt p before span after) {front back : List Char}
    (hfront : EndsBlank front) (hback : BeginsBlank back) :
    WordAt p (front ++ before) span (after ++ back) := by
  refine ⟨h.spells, ?_, ?_⟩
  · rw [Edge, hfront.endsWithWord_append, ← List.append_assoc, hback.beginsWithWord_append]
    exact h.left
  · rw [Edge, List.append_assoc, hfront.endsWithWord_append, hback.beginsWithWord_append]
    exact h.right

theorem HasWord.widen (h : HasWord p span) (hs : StandsAlone span text) : HasWord p text := by
  obtain ⟨before, piece, after, rfl, hword⟩ := h
  obtain ⟨front, back, rfl, hfront, hback⟩ := hs
  refine ⟨front ++ before, piece, after ++ back, ?_, hword.widen hfront hback⟩
  simp only [List.append_assoc]

/-- A piece is a word of its own exactly if it begins and ends with a word character. -/
theorem wordAt_whole_iff :
    WordAt p [] span [] ↔ Spells p span ∧ BeginsWithWord span ∧ EndsWithWord span := by
  constructor
  · rintro ⟨hspells, hleft, hright⟩
    rw [List.append_nil, edge_nil_left] at hleft
    rw [List.nil_append, edge_nil_right] at hright
    exact ⟨hspells, hleft, hright⟩
  · rintro ⟨hspells, hbegins, hends⟩
    refine ⟨hspells, ?_, ?_⟩
    · rwa [List.append_nil, edge_nil_left]
    · rwa [List.nil_append, edge_nil_right]

theorem HasWord.whole_or_shorter (h : HasWord p span) :
    BeginsWithWord span ∧ EndsWithWord span ∨ p.length < span.length := by
  obtain ⟨before, piece, after, rfl, hword⟩ := h
  by_cases hwhole : before = [] ∧ after = []
  · obtain ⟨rfl, rfl⟩ := hwhole
    rw [List.nil_append, List.append_nil]
    exact .inl (wordAt_whole_iff.mp hword).2
  · right
    have hpos : 0 < before.length + after.length := by
      by_contra hzero
      exact hwhole ⟨List.length_eq_zero_iff.mp (by omega), List.length_eq_zero_iff.mp (by omega)⟩
    rw [hword.spells.length_eq, List.length_append, List.length_append]
    omega

end Text

namespace Injection

open Text

variable {ks : List String} {k : String} {span text : List Char}

theorem SqlSign.widen (h : SqlSign ks span) (hs : StandsAlone span text) : SqlSign ks text := by
  rcases h with ⟨p, hp, hin⟩ | ⟨k, hk, hne, hword⟩
  · obtain ⟨before, after, rfl, -, -⟩ := hs
    have hspan : span <:+: before ++ (span ++ after) := ⟨before, after, List.append_assoc ..⟩
    exact .inl ⟨p, hp, hin.trans hspan⟩
  · exact .inr ⟨k, hk, hne, hword.widen hs⟩

theorem sqlSign_spelled_iff (hk : k ∈ ks) (hne : k ≠ "") (hs : Spells k.toList span) :
    SqlSign ks span ↔ BeginsWithWord span ∧ EndsWithWord span ∨ Punctuated span ∨
      ∃ k' ∈ ks, k' ≠ "" ∧ k'.length < k.length ∧ HasWord k'.toList span := by
  have hlength : k.length = span.length := by
    rw [← hs.length_eq, String.length_toList]
  constructor
  · rintro (hpunctuated | ⟨k', hk', hne', hword⟩)
    · exact .inr (.inl hpunctuated)
    · rcases hword.whole_or_shorter with hwhole | hshorter
      · exact .inl hwhole
      · rw [String.length_toList, ← hlength] at hshorter
        exact .inr (.inr ⟨k', hk', hne', hshorter, hword⟩)
  · rintro (⟨hbegins, hends⟩ | hpunctuated | ⟨k', hk', hne', -, hword⟩)
    · exact .inr ⟨k, hk, hne, [], span, [], (List.append_nil span).symm,
        wordAt_whole_iff.mpr ⟨hs, hbegins, hends⟩⟩
    · exact .inl hpunctuated
    · exact .inr ⟨k', hk', hne', hword⟩

/-- A spelling of a keyword is told of in every text in which it stands alone exactly if it begins
and ends with a word character or holds punctuation or a shorter keyword. -/
theorem told_alone_iff (hk : k ∈ ks) (hne : k ≠ "") (hs : Spells k.toList span) :
    (∀ text : String, StandsAlone span text.toList →
      ∃ found, labels? (ks.map .text) text = .ok found ∧ "SQL injection" ∈ found) ↔
    BeginsWithWord span ∧ EndsWithWord span ∨ Punctuated span ∨
      ∃ k' ∈ ks, k' ≠ "" ∧ k'.length < k.length ∧ HasWord k'.toList span := by
  have htold : ∀ text : String,
      (∃ found, labels? (ks.map .text) text = .ok found ∧ "SQL injection" ∈ found)
        ↔ SqlSign ks text.toList := by
    intro text
    rw [labels?_of_allTexts (allTexts_map_text ks) text]
    simp only [Except.ok.injEq, exists_eq_left', sql_mem_labels_iff]
  simp only [htold, ← sqlSign_spelled_iff hk hne hs]
  constructor
  · intro h
    have hself := h (String.ofList span)
    rw [String.toList_ofList] at hself
    exact hself (standsAlone_self span)
  · exact fun h text => h.widen

/-- A keyword that begins with other characters is missed where it stands alone. -/
theorem told_alone_iff_version :
    "@@version" ∈ ["@@version"] ∧ Spells "@@version".toList "@@Version".toList ∧
      StandsAlone "@@Version".toList "show @@Version".toList ∧
      labels? (["@@version"].map .text) "show @@Version" = .ok [] ∧
      ¬ ∀ text : String, StandsAlone "@@Version".toList text.toList →
        ∃ found, labels? (["@@version"].map .text) text = .ok found ∧ "SQL injection" ∈ found := by
  have hk : "@@version" ∈ ["@@version"] := by decide
  have hs : Spells "@@version".toList "@@Version".toList := by decide +kernel
  have halone : StandsAlone "@@Version".toList "show @@Version".toList :=
    ⟨"show ".toList, [], rfl, by decide, by decide⟩
  have hlabels : labels? (["@@version"].map .text) "show @@Version" = .ok [] := by
    rw [labels?_of_allTexts (allTexts_map_text _)]
    decide +kernel
  refine ⟨hk, hs, halone, hlabels, ?_⟩
  rw [told_alone_iff hk (by decide) hs]
  rintro (⟨hbegins, -⟩ | hpunctuated | ⟨k', hk', -, hlt, -⟩)
  · exact absurd hbegins (by decide +kernel)
  · exact absurd hpunctuated (by decide +kernel)
  · rw [List.mem_singleton.mp hk'] at hlt
    exact Nat.lt_irrefl _ hlt

end Injection

end QueryLint
