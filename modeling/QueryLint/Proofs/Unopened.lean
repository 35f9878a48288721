import Mathlib.Data.List.Chain
import QueryLint.Proofs.Markup

/-! # Texts in which no tag begins

A text may be cut into parts, put in upper case and listed in another order before it is shown. No
tag arises on the way if no bracket of the text is followed by what a tag begins with. That the text
holds no tag is not enough: its last part may begin one and its first part may end it.
-/

namespace QueryLint.Console.Markup

variable {s : List Char}

/-- No bracket of the text is followed by what a tag begins with, so that no tag begins in it
whatever is put behind it. -/
def Unopened (s : List Char) : Prop :=
  s.IsChain fun a b => a = '[' → startsTag b = false

instance (s : List Char) : Decidable (Unopened s) :=
  inferInstanceAs (Decidable (s.IsChain _))

theorem Unopened.untagged (h : Unopened s) : Untagged s := by
  intro rest hrest
  have hchain : ('[' :: rest).IsChain fun a b => a = '[' → startsTag b = false :=
    List.IsChain.infix h hrest.isInfix
  cases rest with
  | nil => rfl
  | cons c rest =>
    have hc : startsTag c = false := (List.isChain_cons_cons.mp hchain).1 rfl
    simp [tag?, hc]

theorem unopened_of_not_mem (h : '[' ∉ s) : Unopened s := by
  induction s with
  | nil => exact .nil
  | cons c s ih =>
    obtain ⟨hc, hs⟩ := not_or.mp (mt List.mem_cons.mpr h)
    exact List.isChain_cons.mpr ⟨fun _ _ heq => absurd heq.symm hc, ih hs⟩

/-! ## Upper case -/

/-- The character is no bracket, and no tag begins with it. -/
def isTame (c : Char) : Bool :=
  c ≠ '[' && !startsTag c

theorem isTame_of_toNat {c : Char} (h : c.toNat = 0 ∨ 0x80 ≤ c.toNat) : isTame c = true := by
  have hne : ∀ d : Char, 0 < d.toNat → d.toNat < 0x80 → c ≠ d := by
    rintro d hpos hlt rfl
    omega
  have hsmall : ('a' ≤ c && c ≤ 'z') = false := by
    rw [Bool.and_eq_false_iff, decide_eq_false_iff_not, decide_eq_false_iff_not]
    have hbounds : ¬ (97 ≤ c.toNat ∧ c.toNat ≤ 122) := by omega
    exact not_and_or.mp hbounds
  simp only [isTame, startsTag, hsmall]
  simp [hne]

theorem isTame_ofNat {n : Nat} (h : 0x80 ≤ n) : isTame (Char.ofNat n) = true := by
  refine isTame_of_toNat ?_
  by_cases hn : n.isValidChar
  · right
    rw [Char.ofNat, dif_pos hn]
    exact h
  · left
    rw [Char.ofNat, dif_neg hn]
    rfl

open Text

/-- Beyond ASCII no image in upper case is a bracket or begins a tag. -/
theorem isTame_of_mem_upperChars {c x : Char} (hc : 0x80 ≤ c.toNat) (hx : x ∈ upperChars c) :
    isTame x = true := by
  rw [upperChars, if_neg (by omega)] at hx
  split at hx
  · next image himage =>
    obtain ⟨n, hn, rfl⟩ := List.mem_map.mp hx
    have htable : (upperExpansions.all fun e => e.2.all fun n => isTame (Char.ofNat n)) = true := by
      decide +kernel
    obtain ⟨before, after, hentry, -⟩ := List.lookup_eq_some_iff.mp himage
    have hentry := List.all_eq_true.mp htable (c.toNat, image) (by simp [hentry])
    exact List.all_eq_true.mp hentry n hn
  · rw [List.mem_singleton.mp hx, applyRuns]
    split
    · next lo hi step image hrun =>
      have htable : (upperRuns.all fun e => 0x80 ≤ e.2.2.2 ||
          (e.1 == e.2.1 && isTame (Char.ofNat e.2.2.2))) = true := by
        decide +kernel
      have hentry := List.all_eq_true.mp htable _ (List.mem_of_find?_eq_some hrun)
      have hmem := List.find?_some hrun
      simp only [Bool.or_eq_true, decide_eq_true_eq, Bool.and_eq_true, beq_iff_eq] at hentry hmem
      rcases hentry with hentry | ⟨hsingle, hentry⟩
      · exact isTame_ofNat (by omega)
      · rwa [show image + (c.toNat - lo) = image by omega]
    · exact isTame_of_toNat (.inr hc)

theorem toUpper_ascii : ∀ n < 128, ((Char.ofNat n).toUpper = '[' → Char.ofNat n = '[') ∧
    (startsTag (Char.ofNat n) = false → startsTag (Char.ofNat n).toUpper = false) := by
  decide

theorem upperChars_of_lt {c : Char} (hc : c.toNat < 128) : upperChars c = [c.toUpper] :=
  if_pos hc

theorem eq_bracket_of_mem_upperChars {c : Char} (h : '[' ∈ upperChars c) : c = '[' := by
  by_cases hc : c.toNat < 128
  · rw [upperChars_of_lt hc, List.mem_singleton] at h
    have hascii := (toUpper_ascii c.toNat hc).1
    rw [Char.ofNat_toNat] at hascii
    exact hascii h.symm
  · exact absurd (isTame_of_mem_upperChars (by omega) h) (by decide)

theorem startsTag_of_mem_upperChars {c x : Char} (hc : startsTag c = false)
    (hx : x ∈ upperChars c) : startsTag x = false := by
  by_cases hlt : c.toNat < 128
  · rw [upperChars_of_lt hlt, List.mem_singleton] at hx
    have hascii := (toUpper_ascii c.toNat hlt).2
    rw [Char.ofNat_toNat] at hascii
    rw [hx]
    exact hascii hc
  · have htame := isTame_of_mem_upperChars (by omega) hx
    exact (Bool.not_eq_true' _).mp (Bool.and_eq_true_iff.mp htame).2

theorem upperChars_ne_nil (c : Char) : upperChars c ≠ [] := by
  unfold upperChars
  split
  · exact List.cons_ne_nil _ _
  · split
    · next image himage =>
      have htable : (upperExpansions.all fun e => !e.2.isEmpty) = true := by decide +kernel
      obtain ⟨before, after, hentry, -⟩ := List.lookup_eq_some_iff.mp himage
      have hentry := List.all_eq_true.mp htable (c.toNat, image) (by simp [hentry])
      simpa using hentry
    · exact List.cons_ne_nil _ _

/-- In upper case no tag begins that did not begin before. -/
theorem Unopened.upper (h : Unopened s) : Unopened (Text.upper s) := by
  induction s with
  | nil => exact .nil
  | cons c s ih =>
    obtain ⟨hhead, hs⟩ := List.isChain_cons.mp h
    rw [Text.upper, List.flatMap_cons]
    refine List.IsChain.append ?_ (ih hs) ?_
    · by_cases hc : c = '['
      · rw [hc]
        exact .singleton _
      · exact unopened_of_not_mem fun hmem => hc (eq_bracket_of_mem_upperChars hmem)
    · -- behind a bracket stands the image of what stood there
      rintro x hx y hy rfl
      have hc := eq_bracket_of_mem_upperChars (List.mem_of_getLast? hx)
      cases s with
      | nil => cases hy
      | cons d s =>
        rw [List.flatMap_cons, List.head?_append_of_ne_nil _ (upperChars_ne_nil d)] at hy
        exact startsTag_of_mem_upperChars (hhead d rfl hc) (List.mem_of_head? hy)

/-! ## Parts of a text -/

/-- The parts of a text are pieces of it, and the first one begins it. -/
theorem infix_of_splitAt (sep : Char) (s : List Char) :
    (∀ part ∈ splitAt sep s, part <:+: s) ∧
      ∀ part parts, splitAt sep s = part :: parts → part <+: s := by
  induction s with
  | nil => simp [splitAt]
  | cons c s ih =>
    obtain ⟨hparts, hfirst⟩ := ih
    have hlater : ∀ part ∈ splitAt sep s, part <:+: c :: s :=
      fun part hpart => List.infix_cons (hparts part hpart)
    rw [splitAt]
    split
    · refine ⟨List.forall_mem_cons.mpr ⟨List.nil_infix, hlater⟩, fun part parts heq => ?_⟩
      cases heq
      exact List.nil_prefix
    · split
      · have hc : [c] <+: c :: s := ⟨s, rfl⟩
        exact ⟨fun part hpart => List.mem_singleton.mp hpart ▸ hc.isInfix,
          fun part parts heq => by cases heq; exact hc⟩
      · next l ls hsplit =>
        rw [hsplit] at hlater
        have hl : c :: l <+: c :: s := List.cons_prefix_cons.mpr ⟨rfl, hfirst l ls hsplit⟩
        refine ⟨List.forall_mem_cons.mpr ⟨hl.isInfix, (List.forall_mem_cons.mp hlater).2⟩,
          fun part parts heq => ?_⟩
        cases heq
        exact hl

theorem isInfix_strip (s : List Char) : strip s <:+: s := by
  have hright : ∀ t, stripRight t <+: t := by
    intro t
    have hsuffix : stripLeft t.reverse <:+ t.reverse := List.dropWhile_suffix _
    have hstart := List.reverse_prefix.mpr hsuffix
    rwa [List.reverse_reverse] at hstart
  exact (hright _).isInfix.trans (List.dropWhile_suffix _).isInfix

/-- Texts in a row, each behind a mark that no tag begins with. -/
theorem unopened_intercalate {sep : List Char} {parts : List (List Char)}
    (hsep : sep.all isTame = true) (hne : sep ≠ []) (h : ∀ part ∈ parts, Unopened part) :
    Unopened (sep.intercalate parts) := by
  have hsep := List.all_eq_true.mp hsep
  have hunopened : Unopened sep :=
    unopened_of_not_mem fun hmem => absurd (hsep _ hmem) (by decide)
  induction parts with
  | nil => exact .nil
  | cons p parts ih =>
    obtain ⟨hp, hparts⟩ := List.forall_mem_cons.mp h
    cases parts with
    | nil =>
      rw [List.intercalate_singleton]
      exact hp
    | cons q parts =>
      rw [List.intercalate_cons_cons]
      refine (hp.append hunopened ?_).append (ih hparts) ?_
      · intro x _ y hy _
        have htame := hsep y (List.mem_of_head? hy)
        exact (Bool.not_eq_true' _).mp (Bool.and_eq_true_iff.mp htame).2
      · rintro x hx y - rfl
        rw [List.getLast?_append_of_ne_nil _ hne] at hx
        exact absurd (hsep _ (List.mem_of_getLast? hx)) (by decide)

end QueryLint.Console.Markup
