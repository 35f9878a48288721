import Mathlib.Data.List.Infix
import QueryLint.Console.Markup

/-! # Texts inside a markup

A text that holds no tag can be put between the tags of a line without breaking it: the tags around
it are still read as they are meant. Only backslashes at its end may turn the next tag into text,
which changes what shows but breaks nothing. Behind a caption, whose style is closed, any text shows
or breaks as it does alone.
-/

namespace QueryLint.Console.Markup

variable {s t body rest before out : List Char} {backslashes : Nat} {opened : List OpenTag}

/-! ## Tags in a text -/

/-- No bracket of the text begins a tag. -/
def Untagged (s : List Char) : Prop :=
  ∀ rest, '[' :: rest <:+ s → tag? rest = none

instance (s : List Char) : Decidable (Untagged s) :=
  decidable_of_iff (∀ t ∈ s.tails, t.head? = some '[' → tag? t.tail = none) <| by
    constructor
    · exact fun h rest hrest => h _ ((List.mem_tails _ s).mpr hrest) rfl
    · intro h t ht hhead
      obtain ⟨rest, rfl⟩ := List.head?_eq_some_iff.mp hhead
      exact h rest ((List.mem_tails _ s).mp ht)

/-- What stands between the brackets of a tag. -/
def isTagBody (body : List Char) : Bool :=
  body.head?.any startsTag && body.all fun c => c ≠ ']' && c ≠ '['

theorem tag?_of_isTagBody (h : isTagBody body = true) (t : List Char) :
    tag? (body ++ ']' :: t) = some (body, t) := by
  obtain ⟨hhead, hall⟩ := Bool.and_eq_true_iff.mp h
  have hall := List.all_eq_true.mp hall
  have hhead : (body ++ ']' :: t).head?.any startsTag = true := by
    cases body with
    | nil => cases hhead
    | cons c body => exact hhead
  rw [tag?, hhead, List.dropWhile_append_of_pos hall, List.takeWhile_append_of_pos hall]
  simp

theorem tag?_eq_some_iff :
    tag? s = some (body, rest) ↔ isTagBody body = true ∧ s = body ++ ']' :: rest := by
  constructor
  · intro h
    unfold tag? at h
    split at h
    · cases h
    · next hhead =>
      split at h
      · next hdrop =>
        cases h
        have hs := List.takeWhile_append_dropWhile (p := fun c => c ≠ ']' && c ≠ '[') (l := s)
        rw [hdrop] at hs
        refine ⟨Bool.and_eq_true_iff.mpr ⟨?_, List.all_takeWhile⟩, hs.symm⟩
        cases s with
        | nil => cases hdrop
        | cons c s =>
          have hc : startsTag c = true := by simpa using hhead
          have hbody : c ≠ ']' ∧ c ≠ '[' := by
            constructor <;> rintro rfl <;> cases hc
          simp [hbody, hc]
      · cases h
  · rintro ⟨hbody, rfl⟩
    exact tag?_of_isTagBody hbody rest

theorem not_mem_of_isTagBody (h : isTagBody body = true) : '[' ∉ body := by
  intro hmem
  have hall := List.all_eq_true.mp (Bool.and_eq_true_iff.mp h).2 _ hmem
  exact absurd hall (by decide)

theorem exists_of_append_eq {xs ys : List Char} (h : xs ++ ys = body ++ ']' :: rest)
    (hxs : ']' ∉ xs) : ∃ tail, body = xs ++ tail ∧ ys = tail ++ ']' :: rest := by
  rcases List.append_eq_append_iff.mp h with ⟨tail, rfl, htail⟩ | ⟨tail, rfl, htail⟩
  · exact ⟨tail, rfl, htail⟩
  · cases tail with
    | nil => exact ⟨[], by simp, htail.symm⟩
    | cons c tail =>
      cases htail
      exact absurd (by simp) hxs

/-- A bracket behind a text ends every tag that might begin in it. -/
theorem tag?_append_bracket (h : tag? s = none) (t : List Char) : tag? (s ++ '[' :: t) = none := by
  rw [Option.eq_none_iff_forall_ne_some] at h ⊢
  rintro ⟨body, rest⟩ hsome
  obtain ⟨hbody, heq⟩ := tag?_eq_some_iff.mp hsome
  rcases List.append_eq_append_iff.mp heq with ⟨tail, rfl, htail⟩ | ⟨tail, rfl, htail⟩
  · -- the bracket would stand inside the tag
    cases tail with
    | nil => cases htail
    | cons c tail =>
      cases htail
      exact not_mem_of_isTagBody hbody (by simp)
  · cases tail with
    | nil => cases htail
    | cons c tail =>
      cases htail
      exact h (body, tail) (tag?_of_isTagBody hbody tail)

theorem untagged_of_not_mem (h : '[' ∉ s) : Untagged s :=
  fun _ hrest => absurd (hrest.subset List.mem_cons_self) h

theorem Untagged.append (hs : '[' ∉ s) (ht : Untagged t) : Untagged (s ++ t) := by
  induction s with
  | nil => exact ht
  | cons c s ih =>
    intro rest hrest
    obtain ⟨hc, hs⟩ := not_or.mp (mt List.mem_cons.mpr hs)
    rcases List.suffix_cons_iff.mp hrest with heq | hrest
    · cases heq
      exact absurd rfl hc
    · exact ih hs rest hrest

/-! ## Reading on behind a text -/

/-- The text and the backslashes behind it after a text without tags has been read. -/
def absorb (before : List Char) (backslashes : Nat) : List Char → List Char × Nat
  | [] => (before, backslashes)
  | c :: r =>
    if c = '\\' then absorb before (backslashes + 1) r
    else absorb (c :: (List.replicate backslashes '\\' ++ before)) 0 r

theorem reverse_absorb (before : List Char) (backslashes : Nat) (s : List Char) :
    (absorb before backslashes s).1.reverse
        ++ List.replicate (absorb before backslashes s).2 '\\'
      = before.reverse ++ List.replicate backslashes '\\' ++ s := by
  induction s generalizing before backslashes with
  | nil => simp [absorb]
  | cons c s ih =>
    rw [absorb]
    split
    · next hc =>
      subst hc
      rw [ih, List.replicate_succ']
      simp
    · rw [ih]
      simp

theorem absorb_of_not_mem (h : '\\' ∉ s) (before : List Char) :
    absorb before 0 s = (s.reverse ++ before, 0) := by
  induction s generalizing before with
  | nil => rfl
  | cons c s ih =>
    obtain ⟨hc, hs⟩ := not_or.mp (mt List.mem_cons.mpr h)
    rw [absorb, if_neg (Ne.symm hc), ih hs]
    simp

theorem getLast?_ne_of_not_mem (h : '\\' ∉ s) : s.getLast? ≠ some '\\' :=
  fun hlast => h (List.mem_of_getLast? hlast)

/-- Backslashes wait only at the end. -/
theorem absorb_of_getLast?_ne (h : s.getLast? ≠ some '\\') : absorb [] 0 s = (s.reverse, 0) := by
  obtain ⟨before, backslashes, habsorb⟩ :
      ∃ before backslashes, absorb [] 0 s = (before, backslashes) := ⟨_, _, rfl⟩
  have hall := reverse_absorb [] 0 s
  rw [habsorb] at hall
  cases backslashes with
  | zero =>
    rw [habsorb, show s = before.reverse by simpa using hall.symm, List.reverse_reverse]
  | succ n =>
    rw [List.replicate_succ', ← List.append_assoc] at hall
    exact absurd (by simp [← show _ = s from hall]) h

theorem piecesAfter_append (before : List Char) (backslashes : Nat)
    (h : ∀ rest, '[' :: rest <:+ s → tag? (rest ++ t) = none) :
    piecesAfter before backslashes (s ++ t)
      = piecesAfter (absorb before backslashes s).1 (absorb before backslashes s).2 t := by
  induction s generalizing before backslashes with
  | nil => rfl
  | cons c s ih =>
    have hs : ∀ rest, '[' :: rest <:+ s → tag? (rest ++ t) = none :=
      fun rest hrest => h rest (hrest.trans (List.suffix_cons c s))
    rw [List.cons_append, piecesAfter, absorb]
    split
    · exact ih _ _ hs
    · split
      · next hsome =>
        split at hsome
        · next hc =>
          subst hc
          rw [h s List.suffix_rfl] at hsome
          cases hsome
        · cases hsome
      · exact ih _ _ hs

theorem piecesAfter_tag (h : isTagBody body = true) (t : List Char) :
    piecesAfter before backslashes ('[' :: (body ++ ']' :: t))
      = .text before.reverse :: .text (List.replicate (backslashes / 2) '\\')
        :: (if backslashes % 2 = 1 then .text ('[' :: body ++ [']']) else .tag body)
        :: piecesAfter [] 0 t := by
  have htag := tag?_of_isTagBody h t
  rw [piecesAfter]
  split
  · next hc => exact absurd hc (by decide)
  · split
    · next hsome =>
      rw [if_pos rfl, htag] at hsome
      cases hsome
      rfl
    · next hnone =>
      rw [if_pos rfl, htag] at hnone
      cases hnone

/-! ## What shows -/

theorem replace_of_not_mem (h : ':' ∉ s) : Emoji.replace s = s := by
  induction s with
  | nil => rw [Emoji.replace]
  | cons c s ih =>
    obtain ⟨hc, hs⟩ := not_or.mp (mt List.mem_cons.mpr h)
    rw [Emoji.replace, if_neg (Ne.symm hc), ih hs]

theorem unescape_of_not_mem (h : '\\' ∉ s) : unescape s = s := by
  induction s with
  | nil => rfl
  | cons c s ih =>
    obtain ⟨hc, hs⟩ := not_or.mp (mt List.mem_cons.mpr h)
    rw [unescape, ih hs]
    rintro r rfl
    exact absurd rfl hc

theorem shown_nil : shown [] = [] := by
  rw [shown, unescape, Emoji.replace]
  rfl

/-- The text shows as it is: nothing in it is an escape, a picture or a character that never
shows. -/
structure Plain (s : List Char) : Prop where
  unescaped : '\\' ∉ s
  unpictured : Emoji.replace s = s
  kept : ∀ c ∈ s, isDropped c = false

theorem Plain.shown_eq (h : Plain s) : shown s = s := by
  rw [shown, unescape_of_not_mem h.unescaped, h.unpictured, List.filter_eq_self]
  intro c hc
  simp [h.kept c hc]

/-- The markup shows a text when it is read inside some open tags, behind a text and some
backslashes, and none of its tags is at fault. -/
structure Displays (opened : List OpenTag) (before : List Char) (backslashes : Nat)
    (s out : List Char) : Prop where
  shows : showPieces opened (piecesAfter before backslashes s) = .ok out
  sound : (piecesAfter before backslashes s).forM checkStyle = .ok ()

theorem Displays.render_eq {m : String} (h : Displays [] [] 0 m.toList out) :
    render m = .ok (String.ofList out) := by
  have hshows : showPieces [] (pieces m.toList) = .ok out := h.shows
  have hsound : (pieces m.toList).forM checkStyle = .ok () := h.sound
  simp only [render, hshows, hsound, bind, Except.bind, pure, Except.pure]

theorem displays_nil (opened : List OpenTag) (before : List Char) (backslashes : Nat) :
    Displays opened before backslashes []
      (shown (before.reverse ++ List.replicate backslashes '\\')) := by
  constructor
  · simp [piecesAfter, showPieces, Except.map]
  · rw [piecesAfter]
    rfl

theorem displays_untagged (opened : List OpenTag) (h : Untagged s) :
    Displays opened [] 0 s (shown s) := by
  have hpieces : piecesAfter [] 0 s = piecesAfter (absorb [] 0 s).1 (absorb [] 0 s).2 [] := by
    have happend := piecesAfter_append (s := s) (t := []) [] 0
    rw [List.append_nil] at happend
    exact happend fun rest hrest => by rw [List.append_nil, h rest hrest]
  have hend := displays_nil opened (absorb [] 0 s).1 (absorb [] 0 s).2
  rw [reverse_absorb] at hend
  exact ⟨hpieces ▸ hend.shows, hpieces ▸ hend.sound⟩

theorem render_untagged {text : String} (h : Untagged text.toList) :
    render text = .ok (String.ofList (shown text.toList)) :=
  (displays_untagged [] h).render_eq

/-- An untagged text before a tag shows, but for backslashes at its end, of which an odd one turns
the tag into text. -/
theorem displays_before_tag {opened' : List OpenTag} (hs : Untagged s)
    (hbody : isTagBody body = true) (happly : applyTag opened body = .ok opened')
    (hstyle : checkStyle (.tag body) = .ok ()) (ht : Displays opened' [] 0 t out)
    (hescaped : s.getLast? ≠ some '\\' ∨ Displays opened [] 0 t out) :
    ∃ label, (s.getLast? ≠ some '\\' → label = shown s) ∧
      Displays opened [] 0 (s ++ '[' :: (body ++ ']' :: t)) (label ++ out) := by
  obtain ⟨before, backslashes, habsorb⟩ :
      ∃ before backslashes, absorb [] 0 s = (before, backslashes) := ⟨_, _, rfl⟩
  have hpieces : piecesAfter [] 0 (s ++ '[' :: (body ++ ']' :: t))
      = .text before.reverse :: .text (List.replicate (backslashes / 2) '\\')
        :: (if backslashes % 2 = 1 then .text ('[' :: body ++ [']']) else .tag body)
        :: piecesAfter [] 0 t := by
    rw [piecesAfter_append [] 0 fun rest hrest => tag?_append_bracket (hs rest hrest) _, habsorb,
      piecesAfter_tag hbody]
  have hplain : s.getLast? ≠ some '\\' → before.reverse = s ∧ backslashes = 0 := by
    intro h
    rw [absorb_of_getLast?_ne h] at habsorb
    cases habsorb
    exact ⟨List.reverse_reverse s, rfl⟩
  by_cases hodd : backslashes % 2 = 1
  · have hlast : ¬ s.getLast? ≠ some '\\' := fun h => by
      rw [(hplain h).2] at hodd
      cases hodd
    obtain ⟨hshows, hsound⟩ := hescaped.resolve_left hlast
    refine ⟨shown before.reverse ++ shown (List.replicate (backslashes / 2) '\\')
      ++ shown ('[' :: body ++ [']']), fun h => absurd h hlast, ?_, ?_⟩
    · rw [hpieces, if_pos hodd]
      simp only [showPieces, hshows, Except.map, List.append_assoc]
    · rw [hpieces, if_pos hodd]
      exact hsound
  · refine ⟨shown before.reverse ++ shown (List.replicate (backslashes / 2) '\\'), fun h => ?_,
      ?_, ?_⟩
    · rw [(hplain h).1, (hplain h).2, Nat.zero_div, List.replicate_zero, shown_nil,
        List.append_nil]
    · rw [hpieces, if_neg hodd]
      simp only [showPieces, happly, ht.shows, bind, Except.bind, Except.map, List.append_assoc]
    · rw [hpieces, if_neg hodd]
      change (checkStyle (.tag body) >>= fun _ => (piecesAfter [] 0 t).forM checkStyle) = .ok ()
      rw [hstyle]
      exact ht.sound

/-- A style that is opened and closed by its name. -/
structure IsStyle (c : String) : Prop where
  opening : isTagBody c.toList = true
  closing : isTagBody ('/' :: c.toList) = true
  opens : ∀ opened, applyTag opened c.toList = .ok (⟨c, none⟩ :: opened)
  closes : ∀ opened, applyTag (⟨c, none⟩ :: opened) ('/' :: c.toList) = .ok opened
  sound : checkStyle (.tag c.toList) = .ok ()

theorem IsStyle.displays {c : String} {u : List Char} (hc : IsStyle c)
    (hs : '[' ∉ s ∧ '\\' ∉ s) (hu : '[' ∉ u ∧ '\\' ∉ u) (ht : Displays opened [] 0 t out) :
    Displays opened [] 0
      (s ++ '[' :: (c.toList ++ ']' :: (u ++ '[' :: (('/' :: c.toList) ++ ']' :: t))))
      (shown s ++ (shown u ++ out)) := by
  obtain ⟨inner, hinner, hclosed⟩ := displays_before_tag (untagged_of_not_mem hu.1) hc.closing
    (hc.closes opened) rfl ht (.inl (getLast?_ne_of_not_mem hu.2))
  obtain ⟨outer, houter, hopened⟩ := displays_before_tag (untagged_of_not_mem hs.1) hc.opening
    (hc.opens opened) hc.sound hclosed (.inl (getLast?_ne_of_not_mem hs.2))
  rwa [hinner (getLast?_ne_of_not_mem hu.2), houter (getLast?_ne_of_not_mem hs.2)] at hopened

theorem IsStyle.displays_untagged {c : String} (hc : IsStyle c) (opened : List OpenTag)
    (hs : Untagged s) (ht : ∀ opened, Displays opened [] 0 t out) :
    ∃ label, (s.getLast? ≠ some '\\' → label = shown s) ∧
      Displays opened [] 0
        ('[' :: (c.toList ++ ']' :: (s ++ '[' :: (('/' :: c.toList) ++ ']' :: t))))
        (label ++ out) := by
  obtain ⟨label, hlabel, hclosed⟩ := displays_before_tag hs hc.closing (hc.closes opened) rfl
    (ht opened) (.inr (ht _))
  obtain ⟨outer, houter, hopened⟩ := displays_before_tag (s := []) (untagged_of_not_mem
    List.not_mem_nil) hc.opening (hc.opens opened) hc.sound hclosed (.inl nofun)
  rw [houter nofun, shown_nil] at hopened
  exact ⟨label, hlabel, hopened⟩

theorem IsStyle.render_error {c m : String} {f : MarkupFault} (hc : IsStyle c)
    (hs : '[' ∉ s ∧ '\\' ∉ s) (hbody : isTagBody body = true)
    (hfault : applyTag [⟨c, none⟩] body = .error f)
    (hm : m.toList = '[' :: (c.toList ++ ']' :: (s ++ '[' :: (body ++ ']' :: t)))) :
    render m = .error f := by
  have hpieces : pieces m.toList = .text [] :: .text [] :: .tag c.toList :: .text s :: .text []
      :: .tag body :: piecesAfter [] 0 t := by
    rw [pieces, hm, piecesAfter_tag hc.opening, piecesAfter_append [] 0 fun rest hrest =>
      absurd (hrest.subset List.mem_cons_self) hs.1, absorb_of_not_mem hs.2, piecesAfter_tag hbody]
    simp
  simp only [render, hpieces, showPieces, hc.opens, hfault, bind, Except.bind, Except.map]

/-! ## Escaped texts -/

theorem absorb_replicate (before : List Char) (backslashes n : Nat) :
    absorb before backslashes (List.replicate n '\\') = (before, backslashes + n) := by
  induction n generalizing backslashes with
  | zero => rfl
  | succ n ih =>
    rw [List.replicate_succ, absorb, if_pos rfl, ih]
    congr 1
    omega

theorem piecesAfter_replicate (before : List Char) (backslashes n : Nat) (t : List Char) :
    piecesAfter before backslashes (List.replicate n '\\' ++ t)
      = piecesAfter before (backslashes + n) t := by
  have hbracket : '[' ∉ List.replicate n '\\' := fun h => by cases List.eq_of_mem_replicate h
  rw [piecesAfter_append _ _ fun rest hrest => absurd (hrest.subset List.mem_cons_self) hbracket,
    absorb_replicate]

theorem piecesAfter_cons {c : Char} (hc : c ≠ '\\') (ht : c = '[' → tag? t = none) :
    piecesAfter before backslashes (c :: t)
      = piecesAfter (c :: (List.replicate backslashes '\\' ++ before)) 0 t := by
  have hsingle : ∀ rest, '[' :: rest <:+ [c] → tag? (rest ++ t) = none := by
    intro rest hrest
    cases hrest.eq_of_length_le (Nat.le_add_left _ _)
    exact ht rfl
  have happend := piecesAfter_append before backslashes hsingle
  rwa [absorb, if_neg hc] at happend

@[elab_as_elim] theorem piecesAfter_induction {motive : List Char → Nat → List Char → Prop}
    (nil : ∀ before backslashes, motive before backslashes [])
    (backslash : ∀ before backslashes r, motive before (backslashes + 1) r →
      motive before backslashes ('\\' :: r))
    (tag : ∀ before backslashes body r, isTagBody body = true → motive [] 0 r →
      motive before backslashes ('[' :: (body ++ ']' :: r)))
    (text : ∀ before backslashes c r, c ≠ '\\' → (c = '[' → tag? r = none) →
      motive (c :: (List.replicate backslashes '\\' ++ before)) 0 r →
      motive before backslashes (c :: r))
    (before : List Char) (backslashes : Nat) (s : List Char) : motive before backslashes s := by
  fun_induction piecesAfter before backslashes s with
  | case1 before backslashes => exact nil before backslashes
  | case2 before backslashes r ih => exact backslash before backslashes r ih
  | case3 before backslashes c r hc body rest hsome ih =>
    split at hsome
    · next hbracket =>
      obtain ⟨hbody, rfl⟩ := tag?_eq_some_iff.mp hsome
      rw [hbracket]
      exact tag before backslashes body rest hbody ih
    · cases hsome
  | case4 before backslashes c r hc hnone ih =>
    refine text before backslashes c r hc (fun hbracket => ?_) ih
    rwa [dif_pos hbracket] at hnone

theorem append_bracket_ne {n : Nat} (hbody : '[' ∉ body) (t : List Char) :
    List.replicate n '\\' ++ '[' :: t ≠ body ++ ']' :: rest := by
  intro heq
  obtain ⟨tail, rfl, htail⟩ := exists_of_append_eq heq fun h => by
    cases List.eq_of_mem_replicate h
  cases tail with
  | nil => cases htail
  | cons c tail =>
    cases htail
    exact hbody (by simp)

/-- Escaping moves no closing bracket before an opening one. -/
theorem exists_of_escapeTags_eq {pending n : Nat} (hbody : '[' ∉ body)
    (h : escapeTags pending s ++ List.replicate n '\\' = body ++ ']' :: rest) :
    ∃ rest', List.replicate pending '\\' ++ s = body ++ ']' :: rest' := by
  have hbackslashes : ∀ k, ']' ∉ List.replicate k '\\' :=
    fun k hmem => by cases List.eq_of_mem_replicate hmem
  fun_induction escapeTags pending s generalizing body with
  | case1 pending =>
    obtain ⟨tail, -, htail⟩ := exists_of_append_eq h (hbackslashes pending)
    exact absurd (htail ▸ by simp) (hbackslashes n)
  | case2 pending r ih =>
    obtain ⟨rest', hrest⟩ := ih hbody h
    refine ⟨rest', ?_⟩
    rw [← hrest, List.replicate_succ', List.append_assoc]
    rfl
  | case3 pending r =>
    simp only [List.append_assoc, List.cons_append] at h
    exact absurd h (append_bracket_ne hbody _)
  | case4 pending r =>
    rw [List.append_assoc, List.cons_append] at h
    exact absurd h (append_bracket_ne hbody _)
  | case5 pending c r hc hc' ih =>
    rw [List.append_assoc, List.cons_append] at h
    obtain ⟨tail, rfl, htail⟩ := exists_of_append_eq h (hbackslashes pending)
    cases tail with
    | nil =>
      cases htail
      exact ⟨r, by simp⟩
    | cons d tail =>
      injection htail with hcd htail
      subst hcd
      obtain ⟨rest', hrest⟩ := ih (fun hmem => hbody (by simp [hmem])) htail
      refine ⟨rest', ?_⟩
      rw [List.replicate_zero, List.nil_append] at hrest
      rw [hrest, List.append_assoc, List.cons_append]

/-- Escaped texts hold no tag that is not escaped. -/
theorem text_of_mem_escapeTags {pending n : Nat} {before : List Char} {x : Piece}
    (hx : x ∈ piecesAfter before 0 (escapeTags pending s ++ List.replicate n '\\')) :
    ∃ u, x = .text u := by
  fun_induction escapeTags pending s generalizing before with
  | case1 pending =>
    rw [piecesAfter_replicate, ← List.append_nil (List.replicate n _), piecesAfter_replicate,
      piecesAfter, List.mem_singleton] at hx
    exact ⟨_, hx⟩
  | case2 pending r ih => exact ih hx
  | case3 pending r body rest htag _ ih =>
    obtain ⟨hbody, -⟩ := tag?_eq_some_iff.mp htag
    simp only [List.append_assoc, List.cons_append] at hx
    rw [piecesAfter_replicate, piecesAfter_tag hbody, if_pos (by omega)] at hx
    simp only [List.mem_cons] at hx
    rcases hx with rfl | rfl | rfl | hx
    · exact ⟨_, rfl⟩
    · exact ⟨_, rfl⟩
    · exact ⟨_, rfl⟩
    · exact ih hx
  | case4 pending r htag hc ih =>
    have hnone : tag? (escapeTags 0 r ++ List.replicate n '\\') = none := by
      rw [Option.eq_none_iff_forall_ne_some]
      rintro ⟨body, rest⟩ hsome
      obtain ⟨hbody, heq⟩ := tag?_eq_some_iff.mp hsome
      obtain ⟨rest', hr⟩ := exists_of_escapeTags_eq (not_mem_of_isTagBody hbody) heq
      rw [List.replicate_zero, List.nil_append] at hr
      rw [hr, tag?_of_isTagBody hbody] at htag
      cases htag
    rw [List.append_assoc, List.cons_append, piecesAfter_replicate,
      piecesAfter_cons hc fun _ => hnone] at hx
    exact ih hx
  | case5 pending c r hc hc' ih =>
    rw [List.append_assoc, List.cons_append, piecesAfter_replicate,
      piecesAfter_cons hc fun h => absurd h hc'] at hx
    exact ih hx

theorem displays_of_texts (opened : List OpenTag)
    (h : ∀ x ∈ piecesAfter before backslashes s, ∃ u, x = .text u) :
    ∃ out, Displays opened before backslashes s out := by
  suffices hlist : ∀ ps : List Piece, (∀ x ∈ ps, ∃ u, x = .text u) →
      (∃ out, showPieces opened ps = .ok out) ∧ ps.forM checkStyle = .ok () by
    obtain ⟨⟨out, hshows⟩, hsound⟩ := hlist _ h
    exact ⟨out, hshows, hsound⟩
  intro ps
  induction ps with
  | nil => exact fun _ => ⟨⟨[], rfl⟩, rfl⟩
  | cons x ps ih =>
    intro hps
    obtain ⟨⟨u, rfl⟩, hrest⟩ := List.forall_mem_cons.mp hps
    obtain ⟨⟨out, hshows⟩, hsound⟩ := ih hrest
    exact ⟨⟨shown u ++ out, by simp only [showPieces, hshows, Except.map]⟩, hsound⟩

/-- A text that is escaped shows, whatever it is. -/
theorem exists_render_escape (m : String) : ∃ text, render (escape m) = .ok text := by
  have hguard : ∃ n, guardEnd (escapeTags 0 m.toList)
      = escapeTags 0 m.toList ++ List.replicate n '\\' := by
    unfold guardEnd
    split
    · exact ⟨0, by simp⟩
    · exact ⟨1, by simp⟩
    · exact ⟨0, by simp⟩
  obtain ⟨n, hn⟩ := hguard
  have htexts : ∀ x ∈ piecesAfter [] 0 (escapeTags 0 m.toList ++ List.replicate n '\\'),
      ∃ u, x = .text u := fun x hx => text_of_mem_escapeTags hx
  obtain ⟨out, hout⟩ := displays_of_texts [] htexts
  refine ⟨String.ofList out, Displays.render_eq ?_⟩
  rw [escape, String.toList_ofList, hn]
  exact hout

/-! ## Characters that are nothing but themselves -/

def isInert (c : Char) : Bool :=
  c ≠ '[' && c ≠ '\\' && c ≠ ':' && !isDropped c

theorem plain_of_inert (h : s.all isInert = true) : Plain s := by
  simp only [List.all_eq_true, isInert, Bool.and_eq_true, decide_eq_true_eq, Bool.not_eq_true'] at h
  exact ⟨fun hmem => (h _ hmem).1.1.2 rfl, replace_of_not_mem fun hmem => (h _ hmem).1.2 rfl,
    fun c hc => (h c hc).2⟩

theorem shown_cons {c : Char} (h : isInert c = true) (s : List Char) :
    shown (c :: s) = c :: shown s := by
  simp only [isInert, Bool.and_eq_true, decide_eq_true_eq, Bool.not_eq_true'] at h
  obtain ⟨⟨⟨-, hbackslash⟩, hcolon⟩, hkept⟩ := h
  rw [shown, unescape, Emoji.replace, if_neg hcolon, List.filter_cons_of_pos (by simp [hkept]),
    shown]
  rintro r rfl
  exact absurd rfl hbackslash

theorem not_mem_of_inert (h : s.all isInert = true) : '[' ∉ s ∧ '\\' ∉ s := by
  refine ⟨fun hmem => ?_, (plain_of_inert h).unescaped⟩
  exact absurd (List.all_eq_true.mp h _ hmem) (by decide)

theorem inert_toString (n : Nat) : (toString n).toList.all isInert = true := by
  rw [List.all_eq_true]
  intro c hc
  have hdigit : c.isDigit = true :=
    Nat.isDigit_of_mem_toDigits (b := 10) (n := n) (by decide) (by decide) (by simpa using hc)
  obtain ⟨hlow, hhigh⟩ := Bool.and_eq_true_iff.mp hdigit
  have hlow : 48 ≤ c.toNat := of_decide_eq_true hlow
  have hhigh : c.toNat ≤ 57 := of_decide_eq_true hhigh
  have hne : ∀ d : Char, (d.toNat < 48 ∨ 57 < d.toNat) → c ≠ d := by
    rintro d hd rfl
    omega
  simp [isInert, isDropped, hne]

/-! ## Behind a caption -/

/-- A character before a text stands before its first piece. -/
theorem exists_piecesAfter_eq (before : List Char) (backslashes : Nat) (s : List Char) (c : Char) :
    ∃ t rest, piecesAfter before backslashes s = .text t :: rest ∧
      piecesAfter (before ++ [c]) backslashes s = .text (c :: t) :: rest := by
  induction before, backslashes, s using piecesAfter_induction with
  | nil before backslashes => exact ⟨_, _, by rw [piecesAfter], by simp [piecesAfter]⟩
  | backslash before backslashes r ih =>
    rwa [piecesAfter, if_pos rfl, piecesAfter, if_pos rfl]
  | tag before backslashes body r hbody ih =>
    exact ⟨_, _, piecesAfter_tag hbody r, by rw [piecesAfter_tag hbody]; simp⟩
  | text before backslashes d r hd htag ih =>
    rwa [piecesAfter_cons hd htag, piecesAfter_cons hd htag, ← List.append_assoc]

/-- A text behind a caption in some style shows as it does alone, and what is at fault in it is at
fault behind the caption. -/
theorem IsStyle.render_behind {c m text : String} {u : List Char} (hc : IsStyle c)
    (hu : '[' ∉ u ∧ '\\' ∉ u) (hm : m.toList = '[' :: (c.toList ++ ']' :: (u ++ '['
      :: (('/' :: c.toList) ++ ']' :: ' ' :: text.toList)))) :
    render m = (render text).map fun out => String.ofList (shown u) ++ " " ++ out := by
  obtain ⟨t, rest, hwithout, hwith⟩ := exists_piecesAfter_eq [] 0 text.toList ' '
  have hpieces : pieces m.toList = .text [] :: .text [] :: .tag c.toList :: .text u :: .text []
      :: .tag ('/' :: c.toList) :: .text (' ' :: t) :: rest := by
    rw [pieces, hm, piecesAfter_tag hc.opening, piecesAfter_append [] 0 fun rest hrest =>
      absurd (hrest.subset List.mem_cons_self) hu.1, absorb_of_not_mem hu.2,
      piecesAfter_tag hc.closing, piecesAfter_cons (by decide) (absurd · (by decide)),
      List.replicate_zero, List.nil_append, ← List.nil_append [' '], hwith]
    simp
  have hshown : shown (' ' :: t) = ' ' :: shown t := shown_cons (by decide) t
  have hsound : (pieces m.toList).forM checkStyle = rest.forM checkStyle := by
    rw [hpieces]
    change (checkStyle (.tag c.toList) >>= fun _ => rest.forM checkStyle) = _
    rw [hc.sound]
    rfl
  have hsound' : (pieces text.toList).forM checkStyle = rest.forM checkStyle := by
    rw [pieces, hwithout]
    rfl
  have hshows : showPieces [] (pieces m.toList)
      = (showPieces [] (pieces text.toList)).map fun out => shown u ++ ' ' :: out := by
    rw [hpieces, pieces, hwithout]
    simp only [showPieces, hc.opens, hc.closes, hshown, shown_nil, bind, Except.bind]
    cases showPieces [] rest with
    | error f => rfl
    | ok out => simp [Except.map]
  rw [render, render, hsound, hsound', hshows]
  cases showPieces [] (pieces text.toList) with
  | error f => rfl
  | ok out =>
    simp only [bind, Except.bind, Except.map]
    cases rest.forM checkStyle with
    | error f => rfl
    | ok _ => simp [pure, Except.pure, String.ofList_append, String.append_assoc]

end QueryLint.Console.Markup
