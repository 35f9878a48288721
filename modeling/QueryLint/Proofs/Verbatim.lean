import QueryLint.Proofs.Display
import QueryLint.Proofs.Wrapping

/-! # Texts in a markup that are shown as they are

The names of files and the reasons of errors are put into a markup as they are, and so the markup
reads them. A text without tags never makes printing break down, and it is shown up to pictures,
escapes and characters that never show. A text that names no pictures is shown as it is exactly if
nothing in it is read as anything but itself; before a tag it must not end with a backslash either.
-/

namespace QueryLint

open Console Console.Markup

namespace Console.Markup

variable {s t u before out : List Char} {backslashes : Nat} {opened : List OpenTag}

/-! ## Names of pictures -/

/-- Between two colons of the text there is always a blank, so that it names no picture. If it has
begun, a colon stands before it. -/
def pictureless (begun : Bool) : List Char → Bool
  | [] => true
  | c :: r =>
    if c = ':' then !begun && pictureless true r else pictureless (begun && !Text.isBlank c) r

theorem pictureless_of_begun (h : pictureless true s = true) (begun : Bool) :
    pictureless begun s = true := by
  induction s generalizing begun with
  | nil => rfl
  | cons c s ih =>
    rw [pictureless] at h ⊢
    split_ifs with hc
    · rw [if_pos hc] at h
      cases h
    · rw [if_neg hc, Bool.true_and] at h
      cases begun with
      | true => exact h
      | false =>
        cases hblank : Text.isBlank c with
        | true => rwa [hblank] at h
        | false =>
          rw [hblank] at h
          exact ih h false

theorem pictureless_left {begun : Bool} (h : pictureless begun (s ++ t) = true) :
    pictureless begun s = true := by
  induction s generalizing begun with
  | nil => rfl
  | cons c s ih =>
    rw [List.cons_append, pictureless] at h
    rw [pictureless]
    split_ifs at h ⊢
    · rw [Bool.and_eq_true] at h ⊢
      exact ⟨h.1, ih h.2⟩
    · exact ih h

theorem pictureless_right {begun : Bool} (h : pictureless begun (s ++ t) = true) :
    pictureless false t = true := by
  induction s generalizing begun with
  | nil =>
    cases begun with
    | true => exact pictureless_of_begun h false
    | false => exact h
  | cons c s ih =>
    rw [List.cons_append, pictureless] at h
    split_ifs at h
    · exact ih (Bool.and_eq_true_iff.mp h).2
    · exact ih h

theorem pictureless_infix (h : pictureless false t = true) (hs : s <:+: t) :
    pictureless false s = true := by
  obtain ⟨start, rest, rfl⟩ := hs
  exact pictureless_right (pictureless_left h)

theorem pictureless_of_not_mem (h : ':' ∉ s) (begun : Bool) : pictureless begun s = true := by
  induction s generalizing begun with
  | nil => rfl
  | cons c s ih =>
    obtain ⟨hc, hs⟩ := not_or.mp (mt List.mem_cons.mpr h)
    rw [pictureless, if_neg (Ne.symm hc)]
    exact ih hs _

theorem pictureless_unescape {begun : Bool} (h : pictureless begun s = true) :
    pictureless begun (unescape s) = true := by
  fun_induction unescape s generalizing begun with
  | case1 r ih =>
    have hbracket : Text.isBlank '[' = false ∧ Text.isBlank '\\' = false := by decide
    simp only [pictureless, hbracket, Bool.not_false, Bool.and_true, Char.reduceEq, if_false] at h ⊢
    exact ih h
  | case2 c r _ ih =>
    rw [pictureless] at h ⊢
    split_ifs at h ⊢
    · rw [Bool.and_eq_true] at h ⊢
      exact ⟨h.1, ih h.2⟩
    · exact ih h
  | case3 => rfl

/-- Behind a colon of such a text no name is found. -/
theorem split?_of_pictureless (h : pictureless true s = true) (done : List Char) :
    Emoji.split? done s = none := by
  have hemoji : ∀ r, pictureless true ("-emoji:".toList ++ r) = false := fun r => by
    simp [pictureless, Text.isBlank, Text.blanks]
  have htext : ∀ r, pictureless true ("-text:".toList ++ r) = false := fun r => by
    simp [pictureless, Text.isBlank, Text.blanks]
  induction s generalizing done with
  | nil => rfl
  | cons c s ih =>
    have hnone : ∀ variant, (∀ r, pictureless true (variant ++ r) = false) →
        Text.dropStart? variant (c :: s) = none := by
      intro variant hvariant
      rw [Option.eq_none_iff_forall_ne_some]
      intro rest hsome
      rw [Text.dropStart?_eq_some_iff.mp hsome, hvariant] at h
      cases h
    rw [Emoji.split?, hnone _ hemoji, hnone _ htext]
    rw [pictureless] at h
    split_ifs at h with hc
    · cases h
    · rw [if_neg hc]
      simp only
      split_ifs with hblank
      · rfl
      · rw [(Bool.not_eq_true _).mp hblank] at h
        exact ih h _

theorem replace_of_pictureless {begun : Bool} (h : pictureless begun s = true) :
    Emoji.replace s = s := by
  induction s generalizing begun with
  | nil => rw [Emoji.replace]
  | cons c s ih =>
    rw [pictureless] at h
    rw [Emoji.replace]
    split_ifs at h ⊢ with hc
    · obtain ⟨-, hs⟩ := Bool.and_eq_true_iff.mp h
      have hnone := split?_of_pictureless hs []
      split
      · rw [ih hs]
      · next hsome =>
        rw [hnone] at hsome
        cases hsome
    · rw [ih h]

/-! ## Nothing is added -/

theorem unescape_sublist (s : List Char) : (unescape s).Sublist s := by
  fun_induction unescape s with
  | case1 r ih => exact (ih.cons_cons '[').cons '\\'
  | case2 c r _ ih => exact ih.cons_cons c
  | case3 => exact .slnil

theorem unescape_eq_self_iff : unescape s = s ↔ ¬ ['\\', '['] <:+: s := by
  fun_induction unescape s with
  | case1 r ih =>
    refine iff_of_false (fun heq => ?_) (not_not.mpr ⟨[], r, rfl⟩)
    have hlength := congrArg List.length heq
    have hle := (unescape_sublist r).length_le
    simp only [List.length_cons] at hlength
    omega
  | case2 c r hc ih =>
    have hbegins : ¬ ['\\', '['] <+: c :: r := by
      rintro ⟨rest, heq⟩
      cases heq
      exact hc rest rfl rfl
    rw [List.cons.injEq, ih, List.infix_cons_iff]
    simp [hbegins]
  | case3 => simp

theorem shown_of_pictureless (h : pictureless false s = true) :
    shown s = (unescape s).filter fun c => !isDropped c := by
  rw [shown, replace_of_pictureless (pictureless_unescape h)]

theorem shown_sublist (h : pictureless false s = true) : (shown s).Sublist s := by
  rw [shown_of_pictureless h]
  exact List.filter_sublist.trans (unescape_sublist s)

/-- Nothing in the text is read as anything but itself. -/
structure Literal (s : List Char) : Prop where
  untagged : Untagged s
  unescaped : ¬ ['\\', '['] <:+: s
  kept : ∀ c ∈ s, isDropped c = false

theorem shown_eq_self_iff (h : pictureless false s = true) :
    shown s = s ↔ ¬ ['\\', '['] <:+: s ∧ ∀ c ∈ s, isDropped c = false := by
  have hkept : (∀ c ∈ s, isDropped c = false) ↔ s.filter (fun c => !isDropped c) = s := by
    simp [List.filter_eq_self]
  rw [shown_of_pictureless h, ← unescape_eq_self_iff, hkept]
  constructor
  · intro heq
    have hself : unescape s = s := by
      refine (unescape_sublist s).eq_of_length_le ?_
      conv_lhs => rw [← heq]
      exact List.length_filter_le _ _
    rw [hself] at heq
    exact ⟨hself, heq⟩
  · rintro ⟨hself, hfilter⟩
    rw [hself, hfilter]

def texts (ps : List Piece) : List Char :=
  ps.flatMap fun
    | .text s => s
    | .tag _ => []

@[simp] theorem texts_nil : texts [] = [] := rfl

@[simp] theorem texts_text (s : List Char) (ps : List Piece) :
    texts (.text s :: ps) = s ++ texts ps := rfl

@[simp] theorem texts_tag (body : List Char) (ps : List Piece) :
    texts (.tag body :: ps) = texts ps := rfl

@[simp] theorem texts_append (ps qs : List Piece) : texts (ps ++ qs) = texts ps ++ texts qs :=
  List.flatMap_append

theorem showPieces_sublist {ps : List Piece} (h : ∀ u, .text u ∈ ps → pictureless false u = true)
    (hshows : showPieces opened ps = .ok out) : out.Sublist (texts ps) := by
  induction ps generalizing opened out with
  | nil =>
    cases hshows
    exact .slnil
  | cons piece ps ih =>
    have hrest : ∀ u, .text u ∈ ps → pictureless false u = true :=
      fun u hu => h u (List.mem_cons_of_mem _ hu)
    cases piece with
    | text u =>
      rw [showPieces] at hshows
      cases hps : showPieces opened ps with
      | error f =>
        rw [hps] at hshows
        cases hshows
      | ok shows =>
        rw [hps] at hshows
        cases hshows
        exact (shown_sublist (h u List.mem_cons_self)).append (ih hrest hps)
    | tag body =>
      obtain ⟨opened', -, hps⟩ := exists_of_bind_eq_ok hshows
      exact ih hrest hps

theorem showPieces_blank (opened : List OpenTag) (ps : List Piece) :
    showPieces opened (.text [] :: ps) = showPieces opened ps := by
  rw [showPieces, shown_nil]
  cases showPieces opened ps <;> rfl

theorem showPieces_append {ps qs : List Piece} (hshows : showPieces opened (ps ++ qs) = .ok out) :
    ∃ opened' shows rest, showPieces opened ps = .ok shows ∧ showPieces opened' qs = .ok rest ∧
      out = shows ++ rest := by
  induction ps generalizing opened out with
  | nil => exact ⟨opened, [], out, rfl, hshows, rfl⟩
  | cons piece ps ih =>
    cases piece with
    | text u =>
      rw [List.cons_append, showPieces] at hshows
      cases hall : showPieces opened (ps ++ qs) with
      | error f =>
        rw [hall] at hshows
        cases hshows
      | ok both =>
        rw [hall] at hshows
        cases hshows
        obtain ⟨opened', shows, rest, hps, hqs, rfl⟩ := ih hall
        exact ⟨opened', shown u ++ shows, rest, by rw [showPieces, hps]; rfl, hqs, by simp⟩
    | tag body =>
      rw [List.cons_append, showPieces] at hshows
      obtain ⟨known, hknown, hall⟩ := exists_of_bind_eq_ok hshows
      obtain ⟨opened', shows, rest, hps, hqs, rfl⟩ := ih hall
      exact ⟨opened', shows, rest, by rw [showPieces, hknown]; exact hps, hqs, rfl⟩

/-! ## The pieces of a text -/

theorem texts_piecesAfter_sublist (before : List Char) (backslashes : Nat) (s : List Char) :
    (texts (piecesAfter before backslashes s)).Sublist
      (before.reverse ++ List.replicate backslashes '\\' ++ s) := by
  induction before, backslashes, s using piecesAfter_induction with
  | nil before backslashes => simp [piecesAfter, texts]
  | backslash before backslashes r ih =>
    rw [piecesAfter, if_pos rfl]
    simpa [List.replicate_succ'] using ih
  | tag before backslashes body r hbody ih =>
    have hhalf : (List.replicate (backslashes / 2) '\\').Sublist
        (List.replicate backslashes '\\') :=
      (List.replicate_sublist_replicate _).mpr (Nat.div_le_self _ _)
    have htag : (texts ((if backslashes % 2 = 1 then .text ('[' :: body ++ [']']) else .tag body)
        :: piecesAfter [] 0 r)).Sublist ('[' :: (body ++ ']' :: r)) := by
      have hr : (texts (piecesAfter [] 0 r)).Sublist r := by simpa using ih
      split_ifs
      · rw [texts_text]
        simpa using hr
      · rw [texts_tag]
        exact hr.trans (List.IsSuffix.sublist ⟨'[' :: (body ++ [']']), by simp⟩)
    rw [piecesAfter_tag hbody, texts_text, texts_text, List.append_assoc]
    exact (List.Sublist.refl _).append (hhalf.append htag)
  | text before backslashes c r hc htag ih =>
    rw [piecesAfter_cons hc htag]
    simpa using ih

theorem untagged_of_length_le (h : before.length + backslashes + s.length
    ≤ (texts (piecesAfter before backslashes s)).length) : Untagged s := by
  induction before, backslashes, s using piecesAfter_induction with
  | nil before backslashes => exact untagged_of_not_mem List.not_mem_nil
  | backslash before backslashes r ih =>
    rw [piecesAfter, if_pos rfl, List.length_cons] at h
    exact Untagged.append (s := ['\\']) (by decide) (ih (by omega))
  | tag before backslashes body r hbody ih =>
    have hr := (texts_piecesAfter_sublist [] 0 r).length_le
    rw [piecesAfter_tag hbody] at h
    split_ifs at h with hodd <;>
    · simp at h hr
      omega
  | text before backslashes c r hc htag ih =>
    rw [piecesAfter_cons hc htag] at h
    have hr : Untagged r := ih (by simp at h ⊢; omega)
    intro rest hrest
    rcases List.suffix_cons_iff.mp hrest with heq | hrest
    · cases heq
      exact htag rfl
    · exact hr rest hrest

theorem pictureless_of_mem_pieces
    (h : pictureless false (before.reverse ++ List.replicate backslashes '\\' ++ s) = true)
    (hu : .text u ∈ piecesAfter before backslashes s) : pictureless false u = true := by
  induction before, backslashes, s using piecesAfter_induction with
  | nil before backslashes =>
    rw [piecesAfter, List.mem_singleton] at hu
    cases hu
    rwa [List.append_nil] at h
  | backslash before backslashes r ih =>
    rw [piecesAfter, if_pos rfl] at hu
    exact ih (by simpa [List.replicate_succ'] using h) hu
  | tag before backslashes body r hbody ih =>
    rw [piecesAfter_tag hbody] at hu
    have hr : pictureless false r = true :=
      pictureless_infix h ⟨before.reverse ++ List.replicate backslashes '\\' ++ '[' :: body
        ++ [']'], [], by simp⟩
    simp only [List.mem_cons] at hu
    rcases hu with hu | hu | hu | hu
    · cases hu
      exact pictureless_left (pictureless_left h)
    · cases hu
      refine pictureless_of_not_mem (fun hmem => ?_) false
      cases List.eq_of_mem_replicate hmem
    · split_ifs at hu
      cases hu
      exact pictureless_infix h ⟨before.reverse ++ List.replicate backslashes '\\', r, by simp⟩
    · exact ih (by simpa using hr) hu
  | text before backslashes c r hc htag ih =>
    rw [piecesAfter_cons hc htag] at hu
    exact ih (by simpa using h) hu

theorem untagged_of_length_le_pieces (h : s.length ≤ (texts (pieces s)).length) : Untagged s := by
  have hall : ([] : List Char).length + 0 + s.length ≤ (texts (piecesAfter [] 0 s)).length := by
    rw [List.length_nil, Nat.add_zero, Nat.zero_add]
    exact h
  exact untagged_of_length_le hall

theorem showPieces_of_render {m text : String} (h : render m = .ok text) :
    showPieces [] (pieces m.toList) = .ok text.toList := by
  obtain ⟨out, hout, hrest⟩ := exists_of_bind_eq_ok h
  obtain ⟨-, -, htext⟩ := exists_of_bind_eq_ok hrest
  rw [hout, ← Except.ok.inj htext, String.toList_ofList]

/-- A text that names no pictures shows as it is exactly if nothing in it is read as anything but
itself. -/
theorem render_eq_self_iff {text : String} (h : pictureless false text.toList = true) :
    render text = .ok text ↔ Literal text.toList := by
  constructor
  · intro hrender
    have hshows := showPieces_sublist (fun u hu => pictureless_of_mem_pieces (by simpa using h) hu)
      (showPieces_of_render hrender)
    have huntagged := untagged_of_length_le_pieces hshows.length_le
    rw [render_untagged huntagged, Except.ok.injEq] at hrender
    have hshown : shown text.toList = text.toList := by
      conv_rhs => rw [← hrender, String.toList_ofList]
    obtain ⟨hunescaped, hkept⟩ := (shown_eq_self_iff h).mp hshown
    exact ⟨huntagged, hunescaped, hkept⟩
  · rintro ⟨huntagged, hunescaped, hkept⟩
    rw [render_untagged huntagged, (shown_eq_self_iff h).mpr ⟨hunescaped, hkept⟩,
      String.ofList_toList]

/-! ## Before a tag -/

/-- The pieces of a tag behind a text and some backslashes. -/
def tagPieces (last : List Char) (waiting : Nat) (body : List Char) : List Piece :=
  [.text last, .text (List.replicate (waiting / 2) '\\'),
    if waiting % 2 = 1 then .text ('[' :: body ++ [']']) else .tag body]

theorem texts_tagPieces_zero (last body : List Char) : texts (tagPieces last 0 body) = last := by
  simp [tagPieces]

/-- At most half of the backslashes show. -/
theorem count_tagPieces_le {body : List Char} (h : '\\' ∉ body) (last : List Char) (waiting : Nat) :
    (texts (tagPieces last waiting body)).count '\\' ≤ last.count '\\' + waiting / 2 := by
  have hbody : body.count '\\' = 0 := List.count_eq_zero.mpr h
  unfold tagPieces
  split_ifs <;> simp [hbody]

theorem pictureless_of_mem_tagPieces {last body : List Char} {waiting : Nat}
    (hlast : pictureless false last = true) (hbody : ':' ∉ body)
    (hu : .text u ∈ tagPieces last waiting body) : pictureless false u = true := by
  simp only [tagPieces, List.mem_cons, List.not_mem_nil, or_false] at hu
  rcases hu with hu | hu | hu
  · cases hu
    exact hlast
  · cases hu
    refine pictureless_of_not_mem (fun hmem => ?_) false
    cases List.eq_of_mem_replicate hmem
  · split_ifs at hu
    cases hu
    exact pictureless_of_not_mem (by simpa using hbody) false

theorem getLast?_of_append_cons {c : Char} (hc : c ≠ '\\')
    (h : (s ++ c :: t).getLast? = some '\\') : t.getLast? = some '\\' := by
  rw [List.getLast?_append, List.getLast?_cons, Option.some_or, Option.some.injEq] at h
  cases hlast : t.getLast? with
  | none =>
    rw [hlast] at h
    exact absurd h hc
  | some d =>
    rw [hlast] at h
    exact congrArg some h

/-- The pieces of a text that stands before a tag are its own, but for its last backslashes. -/
theorem exists_pieces_before_tag (before : List Char) (backslashes : Nat) (s : List Char) :
    ∃ init last waiting,
      piecesAfter before backslashes s = init ++ [.text (last ++ List.replicate waiting '\\')] ∧
      ((List.replicate backslashes '\\' ++ s).getLast? = some '\\' → 0 < waiting) ∧
      ∀ body t, isTagBody body = true →
        piecesAfter before backslashes (s ++ '[' :: (body ++ ']' :: t))
          = init ++ tagPieces last waiting body ++ piecesAfter [] 0 t := by
  induction before, backslashes, s using piecesAfter_induction with
  | nil before backslashes =>
    refine ⟨[], before.reverse, backslashes, by simp [piecesAfter], fun hlast => ?_,
      fun body t hbody => piecesAfter_tag hbody t⟩
    cases backslashes with
    | zero => cases hlast
    | succ n => exact Nat.succ_pos n
  | backslash before backslashes r ih =>
    obtain ⟨init, last, waiting, hpieces, hlast, hbefore⟩ := ih
    refine ⟨init, last, waiting, by rw [piecesAfter, if_pos rfl, hpieces], fun h => hlast ?_,
      fun body t hbody => ?_⟩
    · rw [List.replicate_succ', List.append_assoc]
      exact h
    · rw [List.cons_append, piecesAfter, if_pos rfl, hbefore body t hbody]
  | tag before backslashes body r hbody ih =>
    obtain ⟨init, last, waiting, hpieces, hlast, hbefore⟩ := ih
    have htag : ∀ rest, piecesAfter before backslashes ('[' :: (body ++ ']' :: rest))
        = tagPieces before.reverse backslashes body ++ piecesAfter [] 0 rest :=
      fun rest => piecesAfter_tag hbody rest
    refine ⟨tagPieces before.reverse backslashes body ++ init, last, waiting, ?_,
      fun h => hlast ?_, fun body' t hbody' => ?_⟩
    · rw [htag, hpieces, List.append_assoc]
    · refine getLast?_of_append_cons (s := List.replicate backslashes '\\' ++ '[' :: body)
        (c := ']') (by decide) ?_
      rw [List.append_assoc]
      exact h
    · rw [List.cons_append, List.append_assoc, List.cons_append, htag, hbefore body' t hbody']
      simp only [List.append_assoc]
  | text before backslashes c r hc htag ih =>
    obtain ⟨init, last, waiting, hpieces, hlast, hbefore⟩ := ih
    refine ⟨init, last, waiting, by rw [piecesAfter_cons hc htag, hpieces], fun h => hlast ?_,
      fun body t hbody => ?_⟩
    · exact getLast?_of_append_cons hc h
    · have hnone : c = '[' → tag? (r ++ '[' :: (body ++ ']' :: t)) = none :=
        fun hbracket => tag?_append_bracket (htag hbracket) _
      rw [List.cons_append, piecesAfter_cons hc hnone, hbefore body t hbody]

/-- What shows as it is before a tag has no tags itself and does not end with a backslash. -/
theorem untagged_of_shows_before_tag {body : List Char} (hs : pictureless false s = true)
    (hbody : isTagBody body = true) (hinert : '\\' ∉ body ∧ ':' ∉ body)
    (ht : ∀ opened, Displays opened [] 0 t out)
    (hshows : showPieces opened (piecesAfter [] 0 (s ++ '[' :: (body ++ ']' :: t)))
      = .ok (s ++ out)) : Untagged s ∧ s.getLast? ≠ some '\\' := by
  obtain ⟨init, last, waiting, hpieces, hlast, hbefore⟩ := exists_pieces_before_tag [] 0 s
  rw [hbefore body t hbody] at hshows
  obtain ⟨opened', shows, rest, hps, hqs, heq⟩ := showPieces_append hshows
  rw [(ht opened').shows] at hqs
  cases hqs
  cases List.append_cancel_right heq
  have hpictureless : ∀ u, .text u ∈ init ++ [.text (last ++ List.replicate waiting '\\')] →
      pictureless false u = true := fun u hu =>
    pictureless_of_mem_pieces (by simpa using hs) (hpieces ▸ hu)
  have hlastpictureless : pictureless false last = true :=
    pictureless_left (hpictureless _ (List.mem_append_right _ List.mem_cons_self))
  have hsub : s.Sublist (texts (init ++ tagPieces last waiting body)) := by
    refine showPieces_sublist (fun u hu => ?_) hps
    rcases List.mem_append.mp hu with hu | hu
    · exact hpictureless u (List.mem_append_left _ hu)
    · exact pictureless_of_mem_tagPieces hlastpictureless hinert.2 hu
  rw [texts_append] at hsub
  have hown := texts_piecesAfter_sublist [] 0 s
  simp only [hpieces, texts_append, texts_text, texts_nil, List.append_nil, List.reverse_nil,
    List.replicate_zero, List.nil_append] at hown
  -- the text has all of its backslashes, but shows at most half of the last ones
  have hnone : waiting = 0 := by
    have hmore := hsub.count_le '\\'
    have hless := hown.count_le '\\'
    have hhalf := count_tagPieces_le hinert.1 last waiting
    simp only [List.count_append, List.count_replicate_self] at hmore hless
    omega
  subst hnone
  rw [texts_tagPieces_zero] at hsub
  refine ⟨untagged_of_length_le_pieces ?_, fun h => absurd (hlast h) (Nat.lt_irrefl 0)⟩
  rw [pieces, hpieces]
  simpa using hsub.length_le

end Console.Markup

namespace Command

/-! ## What is put into a markup -/

theorem render_configurationLine (reason : String) :
    Markup.render ("[red]Configuration Error:[/red] " ++ reason)
      = (Markup.render reason).map ("Configuration Error: " ++ ·) := by
  have hline : "[red]Configuration Error:[/red] "
      = "[" ++ "red" ++ "]" ++ "Configuration Error:" ++ "[/" ++ "red" ++ "] " := by decide
  have hcaption : "Configuration Error: " = "Configuration Error:" ++ " " := by decide
  rw [hline, hcaption]
  exact render_captioned (by decide) (by decide) (by decide +kernel) reason

/-- The header of a report shows the name as it is exactly if the name shows as it is and does not
end with a backslash. -/
theorem render_countLine_iff {name : String} (h : pictureless false name.toList = true)
    (r : Report) : Markup.render (countLine name r)
      = .ok (name ++ countsText r.errors.length r.warnings.length r.infos.length) ↔
        Markup.render name = .ok name ∧ name.toList.getLast? ≠ some '\\' := by
  have hbold : IsStyle "bold" := isStyle_of_mem (by decide)
  constructor
  · intro hrender
    have hpieces : pieces (countLine name r).toList = .text [] :: .text [] :: .tag "bold".toList
        :: piecesAfter [] 0 (name.toList ++ '[' :: (('/' :: "bold".toList) ++ ']'
          :: (countsMarkup r.errors.length r.warnings.length r.infos.length).toList)) := by
      have hline : (countLine name r).toList = '[' :: ("bold".toList ++ ']' :: (name.toList ++ '['
          :: (('/' :: "bold".toList) ++ ']'
            :: (countsMarkup r.errors.length r.warnings.length r.infos.length).toList))) := by
        rw [countLine_eq]
        simp
      rw [pieces, hline, piecesAfter_tag hbold.opening]
      rfl
    have hshows := showPieces_of_render hrender
    rw [hpieces, showPieces_blank, showPieces_blank, showPieces, hbold.opens,
      String.toList_append] at hshows
    obtain ⟨huntagged, hlast⟩ := untagged_of_shows_before_tag h hbold.closing (by decide)
      (fun opened => displays_counts opened _ _ _) hshows
    obtain ⟨label, hlabel, hline⟩ := render_countLine huntagged r
    rw [hline, Except.ok.injEq] at hrender
    refine ⟨?_, hlast⟩
    rw [render_untagged huntagged, ← hlabel hlast, (String.append_left_inj _).mp hrender]
  · rintro ⟨hname, hlast⟩
    obtain ⟨huntagged, hunescaped, hkept⟩ := (render_eq_self_iff h).mp hname
    obtain ⟨label, hlabel, hline⟩ := render_countLine huntagged r
    rw [hline, hlabel hlast, (shown_eq_self_iff h).mpr ⟨hunescaped, hkept⟩, String.ofList_toList]

def severityStyle : Severity → String
  | .error => "red"
  | .warning => "yellow"
  | .info => "blue"

def rowMarkups (d : Diagnostic) : List String :=
  [d.ruleId, "[" ++ severityStyle d.severity ++ "]" ++ d.severity.lowerName ++ "[/"
    ++ severityStyle d.severity ++ "]", locationText d, Markup.escape d.message]

theorem render_severity (s : Severity) : Markup.render ("[" ++ severityStyle s ++ "]" ++ s.lowerName
    ++ "[/" ++ severityStyle s ++ "]") = .ok s.lowerName := by
  cases s <;> decide +kernel

theorem render_rowMarkups {d : Diagnostic} (hid : Markup.render d.ruleId = .ok d.ruleId)
    (hlocation : Markup.render (locationText d) = .ok (locationText d)) :
    (rowMarkups d).map Markup.render = (findingRow d).map .ok := by
  obtain ⟨message, hmessage, hrow⟩ := findingRow_eq d
  simp only [hrow, rowMarkups, List.map_cons, List.map_nil, hid, render_severity, hlocation,
    hmessage]

theorem stopResult_configurationStop (page : Page) (p : Problem) :
    stopResult page [] (configurationStop p) = match Markup.render p.message with
      | .ok reason => { exitCode := 1, output := spread page ("Configuration Error: " ++ reason) }
      | .error f => { exitCode := 1, crash := some (.markup f) } := by
  simp only [stopResult, configurationStop, Result.ofItems, List.nil_append, printItems,
    Item.text, render_configurationLine]
  cases Markup.render p.message <;> simp [Except.map, spread]

/-- Names and reasons are put into a markup as they are, and what shows of them is what their own
markup shows: the line of a report of which nothing is listed and the line of a broken configuration
break down or show as the name or the reason does alone. A report of which something is listed has
its line of counts instead, and the rows show their markups. Texts without tags never break down.
A text that names no pictures shows as it is exactly if nothing in it is read as anything but
itself; a name before the counts must not end with a backslash either. A shown text is put on a page
of two cells or more up to blanks, and on any page unchanged if its lines are short for it. -/
theorem spliced_texts_shown_iff (page : Page) (lowest : Severity) (name : String) (r : Report)
    (p : Problem) :
    let listed := r.atLeast lowest
    let counts := countsText r.errors.length r.warnings.length r.infos.length
    (listed = [] → printItems page (textItems lowest name r) = match Markup.render name with
      | .ok label => ("\n" ++ spread page ("No issues found: " ++ label) ++ "\n", none)
      | .error f => ("\n", some f)) ∧
    (listed ≠ [] → (∀ d ∈ listed, Markup.render d.ruleId = .ok d.ruleId ∧
        Markup.render (locationText d) = .ok (locationText d)) →
      (∀ d ∈ listed, (rowMarkups d).map Markup.render = (findingRow d).map .ok) ∧
      printItems page (textItems lowest name r) = match Markup.render (countLine name r) with
        | .ok header => ("\n" ++ spread page header ++ "\n"
            ++ Item.joinLines ((findingGrid listed).lines page) ++ "\n", none)
        | .error f => ("\n", some f)) ∧
    stopResult page [] (configurationStop p) = (match Markup.render p.message with
      | .ok reason => { exitCode := 1, output := spread page ("Configuration Error: " ++ reason) }
      | .error f => { exitCode := 1, crash := some (.markup f) }) ∧
    (∀ text : String, Untagged text.toList →
      Markup.render text = .ok (String.ofList (shown text.toList))) ∧
    (Untagged name.toList → ∃ label,
      (name.toList.getLast? ≠ some '\\' → label = String.ofList (shown name.toList)) ∧
      Markup.render (countLine name r) = .ok (label ++ counts)) ∧
    (∀ text : String, pictureless false text.toList = true →
      (Markup.render text = .ok text ↔ Literal text.toList)) ∧
    (pictureless false name.toList = true → (Markup.render (countLine name r) = .ok (name ++ counts)
      ↔ Markup.render name = .ok name ∧ name.toList.getLast? ≠ some '\\')) ∧
    (2 ≤ page.width → ∀ text : String, (∀ c ∈ text.toList, c = '\n' ∨ charWidth c ≠ 0) →
      ink (spread page text).toList = ink text.toList) ∧
    ∀ text : String, '\t' ∉ text.toList →
      (∀ line ∈ Text.splitAt '\n' text.toList, 2 * line.length ≤ page.width) →
      spread page text = text ++ "\n" := by
  intro listed counts
  refine ⟨printItems_unlisted page name, fun hsome hcells => ⟨fun d hd => ?_, ?_⟩,
    stopResult_configurationStop page p, fun _ => render_untagged, fun h => render_countLine h r,
    fun _ => render_eq_self_iff, fun h => render_countLine_iff h r,
    fun hwidth _ => ink_spread hwidth, fun _ => spread_of_short⟩
  · exact render_rowMarkups (hcells d hd).1 (hcells d hd).2
  · exact printItems_listed page name hsome

/-- A tag in a name is swallowed or makes printing break down, and the name of a table is missing
from the reason of an error. A name without tags shows, with brackets, above a finding. -/
theorem spliced_texts_shown_iff_bracketed :
    let page : Page := { width := 160 }
    let d : Diagnostic :=
      { ruleId := "STYLE", message := "[bold]", severity := .info, line := some 1 }
    let r : Report := { infos := [d] }
    let reason := "Configuration error in 'pyproject.toml':  must be a table"
    printItems page (textItems .info "[id].graphql" {})
      = ("\nNo issues found: .graphql\n\n", none) ∧
    printItems page (textItems .info "q[/b].graphql" {}) = ("\n", some (.unmatched "/b")) ∧
    stopResult page [] (configurationStop
        (.configuration "pyproject.toml" "[tool.gqlint] must be a table"))
      = { exitCode := 1, output := "Configuration Error: " ++ reason ++ "\n" } ∧
    r.atLeast .info ≠ [] ∧ Untagged "q[1].graphql".toList ∧
    printItems page (textItems .info "q[1].graphql" r)
      = ("\n" ++ ("q[1].graphql" ++ countsText 0 0 1 ++ "\n") ++ "\n"
          ++ Item.joinLines ((findingGrid [d]).lines page) ++ "\n", none) ∧
    Markup.render (countLine "q\\" r) ≠ .ok ("q\\" ++ countsText 0 0 1) := by
  intro page d r reason
  let p : Problem := .configuration "pyproject.toml" "[tool.gqlint] must be a table"
  have hswallowed : Markup.render "[id].graphql" = .ok ".graphql" := by decide +kernel
  have hunmatched : Markup.render "q[/b].graphql" = .error (.unmatched "/b") := by decide +kernel
  have hreason : Markup.render p.message = .ok reason := by decide +kernel
  obtain ⟨hempty, -, hstop, -, -, -, -, -, hshort⟩ :=
    spliced_texts_shown_iff page .info "[id].graphql" {} p
  obtain ⟨hbroken, -⟩ := spliced_texts_shown_iff page .info "q[/b].graphql" {} p
  obtain ⟨-, hlisted, -, -, -, hliteral, hheader, -, -⟩ :=
    spliced_texts_shown_iff page .info "q[1].graphql" r p
  obtain ⟨-, -, -, -, -, -, hbackslash, -, -⟩ := spliced_texts_shown_iff page .info "q\\" r p
  have hname : Untagged "q[1].graphql".toList := by decide
  have hkept : ∀ c ∈ "q[1].graphql".toList, isDropped c = false := by
    have hnone : "q[1].graphql".toList.any isDropped = false := by decide
    exact fun c hc => Bool.eq_false_iff.mpr (List.any_eq_false.mp hnone c hc)
  have hself : Markup.render "q[1].graphql" = .ok "q[1].graphql" :=
    (hliteral _ (by decide)).mpr ⟨hname, by decide, hkept⟩
  have hcells : ∀ e ∈ r.atLeast .info, Markup.render e.ruleId = .ok e.ruleId ∧
      Markup.render (locationText e) = .ok (locationText e) := by
    decide +kernel
  have hemptySpread : spread page ("No issues found: " ++ ".graphql")
      = "No issues found: .graphql\n" :=
    hshort _ (by decide) (by decide)
  have hreasonSpread : spread page ("Configuration Error: " ++ reason)
      = "Configuration Error: " ++ reason ++ "\n" :=
    hshort _ (by decide) (by decide)
  have hheaderSpread : spread page ("q[1].graphql" ++ countsText 0 0 1)
      = "q[1].graphql" ++ countsText 0 0 1 ++ "\n" :=
    hshort _ (by decide) (by decide)
  have hprinted := (hlisted (by decide) hcells).2
  rw [(hheader (by decide)).mpr ⟨hself, by decide⟩] at hprinted
  rw [hempty rfl, hswallowed, hbroken rfl, hunmatched, hstop, hreason, hprinted, ← hheaderSpread]
  simp only [hemptySpread, hreasonSpread]
  refine ⟨by decide, trivial, trivial, by decide, hname, rfl, fun heq => ?_⟩
  exact ((hbackslash (by decide)).mp heq).2 (by decide)

end Command

end QueryLint
