import Mathlib.Data.List.DropRight
import QueryLint.Console.Page

/-! # Wrapped texts

Wrapping takes nothing from a text but blanks: what is left without blanks is the same before and
after. A text whose lines are short is not changed at all.
-/

namespace QueryLint.Console

variable {s t line piece : List Char} {ws : List (List Char)} {width used : Nat}

/-! ## Widths -/

theorem charWidth_le (c : Char) : charWidth c ≤ 2 := by
  unfold charWidth
  split_ifs <;> omega

theorem addedWidth_le (last : Option Char) : addedWidth last ≤ 1 := by
  unfold addedWidth
  split_ifs <;> omega

theorem widthAfter_le (last : Option Char) (s : List Char) : widthAfter last s ≤ 2 * s.length := by
  fun_induction widthAfter last s with
  | case1 | case2 => simp
  | case3 last d rest ih =>
    simp only [List.length_cons]
    omega
  | case4 last r _ ih =>
    have hadded := addedWidth_le last
    simp only [List.length_cons]
    omega
  | case5 last c r _ _ _ ih =>
    simp only [List.length_cons]
    omega
  | case6 last c r _ _ _ ih =>
    have hc := charWidth_le c
    simp only [List.length_cons]
    omega

theorem textWidth_le (s : List Char) : textWidth s ≤ 2 * s.length :=
  widthAfter_le none s

/-- Every character of the text takes some cells. -/
def Broad (s : List Char) : Prop :=
  ∀ c ∈ s, charWidth c ≠ 0

theorem Broad.append (hs : Broad s) (ht : Broad t) : Broad (s ++ t) :=
  List.forall_mem_append.mpr ⟨hs, ht⟩

theorem Broad.of_isPrefix (hs : Broad s) (h : t <+: s) : Broad t :=
  fun c hc => hs c (h.subset hc)

def cells : List Char → Nat
  | [] => 0
  | c :: s => charWidth c + cells s

@[simp] theorem cells_nil : cells [] = 0 := rfl

@[simp] theorem cells_cons (c : Char) (s : List Char) :
    cells (c :: s) = charWidth c + cells s := rfl

@[simp] theorem cells_append (s t : List Char) : cells (s ++ t) = cells s + cells t := by
  induction s with
  | nil => simp
  | cons c s ih => rw [List.cons_append, cells_cons, cells_cons, ih, Nat.add_assoc]

theorem Broad.widthAfter_eq (h : Broad s) (last : Option Char) : widthAfter last s = cells s := by
  have hjoiner : charWidth joiner = 0 := by decide
  have hselector : charWidth pictureSelector = 0 := by decide
  induction s generalizing last with
  | nil => rfl
  | cons c s ih =>
    obtain ⟨hc, hs⟩ := List.forall_mem_cons.mp h
    have hnojoiner : c ≠ joiner := fun heq => hc (heq ▸ hjoiner)
    have hnoselector : c ≠ pictureSelector := fun heq => hc (heq ▸ hselector)
    rw [widthAfter.eq_def]
    simp only [if_neg hnojoiner, if_neg hnoselector, if_neg hc, ih hs, cells_cons]

theorem Broad.textWidth_eq (h : Broad s) : textWidth s = cells s :=
  h.widthAfter_eq none

def Cluster.single (c : Char) : Cluster :=
  ⟨[c], charWidth c⟩

theorem Broad.clusters_eq (h : Broad s) : clusters s = s.map Cluster.single := by
  have hjoiner : charWidth joiner = 0 := by decide
  have hselector : charWidth pictureSelector = 0 := by decide
  suffices hafter : ∀ last done, clustersAfter last done s
      = (s.map Cluster.single).reverse ++ done by
    rw [clusters, hafter, List.append_nil, List.reverse_reverse]
  induction s with
  | nil => exact fun _ _ => rfl
  | cons c s ih =>
    intro last done
    obtain ⟨hc, hs⟩ := List.forall_mem_cons.mp h
    have hnojoiner : c ≠ joiner := fun heq => hc (heq ▸ hjoiner)
    have hnoselector : c ≠ pictureSelector := fun heq => hc (heq ▸ hselector)
    rw [clustersAfter.eq_def]
    simp [hnojoiner, hnoselector, hc, ih hs, Cluster.single]

/-! ## Ink -/

/-- What is left of a text without its blanks. -/
def ink (s : List Char) : List Char :=
  s.filter fun c => !Text.isBlank c

@[simp] theorem ink_append (s t : List Char) : ink (s ++ t) = ink s ++ ink t :=
  List.filter_append s t

theorem ink_eq_nil (h : ∀ c ∈ s, Text.isBlank c = true) : ink s = [] :=
  List.filter_eq_nil_iff.mpr fun c hc => by simp [h c hc]

theorem stripRight_append_blanks (s : List Char) :
    ∃ blanks, s = Text.stripRight s ++ blanks ∧ ∀ c ∈ blanks, Text.isBlank c = true := by
  refine ⟨s.rtakeWhile Text.isBlank, List.rdropWhile_append_rtakeWhile.symm, ?_⟩
  exact fun c hc => List.mem_rtakeWhile_imp hc

theorem isPrefix_stripRight (s : List Char) : Text.stripRight s <+: s :=
  List.rdropWhile_prefix _ s

/-- Without the blanks at the end, two texts end where the second or the first of them ends. -/
theorem stripRight_append (s t : List Char) : Text.stripRight (s ++ t) = Text.stripRight s ∨
    Text.stripRight (s ++ t) = s ++ Text.stripRight t := by
  simp only [Text.stripRight, Text.stripLeft, List.reverse_append, List.dropWhile_append]
  split
  · exact .inl rfl
  · right
    simp

/-- The text can be put on a line: only blanks stand out. -/
structure Fits (width : Nat) (s : List Char) : Prop where
  broad : Broad s
  cells_le : cells (Text.stripRight s) ≤ width

theorem Fits.of_cells_le (hs : Broad s) (h : cells s ≤ width) : Fits width s := by
  obtain ⟨blanks, heq, -⟩ := stripRight_append_blanks s
  have hcells := congrArg cells heq
  rw [cells_append] at hcells
  exact ⟨hs, by omega⟩

theorem ink_takeCells_blanks (h : ∀ c ∈ s, Text.isBlank c = true) (n : Nat) :
    ink (takeCells n (s.map Cluster.single)) = [] := by
  refine ink_eq_nil ?_
  induction s generalizing n with
  | nil => exact fun _ hc => nomatch hc
  | cons c s ih =>
    obtain ⟨hc, hs⟩ := List.forall_mem_cons.mp h
    rw [List.map_cons, takeCells]
    split_ifs
    · exact fun _ hc => nomatch hc
    · exact List.forall_mem_append.mpr ⟨List.forall_mem_singleton.mpr hc, ih hs _⟩
    · exact List.forall_mem_singleton.mpr (by decide)

theorem takeCells_append (hs : Broad s) {n : Nat} (h : cells s ≤ n) (rest : List Cluster) :
    takeCells n (s.map Cluster.single ++ rest) = s ++ takeCells (n - cells s) rest := by
  induction s generalizing n with
  | nil => rfl
  | cons c s ih =>
    obtain ⟨hc, hs⟩ := List.forall_mem_cons.mp hs
    rw [cells_cons] at h
    have hc : 0 < charWidth c := Nat.pos_of_ne_zero hc
    have hwidth : (Cluster.single c).width = charWidth c := rfl
    rw [List.map_cons, List.cons_append, takeCells, hwidth, if_neg (by omega), if_pos (by omega),
      ih hs (by omega), cells_cons, Nat.sub_sub]
    rfl

/-- A line that fits is finished without loss. -/
theorem Fits.ink_finished (h : Fits width line) :
    ink (truncate .fold width (dropExcessBlanks width line)) = ink line := by
  obtain ⟨blanks, heq, hblanks⟩ := stripRight_append_blanks line
  obtain ⟨kept, hkept, hdropped⟩ : ∃ kept, kept <+: blanks ∧
      dropExcessBlanks width line = Text.stripRight line ++ kept := by
    have htake : ∀ n, (Text.stripRight line).length ≤ n → line.take n
        = Text.stripRight line ++ blanks.take (n - (Text.stripRight line).length) := by
      intro n hn
      conv_lhs => rw [heq, List.take_append, List.take_of_length_le hn]
    have hlength := (isPrefix_stripRight line).length_le
    exact ⟨_, List.take_prefix _ _, htake _ (by omega)⟩
  have hbroad : Broad (Text.stripRight line ++ kept) := by
    refine h.broad.of_isPrefix ?_
    conv_rhs => rw [heq]
    exact (List.prefix_append_right_inj _).mpr hkept
  have hink : ink line = ink (Text.stripRight line) := by
    conv_lhs => rw [heq]
    rw [ink_append, ink_eq_nil hblanks, List.append_nil]
  have hkeptblanks : ∀ c ∈ kept, Text.isBlank c = true := fun c hc => hblanks c (hkept.subset hc)
  rw [hdropped, truncate]
  split_ifs with hwidth
  · rw [hink, ink_append, ink_eq_nil hkeptblanks, List.append_nil]
  · rw [fitCells, if_neg hwidth, hbroad.clusters_eq, List.map_append,
      takeCells_append (h.broad.of_isPrefix (isPrefix_stripRight line)) h.cells_le, ink_append,
      ink_takeCells_blanks hkeptblanks, List.append_nil, hink]

/-! ## Arranging -/

/-- Cut pieces are the text, and each of them fits. -/
theorem chopClusters_single (hs : Broad s) (hwidth : 2 ≤ width) (hpiece : Broad piece)
    (hused : cells piece ≤ width) :
    (chopClusters width piece (cells piece) (s.map Cluster.single)).flatten = piece ++ s ∧
      ∀ l ∈ chopClusters width piece (cells piece) (s.map Cluster.single), Fits width l := by
  induction s generalizing piece with
  | nil =>
    rw [List.map_nil, chopClusters]
    split_ifs with hempty
    · cases piece with
      | nil => simp
      | cons c piece =>
        have hc := (List.forall_mem_cons.mp hpiece).1
        rw [cells_cons] at hempty
        omega
    · simpa using Fits.of_cells_le hpiece hused
  | cons c s ih =>
    obtain ⟨hc, hs⟩ := List.forall_mem_cons.mp hs
    have hcwidth := charWidth_le c
    have hsingle : Broad [c] := List.forall_mem_singleton.mpr hc
    rw [List.map_cons, chopClusters]
    split_ifs with hlong
    · obtain ⟨hflatten, hfits⟩ := ih hs hsingle (by simp; omega)
      have hcells : cells [c] = (Cluster.single c).width := by simp [Cluster.single]
      rw [hcells] at hflatten hfits
      refine ⟨?_, List.forall_mem_cons.mpr ⟨.of_cells_le hpiece hused, hfits⟩⟩
      rw [List.flatten_cons]
      exact congrArg (piece ++ ·) hflatten
    · have hcells : cells (piece ++ [c]) = cells piece + (Cluster.single c).width := by
        simp [Cluster.single]
      obtain ⟨hflatten, hfits⟩ := ih hs (hpiece.append hsingle) (by omega)
      rw [hcells] at hflatten hfits
      rw [List.append_assoc] at hflatten
      exact ⟨hflatten, hfits⟩

theorem chopCells_broad (hs : Broad s) (hwidth : 2 ≤ width) :
    (chopCells width s).flatten = s ∧ ∀ l ∈ chopCells width s, Fits width l := by
  rw [chopCells, hs.clusters_eq]
  exact chopClusters_single hs hwidth (fun _ hc => nomatch hc) (Nat.zero_le _)

theorem exists_pieces (hwidth : 2 ≤ width) {w : List Char} (hw : Broad w) :
    ∃ init last, (if width < cells (Text.stripRight w) then chopCells width w else [w])
        = init ++ [last] ∧ init.flatten ++ last = w ∧
      (∀ l ∈ init, Fits width l) ∧ Fits width last := by
  split_ifs with hlong
  · obtain ⟨hflatten, hfits⟩ := chopCells_broad hw hwidth
    rcases List.eq_nil_or_concat' (chopCells width w) with hnil | ⟨init, last, heq⟩
    · rw [hnil] at hflatten
      rw [← hflatten] at hlong
      cases hlong
    · rw [heq, List.flatten_append, List.flatten_singleton] at hflatten
      rw [heq] at hfits
      exact ⟨init, last, heq, hflatten, fun l hl => hfits l (List.mem_append_left _ hl),
        hfits last (by simp)⟩
  · exact ⟨[], w, rfl, rfl, List.forall_mem_nil _, hw, by omega⟩

theorem flatten_dropWhile_isEmpty (ls : List (List Char)) :
    (ls.dropWhile List.isEmpty).flatten = ls.flatten := by
  induction ls with
  | nil => rfl
  | cons l ls ih =>
    rw [List.dropWhile_cons]
    split_ifs with hempty
    · rw [ih, List.flatten_cons, List.isEmpty_iff.mp hempty, List.nil_append]
    · rfl

/-- Words behind the beginning of a line become lines that fit, without loss. -/
theorem arrange_broad (hwidth : 2 ≤ width) (hline : Fits width line)
    (hws : ∀ w ∈ ws, Broad w) :
    (arrange .fold width line (cells line) ws).flatten = line ++ ws.flatten ∧
      ∀ l ∈ arrange .fold width line (cells line) ws, Fits width l := by
  induction ws generalizing line with
  | nil => simpa [arrange] using hline
  | cons w ws ih =>
    obtain ⟨hw, hws⟩ := List.forall_mem_cons.mp hws
    have hstripped := hw.of_isPrefix (isPrefix_stripRight w)
    simp only [arrange, hstripped.textWidth_eq, hw.textWidth_eq, Bool.and_true, decide_true,
      decide_eq_true_eq]
    by_cases hfits : cells line + cells (Text.stripRight w) ≤ width
    · have hboth : Fits width (line ++ w) := by
        refine ⟨hline.broad.append hw, ?_⟩
        rcases stripRight_append line w with heq | heq
        · rw [heq]
          exact hline.cells_le
        · rw [heq, cells_append]
          exact hfits
      have hrest := ih hboth hws
      rw [cells_append, List.append_assoc] at hrest
      rw [if_pos hfits]
      exact hrest
    · obtain ⟨init, last, heq, hw, hinit, hlast⟩ := exists_pieces hwidth hw
      obtain ⟨hflatten, hrest⟩ := ih hlast hws
      rw [if_neg hfits, heq, List.dropLast_concat, List.getLast?_concat, Option.getD_some,
        hlast.broad.textWidth_eq]
      constructor
      · rw [List.flatten_append, flatten_dropWhile_isEmpty, List.flatten_cons, hflatten,
          List.flatten_cons, ← hw]
        simp only [List.append_assoc]
      · intro l hl
        rcases List.mem_append.mp hl with hl | hl
        · exact List.forall_mem_cons.mpr ⟨hline, hinit⟩ l ((List.dropWhile_sublist _).subset hl)
        · exact hrest l hl

/-! ## Whole texts -/

theorem flatten_wordsAfter (beginning s : List Char) :
    (wordsAfter beginning s).flatten = beginning.reverse ++ s := by
  induction s generalizing beginning with
  | nil => simp [wordsAfter]
  | cons c s ih =>
    rw [wordsAfter]
    split_ifs
    · rw [List.flatten_cons, ih]
      simp
    · rw [ih]
      simp

theorem splitAt_of_not_mem {sep : Char} (h : sep ∉ s) : Text.splitAt sep s = [s] := by
  induction s with
  | nil => rfl
  | cons c s ih =>
    obtain ⟨hc, hs⟩ := not_or.mp (mt List.mem_cons.mpr h)
    rw [Text.splitAt, if_neg (Ne.symm hc), ih hs]

theorem expandTabs_of_not_mem (h : '\t' ∉ line) : expandTabs line = line := by
  rw [expandTabs, splitAt_of_not_mem h, joinTabbed]

theorem flatMap_splitAt (sep : Char) (s : List Char) :
    (Text.splitAt sep s).flatMap (· ++ [sep]) = s ++ [sep] := by
  induction s with
  | nil => rfl
  | cons c s ih =>
    rw [Text.splitAt]
    split_ifs with hc
    · rw [List.flatMap_cons, ih, hc]
      rfl
    · split
      · next hnil =>
        rw [hnil] at ih
        simp at ih
      · next l ls heq =>
        rw [heq, List.flatMap_cons] at ih
        rw [List.flatMap_cons, List.cons_append, List.cons_append, ih]
        rfl

theorem mem_of_mem_splitAt {sep : Char} (hline : line ∈ Text.splitAt sep s) :
    ∀ c ∈ line, c ∈ s ∧ c ≠ sep := by
  induction s generalizing line with
  | nil =>
    rw [List.mem_singleton.mp hline]
    exact List.forall_mem_nil _
  | cons c s ih =>
    have hlater : ∀ l ∈ Text.splitAt sep s, ∀ d ∈ l, d ∈ c :: s ∧ d ≠ sep := fun l hl d hd =>
      ⟨List.mem_cons_of_mem _ (ih hl d hd).1, (ih hl d hd).2⟩
    rw [Text.splitAt] at hline
    split_ifs at hline with hc
    · rcases List.mem_cons.mp hline with rfl | hline
      · exact List.forall_mem_nil _
      · exact hlater line hline
    · have hfirst : c ∈ c :: s ∧ c ≠ sep := ⟨List.mem_cons_self, hc⟩
      split at hline
      · rw [List.mem_singleton.mp hline]
        exact List.forall_mem_singleton.mpr hfirst
      · next l ls heq =>
        rw [heq] at hlater
        obtain ⟨hl, hls⟩ := List.forall_mem_cons.mp hlater
        rcases List.mem_cons.mp hline with rfl | hline
        · exact List.forall_mem_cons.mpr ⟨hfirst, hl⟩
        · exact hls line hline

theorem ink_flatten_map {lines : List (List Char)} {f : List Char → List Char}
    (h : ∀ l ∈ lines, ink (f l) = ink l) : ink (lines.map f).flatten = ink lines.flatten := by
  induction lines with
  | nil => rfl
  | cons l lines ih =>
    obtain ⟨hl, hlines⟩ := List.forall_mem_cons.mp h
    rw [List.map_cons, List.flatten_cons, List.flatten_cons, ink_append, ink_append, hl, ih hlines]

theorem ink_flatMap_break (lines : List (List Char)) :
    ink (lines.flatMap (· ++ ['\n'])) = ink lines.flatten := by
  have hbreak : ink ['\n'] = [] := by decide
  exact ink_flatten_map fun l _ => by rw [ink_append, hbreak, List.append_nil]

theorem wrapped_eq (overflow : Overflow) (width : Nat) (s : List Char) :
    wrapped overflow width s = (Text.splitAt '\n' s).flatMap fun line =>
      (arrange overflow width [] 0 (words (expandTabs line))).map fun l =>
        truncate overflow width (dropExcessBlanks width l) := by
  rw [wrapped, broken, List.map_flatMap]
  simp only [List.map_map]
  rfl

/-- A text is put on the page: its lines with their breaks. -/
def spread (page : Page) (s : String) : String :=
  Item.joinLines (wrapped .fold page.width s.toList)

variable {page : Page}

/-- Wrapping takes only blanks from a text and puts only blanks into it. -/
theorem ink_spread (hwidth : 2 ≤ page.width) {s : String}
    (h : ∀ c ∈ s.toList, c = '\n' ∨ charWidth c ≠ 0) :
    ink (spread page s).toList = ink s.toList := by
  have hlines : ∀ line ∈ Text.splitAt '\n' s.toList,
      ink ((arrange .fold page.width [] 0 (words (expandTabs line))).map fun l =>
        truncate .fold page.width (dropExcessBlanks page.width l)).flatten = ink line := by
    intro line hline
    have hbroad : Broad line := fun c hc =>
      (h c (mem_of_mem_splitAt hline c hc).1).resolve_left (mem_of_mem_splitAt hline c hc).2
    have htab : '\t' ∉ line := fun hmem => hbroad _ hmem (by decide)
    have hwords : (words line).flatten = line := flatten_wordsAfter [] line
    have hwordsbroad : ∀ w ∈ words line, Broad w := fun w hw c hc =>
      hbroad c (hwords ▸ List.mem_flatten_of_mem hw hc)
    have hempty : Fits page.width [] := .of_cells_le (List.forall_mem_nil _) (Nat.zero_le _)
    obtain ⟨hflatten, hfits⟩ := arrange_broad hwidth hempty hwordsbroad
    rw [cells_nil] at hflatten hfits
    rw [expandTabs_of_not_mem htab, ink_flatten_map fun l hl => (hfits l hl).ink_finished,
      hflatten, List.nil_append, hwords]
  rw [spread, Item.joinLines, String.toList_ofList, ink_flatMap_break, wrapped_eq, List.flatMap_def,
    List.flatten_flatten, List.map_map]
  refine (ink_flatten_map hlines).trans ?_
  rw [← ink_flatMap_break, flatMap_splitAt, ink_append]
  exact List.append_nil _

theorem arrange_of_short (hfits : used + 2 * ws.flatten.length ≤ width) :
    arrange .fold width line used ws = [line ++ ws.flatten] := by
  induction ws generalizing line used with
  | nil => simp [arrange]
  | cons w ws ih =>
    have hw := textWidth_le w
    have hstripped := textWidth_le (Text.stripRight w)
    have hlength := (isPrefix_stripRight w).length_le
    rw [List.flatten_cons, List.length_append] at hfits
    rw [arrange]
    simp only
    rw [if_pos (by omega), ih (by omega), List.flatten_cons, List.append_assoc]

/-- A text without tabs whose lines are short is put on the page as it is. -/
theorem spread_of_short {s : String} (htab : '\t' ∉ s.toList)
    (hshort : ∀ line ∈ Text.splitAt '\n' s.toList, 2 * line.length ≤ page.width) :
    spread page s = s ++ "\n" := by
  have hlines : ∀ line ∈ Text.splitAt '\n' s.toList,
      ((arrange .fold page.width [] 0 (words (expandTabs line))).map fun l =>
        truncate .fold page.width (dropExcessBlanks page.width l)) = [line] := by
    intro line hline
    have hlength := hshort line hline
    have htab : '\t' ∉ line := fun hmem => htab (mem_of_mem_splitAt hline _ hmem).1
    have hwords : (words line).flatten = line := flatten_wordsAfter [] line
    have hwidth := textWidth_le line
    have hkept : dropExcessBlanks page.width line = line := by
      rw [dropExcessBlanks, List.take_of_length_le (by omega)]
    rw [expandTabs_of_not_mem htab, arrange_of_short (by rw [hwords]; omega), hwords,
      List.nil_append, List.map_singleton, hkept, truncate, if_pos (by omega)]
  rw [spread, Item.joinLines, wrapped_eq, List.flatMap_congr hlines, List.flatMap_singleton',
    flatMap_splitAt, String.ofList_append, String.ofList_toList]

end QueryLint.Console
