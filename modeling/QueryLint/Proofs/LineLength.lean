import QueryLint.Proofs.Layout

/-! # The length of lines

Lines are measured between all characters that break a line, and there are more of these than the
three ways to end a source line. A separator inside a line cuts it into shorter pieces and moves the
numbers of the lines behind it. So the first source line that is too long is reported with its
number and length exactly if no such separator stands in it or in a line before it.
-/

namespace QueryLint

namespace Text

/-! ## Lines in pieces -/

/-- The characters that break a line and end no source line. -/
def divides (c : Char) : Bool :=
  isLineBreak c && !endsLine c

def Undivided (w : List Char) : Prop :=
  ∀ c ∈ w, divides c = false

instance (w : List Char) : Decidable (Undivided w) :=
  List.decidableBAll _ w

/-- The second list has the lines of the first, those with separators in shorter pieces: two at
least, unless the text ends there. -/
inductive Pieces : List (List Char) → List (List Char) → Prop
  | nil : Pieces [] []
  | whole {w : List Char} {ws ls : List (List Char)} (hw : Undivided w) (h : Pieces ws ls) :
      Pieces (w :: ws) (w :: ls)
  | divided {w p : List Char} {ps ws ls : List (List Char)} (hw : ¬ Undivided w)
      (hshort : ∀ q ∈ p :: ps, q.length < w.length) (hmore : ps = [] → ws = [])
      (h : Pieces ws ls) : Pieces (w :: ws) (p :: ps ++ ls)

theorem lines_break {b r : List Char} (h : IsBreak b r) : lines (b ++ r) = [] :: lines r := by
  cases h with
  | feed => rfl
  | pair => rfl
  | single h =>
    rw [List.singleton_append, lines]
    · rfl
    · rintro r - rfl
      exact h rfl

theorem lines_divides {c : Char} (h : divides c = true) (r : List Char) :
    lines (c :: r) = [] :: lines r := by
  rw [divides, Bool.and_eq_true, Bool.not_eq_true'] at h
  rw [lines]
  · rw [if_pos h.1]
  · rintro r rfl
    cases h.2

def lineContents (text : List Char) : List (List Char) :=
  (sourceLines text).map SourceLine.content

theorem Pieces.separator {c : Char} (hc : divides c = true) {ws ls : List (List Char)}
    (h : Pieces ws ls) : Pieces (consLine c ws) ([] :: ls) := by
  have hdivided : ∀ w, ¬ Undivided (c :: w) := by
    intro w hw
    rw [hw c List.mem_cons_self] at hc
    cases hc
  cases h with
  | nil => exact @Pieces.divided [c] [] [] [] [] (hdivided []) (by simp) (fun _ => rfl) .nil
  | @whole w ws ls _ h =>
    exact @Pieces.divided (c :: w) [] [w] ws ls (hdivided w) (by simp)
      (fun hnil => (nomatch hnil)) h
  | @divided w p ps ws ls _ hshort _ h =>
    refine @Pieces.divided (c :: w) [] (p :: ps) ws ls (hdivided w) ?_
      (fun hnil => (nomatch hnil)) h
    intro q hq
    rcases List.mem_cons.mp hq with rfl | hq
    · exact Nat.succ_pos _
    · exact (hshort q hq).trans (Nat.lt_succ_self _)

theorem Pieces.char {c : Char} (hc : divides c = false) {ws ls : List (List Char)}
    (h : Pieces ws ls) : Pieces (consLine c ws) (consLine c ls) := by
  cases h with
  | nil => exact .whole (List.forall_mem_singleton.mpr hc) .nil
  | whole hw h => exact .whole (List.forall_mem_cons.mpr ⟨hc, hw⟩) h
  | @divided w p ps ws ls hw hshort hmore h =>
    refine .divided (p := c :: p) (fun hall => hw (List.forall_mem_cons.mp hall).2) ?_ hmore h
    obtain ⟨hp, hps⟩ := List.forall_mem_cons.mp hshort
    refine List.forall_mem_cons.mpr ⟨Nat.succ_lt_succ hp, fun q hq => ?_⟩
    exact (hps q hq).trans (Nat.lt_succ_self _)

theorem pieces_sourceLinesFrom (start : Nat) (s : List Char) :
    Pieces ((sourceLinesFrom start s).map SourceLine.content) (lines s) := by
  induction s using lineInduction generalizing start with
  | nil => exact .nil
  | char c r hc ih =>
    rw [sourceLinesFrom_cons hc, map_content_cons]
    cases hdivides : divides c with
    | true =>
      rw [lines_divides hdivides]
      exact (ih _).separator hdivides
    | false =>
      have hbreak : isLineBreak c = false := by
        rw [divides, hc, Bool.not_false, Bool.and_true] at hdivides
        exact hdivides
      rw [lines_cons_of_not_break hbreak]
      exact (ih _).char hdivides
  | split b r hb ih =>
    rw [sourceLinesFrom_break hb, lines_break hb]
    exact .whole (fun _ h => (nomatch h)) (ih _)

/-! ## The first line that is too long -/

/-- The first line longer than a limit, and its number if the first has the number `k`. -/
def firstLong (limit : Int) (k : Nat) (ls : List (List Char)) : Option (List Char × Nat) :=
  (ls.zipIdx k).find? fun (l, _) => limit < (l.length : Int)

variable {limit : Int} {k n : Nat} {w l : List Char} {ws ls ps : List (List Char)}

theorem firstLong_cons_of_lt (h : limit < (w.length : Int)) :
    firstLong limit k (w :: ws) = some (w, k) := by
  rw [firstLong, List.zipIdx_cons, List.find?_cons_of_pos (by simpa using h)]

theorem firstLong_append (h : ∀ p ∈ ps, (p.length : Int) ≤ limit) :
    firstLong limit k (ps ++ ls) = firstLong limit (k + ps.length) ls := by
  induction ps generalizing k with
  | nil => rfl
  | cons p ps ih =>
    obtain ⟨hp, hps⟩ := List.forall_mem_cons.mp h
    rw [List.cons_append, firstLong, List.zipIdx_cons,
      List.find?_cons_of_neg (by simpa using hp)]
    change firstLong limit (k + 1) (ps ++ ls) = _
    rw [ih hps, List.length_cons, Nat.add_assoc, Nat.add_comm 1]

theorem firstLong_cons_of_le (h : (w.length : Int) ≤ limit) :
    firstLong limit k (w :: ws) = firstLong limit (k + 1) ws :=
  @firstLong_append limit k ws [w] (List.forall_mem_singleton.mpr h)

theorem firstLong_eq_some (h : firstLong limit k ls = some (l, n)) :
    k ≤ n ∧ limit < (l.length : Int) ∧ ls[n - k]? = some l := by
  obtain ⟨hlong, hmem⟩ := And.intro (List.find?_some h) (List.mem_of_find?_eq_some h)
  obtain ⟨hle, hget⟩ := List.mem_zipIdx_iff_le_and_getElem?_sub.mp hmem
  exact ⟨hle, of_decide_eq_true hlong, hget⟩

/-- No piece is longer than the line it is from. -/
theorem Pieces.exists_le (h : Pieces ws ls) : ∀ l ∈ ls, ∃ w ∈ ws, l.length ≤ w.length := by
  induction h with
  | nil => exact fun _ hl => (nomatch hl)
  | @whole w ws ls _ _ ih =>
    rintro l (_ | ⟨_, hl⟩)
    · exact ⟨w, List.mem_cons_self, le_rfl⟩
    · obtain ⟨u, hu, hle⟩ := ih l hl
      exact ⟨u, List.mem_cons_of_mem _ hu, hle⟩
  | @divided w p ps ws ls _ hshort _ _ ih =>
    intro l hl
    rcases List.mem_append.mp hl with hl | hl
    · exact ⟨w, List.mem_cons_self, (hshort l hl).le⟩
    · obtain ⟨u, hu, hle⟩ := ih l hl
      exact ⟨u, List.mem_cons_of_mem _ hu, hle⟩

theorem Pieces.exists_long (h : Pieces ws ls) (hls : firstLong limit k ls = some (l, n)) :
    ∃ w ∈ ws, limit < (w.length : Int) := by
  obtain ⟨-, hlong, hget⟩ := firstLong_eq_some hls
  obtain ⟨w, hw, hle⟩ := h.exists_le _ (List.mem_of_getElem? hget)
  exact ⟨w, hw, by omega⟩

theorem firstLong_ne_none (hw : w ∈ ws) (hlong : limit < (w.length : Int)) :
    firstLong limit k ws ≠ none := by
  intro hnone
  obtain ⟨i, hi, rfl⟩ := List.mem_iff_getElem.mp hw
  have hmem : (ws[i], k + i) ∈ ws.zipIdx k :=
    List.mem_zipIdx_iff_le_and_getElem?_sub.mpr ⟨Nat.le_add_right _ _, by simp⟩
  exact List.find?_eq_none.mp hnone _ hmem (decide_eq_true hlong)

/-- The first piece that is too long has no smaller number than the first such line, however much
the numbers differ at the start. -/
theorem Pieces.firstLong_le (h : Pieces ws ls) {k' m : Nat}
    (hws : firstLong limit k ws = some (w, n)) (hls : firstLong limit k' ls = some (l, m)) :
    n + k' ≤ m + k := by
  induction h generalizing k k' with
  | nil => cases hws
  | @whole u ws ls _ _ ih =>
    rcases Int.lt_or_le limit (u.length : Int) with hlong | hshort
    · rw [firstLong_cons_of_lt hlong] at hws hls
      cases hws
      cases hls
      exact (Nat.add_comm ..).le
    · rw [firstLong_cons_of_le hshort] at hws hls
      have := ih hws hls
      omega
  | @divided u p ps ws ls _ hpieces _ _ ih =>
    rcases Int.lt_or_le limit (u.length : Int) with hlong | hshort
    · rw [firstLong_cons_of_lt hlong] at hws
      cases hws
      have := (firstLong_eq_some hls).1
      omega
    · rw [firstLong_cons_of_le hshort] at hws
      rw [firstLong_append (fun q hq => by have := hpieces q hq; omega)] at hls
      have := ih hws hls
      rw [List.length_cons] at this
      omega

/-- The first line that is too long is found among the pieces, whole and with its number, exactly if
it and the lines before it are undivided. -/
theorem Pieces.firstLong_iff (h : Pieces ws ls) (hws : firstLong limit k ws = some (w, n)) :
    (∃ l, firstLong limit k ls = some (l, n) ∧ l.length = w.length) ↔
      ∀ u ∈ ws.take (n - k + 1), Undivided u := by
  induction h generalizing k with
  | nil => cases hws
  | @whole u ws ls hu _ ih =>
    rcases Int.lt_or_le limit (u.length : Int) with hlong | hshort
    · rw [firstLong_cons_of_lt hlong] at hws ⊢
      cases hws
      rw [Nat.sub_self, List.take_succ_cons, List.take_zero]
      exact iff_of_true ⟨_, rfl, rfl⟩ (List.forall_mem_singleton.mpr hu)
    · rw [firstLong_cons_of_le hshort] at hws ⊢
      have hle := (firstLong_eq_some hws).1
      rw [ih hws, show n - k + 1 = n - (k + 1) + 1 + 1 by omega, List.take_succ_cons,
        List.forall_mem_cons]
      exact (and_iff_right hu).symm
  | @divided u p ps ws ls hu hpieces hmore h ih =>
    have hmem : u ∈ (u :: ws).take (n - k + 1) := by
      rw [List.take_succ_cons]
      exact List.mem_cons_self
    refine iff_of_false ?_ fun hall => hu (hall u hmem)
    rintro ⟨l, hls, hlength⟩
    rcases Int.lt_or_le limit (u.length : Int) with hlong | hshort
    · -- The piece with the number of the line is the first, and that is shorter.
      rw [firstLong_cons_of_lt hlong] at hws
      cases hws
      obtain ⟨-, -, hget⟩ := firstLong_eq_some hls
      rw [Nat.sub_self] at hget
      cases hget
      exact absurd hlength (hpieces p List.mem_cons_self).ne
    · -- The pieces of this line move the numbers of those behind it.
      rw [firstLong_cons_of_le hshort] at hws
      rw [firstLong_append (fun q hq => by have := hpieces q hq; omega), List.length_cons] at hls
      have hle := h.firstLong_le hws hls
      cases ps with
      | nil =>
        rw [hmore rfl] at hws
        cases hws
      | cons q ps =>
        rw [List.length_cons] at hle
        omega

end Text

namespace Style

open Text

variable {d : Document} {config : Config} {limit : Int} {text : List Char}

/-! ## Reports -/

def lengthWarning (limit : Int) (length number : Nat) : Diagnostic :=
  .onDocument "STYLE" ("Line " ++ toString number ++ " length (" ++ toString length
    ++ ") exceeds recommended limit (" ++ toString limit ++ ")") .warning (some number)
    (some (limit + 1))

/-- The report that is due: on the first source line longer than the limit, if there is one. -/
def dueReports (limit : Int) (text : List Char) : List Diagnostic :=
  ((firstLong limit 1 (lineContents text)).map fun (l, number) =>
    lengthWarning limit l.length number).toList

theorem lengthWarning_inj {length length' number number' : Nat}
    (h : lengthWarning limit length number = lengthWarning limit length' number') :
    length = length' ∧ number = number' := by
  have hline := congrArg Diagnostic.line h
  have hmessage := congrArg (fun e : Diagnostic => e.message.toList) h
  simp only [lengthWarning, Diagnostic.onDocument, Option.some.injEq, Int.natCast_inj] at hline
  subst hline
  refine ⟨?_, rfl⟩
  simp only [lengthWarning, Diagnostic.onDocument, String.toList_append, List.append_cancel_left_eq,
    List.append_cancel_right_eq, Nat.toString_eq_ofList_toDigits, String.toList_ofList] at hmessage
  rw [← Nat.ofDigitChars_ten_toDigits (n := length), hmessage, Nat.ofDigitChars_ten_toDigits]

theorem reportsUnder_line_eq (h : d.Obtained) (handle : Nat) :
    reportsUnder "Line " handle ⟨d, config⟩
      = ((firstLong (config.limit .lineLength) 1 (lines d.sourceText)).map fun (l, number) =>
          lengthWarning (config.limit .lineLength) l.length number).toList := by
  obtain ⟨tokens, htokens⟩ := h.ends_sourceText
  rw [reportsUnder_line (c := ⟨d, config⟩) htokens, lineLength]
  rw [firstLong]
  dsimp only
  generalize List.find? _ _ = found
  cases found <;> rfl

/-- What is found among the pieces is the due report exactly if the line and those before it are
undivided; where nothing is due, nothing is found. -/
theorem due_iff {ws ls : List (List Char)} (h : Pieces ws ls) :
    ((firstLong limit 1 ls).map fun (l, number) => lengthWarning limit l.length number).toList
        = ((firstLong limit 1 ws).map fun (l, number) =>
            lengthWarning limit l.length number).toList ↔
      ∀ w number, firstLong limit 1 ws = some (w, number) →
        ∀ u ∈ ws.take number, Undivided u := by
  cases hdue : firstLong limit 1 ws with
  | none =>
    refine iff_of_true ?_ fun w number hsome => (nomatch hsome)
    cases hfound : firstLong limit 1 ls with
    | none => rfl
    | some found =>
      obtain ⟨w, hw, hlong⟩ := h.exists_long hfound
      exact absurd hdue (firstLong_ne_none hw hlong)
  | some due =>
    obtain ⟨w, number⟩ := due
    have hpos := (firstLong_eq_some hdue).1
    have hiff := h.firstLong_iff hdue
    rw [Nat.sub_add_cancel hpos] at hiff
    have hall : (∀ w' number', some (w, number) = some (w', number') →
        ∀ u ∈ ws.take number', Undivided u) ↔ ∀ u ∈ ws.take number, Undivided u := by
      constructor
      · intro hall
        exact hall w number rfl
      · rintro hall _ _ ⟨⟩
        exact hall
    rw [hall, ← hiff]
    constructor
    · intro hsame
      cases hfound : firstLong limit 1 ls with
      | none =>
        rw [hfound] at hsame
        cases hsame
      | some found =>
        rw [hfound] at hsame
        obtain ⟨l, number'⟩ := found
        obtain ⟨hlength, rfl⟩ := lengthWarning_inj (List.cons.inj hsame).1
        exact ⟨l, rfl, hlength⟩
    · rintro ⟨l, hfound, hlength⟩
      rw [hfound]
      exact congrArg (fun length => [lengthWarning limit length number]) hlength

/-- Tokens have the numbers of source lines. At most one line is reported, and only if some source
line is longer than the limit. The report is the due one, on the first such line with its number and
its length, exactly if no separator divides that line or one before it. -/
theorem long_line_reported_iff (h : d.Obtained) (config : Config) (handle : Nat) :
    (∃ tokens, (tokenize d.sourceText).toList = .ok tokens ∧ ∀ t ∈ tokens, 0 < t.line ∧
      ∃ w, (lineContents d.sourceText)[t.line - 1]? = some w ∧ t.column - 1 < w.length) ∧
    (reportsUnder "Line " handle ⟨d, config⟩).length ≤ 1 ∧
    (reportsUnder "Line " handle ⟨d, config⟩ ≠ [] →
      ∃ w ∈ lineContents d.sourceText, config.limit .lineLength < (w.length : Int)) ∧
    (reportsUnder "Line " handle ⟨d, config⟩
        = dueReports (config.limit .lineLength) d.sourceText ↔
      ∀ w number, firstLong (config.limit .lineLength) 1 (lineContents d.sourceText)
          = some (w, number) →
        ∀ u ∈ (lineContents d.sourceText).take number, Undivided u) := by
  obtain ⟨tokens, htokens⟩ := h.ends_sourceText
  have hpieces : Pieces (lineContents d.sourceText) (lines d.sourceText) :=
    pieces_sourceLinesFrom 0 d.sourceText
  rw [reportsUnder_line_eq h]
  refine ⟨⟨tokens, htokens, fun t ht => ?_⟩, ?_, fun hne => ?_, ?_⟩
  · obtain ⟨l, hl⟩ := inLine_of_mem_tokenize htokens ht
    refine ⟨hl.line_pos, l.content, ?_, hl.lt_length⟩
    rw [lineContents, List.getElem?_map, hl.line_eq, Option.map_some]
  · cases firstLong (config.limit .lineLength) 1 (lines d.sourceText) <;> simp
  · cases hlong : firstLong (config.limit .lineLength) 1 (lines d.sourceText) with
    | none =>
      rw [hlong] at hne
      exact absurd rfl hne
    | some found => exact hpieces.exists_long hlong
  · exact due_iff hpieces

/-- A comment with one character in it, and a line of twenty-five characters. -/
def commentedText (inside : Char) : List Char :=
  "# one".toList ++ inside :: "two\n\x7b user(id: 1)  \x7b name \x7d \x7d".toList

def narrow : Config :=
  { settings := defaultSettings.insert Limit.lineLength.key (.int 20) }

/-- A blank in the comment leaves the report alone. A line separator keeps it from being the due
one, though it ends no source line. -/
theorem long_line_reported_iff_commented :
    (∃ d, Document.parse (commentedText ' ') = .ok d ∧
      reportsUnder "Line " 0 ⟨d, narrow⟩ = [lengthWarning 20 25 2]) ∧
    (∃ d, Document.parse (commentedText '\u2028') = .ok d ∧
      dueReports 20 d.sourceText = [lengthWarning 20 25 2] ∧
      reportsUnder "Line " 0 ⟨d, narrow⟩ ≠ [lengthWarning 20 25 2]) := by
  have hlimit : narrow.limit .lineLength = 20 := by decide +kernel
  have hread : ∀ inside ∈ [' ', '\u2028'],
      (Document.parse (commentedText inside)).toOption.isSome = true ∧
        firstLong 20 1 (lineContents (commentedText inside))
          = some ("\x7b user(id: 1)  \x7b name \x7d \x7d".toList, 2) := by
    rw [List.forall_mem_cons, List.forall_mem_singleton]
    decide +kernel
  have hdocument : ∀ inside ∈ [' ', '\u2028'], ∃ d, Document.parse (commentedText inside) = .ok d ∧
      d.sourceText = commentedText inside ∧
      dueReports 20 (commentedText inside) = [lengthWarning 20 25 2] := by
    intro inside hinside
    obtain ⟨hsome, hlong⟩ := hread inside hinside
    cases hd : Document.parse (commentedText inside) with
    | error fault =>
      rw [hd] at hsome
      cases hsome
    | ok d =>
      refine ⟨d, rfl, (sourceText_of_parse hd).1, ?_⟩
      rw [dueReports, hlong]
      rfl
  obtain ⟨d, hd, htext, hdue⟩ := hdocument ' ' (by simp)
  obtain ⟨d', hd', htext', hdue'⟩ := hdocument '\u2028' (by simp)
  obtain ⟨-, -, -, hiff⟩ := long_line_reported_iff (.read hd) narrow 0
  obtain ⟨-, -, -, hiff'⟩ := long_line_reported_iff (.read hd') narrow 0
  rw [hlimit, htext, hdue, (hread ' ' (by simp)).2] at hiff
  rw [hlimit, htext', hdue', (hread '\u2028' (by simp)).2] at hiff'
  refine ⟨⟨d, hd, hiff.mpr ?_⟩, d', hd', htext' ▸ hdue', mt hiff'.mp ?_⟩
  · rintro w number ⟨⟩
    decide +kernel
  · intro hall
    exact absurd (hall _ 2 rfl) (by decide +kernel)

end Style

end QueryLint
