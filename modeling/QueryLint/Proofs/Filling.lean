import Mathlib.Data.List.Forall2
import Mathlib.Data.List.TakeWhile
import QueryLint.ConfigFile.Load

/-! # Filling in placeholders

Filling in changes nothing of a value but its texts. A text is cut from the left: where a
placeholder begins, it is taken as a whole and gives way to the value of its name, if that has one;
every other character stays. What was put in is not cut again. So of an environment only the names
that stand in placeholders have an influence on the configuration that is loaded.
-/

namespace QueryLint

theorem forall₂_iff_map_eq {α β : Type} {R : α → β → Prop} {f : α → β}
    (h : ∀ a b, R a b ↔ f a = b) {as : List α} {bs : List β} :
    List.Forall₂ R as bs ↔ as.map f = bs := by
  have hR : R = fun a b => f a = b := by
    funext a b
    exact propext (h a b)
  rw [hR, ← List.forall₂_map_left_iff (R := Eq), List.forall₂_eq_eq_eq]

namespace Segment

variable {env env' : Table String} {s name name' rest rest' : List Char}
  {pieces pieces' : List Segment} {p : Segment}

/-! ## Placeholders in a text -/

/-- A text begins with a placeholder: a name that is not empty and holds no closing brace, and the
rest of the text behind the closing brace. -/
def Opens (s name rest : List Char) : Prop :=
  name ≠ [] ∧ '\x7d' ∉ name ∧ s = '$' :: '\x7b' :: (name ++ '\x7d' :: rest)

/-- The pieces of a text from left to right: a placeholder wherever one begins, and a character
where none does. -/
inductive Cut : List Char → List Segment → Prop
  | nil : Cut [] []
  | placeholder {s name rest : List Char} {pieces : List Segment} :
      Opens s name rest → Cut rest pieces → Cut s (.placeholder name :: pieces)
  | char {c : Char} {rest : List Char} {pieces : List Segment} :
      (∀ name after, ¬ Opens (c :: rest) name after) → Cut rest pieces →
        Cut (c :: rest) (.char c :: pieces)

theorem closing?_eq_some_iff :
    closing? s = some (name, rest) ↔ name ≠ [] ∧ '\x7d' ∉ name ∧ s = name ++ '\x7d' :: rest := by
  constructor
  · intro h
    unfold closing? at h
    split at h
    · rename_i n name' b rest' htake hdrop
      simp only [Option.some.injEq, Prod.mk.injEq] at h
      obtain ⟨rfl, rfl⟩ := h
      have hb : b = '\x7d' := by
        have hhead := List.head?_dropWhile_not (· ≠ '\x7d') s
        rw [hdrop] at hhead
        simpa using hhead
      refine ⟨List.cons_ne_nil _ _, fun hmem => ?_, ?_⟩
      · rw [← htake] at hmem
        simpa using List.mem_takeWhile_imp hmem
      · rw [← List.takeWhile_append_dropWhile (p := (· ≠ '\x7d')) (l := s), htake, hdrop, hb]
    · cases h
  · rintro ⟨hne, hbrace, rfl⟩
    have hname : ∀ c ∈ name, decide (c ≠ '\x7d') = true := by
      intro c hc
      simpa using ne_of_mem_of_not_mem hc hbrace
    obtain ⟨n, name, rfl⟩ := List.exists_cons_of_ne_nil hne
    unfold closing?
    rw [List.takeWhile_append_of_pos hname, List.dropWhile_append_of_pos hname]
    simp

theorem opens_iff : Opens s name rest ↔
    ∃ r, s = '$' :: '\x7b' :: r ∧ closing? r = some (name, rest) := by
  simp only [Opens, closing?_eq_some_iff]
  constructor
  · rintro ⟨hne, hbrace, rfl⟩
    exact ⟨_, rfl, hne, hbrace, rfl⟩
  · rintro ⟨r, rfl, hne, hbrace, rfl⟩
    exact ⟨hne, hbrace, rfl⟩

theorem Opens.unique (h : Opens s name rest) (h' : Opens s name' rest') :
    name = name' ∧ rest = rest' := by
  obtain ⟨r, rfl, hr⟩ := opens_iff.mp h
  obtain ⟨r', heq, hr'⟩ := opens_iff.mp h'
  obtain rfl : r = r' := by simpa using heq
  simpa [hr] using hr'

theorem cut_ofText (s : List Char) : Cut s (ofText s) := by
  fun_induction ofText s with
  | case1 r name rest hclosing ih => exact .placeholder (opens_iff.mpr ⟨r, rfl, hclosing⟩) ih
  | case2 r hclosing ih =>
    refine .char (fun name after hopens => ?_) ih
    obtain ⟨r', heq, hr'⟩ := opens_iff.mp hopens
    obtain rfl : r = r' := by simpa using heq
    simp [hclosing] at hr'
  | case3 c r hother ih =>
    refine .char (fun name after hopens => ?_) ih
    obtain ⟨r', heq, -⟩ := opens_iff.mp hopens
    obtain ⟨rfl, rfl⟩ := List.cons.inj heq
    exact hother r' rfl rfl
  | case4 => exact .nil

theorem Cut.unique (h : Cut s pieces) (h' : Cut s pieces') : pieces = pieces' := by
  induction h generalizing pieces' with
  | nil =>
    cases h' with
    | nil => rfl
    | placeholder hopens _ => cases hopens.2.2
  | placeholder hopens _ ih =>
    cases h' with
    | nil => cases hopens.2.2
    | placeholder hopens' hcut =>
      obtain ⟨rfl, rfl⟩ := hopens.unique hopens'
      rw [ih hcut]
    | char hnone _ => exact absurd hopens (hnone _ _)
  | char hnone _ ih =>
    cases h' with
    | placeholder hopens _ => exact absurd hopens (hnone _ _)
    | char _ hcut => rw [ih hcut]

theorem cut_iff : Cut s pieces ↔ pieces = ofText s := by
  constructor
  · intro h
    exact h.unique (cut_ofText s)
  · rintro rfl
    exact cut_ofText s

/-! ## What becomes of a piece -/

/-- A placeholder becomes the value of its name and stays as it is written if there is none. -/
inductive Becomes (env : Table String) : Segment → List Char → Prop
  | char (c : Char) : Becomes env (.char c) [c]
  | value {name : List Char} {value : String} :
      env.get? (String.ofList name) = some value → Becomes env (.placeholder name) value.toList
  | unset {name : List Char} : env.get? (String.ofList name) = none →
      Becomes env (.placeholder name) ('$' :: '\x7b' :: (name ++ ['\x7d']))

theorem becomes_iff {t : List Char} : Becomes env p t ↔ p.expand env = t := by
  constructor
  · intro h
    cases h with
    | char c => rfl
    | value hvalue => rw [expand, hvalue]
    | unset hnone => rw [expand, hnone, toText]
  · rintro rfl
    cases p with
    | char c => exact .char c
    | placeholder name =>
      rw [expand]
      split
      · exact .value ‹_›
      · exact .unset ‹_›

theorem forall₂_becomes_iff {parts : List (List Char)} :
    List.Forall₂ (Becomes env) pieces parts ↔ pieces.map (expand env) = parts := by
  refine forall₂_iff_map_eq fun p t => ?_
  exact becomes_iff

theorem Cut.flatMap_toText (h : Cut s pieces) : pieces.flatMap toText = s := by
  induction h with
  | nil => rfl
  | placeholder hopens _ ih =>
    rw [List.flatMap_cons, ih, hopens.2.2, toText]
    simp
  | char _ _ ih => rw [List.flatMap_cons, ih, toText, List.singleton_append]

end Segment

/-! ## Torn texts -/

namespace TornPiece

variable {env : Table String} {gs : List Glyph} {pieces : List TornPiece} {p : TornPiece}

/-- The pieces of some glyphs: together they are the glyphs, and they show the pieces of the text
that is shown. -/
def Cut (gs : List Glyph) (pieces : List TornPiece) : Prop :=
  Segment.Cut (gs.map Glyph.shown) (pieces.map shown) ∧ pieces.flatMap written = gs

theorem eq_char_of_shown {g : Glyph} {c : Char} (hc : c ≠ '\ufffd') (h : g.shown = c) :
    g = .char c := by
  cases g with
  | char d => exact congrArg Glyph.char h
  | half s => exact absurd h.symm hc

theorem cut_placeholder (name gs : List Glyph) (ps : List Segment) :
    cut (.placeholder (name.map Glyph.shown) :: ps) (written (placeholder name) ++ gs) =
      placeholder name :: cut ps gs := by
  simp [cut, written, List.drop_append, List.drop_eq_nil_of_le]

/-- Glyphs that show some pieces are cut into pieces that are shown so. -/
theorem cut_spec {ps : List Segment} (h : ps.flatMap Segment.toText = gs.map Glyph.shown) :
    (cut ps gs).map shown = ps ∧ (cut ps gs).flatMap written = gs := by
  induction ps generalizing gs with
  | nil =>
    obtain rfl := List.map_eq_nil_iff.mp h.symm
    exact ⟨rfl, rfl⟩
  | cons q ps ih =>
    cases q with
    | char c =>
      obtain ⟨g, gs, rfl, rfl, hrest⟩ := List.map_eq_cons_iff.mp h.symm
      obtain ⟨hshown, hwritten⟩ := ih hrest.symm
      exact ⟨by rw [cut, List.map_cons, hshown, shown], by
        rw [cut, List.flatMap_cons, hwritten, written, List.singleton_append]⟩
    | placeholder name =>
      rw [List.flatMap_cons, Segment.toText, List.cons_append, List.cons_append,
        List.append_assoc, List.singleton_append] at h
      obtain ⟨dollar, gs₁, rfl, hdollar, h₁⟩ := List.map_eq_cons_iff.mp h.symm
      obtain ⟨brace, gs₂, rfl, hbrace, h₂⟩ := List.map_eq_cons_iff.mp h₁
      obtain ⟨inner, gs₃, rfl, rfl, h₃⟩ := List.map_eq_append_iff.mp h₂
      obtain ⟨close, rest, rfl, hclose, hrest⟩ := List.map_eq_cons_iff.mp h₃
      obtain rfl := eq_char_of_shown (by decide) hdollar
      obtain rfl := eq_char_of_shown (by decide) hbrace
      obtain rfl := eq_char_of_shown (by decide) hclose
      obtain ⟨hshown, hwritten⟩ := ih hrest.symm
      have hgs : .char '$' :: .char '\x7b' :: (inner ++ .char '\x7d' :: rest) =
          written (placeholder inner) ++ rest := by
        simp [written]
      rw [hgs, cut_placeholder]
      exact ⟨by rw [List.map_cons, hshown, shown], by rw [List.flatMap_cons, hwritten]⟩

theorem cut_shown (pieces : List TornPiece) :
    cut (pieces.map shown) (pieces.flatMap written) = pieces := by
  induction pieces with
  | nil => rfl
  | cons p pieces ih =>
    rw [List.map_cons, List.flatMap_cons]
    cases p with
    | glyph g => rw [written, List.singleton_append, shown, cut, ih]
    | placeholder name => rw [shown, cut_placeholder, ih]

theorem cut_iff : Cut gs pieces ↔ pieces = cut (Segment.ofText (gs.map Glyph.shown)) gs := by
  constructor
  · rintro ⟨hcut, rfl⟩
    rw [← Segment.cut_iff.mp hcut, cut_shown]
  · rintro rfl
    have hcut := Segment.cut_ofText (gs.map Glyph.shown)
    obtain ⟨hshown, hwritten⟩ := cut_spec hcut.flatMap_toText
    exact ⟨hshown.symm ▸ hcut, hwritten⟩

/-- A placeholder becomes the value of its name, if that is a name and has a value. -/
inductive Becomes (env : Table String) : TornPiece → List Glyph → Prop
  | glyph (g : Glyph) : Becomes env (.glyph g) [g]
  | value {glyphs : List Glyph} {name value : String} : name? glyphs = some name →
      env.get? name = some value → Becomes env (.placeholder glyphs) (value.toList.map .char)
  | unset {glyphs : List Glyph} : (∀ name, name? glyphs = some name → env.get? name = none) →
      Becomes env (.placeholder glyphs)
        (.char '$' :: .char '\x7b' :: (glyphs ++ [.char '\x7d']))

theorem becomes_iff {out : List Glyph} : Becomes env p out ↔ p.expand env = out := by
  constructor
  · intro h
    cases h with
    | glyph g => rfl
    | value hname hvalue => rw [expand, hname, Option.bind_some, hvalue]
    | unset hnone => rw [expand, Option.bind_eq_none_iff.mpr hnone, written]
  · rintro rfl
    cases p with
    | glyph g => exact .glyph g
    | placeholder glyphs =>
      rw [expand]
      split
      · rename_i hvalue
        obtain ⟨name, hname, hvalue⟩ := Option.bind_eq_some_iff.mp hvalue
        exact .value hname hvalue
      · rename_i hnone
        exact .unset (Option.bind_eq_none_iff.mp hnone)

theorem forall₂_becomes_iff {parts : List (List Glyph)} :
    List.Forall₂ (Becomes env) pieces parts ↔ pieces.map (expand env) = parts := by
  refine forall₂_iff_map_eq fun p t => ?_
  exact becomes_iff

end TornPiece

/-! ## Filled texts -/

/-- A text is cut into pieces, and what becomes of them is joined. -/
def FilledText (env : Table String) (s t : String) : Prop :=
  ∃ pieces parts, Segment.Cut s.toList pieces ∧
    List.Forall₂ (Segment.Becomes env) pieces parts ∧ t.toList = parts.flatten

theorem filledText_iff {env : Table String} {s t : String} :
    FilledText env s t ↔ t = fillText env s := by
  simp only [FilledText, Segment.cut_iff, Segment.forall₂_becomes_iff, fillText, List.flatMap_def]
  constructor
  · rintro ⟨pieces, parts, rfl, rfl, ht⟩
    rw [← ht, String.ofList_toList]
  · rintro rfl
    exact ⟨_, _, rfl, rfl, String.toList_ofList⟩

/-- A torn text is cut into pieces, and what becomes of them is joined. -/
def FilledTorn (env : Table String) (t : TornText) (d : Data) : Prop :=
  ∃ pieces parts, TornPiece.Cut t.glyphs pieces ∧
    List.Forall₂ (TornPiece.Becomes env) pieces parts ∧ d = .ofGlyphs parts.flatten

theorem filledTorn_iff {env : Table String} {t : TornText} {d : Data} :
    FilledTorn env t d ↔ d = t.fill env := by
  simp only [FilledTorn, TornPiece.cut_iff, TornPiece.forall₂_becomes_iff, TornText.fill,
    TornText.pieces, TornText.shown, List.flatMap_def]
  constructor
  · rintro ⟨pieces, parts, rfl, rfl, rfl⟩
    rfl
  · rintro rfl
    exact ⟨_, _, rfl, rfl, rfl⟩

/-! ## Texts in a value -/

namespace Data

variable {env env' : Table String} {d e : Data}

/-- Neither a text nor a list nor a mapping. -/
def IsLeaf : Data → Prop
  | text _ | torn _ | list _ | mapping _ => False
  | _ => True

mutual
/-- A value of the same shape, with the same keys and the same leaves, whose texts are filled in. -/
inductive Filled (env : Table String) : Data → Data → Prop
  | text {s t : String} : FilledText env s t → Filled env (.text s) (.text t)
  | torn {t : TornText} {d : Data} : FilledTorn env t d → Filled env (.torn t) d
  | list {items items' : List Data} :
      FilledItems env items items' → Filled env (.list items) (.list items')
  | mapping {entries entries' : List DataEntry} :
      FilledEntries env entries entries' → Filled env (.mapping entries) (.mapping entries')
  | leaf {d : Data} : d.IsLeaf → Filled env d d

inductive FilledItems (env : Table String) : List Data → List Data → Prop
  | nil : FilledItems env [] []
  | cons {d d' : Data} {items items' : List Data} : Filled env d d' →
      FilledItems env items items' → FilledItems env (d :: items) (d' :: items')

inductive FilledEntries (env : Table String) : List DataEntry → List DataEntry → Prop
  | nil : FilledEntries env [] []
  | cons {key value value' : Data} {entries entries' : List DataEntry} : Filled env value value' →
      FilledEntries env entries entries' →
        FilledEntries env (⟨key, value⟩ :: entries) (⟨key, value'⟩ :: entries')
end

mutual
theorem filled_fill (env : Table String) : (d : Data) → Filled env d (d.fill env)
  | .text _ => .text (filledText_iff.mpr rfl)
  | .torn _ => .torn (filledTorn_iff.mpr rfl)
  | .list items => .list (filledItems_fillAll env items)
  | .mapping entries => .mapping (filledEntries_fillEntries env entries)
  | .null | .bool _ | .int _ | .float _ | .instant _ | .bytes _ | .loop _ | .tuple _ | .set _
  | .frozenSet _ => .leaf trivial

theorem filledItems_fillAll (env : Table String) :
    (items : List Data) → FilledItems env items (fillAll env items)
  | [] => .nil
  | d :: items => .cons (filled_fill env d) (filledItems_fillAll env items)

theorem filledEntries_fillEntries (env : Table String) :
    (entries : List DataEntry) → FilledEntries env entries (fillEntries env entries)
  | [] => .nil
  | ⟨_, value⟩ :: entries => .cons (filled_fill env value) (filledEntries_fillEntries env entries)
end

mutual
theorem Filled.eq_fill : {d e : Data} → Filled env d e → e = d.fill env
  | _, _, .text h => by rw [fill, filledText_iff.mp h]
  | _, _, .torn h => by rw [fill, filledTorn_iff.mp h]
  | _, _, .list h => by rw [fill, h.eq_fillAll]
  | _, _, .mapping h => by rw [fill, h.eq_fillEntries]
  | d, _, .leaf h => by cases d <;> first | rfl | cases h

theorem FilledItems.eq_fillAll :
    {items items' : List Data} → FilledItems env items items' → items' = fillAll env items
  | _, _, .nil => rfl
  | _, _, .cons hd h => by rw [fillAll, hd.eq_fill, h.eq_fillAll]

theorem FilledEntries.eq_fillEntries : {entries entries' : List DataEntry} →
    FilledEntries env entries entries' → entries' = fillEntries env entries
  | _, _, .nil => rfl
  | _, _, .cons hv h => by rw [fillEntries, hv.eq_fill, h.eq_fillEntries]
end

theorem filled_iff : Filled env d e ↔ e = d.fill env := by
  constructor
  · exact Filled.eq_fill
  · rintro rfl
    exact filled_fill env d

/-! ## What filling in reads -/

/-- A name stands in a placeholder of one of the texts that are filled in. -/
inductive Mentions : Data → String → Prop
  | text {s name : String} {pieces : List Segment} : Segment.Cut s.toList pieces →
      .placeholder name.toList ∈ pieces → Mentions (.text s) name
  | torn {t : TornText} {name : String} {pieces : List TornPiece} {glyphs : List Glyph} :
      TornPiece.Cut t.glyphs pieces → .placeholder glyphs ∈ pieces →
        TornPiece.name? glyphs = some name → Mentions (.torn t) name
  | item {items : List Data} {d : Data} {name : String} :
      d ∈ items → Mentions d name → Mentions (.list items) name
  | value {entries : List DataEntry} {e : DataEntry} {name : String} :
      e ∈ entries → Mentions e.value name → Mentions (.mapping entries) name

theorem fillText_eq_of_agree {s : String}
    (h : ∀ name, (text s).Mentions name → env.get? name = env'.get? name) :
    fillText env s = fillText env' s := by
  unfold fillText
  congr 1
  refine List.flatMap_congr fun p hp => ?_
  cases p with
  | char c => rfl
  | placeholder name =>
    have hname : (text s).Mentions (String.ofList name) :=
      .text (Segment.cut_ofText s.toList) (by rwa [String.toList_ofList])
    simp only [Segment.expand, h _ hname]

theorem fillTorn_eq_of_agree {t : TornText}
    (h : ∀ name, (torn t).Mentions name → env.get? name = env'.get? name) :
    t.fill env = t.fill env' := by
  unfold TornText.fill
  congr 1
  refine List.flatMap_congr fun p hp => ?_
  cases p with
  | glyph g => rfl
  | placeholder glyphs =>
    have hvalue : (TornPiece.name? glyphs).bind env.get?
        = (TornPiece.name? glyphs).bind env'.get? := by
      cases hname : TornPiece.name? glyphs with
      | none => rfl
      | some name => exact h name (.torn (TornPiece.cut_iff.mpr rfl) hp hname)
    simp only [TornPiece.expand, hvalue]

mutual
theorem fill_eq_of_agree : (d : Data) →
    (∀ name, d.Mentions name → env.get? name = env'.get? name) → d.fill env = d.fill env'
  | .text s, h => by rw [fill, fill, fillText_eq_of_agree h]
  | .torn t, h => by rw [fill, fill, fillTorn_eq_of_agree h]
  | .list items, h => by
    rw [fill, fill, fillAll_eq_of_agree items fun d hd name hname => h name (.item hd hname)]
  | .mapping entries, h => by
    rw [fill, fill, fillEntries_eq_of_agree entries fun e he name hname => h name (.value he hname)]
  | .null, _ | .bool _, _ | .int _, _ | .float _, _ | .instant _, _ | .bytes _, _ | .loop _, _
  | .tuple _, _ | .set _, _ | .frozenSet _, _ => rfl

theorem fillAll_eq_of_agree : (items : List Data) →
    (∀ d ∈ items, ∀ name, d.Mentions name → env.get? name = env'.get? name) →
      fillAll env items = fillAll env' items
  | [], _ => rfl
  | d :: items, h => by
    rw [fillAll, fillAll, fill_eq_of_agree d (h d List.mem_cons_self),
      fillAll_eq_of_agree items fun d hd => h d (List.mem_cons_of_mem _ hd)]

theorem fillEntries_eq_of_agree : (entries : List DataEntry) →
    (∀ e ∈ entries, ∀ name, e.value.Mentions name → env.get? name = env'.get? name) →
      fillEntries env entries = fillEntries env' entries
  | [], _ => rfl
  | ⟨key, value⟩ :: entries, h => by
    rw [fillEntries, fillEntries, fill_eq_of_agree value (h ⟨key, value⟩ List.mem_cons_self),
      fillEntries_eq_of_agree entries fun e he => h e (List.mem_cons_of_mem _ he)]
end

end Data

namespace ConfigFile

/-- Filling in gives the value with its texts filled in and no other. Environments that agree on the
names in its placeholders load the same configuration from it, or meet the same fault. -/
theorem loading_reads_placeholders_only (env : Table String) (data : Data) :
    (∀ e, Data.Filled env data e ↔ e = data.fill env) ∧
      ∀ env', (∀ name, data.Mentions name → env.get? name = env'.get? name) →
        ∀ host source, ofData host env data source = ofData host env' data source := by
  refine ⟨fun e => Data.filled_iff, fun env' hagree host source => ?_⟩
  unfold ofData
  rw [Data.fill_eq_of_agree data hagree]

/-- Data with two placeholders side by side, an empty name and a brace that is never closed. -/
def tierData : Data := .mapping
  [⟨.text "preset", .text "$\x7bTIER\x7d"⟩,
   ⟨.text "disable", .list [.text "$\x7bSKIP\x7d$\x7bKEEP\x7d$\x7b\x7d$\x7bRULE"]⟩]

def tierEnv : Table String := ⟨[("TIER", "Strict"), ("SKIP", "$\x7bRULE\x7d")]⟩

theorem loading_reads_placeholders_only_tier :
    tierData.Filled tierEnv (.mapping
      [⟨.text "preset", .text "Strict"⟩,
       ⟨.text "disable", .list [.text "$\x7bRULE\x7d$\x7bKEEP\x7d$\x7b\x7d$\x7bRULE"]⟩]) ∧
    ∀ host source, ofData host tierEnv tierData source =
      ofData host (tierEnv.insert "RULE" "STYLE") tierData source := by
  have hpreset : Segment.ofText "$\x7bTIER\x7d".toList = [.placeholder "TIER".toList] := by
    cbv
  have hdisable : Segment.ofText "$\x7bSKIP\x7d$\x7bKEEP\x7d$\x7b\x7d$\x7bRULE".toList =
      [.placeholder "SKIP".toList, .placeholder "KEEP".toList] ++
        "$\x7b\x7d$\x7bRULE".toList.map .char := by
    cbv
  have hrule : ¬ tierData.Mentions "RULE" := by
    intro hmentions
    cases hmentions with
    | value he hvalue =>
    simp only [List.mem_cons, List.not_mem_nil, or_false] at he
    rcases he with rfl | rfl
    · cases hvalue with
      | text hcut hmem =>
      rw [Segment.cut_iff.mp hcut, hpreset] at hmem
      revert hmem
      decide
    · cases hvalue with
      | item hd hitem =>
      obtain rfl := List.mem_singleton.mp hd
      cases hitem with
      | text hcut hmem =>
      rw [Segment.cut_iff.mp hcut, hdisable] at hmem
      revert hmem
      decide
  have h := loading_reads_placeholders_only tierEnv tierData
  refine ⟨(h.1 _).mpr ?_, h.2 _ fun name hname => ?_⟩
  · simp only [tierData, Data.fill, Data.fillAll, Data.fillEntries, fillText, hpreset, hdisable]
    rfl
  · have hne : name ≠ "RULE" := by
      rintro rfl
      exact hrule hname
    rw [Table.get?_insert, if_neg hne]

end ConfigFile

end QueryLint
