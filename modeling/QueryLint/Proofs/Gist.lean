import QueryLint.Proofs.Errors
import QueryLint.Proofs.Rearrangement

/-! # The gist of findings

The gist of a finding is its severity, its message and the path of what it points at. Best practice
reports some names only where they first occur and keeps tallies by name, in the order of the
document; of this order nothing is left in the gists, which are the same for a document whose
definitions are rearranged.
-/

namespace QueryLint

/-! ## Gists -/

def Diagnostic.gist (e : Diagnostic) : Severity × String × Option String :=
  (e.severity, e.message, e.path)

def Place.path : Place → String
  | .node n => n.describe
  | .spot _ _ => "document"

def Finding.gist (f : Finding) : Severity × String × Option String :=
  (f.severity, f.message, some f.place.path)

theorem gist_toDiagnostic (id : String) (text : List Char) (f : Finding) :
    (f.toDiagnostic id text).gist = f.gist := by
  obtain ⟨severity, message, place⟩ := f
  cases place <;> rfl

/-- The same gists, each as often, in any order. -/
def Alike (fs gs : List Finding) : Prop :=
  (fs.map Finding.gist).Perm (gs.map Finding.gist)

namespace Alike

variable {α : Type} {l l' : List α} {fs fs' gs gs' : List Finding}

theorem of_perm (h : fs.Perm gs) : Alike fs gs :=
  h.map _

theorem refl (fs : List Finding) : Alike fs fs :=
  .of_perm (.refl fs)

theorem append (h : Alike fs gs) (h' : Alike fs' gs') : Alike (fs ++ fs') (gs ++ gs') := by
  rw [Alike, List.map_append, List.map_append]
  exact List.Perm.append h h'

theorem map (h : l.Perm l') {g g' : α → Finding} (hg : ∀ a ∈ l, (g a).gist = (g' a).gist) :
    Alike (l.map g) (l'.map g') := by
  have hgists : l.map (Finding.gist ∘ g) = l.map (Finding.gist ∘ g') := List.map_congr_left hg
  rw [Alike, List.map_map, List.map_map, hgists]
  exact h.map _

theorem flatMap (h : l.Perm l') {g g' : α → List Finding} (hg : ∀ a ∈ l, Alike (g a) (g' a)) :
    Alike (l.flatMap g) (l'.flatMap g') := by
  rw [Alike, List.map_flatMap, List.map_flatMap]
  exact h.flatMap hg

theorem ite (h : Alike fs gs) (p : Prop) [Decidable p] :
    Alike (if p then fs else []) (if p then gs else []) := by
  split
  · exact h
  · exact .refl []

theorem root (severity : Severity) (message : String) (d d' : Document) :
    Alike [⟨severity, message, .node d.root⟩] [⟨severity, message, .node d'.root⟩] :=
  .refl _

end Alike

/-! ## Best practice -/

namespace BestPractice

/-! ### Aliases -/

def ownAlias (f : Field) : List Finding :=
  f.aliasName.elim [] fun a => aliasFindings a f

def lacksAlias (fields : List Field) (enforce : Bool) (f : Field) : Bool :=
  f.aliasName.isNone && enforce && !f.isIntrospection && 2 ≤ occurrences fields f.name.value

/-- The names of the fields for which `lacks` holds, each at its first occurrence. -/
def lackingNames (lacks : Field → Bool) (reported : List String) : List Field → List String
  | [] => []
  | f :: fs =>
    if lacks f && !reported.contains f.name.value then
      f.name.value :: lackingNames lacks (f.name.value :: reported) fs
    else lackingNames lacks reported fs

/-- What is said of a name that lacks an alias, on whichever field it is reported. -/
def lackingGist (count : Nat) (name : String) : Severity × String × Option String :=
  (missingAlias count ⟨none, { value := name }, [], [], none, none⟩).gist

theorem gist_missingAlias {f : Field} (h : f.aliasName = none) (count : Nat) :
    (missingAlias count f).gist = lackingGist count f.name.value := by
  obtain ⟨aliasName, name, arguments, directives, selectionSet, span⟩ := f
  obtain rfl := h
  rfl

theorem mem_lackingNames_iff {lacks : Field → Bool} {reported : List String} {fs : List Field}
    {n : String} : n ∈ lackingNames lacks reported fs ↔
      n ∉ reported ∧ n ∈ (fs.filter lacks).map (·.name.value) := by
  induction fs generalizing reported with
  | nil => simp [lackingNames]
  | cons f fs ih =>
    rw [lackingNames]
    by_cases hf : lacks f = true
    · by_cases hr : f.name.value ∈ reported
      · rw [if_neg (by simp [hr]), ih, List.filter_cons_of_pos hf, List.map_cons, List.mem_cons]
        refine and_congr_right fun hn => ?_
        exact ⟨.inr, fun h => h.resolve_left fun he => hn (he ▸ hr)⟩
      · rw [if_pos (by simp [hf, hr]), List.filter_cons_of_pos hf, List.map_cons, List.mem_cons,
          List.mem_cons, ih, List.mem_cons]
        by_cases hn : n = f.name.value <;> simp [hn, hr]
    · rw [if_neg (by simp [hf]), ih, List.filter_cons_of_neg hf]

theorem nodup_lackingNames (lacks : Field → Bool) (reported : List String) (fs : List Field) :
    (lackingNames lacks reported fs).Nodup := by
  induction fs generalizing reported with
  | nil => exact List.nodup_nil
  | cons f fs ih =>
    rw [lackingNames]
    split
    · refine List.nodup_cons.mpr ⟨fun h => ?_, ih _⟩
      exact (mem_lackingNames_iff.mp h).1 List.mem_cons_self
    · exact ih reported

/-- A field is judged by its own alias, or passed over unless it lacks one and its name is new. -/
theorem aliasesFrom_cons (fields : List Field) (enforce : Bool) (reported : List String) (f : Field)
    (fs : List Field) : aliasesFrom fields enforce reported (f :: fs) = ownAlias f ++
      if lacksAlias fields enforce f && !reported.contains f.name.value then
        missingAlias (occurrences fields f.name.value) f
          :: aliasesFrom fields enforce (f.name.value :: reported) fs
      else aliasesFrom fields enforce reported fs := by
  rw [aliasesFrom, ownAlias]
  cases ha : f.aliasName with
  | some a =>
    have hlacks : lacksAlias fields enforce f = false := by simp [lacksAlias, ha]
    rw [hlacks, Bool.false_and, if_neg Bool.false_ne_true, Option.elim_some]
  | none =>
    have hskip : (!enforce || f.isIntrospection || decide (occurrences fields f.name.value < 2)
        || reported.contains f.name.value)
        = !(lacksAlias fields enforce f && !reported.contains f.name.value) := by
      grind [lacksAlias]
    dsimp only
    rw [hskip, Option.elim_none, List.nil_append]
    cases lacksAlias fields enforce f && !reported.contains f.name.value <;> rfl

/-- Aliases are judged field by field, the lack of them name by name. -/
theorem gists_aliasesFrom (fields : List Field) (enforce : Bool) (reported : List String)
    (fs : List Field) : ((aliasesFrom fields enforce reported fs).map Finding.gist).Perm
      ((fs.flatMap ownAlias).map Finding.gist
        ++ (lackingNames (lacksAlias fields enforce) reported fs).map fun n =>
          lackingGist (occurrences fields n) n) := by
  induction fs generalizing reported with
  | nil => exact .refl _
  | cons f fs ih =>
    rw [aliasesFrom_cons, lackingNames, List.flatMap_cons, List.map_append, List.map_append,
      List.append_assoc]
    refine List.Perm.append_left _ ?_
    by_cases hf : (lacksAlias fields enforce f && !reported.contains f.name.value) = true
    · have ha : f.aliasName = none := by simp_all [lacksAlias]
      rw [if_pos hf, if_pos hf, List.map_cons, List.map_cons, gist_missingAlias ha]
      exact ((ih _).cons _).trans List.perm_middle.symm
    · rw [if_neg hf, if_neg hf]
      exact ih reported

variable {d d' : Document}

theorem aliases_alike (h : d.Rearranged d') (c : Config) :
    Alike (aliases ⟨d, c⟩) (aliases ⟨d', c⟩) := by
  have hoccurrences : occurrences d.fields = occurrences d'.fields :=
    funext fun name => (h.fields_perm.filter _).length_eq
  have hlacks : lacksAlias d.fields = lacksAlias d'.fields := by
    unfold lacksAlias
    rw [hoccurrences]
  have hnames : (lackingNames (lacksAlias d.fields (c.flag .aliasUsage)) [] d.fields).Perm
      (lackingNames (lacksAlias d'.fields (c.flag .aliasUsage)) [] d'.fields) := by
    rw [List.perm_ext_iff_of_nodup (nodup_lackingNames ..) (nodup_lackingNames ..)]
    intro n
    rw [mem_lackingNames_iff, mem_lackingNames_iff, hlacks,
      ((h.fields_perm.filter _).map _).mem_iff]
  refine (gists_aliasesFrom ..).trans (.trans ?_ (gists_aliasesFrom ..).symm)
  rw [← hoccurrences]
  exact ((h.fields_perm.flatMap_right _).map _).append (hnames.map _)

/-! ### Fragments -/

theorem distinct_tally (names : List String) : (tally names).Distinct := by
  refine List.foldlRecOn names _ Table.distinct_empty fun t ht n _ => ?_
  exact ht.insert _ _

theorem get?_foldl_tally (names : List String) (t : Table Nat) (k : String) :
    (names.foldl (fun t n => t.insert n ((t.get? n).getD 0 + 1)) t).get? k
      = if k ∈ names then some ((t.get? k).getD 0 + names.count k) else t.get? k := by
  induction names generalizing t with
  | nil => simp
  | cons n names ih =>
    rw [List.foldl_cons, ih, Table.get?_insert]
    by_cases hk : k = n
    · subst hk
      by_cases hn : k ∈ names
      · simp [hn]; omega
      · simp [hn, List.count_eq_zero_of_not_mem]
    · simp [hk, Ne.symm hk]

theorem get?_tally (names : List String) (k : String) :
    (tally names).get? k = if k ∈ names then some (names.count k) else none := by
  rw [tally, get?_foldl_tally]
  simp [Table.get?, Table.find?]

theorem get?_tally_eq {names names' : List String} (h : names.Perm names') (k : String) :
    (tally names).get? k = (tally names').get? k := by
  rw [get?_tally, get?_tally, h.count_eq]
  simp only [h.mem_iff]

theorem fragmentCount_alike (h : d.Rearranged d') (c : Config) :
    Alike (fragmentCount ⟨d, c⟩) (fragmentCount ⟨d', c⟩) := by
  unfold fragmentCount
  dsimp only
  rw [h.fragments_perm.length_eq]
  exact (Alike.root ..).ite _

theorem fragmentUse_alike (h : d.Rearranged d') (c : Config) :
    Alike (fragmentUse ⟨d, c⟩) (fragmentUse ⟨d', c⟩) := by
  have hget := get?_tally_eq (h.spreads_perm.map (·.name.value))
  have hcontains : (tally (d.spreads.map (·.name.value))).contains
      = (tally (d'.spreads.map (·.name.value))).contains := by
    funext k
    rw [Table.contains, Table.contains, hget]
  have hentries := (distinct_tally _).entries_perm (distinct_tally _) hget
  unfold fragmentUse
  dsimp only
  rw [hcontains]
  refine .append (.of_perm ((h.fragments_perm.filter _).map _)) ?_
  exact .map (hentries.filter _) fun _ _ => rfl

theorem fragments_alike (h : d.Rearranged d') (c : Config) :
    Alike (fragments ⟨d, c⟩) (fragments ⟨d', c⟩) :=
  .append (.append (fragmentCount_alike h c) (fragmentUse_alike h c))
    (.of_perm (h.fragments_perm.flatMap_right _))

/-! ### Variables -/

/-- Every variable is entered once, under its own name. -/
structure Entered (t : Table Variable) : Prop where
  distinct : t.Distinct
  name_eq : ∀ {k v}, t.get? k = some v → v.name.value = k

theorem Entered.insert {t : Table Variable} (h : Entered t) (v : Variable) :
    Entered (t.insert v.name.value v) := by
  refine ⟨h.distinct.insert _ _, fun {k w} hw => ?_⟩
  rw [Table.get?_insert] at hw
  split at hw
  · rw [← Option.some.inj hw, ‹k = _›]
  · exact h.name_eq hw

theorem entered_used (nodes : List Node) : Entered (used nodes) := by
  unfold used
  refine List.foldlRecOn _ _ ⟨Table.distinct_empty, fun hv => nomatch hv⟩ fun t ht v _ => ?_
  split
  · exact ht
  · exact ht.insert v

/-- What is said of an undeclared variable, at whichever use it is reported. -/
def undeclaredGist (name : String) : Severity × String × Option String :=
  (Finding.error ("Variable '$" ++ name ++ "' is used but not defined")
    (.value (.var ⟨{ value := name }, none⟩))).gist

theorem gists_undeclared (nodes : List Node) (declared : String → Bool) :
    ((((used nodes).entries.filter fun e => !declared e.1).map fun e =>
        Finding.error ("Variable '$" ++ e.1 ++ "' is used but not defined")
          (.value (.var e.2))).map Finding.gist)
      = ((used nodes).keys.filter fun k => !declared k).map undeclaredGist := by
  rw [Table.keys, List.filter_map, List.map_map, List.map_map]
  refine List.map_congr_left fun e he => ?_
  obtain ⟨k, v⟩ := e
  have hget := (entered_used nodes).distinct.mem_entries_iff.mp (List.mem_of_mem_filter he)
  obtain rfl := (entered_used nodes).name_eq hget
  rfl

theorem contains_used_eq {nodes nodes' : List Node} (h : ∀ n, n ∈ nodes ↔ n ∈ nodes') :
    (used nodes).contains = (used nodes').contains := by
  funext k
  rw [Bool.eq_iff_iff, contains_used_iff, contains_used_iff]
  simp only [h]

theorem variableFindings_alike (h : d.Rearranged d') (o : Operation) :
    Alike (variableFindings d o) (variableFindings d' o) := by
  have hcontains := contains_used_eq fun n => h.mem_reach (o := o) (n := n)
  have hkeys : (used (d.reach o)).keys.Perm (used (d'.reach o)).keys := by
    rw [List.perm_ext_iff_of_nodup (entered_used _).distinct (entered_used _).distinct]
    intro k
    rw [← Table.contains_iff, ← Table.contains_iff, hcontains]
  unfold variableFindings
  dsimp only
  rw [hcontains]
  refine .append (.append (.refl _) ?_) (.refl _)
  rw [Alike, gists_undeclared, gists_undeclared]
  exact (hkeys.filter _).map _

/-! ### The rule -/

theorem documentShape_alike (h : d.Rearranged d') (c : Config) :
    Alike (documentShape ⟨d, c⟩) (documentShape ⟨d', c⟩) := by
  have hmutations := h.operations_perm.filter fun o => o.kind = .mutation
  unfold documentShape
  dsimp only
  rw [h.operations_perm.length_eq, hmutations.length_eq]
  exact .append ((Alike.root ..).ite _) (.ite (.of_perm (hmutations.map _)) _)

theorem findings_alike (h : d.Rearranged d') (c : Config) :
    Alike (findings ⟨d, c⟩) (findings ⟨d', c⟩) := by
  have hselections : Alike (fieldSelections ⟨d, c⟩) (fieldSelections ⟨d', c⟩) :=
    .ite (.of_perm (h.fields_perm.flatMap_right _)) _
  refine .append (.append (.append (.append (.append (.append (.append (.append (.append
    (aliases_alike h c) (fragments_alike h c)) ?sets) ?uses) ?operations) hselections)
    ?arguments) ?directives) ?names) (documentShape_alike h c)
  case sets => exact .of_perm (h.selectionSets_perm.flatMap_right _)
  case uses => exact .flatMap h.operations_perm fun o _ => variableFindings_alike h o
  case operations => exact .of_perm (h.operations_perm.flatMap_right _)
  case arguments => exact .of_perm ((h.fields_perm.filter _).map _)
  case directives => exact .of_perm ((h.directives_perm.filter _).map _)
  case names => exact .of_perm (h.fragments_perm.flatMap_right _)

end BestPractice

end QueryLint
