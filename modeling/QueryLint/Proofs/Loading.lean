import QueryLint.Proofs.Filling

/-! # When loading answers

Loading a configuration answers with the configuration or with a problem that names its source,
unless something stands in its way that is reported as no problem at all: a directory, an overlong
name, a text at which a reader breaks off, or values that cannot be shown or filled in. The
obstacles are told here from what is at the paths and in the texts, and shown to be all there are,
whatever the readers make of a text and however much room the stack has.
-/

namespace QueryLint

/-! ## Settings that are refused -/

/-- The problem with a limit below zero. -/
def Problem.negative (key : String) (n : Int) : Problem :=
  .validation key "numeric limits must be non-negative" (.int n)

namespace SettingValue

/-- The problem with a setting of the schema, which can only be a number below zero. -/
def refusal? (key : String) : SettingValue → Option Problem
  | count n => if n < 0 then some (.negative key n) else none
  | flag _ | terms _ => none

theorem refusal?_eq_some_iff {key : String} {v : SettingValue} {p : Problem} :
    v.refusal? key = some p ↔ ∃ n, v = .count n ∧ n < 0 ∧ p = .negative key n := by
  cases v with
  | count n => simp [refusal?, eq_comm]
  | flag b => simp [refusal?]
  | terms ts => simp [refusal?]

theorem refusal?_eq_none_iff {key : String} {v : SettingValue} :
    v.refusal? key = none ↔ ∀ m, v = .count m → 0 ≤ m := by
  cases v <;> simp [refusal?]

end SettingValue

namespace Config

theorem normalize_toData (key : String) (v : SettingValue) :
    (∃ d, normalize key v.toData = .ok d ∧ v.refusal? key = none)
      ∨ ∃ p, normalize key v.toData = .error p ∧ v.refusal? key = some p := by
  cases v with
  | flag b => exact .inl ⟨_, rfl, rfl⟩
  | count n =>
    by_cases hn : n < 0
    · exact .inr ⟨_, if_pos hn, if_pos hn⟩
    · exact .inl ⟨_, if_neg hn, if_neg hn⟩
  | terms ts =>
    refine .inl ⟨_, if_pos ?_, rfl⟩
    rw [List.all_map]
    exact List.all_eq_true.mpr fun t _ => rfl

theorem update_toData_snd (settings : List (String × SettingValue)) (c : Config) :
    (c.update (settings.map fun e => (e.1, e.2.toData))).2
      = settings.findSome? fun e => e.2.refusal? e.1 := by
  induction settings generalizing c with
  | nil => rfl
  | cons e settings ih =>
    obtain ⟨key, v⟩ := e
    rw [List.map_cons, update, List.findSome?_cons]
    rcases normalize_toData key v with ⟨d, hd, hv⟩ | ⟨p, hp, hv⟩
    · simp only [set, hd, hv]
      exact ih _
    · simp only [set, hp, hv]
      rfl

end Config

namespace ConfigSpec

/-- A preset is asked for that does not exist. -/
def LacksPreset (s : ConfigSpec) : Prop :=
  ∃ name p, s.preset = some name ∧ name ≠ "" ∧ Preset.find name = .error p

/-- The first number below zero among the settings. -/
def FirstNegative (s : ConfigSpec) (key : String) (n : Int) : Prop :=
  n < 0 ∧ ∃ before after, s.settings = before ++ (key, .count n) :: after ∧
    ∀ e ∈ before, ∀ m, e.2 = .count m → 0 ≤ m

theorem findSome?_refusal?_iff (s : ConfigSpec) (p : Problem) :
    (s.settings.findSome? fun e => e.2.refusal? e.1) = some p ↔
      ∃ key n, s.FirstNegative key n ∧ p = .negative key n := by
  rw [List.findSome?_eq_some_iff]
  simp only [SettingValue.refusal?_eq_some_iff, SettingValue.refusal?_eq_none_iff, FirstNegative]
  constructor
  · rintro ⟨before, ⟨key, v⟩, after, hs, ⟨n, rfl, hn, rfl⟩, hbefore⟩
    exact ⟨key, n, ⟨hn, before, after, hs, hbefore⟩, rfl⟩
  · rintro ⟨key, n, ⟨hn, before, after, hs, hbefore⟩, rfl⟩
    exact ⟨before, (key, .count n), after, hs, ⟨n, rfl, hn, rfl⟩, hbefore⟩

theorem base_eq_error_iff (s : ConfigSpec) (p : Problem) : s.base = .error p ↔
    ∃ name, s.preset = some name ∧ name ≠ "" ∧ Preset.find name = .error p := by
  unfold base
  split
  · rename_i name hname
    by_cases hempty : name = "" <;> simp [hname, hempty]
  · rename_i hname
    simp [hname]

theorem isWritable_of_find_eq_error {name : String} {p : Problem}
    (h : Preset.find name = .error p) : p.isWritable = true := by
  unfold Preset.find at h
  split at h
  · cases h
  · cases h
    rfl

theorem toConfig_eq_error_iff (s : ConfigSpec) (p : Problem) : s.toConfig = .error p ↔
    (∃ name, s.preset = some name ∧ name ≠ "" ∧ Preset.find name = .error p) ∨
      ¬ s.LacksPreset ∧ ∃ key n, s.FirstNegative key n ∧ p = .negative key n := by
  have hlacks : s.LacksPreset ↔ ∃ p, s.base = .error p := by
    simp only [base_eq_error_iff]
    exact exists_comm
  rw [← base_eq_error_iff, ← findSome?_refusal?_iff, hlacks]
  cases hbase : s.base with
  | error q => simp [toConfig, hbase, bind, Except.bind]
  | ok c =>
    rw [← Config.update_toData_snd s.settings c]
    simp only [toConfig, hbase, bind, Except.bind, reduceCtorEq, exists_false, not_false_eq_true,
      true_and, false_or]
    split
    · rename_i h
      simp [h, pure, Except.pure]
    · rename_i h
      simp [h, throw, throwThe, MonadExceptOf.throw, eq_comm]

/-- The preset is known, and the first number below zero has too many digits to be shown. -/
def Unshowable (s : ConfigSpec) : Prop :=
  ¬ s.LacksPreset ∧ ∃ key n, s.FirstNegative key n ∧ Literal.isWritable n = false

theorem exists_toConfig_eq_error_iff (s : ConfigSpec) :
    (∃ p, s.toConfig = .error p ∧ p.isWritable = false) ↔ s.Unshowable := by
  simp only [toConfig_eq_error_iff]
  constructor
  · rintro ⟨p, ⟨name, -, -, hname⟩ | ⟨hpreset, key, n, hfirst, rfl⟩, hp⟩
    · simp [isWritable_of_find_eq_error hname] at hp
    · exact ⟨hpreset, key, n, hfirst, hp⟩
  · rintro ⟨hpreset, key, n, hfirst, hn⟩
    exact ⟨_, .inr ⟨hpreset, key, n, hfirst, rfl⟩, hn⟩

end ConfigSpec

namespace ConfigFile

/-! ## Reports -/

/-- Loading stops at something that is reported as no problem. -/
def Breaks {α : Type} (r : Except LoadFault α) : Prop :=
  ∃ f, r = .error f ∧ f.problem? = none

@[simp] theorem breaks_ok {α : Type} (a : α) : ¬ Breaks (.ok a) := by
  rintro ⟨f, hf, -⟩
  cases hf

@[simp] theorem breaks_error_iff {α : Type} (f : LoadFault) :
    Breaks (.error f : Except LoadFault α) ↔ f.problem? = none := by
  simp [Breaks]

theorem breaks_bind_iff {α β : Type} (r : Except LoadFault α) (k : α → Except LoadFault β) :
    Breaks (r >>= k) ↔ Breaks r ∨ ∃ a, r = .ok a ∧ Breaks (k a) := by
  cases r with
  | error f => simp [Breaks, bind, Except.bind]
  | ok a => simp [bind, Except.bind]

theorem exists_of_problem?_ne_none {f : LoadFault} (h : f.problem? ≠ none) :
    ∃ source reason, f.problem? = some (.configuration source reason) := by
  cases f with
  | unusable source reason => exact ⟨_, _, rfl⟩
  | invalid source fields => exact ⟨_, _, rfl⟩
  | directory | nameTooLong | toolNotTable | impossibleValue | exhausted | unaskable =>
    exact absurd rfl h

theorem answers_iff {α : Type} (r : Except LoadFault α) :
    ((∃ a, r = .ok a) ∨ ∃ f source reason, r = .error f
      ∧ f.problem? = some (.configuration source reason)) ↔ ¬ Breaks r := by
  cases r with
  | ok a => simp
  | error f =>
    rw [breaks_error_iff]
    constructor
    · rintro (⟨a, ha⟩ | ⟨g, source, reason, hg, hp⟩)
      · cases ha
      · cases hg
        simp [hp]
    · intro h
      obtain ⟨source, reason, hp⟩ := exists_of_problem?_ne_none h
      exact .inr ⟨f, source, reason, rfl, hp⟩

/-! ## Texts -/

variable {host : Host} {path : Path} {text : String}

/-- What in the text of a configuration file stands in the way of reading its section. -/
inductive Unreadable (host : Host) (path : Path) (text : String) : Prop
  /-- The YAML reader breaks off at something else than the form of the text. -/
  | yaml (hpath : isYaml path = true) {fault : Yaml.Fault} (hfault : fault ≠ .malformed)
      (htext : host.yaml (Text.unifyBreaks text.toList) = .error fault)
  /-- A kind is not the right one and cannot be shown: a number has too many digits, or the stack
  has no room. -/
  | kind (hpath : isYaml path = true) {entries : List DataEntry}
      (htext : host.yaml (Text.unifyBreaks text.toList) = .ok (.mapping entries))
      (hkind : (member "kind" entries).hasText yamlKind = false)
      (hshown : (member "kind" entries).isWritable = false ∨
        host.shows (member "kind" entries) = false)
  /-- The TOML reader breaks off at something else than the form of the text. -/
  | toml (hpath : isYaml path = false) {fault : Toml.Fault} (hfault : fault ≠ .malformed)
      (htext : host.toml text = .error fault)
  /-- A TOML `tool` is no table. -/
  | tool (hpath : isYaml path = false) {entries : List DataEntry} {d : Data}
      (htext : host.toml text = .ok entries) (htool : Data.lookup "tool" entries = some d)
      (hd : ∀ tools, d ≠ .mapping tools)

theorem problem?_wrongKind_eq_none_iff (source : String) (kind : Data) :
    (wrongKind host source kind).problem? = none ↔
      kind.isWritable = false ∨ host.shows kind = false := by
  unfold wrongKind
  cases host.shows kind <;> cases kind.isWritable <;> simp [LoadFault.problem?]

theorem breaks_yamlSection_iff (hpath : isYaml path = true) :
    Breaks (yamlSection host path.toText text) ↔ Unreadable host path text := by
  constructor
  · intro h
    unfold yamlSection at h
    dsimp only at h
    split at h
    · simp [LoadFault.problem?] at h
    · rename_i htext
      exact .yaml hpath (by simp) htext
    · rename_i hfault _ htext
      exact .yaml hpath hfault htext
    · rename_i entries htext
      cases hkind : (member "kind" entries).hasText yamlKind with
      | false =>
        rw [hkind, Bool.not_false, if_pos rfl, breaks_error_iff,
          problem?_wrongKind_eq_none_iff] at h
        exact .kind hpath htext hkind h
      | true =>
        simp only [hkind, Bool.not_true, Bool.false_eq_true, if_false] at h
        split at h
        · exact absurd h (breaks_ok _)
        · split at h
          · exact absurd h (breaks_ok _)
          · simp [LoadFault.problem?] at h
    · simp [LoadFault.problem?] at h
  · rintro (⟨-, hfault, htext⟩ | ⟨-, htext, hkind, hshown⟩ | ⟨htoml⟩ | ⟨htoml⟩)
    · rename_i fault
      cases fault <;> simp_all [yamlSection, LoadFault.problem?]
    · simp [yamlSection, htext, hkind, problem?_wrongKind_eq_none_iff, hshown]
    · simp [hpath] at htoml
    · simp [hpath] at htoml

theorem breaks_tomlSection_iff (hpath : isYaml path = false) :
    Breaks (tomlSection host path text) ↔ Unreadable host path text := by
  constructor
  · intro h
    unfold tomlSection at h
    dsimp only at h
    split at h
    · simp [LoadFault.problem?] at h
    · rename_i htext
      exact .toml hpath (by simp) htext
    · rename_i htext
      exact .toml hpath (by simp) htext
    · rename_i entries htext
      split at h
      · split at h
        · exact absurd h (breaks_ok _)
        · exact absurd h (breaks_ok _)
        · simp [LoadFault.problem?] at h
      · rename_i hmapping
        cases htool : Data.lookup "tool" entries with
        | none => simp [htool] at hmapping
        | some d =>
          refine .tool hpath htext htool fun tools hd => hmapping tools ?_
          rw [htool, hd]
          rfl
  · rintro (⟨hyaml⟩ | ⟨hyaml⟩ | ⟨-, hfault, htext⟩ | ⟨-, htext, htool, hd⟩)
    · simp [hpath] at hyaml
    · simp [hpath] at hyaml
    · rename_i fault
      cases fault <;> simp_all [tomlSection, LoadFault.problem?]
    · simp only [tomlSection, htext, htool, Option.getD_some]
      rename_i d
      cases d <;> simp_all [LoadFault.problem?]

/-- The section of a file breaks off exactly at what makes its text unreadable. -/
theorem breaks_contents_iff (path : Path) (text : String) :
    Breaks (contents host path text) ↔ Unreadable host path text := by
  unfold contents
  cases hpath : isYaml path with
  | true => rw [if_pos rfl, breaks_yamlSection_iff hpath]
  | false => rw [if_neg Bool.false_ne_true, breaks_tomlSection_iff hpath]

end ConfigFile

/-! ## Data -/

namespace Data

variable {fits : Nat → Data → Bool} {depth : Nat}

/-- What stands in the way of filling in a value that lies so many collections deep: some part of it
does not fit on the stack or is a part of itself, or a name in a placeholder cannot be encoded. -/
inductive Hindered (fits : Nat → Data → Bool) : Nat → Data → Prop
  | room {depth : Nat} {d : Data} (h : fits depth d = false) : Hindered fits depth d
  | loop {depth : Nat} {isMapping : Bool} : Hindered fits depth (.loop isMapping)
  | name {depth : Nat} {t : TornText} {pieces : List TornPiece} {glyphs : List Glyph}
      (hcut : TornPiece.Cut t.glyphs pieces) (hmem : .placeholder glyphs ∈ pieces)
      (h : Glyph.nameBytes? glyphs = none) : Hindered fits depth (.torn t)
  | item {depth : Nat} {items : List Data} {d : Data} (hd : d ∈ items)
      (h : Hindered fits (depth + 1) d) : Hindered fits depth (.list items)
  | value {depth : Nat} {entries : List DataEntry} {e : DataEntry} (he : e ∈ entries)
      (h : Hindered fits (depth + 1) e.value) : Hindered fits depth (.mapping entries)

theorem hindered_torn_iff {t : TornText} : Hindered fits depth (.torn t) ↔
    fits depth (.torn t) = false ∨ t.pieces.all TornPiece.isAskable = false := by
  have hcut : TornPiece.Cut t.glyphs t.pieces := TornPiece.cut_iff.mpr rfl
  constructor
  · intro h
    cases h with
    | room h => exact .inl h
    | name hcut' hmem h =>
      rw [TornPiece.cut_iff.mp hcut'] at hmem
      refine .inr (List.all_eq_false.mpr ⟨_, hmem, ?_⟩)
      simp [TornPiece.isAskable, h]
  · rintro (h | h)
    · exact .room h
    · obtain ⟨p, hp, hask⟩ := List.all_eq_false.mp h
      cases p with
      | glyph g => exact absurd rfl hask
      | placeholder glyphs => exact .name hcut hp (by simpa [TornPiece.isAskable] using hask)

mutual
theorem hindrance?_ne_none_iff : (d : Data) → (depth : Nat) →
    (d.hindrance? fits depth ≠ none ↔ Hindered fits depth d)
  | .loop _, _ => by simp [hindrance?, Hindered.loop]
  | .torn t, depth => by
    rw [hindered_torn_iff, hindrance?]
    cases fits depth (.torn t) <;> cases t.pieces.all TornPiece.isAskable <;> simp
  | .list items, depth => by
    rw [hindrance?]
    cases hfits : fits depth (.list items) with
    | false => simp [Hindered.room hfits]
    | true =>
      rw [if_pos rfl, hindranceIn?_ne_none_iff items (depth + 1)]
      constructor
      · rintro ⟨d, hd, h⟩
        exact .item hd h
      · intro h
        cases h with
        | room h => rw [hfits] at h; cases h
        | item hd h => exact ⟨_, hd, h⟩
  | .mapping entries, depth => by
    rw [hindrance?]
    cases hfits : fits depth (.mapping entries) with
    | false => simp [Hindered.room hfits]
    | true =>
      rw [if_pos rfl, entriesHindrance?_ne_none_iff entries (depth + 1)]
      constructor
      · rintro ⟨e, he, h⟩
        exact .value he h
      · intro h
        cases h with
        | room h => rw [hfits] at h; cases h
        | value he h => exact ⟨_, he, h⟩
  | .null, depth | .bool _, depth | .int _, depth | .float _, depth | .text _, depth
  | .instant _, depth | .bytes _, depth | .tuple _, depth | .set _, depth
  | .frozenSet _, depth => by
    simp only [hindrance?, ne_eq, ite_eq_left_iff, reduceCtorEq, imp_false, Bool.not_eq_true,
      Classical.not_not]
    constructor
    · exact .room
    · rintro ⟨h⟩
      exact h

theorem hindranceIn?_ne_none_iff : (items : List Data) → (depth : Nat) →
    (hindranceIn? fits depth items ≠ none ↔ ∃ d ∈ items, Hindered fits depth d)
  | [], _ => by simp [hindranceIn?]
  | d :: items, depth => by
    rw [List.exists_mem_cons_iff, ← hindrance?_ne_none_iff d depth,
      ← hindranceIn?_ne_none_iff items depth, hindranceIn?]
    cases d.hindrance? fits depth <;> simp

theorem entriesHindrance?_ne_none_iff : (entries : List DataEntry) → (depth : Nat) →
    (entriesHindrance? fits depth entries ≠ none ↔ ∃ e ∈ entries, Hindered fits depth e.value)
  | [], _ => by simp [entriesHindrance?]
  | ⟨key, value⟩ :: entries, depth => by
    rw [List.exists_mem_cons_iff, ← hindrance?_ne_none_iff value depth,
      ← entriesHindrance?_ne_none_iff entries depth, entriesHindrance?]
    cases value.hindrance? fits depth <;> simp
end

end Data

namespace ConfigFile

variable {host : Host}

theorem breaks_ofData_iff (env : Table String) (data : Data) (source : String) :
    Breaks (ofData host env data source) ↔ data.Hindered host.fits 0 ∨
      ∃ spec, ConfigSpec.ofData (data.fill env) = .ok spec ∧ spec.Unshowable := by
  rw [← Data.hindrance?_ne_none_iff]
  unfold ofData
  cases data.hindrance? host.fits 0 with
  | some hindrance => cases hindrance <;> simp [LoadFault.problem?]
  | none =>
    cases ConfigSpec.ofData (data.fill env) with
    | error fields => simp [LoadFault.problem?]
    | ok spec =>
      simp only [Except.ok.injEq, exists_eq_left', ← ConfigSpec.exists_toConfig_eq_error_iff]
      cases hconfig : spec.toConfig with
      | ok c => simp
      | error p => cases hp : p.isWritable <;> simp [LoadFault.problem?, hp]

/-! ## Places -/

def Present (tree : FileTree String) (path : Path) : Prop :=
  tree.find path = .directory ∨ ∃ text, tree.find path = .file text

def Absent (tree : FileTree String) (path : Path) : Prop :=
  tree.find path = .missing ∨ tree.find path = .blocked

def Named (env : Table String) (path : Path) : Prop :=
  ∃ text, env.get? configPathVariable = some text ∧ text ≠ "" ∧ Path.ofText text = path

/-- The file that is loaded: the one at the given path; without one, the one that the environment
names if it is there; else the project file if it is there. -/
inductive Chosen (tree : FileTree String) (env : Table String) : Option Path → Path → Prop
  | given (p : Path) : Chosen tree env (some p) p
  | named {p : Path} (hp : Named env p) (hthere : Present tree p) : Chosen tree env none p
  | project (hnamed : ∀ p, Named env p → Absent tree p) (hthere : Present tree projectFile) :
    Chosen tree env none projectFile

/-- What stands in the way of loading the file at a path. -/
inductive Unusable (host : Host) (tree : FileTree String) (env : Table String) (path : Path) : Prop
  | tooLong (h : tree.find path = .tooLong)
  | directory (h : tree.find path = .directory)
  | text {text : String} (htext : tree.find path = .file text) (h : Unreadable host path text)
  /-- The section cannot be filled in. -/
  | data {text : String} {data : Data} (htext : tree.find path = .file text)
      (hdata : contents host path text = .ok data) (h : data.Hindered host.fits 0)
  /-- The specification is refused for a number that cannot be shown. -/
  | spec {text : String} {data : Data} {spec : ConfigSpec} (htext : tree.find path = .file text)
      (hdata : contents host path text = .ok data)
      (hspec : ConfigSpec.ofData (data.fill env) = .ok spec) (h : spec.Unshowable)

/-- What stands in the way of loading a configuration. -/
inductive Unloadable (host : Host) (tree : FileTree String) (env : Table String) :
    Option Path → Prop
  /-- Whether there is something at the path that the environment names cannot be asked. -/
  | named {p : Path} (hp : Named env p) (hlong : tree.find p = .tooLong) :
    Unloadable host tree env none
  | chosen {path : Option Path} {p : Path} (hp : Chosen tree env path p)
      (h : Unusable host tree env p) : Unloadable host tree env path

variable {tree : FileTree String} {env : Table String}

theorem isThere_of_present {p : Path} (h : Present tree p) : isThere tree p = .ok true := by
  rcases h with h | ⟨text, h⟩ <;> rw [isThere, h]

theorem isThere_of_absent {p : Path} (h : Absent tree p) : isThere tree p = .ok false := by
  rcases h with h | h <;> rw [isThere, h]

theorem isThere_of_tooLong {p : Path} (h : tree.find p = .tooLong) :
    isThere tree p = .error (.nameTooLong p.toText) := by
  rw [isThere, h]

theorem present_or_absent_or_tooLong (tree : FileTree String) (p : Path) :
    Present tree p ∨ Absent tree p ∨ tree.find p = .tooLong := by
  unfold Present Absent
  cases tree.find p <;> simp

theorem entry_ne_tooLong (p : Path) : tree.entry p ≠ .tooLong := by
  unfold FileTree.entry
  split
  · exact nofun
  · split <;> exact nofun

/-- The name of the project file is short enough to be asked about in any tree. -/
theorem find_projectFile_ne_tooLong : tree.find projectFile ≠ .tooLong := by
  have hnull : projectFile.hasNull = false := by decide
  have hlength : ¬ FileTree.pathLimit < projectFile.toText.utf8ByteSize := by decide
  rw [FileTree.find, hnull, if_neg Bool.false_ne_true, if_neg hlength]
  split
  · rw [show projectFile.names = ["pyproject.toml"] from rfl, FileTree.follow]
    split
    · rw [if_neg (by decide), if_neg (by decide), FileTree.follow]
      exact entry_ne_tooLong _
    · exact nofun
    · exact entry_ne_tooLong _
  · exact entry_ne_tooLong _

theorem Path.ofText?_eq_some_iff {text : String} {p : Path} :
    Path.ofText? text = some p ↔ text ≠ "" ∧ Path.ofText text = p := by
  by_cases htext : text = "" <;> simp [Path.ofText?, htext]

theorem named_iff (p : Path) :
    Named env p ↔ (env.get? configPathVariable).bind Path.ofText? = some p := by
  simp only [Named, Option.bind_eq_some_iff, Path.ofText?_eq_some_iff]

theorem discover_of_tooLong {p : Path} (hp : Named env p) (h : tree.find p = .tooLong) :
    discover tree env = .error (.nameTooLong p.toText) := by
  simp only [discover, (named_iff p).mp hp, isThere_of_tooLong h]
  rfl

theorem discover_of_absent (h : ∀ p, Named env p → Absent tree p) : discover tree env = (do
    return if ← isThere tree projectFile then some projectFile else none) := by
  unfold discover
  split
  · rename_i p hp
    rw [isThere_of_absent (h p ((named_iff p).mpr hp))]
    rfl
  · rfl

theorem Chosen.discover_eq {p : Path} (h : Chosen tree env none p) :
    discover tree env = .ok (some p) := by
  cases h with
  | named hp hthere =>
    simp only [discover, (named_iff p).mp hp, isThere_of_present hthere]
    rfl
  | project hnamed hthere =>
    rw [discover_of_absent hnamed, isThere_of_present hthere]
    rfl

/-- Looking for a file breaks off at an overlong name, finds the file that is chosen, or finds
nothing. -/
theorem discover_cases (tree : FileTree String) (env : Table String) :
    (∃ p, Named env p ∧ tree.find p = .tooLong) ∨ (∃ p, Chosen tree env none p) ∨
      discover tree env = .ok none := by
  by_cases habsent : ∀ p, Named env p → Absent tree p
  · rcases present_or_absent_or_tooLong tree projectFile with hp | hp | hlong
    · exact .inr (.inl ⟨_, .project habsent hp⟩)
    · refine .inr (.inr ?_)
      rw [discover_of_absent habsent, isThere_of_absent hp]
      rfl
    · exact absurd hlong find_projectFile_ne_tooLong
  · simp only [Classical.not_forall] at habsent
    obtain ⟨p, hnamed, hp⟩ := habsent
    rcases present_or_absent_or_tooLong tree p with hthere | ha | hlong
    · exact .inr (.inl ⟨p, .named hnamed hthere⟩)
    · exact absurd ha hp
    · exact .inl ⟨p, hnamed, hlong⟩

theorem breaks_ofFile_iff (p : Path) :
    Breaks (ofFile host tree env p) ↔ Unusable host tree env p := by
  constructor
  · intro h
    unfold ofFile at h
    dsimp only at h
    split at h
    · rename_i text htext
      rw [breaks_bind_iff, breaks_contents_iff] at h
      rcases h with h | ⟨data, hdata, h⟩
      · exact .text htext h
      · rcases (breaks_ofData_iff env data _).mp h with h | ⟨spec, hspec, hshown⟩
        · exact .data htext hdata h
        · exact .spec htext hdata hspec hshown
    · exact .directory ‹_›
    · exact .tooLong ‹_›
    · exact absurd ((breaks_error_iff _).mp h) nofun
    · exact absurd ((breaks_error_iff _).mp h) nofun
  · intro h
    unfold ofFile
    cases h with
    | tooLong h => rw [h]; exact (breaks_error_iff _).mpr rfl
    | directory h => rw [h]; exact (breaks_error_iff _).mpr rfl
    | text htext h =>
      rw [htext]
      exact (breaks_bind_iff _ _).mpr (.inl ((breaks_contents_iff p _).mpr h))
    | data htext hdata h =>
      rw [htext]
      exact (breaks_bind_iff _ _).mpr (.inr ⟨_, hdata, (breaks_ofData_iff env _ _).mpr (.inl h)⟩)
    | spec htext hdata hspec h =>
      rw [htext]
      exact (breaks_bind_iff _ _).mpr
        (.inr ⟨_, hdata, (breaks_ofData_iff env _ _).mpr (.inr ⟨_, hspec, h⟩)⟩)

theorem Chosen.load_eq {given : Option Path.Given} {p : Path}
    (h : Chosen tree env (given.bind Path.Given.path?) p) :
    load host tree env given = ofFile host tree env p := by
  rw [load]
  cases hgiven : given.bind Path.Given.path? with
  | some q =>
    rw [hgiven] at h
    cases h
    rfl
  | none =>
    rw [hgiven] at h
    exact congrArg (· >>= _) h.discover_eq

theorem load_eq_of_not_given {given : Option Path.Given} (h : given.bind Path.Given.path? = none) :
    load host tree env given = (do
      match ← discover tree env with
      | some p => ofFile host tree env p
      | none => return {}) := by
  unfold load
  split
  · next hsome =>
    rw [h] at hsome
    cases hsome
  · rfl

theorem breaks_load_iff (given : Option Path.Given) :
    Breaks (load host tree env given) ↔ Unloadable host tree env (given.bind Path.Given.path?) := by
  constructor
  · intro h
    cases hgiven : given.bind Path.Given.path? with
    | some p =>
      have hp : Chosen tree env (given.bind Path.Given.path?) p := hgiven ▸ .given p
      exact .chosen (.given p) ((breaks_ofFile_iff p).mp (hp.load_eq ▸ h))
    | none =>
      -- the project file is last in the search and its name is short, so only the named path breaks
      rcases discover_cases tree env with ⟨p, hp, hlong⟩ | ⟨p, hp⟩ | hnothing
      · exact .named hp hlong
      · have hchosen : Chosen tree env (given.bind Path.Given.path?) p := hgiven ▸ hp
        exact .chosen hp ((breaks_ofFile_iff p).mp (hchosen.load_eq ▸ h))
      · rw [load_eq_of_not_given hgiven, hnothing] at h
        exact absurd h (breaks_ok _)
  · intro h
    generalize hpath : given.bind Path.Given.path? = path at h
    cases h with
    | named hp hlong =>
      rw [load_eq_of_not_given hpath, discover_of_tooLong hp hlong]
      exact (breaks_error_iff _).mpr rfl
    | chosen hp h =>
      subst hpath
      rw [hp.load_eq]
      exact (breaks_ofFile_iff _).mpr h

/-- Loading answers with a configuration, or with a problem against a source, exactly if nothing
that is unloadable stands in its way. -/
theorem load_answers_iff (host : Host) (tree : FileTree String) (env : Table String)
    (given : Option Path.Given) :
    ((∃ c, load host tree env given = .ok c) ∨ ∃ f source reason,
        load host tree env given = .error f ∧ f.problem? = some (.configuration source reason)) ↔
      ¬ Unloadable host tree env (given.bind Path.Given.path?) := by
  rw [answers_iff, breaks_load_iff]

/-- A file whose `tool` is a number is met with no answer. -/
theorem load_unanswered_tool_number :
    let tree : FileTree String := { files := [(.ofText "gqlint.toml", "tool = 1\n")] }
    let given : Path.Given := .text "gqlint.toml"
    ¬ ((∃ c, load .standard tree {} (some given) = .ok c) ∨ ∃ f source reason,
      load .standard tree {} (some given) = .error f
        ∧ f.problem? = some (.configuration source reason)) := by
  intro tree given h
  have htool : ((Host.standard.toml "tool = 1\n").toOption.bind (Data.lookup "tool")).bind
      Data.toInt? = some 1 := by decide +kernel
  obtain ⟨d, hd, hone⟩ := Option.bind_eq_some_iff.mp htool
  obtain ⟨entries, hentries, hlookup⟩ := Option.bind_eq_some_iff.mp hd
  have hparse : Host.standard.toml "tool = 1\n" = .ok entries := by
    cases hresult : Host.standard.toml "tool = 1\n" with
    | error f => rw [hresult] at hentries; cases hentries
    | ok es => rw [hresult] at hentries; cases hentries; rfl
  have hunreadable : Unreadable .standard (.ofText "gqlint.toml") "tool = 1\n" :=
    .tool (by decide +kernel) hparse hlookup (by rintro tools rfl; cases hone)
  have hfile : tree.find (.ofText "gqlint.toml") = .file "tool = 1\n" := by decide +kernel
  exact (load_answers_iff .standard tree {} (some given)).mp h
    (.chosen (.given _) (.text hfile hunreadable))

end ConfigFile

end QueryLint
