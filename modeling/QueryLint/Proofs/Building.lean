import QueryLint.Proofs.Entries
import QueryLint.Proofs.Loading

/-! # Configurations of specifications

A specification is refused if it asks for an unknown preset or sets a limit below zero. Otherwise
its settings, its rules and its disabled rules lie over the preset in this order: a setting or rule
that it tells of replaces the one of the preset as a whole, and a disabled rule keeps its severity.
What is read from data tells of no setting and no rule twice, so the order within it does not
matter.
-/

namespace QueryLint

namespace Preset

/-- There is a preset of that name, in any case and with blanks around it. -/
def Known (name : String) : Prop :=
  String.ofList (Text.lower (Text.strip name.toList)) ∈ all.map (·.1)

instance (name : String) : Decidable (Known name) :=
  inferInstanceAs (Decidable (_ ∈ _))

theorem exists_find_eq_error_iff {name : String} :
    (∃ p, find name = .error p) ↔ ¬ Known name := by
  unfold find Known
  cases hc : all.lookup (String.ofList (Text.lower (Text.strip name.toList))) with
  | some c =>
    obtain ⟨l, r, hl, -⟩ := List.lookup_eq_some_iff.mp hc
    simp [hl]
  | none =>
    rw [List.lookup_eq_none_iff] at hc
    simp only [Except.error.injEq, exists_eq', true_iff, List.mem_map, not_exists, not_and]
    intro e he heq
    simpa [heq] using hc e he

end Preset

/-! ## Settings of the schema -/

def SettingValue.kept : SettingValue → Data
  | flag b => .bool b
  | count n => .int n
  | terms ts => .frozenSet (Data.dedup (ts.map Data.text))

theorem Config.eq_kept_of_normalize {key : String} {v : SettingValue} {d : Data}
    (h : Config.normalize key v.toData = .ok d) : d = v.kept := by
  cases v with
  | flag b => exact (Except.ok.inj h).symm
  | count n =>
    rw [SettingValue.toData, Config.normalize] at h
    split at h
    · cases h
    · exact (Except.ok.inj h).symm
  | terms ts =>
    rw [SettingValue.toData, Config.normalize] at h
    split at h
    · exact (Except.ok.inj h).symm
    · cases h

/-! ## Rules laid over rules -/

namespace Config

theorem setRules_eq (c : Config) (switches : List (String × RuleSwitch)) :
    c.setRules switches = { c with rules := c.rules.insertAll ⟨switches⟩ } := by
  unfold setRules
  induction switches generalizing c with
  | nil => rfl
  | cons s switches ih =>
    rw [List.foldl_cons, ih]
    rfl

theorem disableRules_eq (c : Config) (ids : List String) :
    c.disableRules ids = { c with rules := (c.disableRules ids).rules } := by
  unfold disableRules
  induction ids generalizing c with
  | nil => rfl
  | cons id ids ih =>
    rw [List.foldl_cons, ih]
    rfl

theorem get?_rules_disableRules (c : Config) (ids : List String) (id : String) :
    (c.disableRules ids).rules.get? id
      = if id ∈ ids then some { c.ruleSwitch id with enabled := false } else c.rules.get? id := by
  unfold disableRules
  induction ids generalizing c with
  | nil => simp
  | cons first ids ih =>
    rw [List.foldl_cons, ih]
    by_cases hid : id = first
    · simp [hid, disableRule, setRule, ruleSwitch]
    · simp [hid, disableRule, setRule, ruleSwitch]

end Config

namespace ConfigSpec

open Config (Same)

variable {s s' : ConfigSpec} {base a b c : Config} {d : Data}

/-! ## Specifications that are refused -/

def AsksUnknown (s : ConfigSpec) : Prop :=
  ∃ name, s.preset = some name ∧ name ≠ "" ∧ ¬ Preset.Known name

def SetsNegative (s : ConfigSpec) : Prop :=
  ∃ key n, (key, .count n) ∈ s.settings ∧ n < 0

theorem SetsNegative.exists_first (h : s.SetsNegative) : ∃ key n, s.FirstNegative key n := by
  obtain ⟨key, n, hmem, hn⟩ := h
  have hsome : (s.settings.findSome? fun e => e.2.refusal? e.1).isSome := by
    rw [List.findSome?_isSome_iff]
    exact ⟨_, hmem, by simp [SettingValue.refusal?, hn]⟩
  obtain ⟨p, hp⟩ := Option.isSome_iff_exists.mp hsome
  obtain ⟨key, n, hfirst, -⟩ := (findSome?_refusal?_iff s p).mp hp
  exact ⟨key, n, hfirst⟩

theorem toConfig_fails_iff (s : ConfigSpec) :
    (∃ p, s.toConfig = .error p) ↔ s.AsksUnknown ∨ s.SetsNegative := by
  simp only [toConfig_eq_error_iff]
  constructor
  · rintro ⟨p, ⟨name, hname, hne, hfind⟩ | ⟨-, key, n, ⟨hn, before, after, hs, -⟩, -⟩⟩
    · exact .inl ⟨name, hname, hne, Preset.exists_find_eq_error_iff.mp ⟨p, hfind⟩⟩
    · exact .inr ⟨key, n, by simp [hs], hn⟩
  · intro h
    by_cases hlacks : s.LacksPreset
    · obtain ⟨name, p, hname, hne, hfind⟩ := hlacks
      exact ⟨p, .inl ⟨name, hname, hne, hfind⟩⟩
    · rcases h with ⟨name, hname, hne, hunknown⟩ | hnegative
      · obtain ⟨p, hfind⟩ := Preset.exists_find_eq_error_iff.mpr hunknown
        exact absurd ⟨name, p, hname, hne, hfind⟩ hlacks
      · obtain ⟨key, n, hfirst⟩ := hnegative.exists_first
        exact ⟨_, .inr ⟨hlacks, key, n, hfirst, rfl⟩⟩

/-! ## The configuration of a specification -/

/-- The configuration that a specification is laid over: the defaults, or the preset it names. -/
inductive Ground (s : ConfigSpec) : Config → Prop
  | standard : (∀ name, s.preset = some name → name = "") → Ground s Config.standard
  | preset {name : String} {c : Config} :
      s.preset = some name → name ≠ "" → Preset.find name = .ok c → Ground s c

theorem ground_of_base (h : s.base = .ok base) : s.Ground base := by
  unfold ConfigSpec.base at h
  split at h
  · rename_i name hname
    by_cases hempty : name = ""
    · rw [if_pos hempty] at h
      obtain rfl := Except.ok.inj h
      refine .standard fun name' hname' => ?_
      rw [← Option.some.inj (hname.symm.trans hname'), hempty]
    · rw [if_neg hempty] at h
      exact .preset hname hempty h
  · rename_i hname
    obtain rfl := Except.ok.inj h
    exact .standard fun name hname' => by simp [hname] at hname'

/-- No setting and no rule is told of twice. -/
structure Distinct (s : ConfigSpec) : Prop where
  settings : (s.settings.map (·.1)).Nodup
  rules : (s.rules.map (·.1)).Nodup

/-- The settings, the rules and the disabled rules of a specification lie over a configuration. -/
structure LaidOut (s : ConfigSpec) (base c : Config) : Prop where
  set : ∀ k v, (k, v) ∈ s.settings → c.settings.get? k = some v.kept
  unset : ∀ k, k ∉ s.settings.map (·.1) → c.settings.get? k = base.settings.get? k
  explicit : ∀ k, k ∈ c.explicit ↔ k ∈ base.explicit ∨ k ∈ s.settings.map (·.1)
  disabled : ∀ id switch, id ∈ s.disable → (id, switch) ∈ s.rules →
    c.rules.get? id = some { enabled := false, severity := switch.severity }
  disabledBelow : ∀ id, id ∈ s.disable → id ∉ s.rules.map (·.1) →
    c.rules.get? id = some { enabled := false, severity := (base.ruleSwitch id).severity }
  switched : ∀ id switch, id ∉ s.disable → (id, switch) ∈ s.rules → c.rules.get? id = some switch
  below : ∀ id, id ∉ s.disable → id ∉ s.rules.map (·.1) → c.rules.get? id = base.rules.get? id

theorem toConfig_eq_ok (h : s.toConfig = .ok c) : ∃ base d, s.base = .ok base ∧
    base.setAll (s.settings.map fun e => (e.1, e.2.toData)) = .ok d ∧
      c = (d.setRules s.rules).disableRules s.disable := by
  unfold toConfig at h
  cases hbase : s.base with
  | error p => simp [hbase, bind, Except.bind] at h
  | ok base =>
    simp only [hbase, bind, Except.bind] at h
    split at h
    · rename_i d hupdate
      exact ⟨base, d, rfl, Config.update_eq_none_iff.mp hupdate, (Except.ok.inj h).symm⟩
    · cases h

theorem laidOut_of_toConfig (hs : s.Distinct) (h : s.toConfig = .ok c) :
    ∃ base, s.base = .ok base ∧ s.LaidOut base c := by
  obtain ⟨base, d, hbase, hset, rfl⟩ := toConfig_eq_ok h
  have hkeys : (s.settings.map fun e => (e.1, e.2.toData)).map (·.1) = s.settings.map (·.1) := by
    simp
  have hlaid := Config.laid_of_setAll (hkeys ▸ hs.settings) hset
  have hrules : ∀ id, ((d.setRules s.rules).disableRules s.disable).rules.get? id
      = if id ∈ s.disable then
          some { ((Table.find? id s.rules).or (base.rules.get? id)).getD {} with enabled := false }
        else (Table.find? id s.rules).or (base.rules.get? id) := by
    intro id
    have hget : (d.setRules s.rules).rules.get? id
        = (Table.find? id s.rules).or (base.rules.get? id) := by
      have htable : (Table.mk s.rules).Distinct := hs.rules
      rw [Config.setRules_eq, Table.get?_insertAll htable, hlaid.rules]
      rfl
    rw [Config.get?_rules_disableRules, Config.ruleSwitch, hget]
  have hfind : ∀ id switch, (id, switch) ∈ s.rules → Table.find? id s.rules = some switch :=
    fun id switch => (Table.Distinct.mem_entries_iff (t := ⟨s.rules⟩) hs.rules).mp
  refine ⟨base, hbase, ?_⟩
  constructor
  · intro k v hmem
    rw [Config.disableRules_eq, Config.setRules_eq]
    obtain ⟨w, hw, hget⟩ := hlaid.taken k v.toData (List.mem_map.mpr ⟨_, hmem, rfl⟩)
    rw [← Config.eq_kept_of_normalize hw]
    exact hget
  · intro k hk
    rw [Config.disableRules_eq, Config.setRules_eq]
    exact hlaid.kept k (hkeys ▸ hk)
  · intro k
    rw [Config.disableRules_eq, Config.setRules_eq, ← hkeys]
    exact hlaid.explicit k
  · intro id switch hid hmem
    rw [hrules, if_pos hid, hfind id switch hmem]
    rfl
  · intro id hid hnew
    rw [hrules, if_pos hid, Table.find?_eq_none_iff.mpr hnew]
    rfl
  · intro id switch hid hmem
    rw [hrules, if_neg hid, hfind id switch hmem]
    rfl
  · intro id hid hnew
    rw [hrules, if_neg hid, Table.find?_eq_none_iff.mpr hnew]
    rfl

/-! ## Order within a specification -/

/-- The same preset, settings and rules, in any order, and the same disabled rules, in any order and
number. -/
structure Reordered (s s' : ConfigSpec) : Prop where
  preset : s.preset = s'.preset
  settings : s.settings.Perm s'.settings
  rules : s.rules.Perm s'.rules
  disable : ∀ id, id ∈ s.disable ↔ id ∈ s'.disable

theorem Reordered.distinct (h : Reordered s s') (hs : s.Distinct) : s'.Distinct :=
  ⟨(h.settings.map _).nodup_iff.mp hs.settings, (h.rules.map _).nodup_iff.mp hs.rules⟩

theorem Reordered.base_eq (h : Reordered s s') : s.base = s'.base := by
  unfold ConfigSpec.base
  rw [h.preset]

theorem Reordered.fails_iff (h : Reordered s s') :
    (∃ p, s.toConfig = .error p) ↔ ∃ p, s'.toConfig = .error p := by
  rw [toConfig_fails_iff, toConfig_fails_iff]
  unfold AsksUnknown SetsNegative
  simp only [h.preset, h.settings.mem_iff]

theorem LaidOut.of_reordered (hc : s.LaidOut base c) (h : Reordered s s') : s'.LaidOut base c := by
  have hsettings : ∀ k, k ∈ s.settings.map (·.1) ↔ k ∈ s'.settings.map (·.1) :=
    fun k => (h.settings.map _).mem_iff
  have hrules : ∀ k, k ∈ s.rules.map (·.1) ↔ k ∈ s'.rules.map (·.1) :=
    fun k => (h.rules.map _).mem_iff
  constructor
  · intro k v hmem
    exact hc.set k v (h.settings.mem_iff.mpr hmem)
  · intro k hk
    exact hc.unset k (mt (hsettings k).mp hk)
  · intro k
    rw [hc.explicit, hsettings]
  · intro id switch hid hmem
    exact hc.disabled id switch ((h.disable id).mpr hid) (h.rules.mem_iff.mpr hmem)
  · intro id hid hnew
    exact hc.disabledBelow id ((h.disable id).mpr hid) (mt (hrules id).mp hnew)
  · intro id switch hid hmem
    exact hc.switched id switch (mt (h.disable id).mp hid) (h.rules.mem_iff.mpr hmem)
  · intro id hid hnew
    exact hc.below id (mt (h.disable id).mp hid) (mt (hrules id).mp hnew)

theorem LaidOut.same (ha : s.LaidOut base a) (hb : s.LaidOut base b) : Same a b := by
  constructor
  · intro k
    by_cases hk : k ∈ s.settings.map (·.1)
    · obtain ⟨⟨_, v⟩, hmem, rfl⟩ := List.mem_map.mp hk
      rw [ha.set _ v hmem, hb.set _ v hmem]
    · rw [ha.unset k hk, hb.unset k hk]
  · intro k
    rw [ha.explicit, hb.explicit]
  · intro id
    by_cases hid : id ∈ s.disable <;> by_cases hk : id ∈ s.rules.map (·.1)
    · obtain ⟨⟨_, switch⟩, hmem, rfl⟩ := List.mem_map.mp hk
      rw [ha.disabled _ switch hid hmem, hb.disabled _ switch hid hmem]
    · rw [ha.disabledBelow id hid hk, hb.disabledBelow id hid hk]
    · obtain ⟨⟨_, switch⟩, hmem, rfl⟩ := List.mem_map.mp hk
      rw [ha.switched _ switch hid hmem, hb.switched _ switch hid hmem]
    · rw [ha.below id hid hk, hb.below id hid hk]

/-! ## Specifications read from data -/

theorem both_eq_ok {α β : Type} {v : Validation α} {w : Validation β} {r : α × β}
    (h : Validation.both v w = .ok r) : v = .ok r.1 ∧ w = .ok r.2 := by
  unfold Validation.both at h
  split at h
  · obtain rfl := Except.ok.inj h
    exact ⟨rfl, rfl⟩
  all_goals cases h

theorem map_eq_ok {α β : Type} {f : α → β} {v : Validation α} {r : β} (h : v.map f = .ok r) :
    ∃ x, v = .ok x ∧ f x = r := by
  cases v with
  | error e => cases h
  | ok x => exact ⟨x, rfl, Except.ok.inj h⟩

theorem nodup_table {α : Type} {path : FieldPath} {read : FieldPath → Data → Validation α}
    {entries : List (String × α)} (h : table path read d = .ok entries) :
    (entries.map (·.1)).Nodup := by
  cases d with
  | mapping es =>
    obtain ⟨read, -, rfl⟩ := map_eq_ok h
    exact Table.distinct_ofList read
  | _ => cases h

theorem nodup_optional {α : Type} {read : Data → Validation (List (String × α))}
    (hread : ∀ d entries, read d = .ok entries → (entries.map (·.1)).Nodup) {es : List DataEntry}
    {key : String} {entries : List (String × α)} (h : optional read [] es key = .ok entries) :
    (entries.map (·.1)).Nodup := by
  unfold optional at h
  split at h
  · exact hread _ _ h
  · obtain rfl := Except.ok.inj h
    exact List.nodup_nil

/-- Data that obeys the schema tells of nothing twice. -/
theorem distinct_of_ofData (h : ofData d = .ok s) : s.Distinct := by
  cases d with
  | mapping es =>
    unfold ofData at h
    dsimp only at h
    cases hread : Validation.both (unknownKeys [] ["preset", "settings", "rules", "disable"] es)
        (Validation.both (optional readPreset none es "preset")
          (Validation.both (optional readSettings [] es "settings")
            (Validation.both (optional readRules [] es "rules")
              (optional readDisable [] es "disable")))) with
    | error paths =>
      rw [hread] at h
      cases h
    | ok r =>
      rw [hread] at h
      obtain rfl := Except.ok.inj h
      obtain ⟨-, hrest⟩ := both_eq_ok hread
      obtain ⟨-, hrest⟩ := both_eq_ok hrest
      obtain ⟨hsettings, hrest⟩ := both_eq_ok hrest
      obtain ⟨hrules, -⟩ := both_eq_ok hrest
      exact ⟨nodup_optional (fun _ _ => nodup_table) hsettings,
        nodup_optional (fun _ _ => nodup_table) hrules⟩
  | _ => cases h

/-- A specification that tells of nothing twice is refused exactly if it asks for an unknown preset
or sets a negative limit, and otherwise lies over its preset or the defaults, whatever the order of
what it tells. -/
theorem toConfig_lies_over_ground (hs : s.Distinct) :
    ((∃ p, s.toConfig = .error p) ↔ s.AsksUnknown ∨ s.SetsNegative) ∧
      (¬ (s.AsksUnknown ∨ s.SetsNegative) →
        ∃ base c, s.Ground base ∧ s.toConfig = .ok c ∧ s.LaidOut base c) ∧
      ∀ s', Reordered s s' →
        ((∃ p, s.toConfig = .error p) ↔ ∃ p, s'.toConfig = .error p) ∧
          ∀ c c', s.toConfig = .ok c → s'.toConfig = .ok c' → Same c c' := by
  refine ⟨toConfig_fails_iff s, fun hfine => ?_, fun s' h => ⟨h.fails_iff, fun c c' hc hc' => ?_⟩⟩
  · rw [← toConfig_fails_iff] at hfine
    cases hconfig : s.toConfig with
    | error p => exact absurd ⟨p, hconfig⟩ hfine
    | ok c =>
      obtain ⟨base, hbase, hlaid⟩ := laidOut_of_toConfig hs hconfig
      exact ⟨base, c, ground_of_base hbase, rfl, hlaid⟩
  · obtain ⟨base, hbase, hlaid⟩ := laidOut_of_toConfig hs hc
    obtain ⟨base', hbase', hlaid'⟩ := laidOut_of_toConfig (h.distinct hs) hc'
    rw [h.base_eq] at hbase
    obtain rfl := Except.ok.inj (hbase.symm.trans hbase')
    exact (hlaid.of_reordered h).same hlaid'

/-- Data for a strict gate that tells of rules in three places. -/
def gateData : Data := .mapping
  [⟨.text "preset", .text "Strict"⟩,
   ⟨.text "settings", .mapping [⟨.text "maxDepth", .int 4⟩,
     ⟨.text "sensitiveFields", .list [.text "pin", .text "otp", .text "pin"]⟩]⟩,
   ⟨.text "rules", .mapping [⟨.text "STYLE", .mapping [⟨.text "severity", .text "warn"⟩]⟩,
     ⟨.text "PERFORMANCE", .mapping [⟨.text "enabled", .text "off"⟩]⟩]⟩,
   ⟨.text "disable", .list [.text "BEST_PRACTICE", .text "STYLE", .text "STYLE"]⟩]

theorem toConfig_lies_over_ground_gate : ∃ s, ofData gateData = .ok s ∧ s.Distinct ∧
    ∃ c, s.toConfig = .ok c ∧ s.LaidOut Preset.strict c ∧
      c.rules.get? "STYLE" = some { enabled := false, severity := some .warning } ∧
      c.rules.get? "BEST_PRACTICE" = some { enabled := false, severity := some .error } ∧
      c.rules.get? "PERFORMANCE" = some { enabled := false, severity := none } ∧
      c.rules.get? "SECURITY" = some { enabled := true, severity := some .error } := by
  let gate : ConfigSpec :=
    { preset := some "Strict"
      settings := [("maxDepth", .count 4), ("sensitiveFields", .terms ["pin", "otp", "pin"])]
      rules := [("STYLE", { severity := some .warning }), ("PERFORMANCE", { enabled := false })]
      disable := ["BEST_PRACTICE", "STYLE", "STYLE"] }
  have hdata : ofData gateData = .ok gate := rfl
  have hdistinct : gate.Distinct := distinct_of_ofData hdata
  have hfine : ¬ (gate.AsksUnknown ∨ gate.SetsNegative) := by
    rintro (⟨name, hname, -, hunknown⟩ | ⟨key, n, hmem, hn⟩)
    · obtain rfl := Option.some.inj hname
      exact hunknown (by decide)
    · simp only [gate, List.mem_cons, Prod.mk.injEq, SettingValue.count.injEq, reduceCtorEq,
        and_false, List.not_mem_nil, or_false] at hmem
      omega
  obtain ⟨base, c, hground, hconfig, hlaid⟩ := (toConfig_lies_over_ground hdistinct).2.1 hfine
  obtain rfl : base = Preset.strict := by
    cases hground with
    | standard hnone => exact absurd (hnone "Strict" rfl) (by decide)
    | preset hname _ hfind =>
      obtain rfl := Option.some.inj hname
      exact (Except.ok.inj hfind).symm
  refine ⟨gate, hdata, hdistinct, c, hconfig, hlaid, ?_, ?_, ?_, ?_⟩
  · exact hlaid.disabled "STYLE" { severity := some .warning } (by decide) (by decide)
  · exact hlaid.disabledBelow "BEST_PRACTICE" (by decide) (by decide)
  · exact hlaid.switched "PERFORMANCE" { enabled := false } (by decide) (by decide)
  · exact hlaid.below "SECURITY" (by decide) (by decide)

end ConfigSpec

end QueryLint
