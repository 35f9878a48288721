import QueryLint.Preset
import QueryLint.Proofs.Keys

/-! # Layers of configurations

However a configuration came about, the settings it holds besides the defaults are those it
remembers as explicit. So laying configurations over each other is associative, and neither the
defaults nor a second layer of the same configuration change anything.
-/

namespace QueryLint.Config

/-- Two configurations say the same: equal settings, the same of them explicit, equal switches. -/
structure Same (a b : Config) : Prop where
  settings : ∀ k, a.settings.get? k = b.settings.get? k
  explicit : ∀ k, k ∈ a.explicit ↔ k ∈ b.explicit
  rules : ∀ id, a.rules.get? id = b.rules.get? id

/-- The configurations that can come about. A copy is the same configuration again; an update that
is refused midway keeps what it has set. -/
inductive Reachable : Config → Prop
  | standard : Reachable standard
  | preset {name : String} {c : Config} : Preset.find name = .ok c → Reachable c
  | ofSettings {entries : List (String × Data)} {c : Config}
      (switches : List (String × RuleSwitch)) :
      ofSettings entries = .ok c → Reachable (c.setRules switches)
  | set {c c' : Config} {key : String} {value : Data} :
      Reachable c → c.set key value = .ok c' → Reachable c'
  | update {c : Config} (entries : List (String × Data)) :
      Reachable c → Reachable (c.update entries).1
  | setRule {c : Config} (id : String) (switch : RuleSwitch) :
      Reachable c → Reachable (c.setRule id switch)
  | enableRule {c : Config} (id : String) : Reachable c → Reachable (c.enableRule id)
  | disableRule {c : Config} (id : String) : Reachable c → Reachable (c.disableRule id)
  | disableRules {c : Config} (ids : List String) : Reachable c → Reachable (c.disableRules ids)
  | merge {c other : Config} : Reachable c → Reachable other → Reachable (c.merge other)

/-! ## What is explicit -/

/-- All that differs from the defaults is recorded as explicit, and nothing is recorded that is not
there. -/
structure Recorded (c : Config) : Prop where
  present : ∀ k ∈ c.explicit, c.settings.contains k = true
  default : ∀ k ∉ c.explicit, c.settings.get? k = defaultSettings.get? k
  distinct : c.rules.Distinct

variable {a b c : Config} {k : String}

theorem mem_markExplicit {key : String} {keys : List String} :
    k ∈ markExplicit key keys ↔ k = key ∨ k ∈ keys := by
  unfold markExplicit
  split
  · have hkey : key ∈ keys := List.contains_iff_mem.mp ‹_›
    constructor
    · exact Or.inr
    · rintro (rfl | hk)
      · exact hkey
      · exact hk
  · rw [List.mem_append, List.mem_singleton, or_comm]

theorem recorded_standard : standard.Recorded where
  present := nofun
  default := fun _ _ => rfl
  distinct := Table.distinct_empty

theorem Recorded.set {key : String} {value : Data} (h : a.Recorded) (hs : a.set key value = .ok c) :
    c.Recorded := by
  obtain ⟨v, -, rfl⟩ : ∃ v, normalize key value = .ok v ∧ c = { a with
      settings := a.settings.insert key v, explicit := markExplicit key a.explicit } := by
    unfold Config.set at hs
    cases hn : normalize key value with
    | error p => simp [hn, bind, Except.bind] at hs
    | ok v =>
      rw [hn] at hs
      exact ⟨v, rfl, (Except.ok.inj hs).symm⟩
  refine ⟨fun k hk => ?_, fun k hk => ?_, h.distinct⟩
  · rw [Table.contains, Table.get?_insert]
    split
    · rfl
    · exact h.present k ((mem_markExplicit.mp hk).resolve_left ‹_›)
  · rw [mem_markExplicit, not_or] at hk
    rw [Table.get?_insert, if_neg hk.1]
    exact h.default k hk.2

theorem Recorded.update (h : c.Recorded) (entries : List (String × Data)) :
    (c.update entries).1.Recorded := by
  induction entries generalizing c with
  | nil => exact h
  | cons e entries ih =>
    obtain ⟨key, value⟩ := e
    rw [Config.update]
    cases hs : c.set key value with
    | ok c' => exact ih (h.set hs)
    | error p => exact h

theorem Recorded.setRule (h : c.Recorded) (id : String) (switch : RuleSwitch) :
    (c.setRule id switch).Recorded :=
  ⟨h.present, h.default, h.distinct.insert id switch⟩

theorem Recorded.setRules (h : c.Recorded) (switches : List (String × RuleSwitch)) :
    (c.setRules switches).Recorded := by
  unfold Config.setRules
  induction switches generalizing c with
  | nil => exact h
  | cons s switches ih => exact ih (h.setRule s.1 s.2)

theorem Recorded.disableRules (h : c.Recorded) (ids : List String) :
    (c.disableRules ids).Recorded := by
  unfold Config.disableRules
  induction ids generalizing c with
  | nil => exact h
  | cons id ids ih => exact ih (h.setRule id _)

theorem exists_mem_all_of_find {name : String} (h : Preset.find name = .ok c) :
    ∃ key, (key, c) ∈ Preset.all := by
  unfold Preset.find at h
  split at h
  · rename_i c' hc
    obtain rfl := Except.ok.inj h
    obtain ⟨l, r, hl, -⟩ := List.lookup_eq_some_iff.mp hc
    exact ⟨_, hl ▸ List.mem_append_right _ List.mem_cons_self⟩
  · cases h

theorem recorded_of_find {name : String} (h : Preset.find name = .ok c) : c.Recorded := by
  have hall : ∀ e ∈ Preset.all, e.2.Recorded := by
    simp only [Preset.all, List.forall_mem_cons]
    refine ⟨?_, ?_, ?_, ?_, ?_, ?_, ?_, nofun⟩ <;>
      exact (recorded_standard.update _).setRules _
  obtain ⟨key, hmem⟩ := exists_mem_all_of_find h
  exact hall (key, c) hmem

/-! ## Laying one configuration over another -/

theorem mem_explicit_merge (a b : Config) :
    k ∈ (a.merge b).explicit ↔ k ∈ a.explicit ∨ k ∈ b.explicit := by
  unfold merge
  dsimp only
  generalize a.explicit = keys
  induction b.explicit generalizing keys with
  | nil => simp
  | cons key rest ih =>
    rw [List.foldl_cons, ih, mem_markExplicit, List.mem_cons, or_assoc, or_left_comm]

/-- Laying entries over a table one by one, each as far as it is there. -/
theorem get?_foldl_of_step {lay : Table Data → String → Table Data} (value : Option Data)
    (hlay : ∀ t key, (lay t key).get? k = if k = key then value.or (t.get? k) else t.get? k)
    (keys : List String) (t : Table Data) :
    (keys.foldl lay t).get? k = if k ∈ keys then value.or (t.get? k) else t.get? k := by
  induction keys generalizing t with
  | nil => rfl
  | cons key keys ih =>
    rw [List.foldl_cons, ih, hlay]
    by_cases hk : k = key
    · cases value <;> simp [hk]
    · simp [hk]

theorem get?_settings_merge (a : Config) (hb : b.Recorded) (k : String) :
    (a.merge b).settings.get? k
      = if k ∈ b.explicit then b.settings.get? k else a.settings.get? k := by
  refine (get?_foldl_of_step (b.settings.get? k) (fun t key => ?_) b.explicit a.settings).trans ?_
  · by_cases hk : k = key
    · subst hk
      cases b.settings.get? k <;> simp
    · cases b.settings.get? key <;> simp [hk]
  · split
    · obtain ⟨v, hv⟩ := Option.isSome_iff_exists.mp (hb.present k ‹_›)
      rw [hv, Option.some_or]
    · rfl

theorem get?_rules_merge (a : Config) (hb : b.Recorded) (id : String) :
    (a.merge b).rules.get? id = (b.rules.get? id).or (a.rules.get? id) :=
  Table.get?_insertAll hb.distinct a.rules id

theorem Recorded.merge (ha : a.Recorded) (hb : b.Recorded) : (a.merge b).Recorded where
  present := by
    intro k hk
    rw [Table.contains, get?_settings_merge a hb]
    split
    · exact hb.present k ‹_›
    · exact ha.present k (((mem_explicit_merge a b).mp hk).resolve_right ‹_›)
  default := by
    intro k hk
    rw [mem_explicit_merge, not_or] at hk
    rw [get?_settings_merge a hb, if_neg hk.2]
    exact ha.default k hk.1
  distinct := ha.distinct.insertAll b.rules

theorem Reachable.recorded (h : Reachable c) : c.Recorded := by
  induction h with
  | standard => exact recorded_standard
  | preset hc => exact recorded_of_find hc
  | @ofSettings entries c switches hc =>
    have hu := recorded_standard.update entries
    unfold Config.ofSettings at hc
    split at hc
    · rename_i c' he
      rw [he] at hu
      obtain rfl := Except.ok.inj hc
      exact hu.setRules switches
    · cases hc
  | set _ hs ih => exact ih.set hs
  | update entries _ ih => exact ih.update entries
  | setRule id switch _ ih => exact ih.setRule id switch
  | enableRule id _ ih => exact ih.setRule id _
  | disableRule id _ ih => exact ih.setRule id _
  | disableRules ids _ ih => exact ih.disableRules ids
  | merge _ _ ihc iho => exact ihc.merge iho

/-! ## The laws -/

theorem merge_assoc (a : Config) (hb : b.Recorded) (hc : c.Recorded) :
    Same ((a.merge b).merge c) (a.merge (b.merge c)) where
  settings := by
    intro k
    rw [get?_settings_merge _ hc, get?_settings_merge _ hb, get?_settings_merge _ (hb.merge hc),
      get?_settings_merge _ hc]
    by_cases hkc : k ∈ c.explicit
    · simp [mem_explicit_merge, hkc]
    · simp [mem_explicit_merge, hkc]
  explicit := by
    intro k
    simp only [mem_explicit_merge, or_assoc]
  rules := by
    intro id
    rw [get?_rules_merge _ hc, get?_rules_merge _ hb, get?_rules_merge _ (hb.merge hc),
      get?_rules_merge _ hc, Option.or_assoc]

theorem standard_merge (hc : c.Recorded) : Same (standard.merge c) c where
  settings := by
    intro k
    rw [get?_settings_merge _ hc]
    split
    · rfl
    · exact (hc.default k ‹_›).symm
  explicit := by
    intro k
    rw [mem_explicit_merge]
    exact or_iff_right List.not_mem_nil
  rules := by
    intro id
    rw [get?_rules_merge _ hc]
    exact Option.or_none

theorem merge_self (hc : c.Recorded) : Same (c.merge c) c where
  settings := by
    intro k
    rw [get?_settings_merge _ hc, ite_self]
  explicit := by
    intro k
    rw [mem_explicit_merge, or_self]
  rules := by
    intro id
    rw [get?_rules_merge _ hc, Option.or_self]

/-- The settings of a configuration are the defaults but for the explicit ones. Laying
configurations over each other is associative and idempotent, and the defaults are its identity. -/
theorem layering_laws (ha : Reachable a) (hb : Reachable b) (hc : Reachable c) :
    ((∀ k ∈ a.explicit, a.settings.contains k = true) ∧
        ∀ k ∉ a.explicit, a.settings.get? k = defaultSettings.get? k) ∧
      Same ((a.merge b).merge c) (a.merge (b.merge c)) ∧
      Same (standard.merge a) a ∧ Same (a.merge standard) a ∧ Same (a.merge a) a := by
  have hra := ha.recorded
  refine ⟨⟨hra.present, hra.default⟩, merge_assoc a hb.recorded hc.recorded, standard_merge hra,
    ?_, merge_self hra⟩
  exact ⟨fun _ => rfl, fun _ => Iff.rfl, fun _ => rfl⟩

/-- Defaults with a limit and a setting of no built-in rule, and one rule off. -/
def custom : Config :=
  ((standard.update [("maxDepth", .int 7), ("team", .list [.text "web"]),
    ("maxFields", .int (-1))]).1).disableRule "STYLE"

theorem layering_laws_strict : Reachable Preset.strict ∧ Reachable custom ∧
    Reachable Preset.relaxed ∧ "team" ∈ (Preset.strict.merge custom).explicit ∧
    Same ((Preset.strict.merge custom).merge Preset.relaxed)
      (Preset.strict.merge (custom.merge Preset.relaxed)) ∧
    Same (standard.merge Preset.strict) Preset.strict ∧
    Same (Preset.strict.merge Preset.strict) Preset.strict := by
  have hstrict : Reachable Preset.strict := .preset (show Preset.find "strict" = _ from rfl)
  have hrelaxed : Reachable Preset.relaxed := .preset (show Preset.find " Relaxed" = _ from rfl)
  have hcustom : Reachable custom := .disableRule _ (.update _ .standard)
  obtain ⟨-, hassoc, hleft, -, hself⟩ := layering_laws hstrict hcustom hrelaxed
  exact ⟨hstrict, hcustom, hrelaxed, by decide, hassoc, hleft, hself⟩

end QueryLint.Config
