import QueryLint.Proofs.Layering

/-! # Setting entry after entry

A value that is refused leaves a configuration as it was. Several entries are set one after the
other up to the first that is refused: what came before it stays set and explicit, what comes after
it is not looked at. If none is refused, it does not matter in which order they came.
-/

namespace QueryLint.Config

variable {a b c c' : Config} {key k : String} {value v : Data} {p : Problem}
  {entries entries' : List (String × Data)}

/-! ## One entry -/

/-- A configuration with a value under a key, in the form in which it is kept. -/
def put (c : Config) (key : String) (v : Data) : Config :=
  { c with settings := c.settings.insert key v, explicit := markExplicit key c.explicit }

theorem set_eq (c : Config) (key : String) (value : Data) :
    c.set key value = (normalize key value).map (c.put key) := by
  unfold set
  cases normalize key value <;> rfl

theorem set_eq_ok_iff :
    c.set key value = .ok c' ↔ ∃ v, normalize key value = .ok v ∧ c.put key v = c' := by
  rw [set_eq]
  cases normalize key value with
  | ok v => simp [Except.map]
  | error p => simp [Except.map]

theorem set_eq_error_iff : c.set key value = .error p ↔ normalize key value = .error p := by
  rw [set_eq]
  cases normalize key value with
  | ok v => simp [Except.map]
  | error q => simp [Except.map]

/-! ## Many entries -/

/-- The configuration after every one of the entries is set, if none of them is refused. -/
def setAll (c : Config) (entries : List (String × Data)) : Except Problem Config :=
  entries.foldlM (fun c e => c.set e.1 e.2) c

theorem setAll_cons_eq_ok_iff {e : String × Data} : c.setAll (e :: entries) = .ok c' ↔
    ∃ v, normalize e.1 e.2 = .ok v ∧ (c.put e.1 v).setAll entries = .ok c' := by
  unfold setAll
  rw [List.foldlM_cons]
  cases hs : c.set e.1 e.2 with
  | error p =>
    rw [set_eq_error_iff] at hs
    simp [hs, bind, Except.bind]
  | ok d =>
    obtain ⟨v, hv, rfl⟩ := set_eq_ok_iff.mp hs
    simp [hv, bind, Except.bind]

theorem update_eq_none_iff : c.update entries = (c', none) ↔ c.setAll entries = .ok c' := by
  induction entries generalizing c with
  | nil => simp [update, setAll, pure, Except.pure]
  | cons e entries ih =>
    obtain ⟨key, value⟩ := e
    rw [setAll_cons_eq_ok_iff, update]
    cases hs : c.set key value with
    | error p =>
      rw [set_eq_error_iff] at hs
      simp [hs]
    | ok d =>
      obtain ⟨v, hv, rfl⟩ := set_eq_ok_iff.mp hs
      simp [hv, ih]

/-- An update that is refused has set all entries before the one that is refused. -/
theorem update_eq_some_iff : c.update entries = (c', some p) ↔
    ∃ before key value after, entries = before ++ (key, value) :: after ∧
      c.setAll before = .ok c' ∧ normalize key value = .error p := by
  induction entries generalizing c with
  | nil => simp [update]
  | cons e entries ih =>
    obtain ⟨key, value⟩ := e
    rw [update]
    cases hs : c.set key value with
    | error q =>
      have hq := set_eq_error_iff.mp hs
      constructor
      · intro h
        obtain ⟨rfl, hqp⟩ := Prod.mk.inj h
        obtain rfl := Option.some.inj hqp
        exact ⟨[], key, value, entries, rfl, rfl, hq⟩
      · rintro ⟨before, key', value', after, hentries, hset, hrefused⟩
        cases before with
        | nil =>
          obtain ⟨hhead, rfl⟩ := List.cons.inj hentries
          obtain ⟨rfl, rfl⟩ := Prod.mk.inj hhead
          obtain rfl := Except.error.inj (hq.symm.trans hrefused)
          obtain rfl := Except.ok.inj hset
          rfl
        | cons e before =>
          obtain ⟨rfl, -⟩ := List.cons.inj hentries
          obtain ⟨v, hv, -⟩ := setAll_cons_eq_ok_iff.mp hset
          simp [hq] at hv
    | ok d =>
      obtain ⟨v, hv, rfl⟩ := set_eq_ok_iff.mp hs
      rw [ih]
      constructor
      · rintro ⟨before, key', value', after, rfl, hset, hrefused⟩
        exact ⟨(key, value) :: before, key', value', after, rfl,
          setAll_cons_eq_ok_iff.mpr ⟨v, hv, hset⟩, hrefused⟩
      · rintro ⟨before, key', value', after, hentries, hset, hrefused⟩
        cases before with
        | nil =>
          obtain ⟨hhead, -⟩ := List.cons.inj hentries
          obtain ⟨rfl, rfl⟩ := Prod.mk.inj hhead
          simp [hv] at hrefused
        | cons e before =>
          obtain ⟨rfl, rfl⟩ := List.cons.inj hentries
          obtain ⟨w, hw, hset⟩ := setAll_cons_eq_ok_iff.mp hset
          obtain rfl := Except.ok.inj (hv.symm.trans hw)
          exact ⟨before, key', value', after, rfl, hset, hrefused⟩

theorem exists_setAll_eq_ok_iff :
    (∃ c', c.setAll entries = .ok c') ↔ ∀ e ∈ entries, ∃ v, normalize e.1 e.2 = .ok v := by
  induction entries generalizing c with
  | nil => simp [setAll, pure, Except.pure]
  | cons e entries ih =>
    simp only [setAll_cons_eq_ok_iff, List.forall_mem_cons]
    constructor
    · rintro ⟨c', v, hv, hset⟩
      exact ⟨⟨v, hv⟩, ih.mp ⟨c', hset⟩⟩
    · rintro ⟨⟨v, hv⟩, hentries⟩
      obtain ⟨c', hset⟩ := (ih (c := c.put e.1 v)).mpr hentries
      exact ⟨c', v, hv, hset⟩

theorem exists_update_eq_some_iff : (∃ c' p, c.update entries = (c', some p)) ↔
    ∃ e ∈ entries, ∃ p, normalize e.1 e.2 = .error p := by
  constructor
  · rintro ⟨c', p, h⟩
    obtain ⟨before, key, value, after, rfl, -, hrefused⟩ := update_eq_some_iff.mp h
    exact ⟨(key, value), by simp, p, hrefused⟩
  · rintro ⟨e, he, p, hrefused⟩
    rcases hupdate : c.update entries with ⟨d, _ | q⟩
    · obtain ⟨v, hv⟩ := exists_setAll_eq_ok_iff.mp ⟨d, update_eq_none_iff.mp hupdate⟩ e he
      simp [hrefused] at hv
    · exact ⟨d, q, rfl⟩

/-! ## What has been set -/

/-- The entries are laid over a configuration: each stands in the form in which it is kept and is
explicit, and nothing else has changed. -/
structure Laid (c : Config) (entries : List (String × Data)) (c' : Config) : Prop where
  taken : ∀ k value, (k, value) ∈ entries →
    ∃ v, normalize k value = .ok v ∧ c'.settings.get? k = some v
  kept : ∀ k, k ∉ entries.map (·.1) → c'.settings.get? k = c.settings.get? k
  explicit : ∀ k, k ∈ c'.explicit ↔ k ∈ c.explicit ∨ k ∈ entries.map (·.1)
  rules : c'.rules = c.rules

theorem laid_of_setAll (hkeys : (entries.map (·.1)).Nodup) (h : c.setAll entries = .ok c') :
    Laid c entries c' := by
  induction entries generalizing c with
  | nil =>
    obtain rfl := Except.ok.inj h
    exact ⟨nofun, fun _ _ => rfl, by simp, rfl⟩
  | cons e entries ih =>
    obtain ⟨key, value⟩ := e
    obtain ⟨hnew, hkeys⟩ := List.nodup_cons.mp hkeys
    obtain ⟨v, hv, hset⟩ := setAll_cons_eq_ok_iff.mp h
    have hlaid := ih hkeys hset
    constructor
    · -- no later entry has the key of the first one, which keeps its value
      rintro k value' (_ | ⟨_, hmem⟩)
      · refine ⟨v, hv, ?_⟩
        rw [hlaid.kept key hnew]
        simp [put]
      · exact hlaid.taken k value' hmem
    · intro k hk
      rw [List.map_cons, List.mem_cons, not_or] at hk
      rw [hlaid.kept k hk.2]
      simp [put, hk.1]
    · intro k
      rw [hlaid.explicit, put, mem_markExplicit, List.map_cons, List.mem_cons, or_assoc,
        or_left_comm]
    · exact hlaid.rules

theorem Laid.of_perm (h : Laid c entries c') (hperm : entries.Perm entries') :
    Laid c entries' c' where
  taken k value hmem := h.taken k value (hperm.mem_iff.mpr hmem)
  kept k hk := h.kept k fun hmem => hk ((hperm.map _).mem_iff.mp hmem)
  explicit k := by rw [h.explicit, (hperm.map (·.1)).mem_iff]
  rules := h.rules

/-- What the entries say determines the configuration over which they are laid. -/
theorem Laid.same (ha : Laid c entries a) (hb : Laid c entries b) : Same a b where
  settings := by
    intro k
    by_cases hk : k ∈ entries.map (·.1)
    · obtain ⟨⟨_, value⟩, hmem, rfl⟩ := List.mem_map.mp hk
      obtain ⟨v, hv, hget⟩ := ha.taken _ value hmem
      obtain ⟨w, hw, hget'⟩ := hb.taken _ value hmem
      obtain rfl := Except.ok.inj (hv.symm.trans hw)
      rw [hget, hget']
    · rw [ha.kept k hk, hb.kept k hk]
  explicit := by
    intro k
    rw [ha.explicit, hb.explicit]
  rules := by
    intro id
    rw [ha.rules, hb.rules]

/-- A refused value changes nothing. Setting the entries of a mapping is refused exactly if one of
them is, and has then set those before the first refused one and no others; if none is refused, any
order of them gives the same configuration. -/
theorem update_sets_up_to_refusal (c : Config) (hkeys : (entries.map (·.1)).Nodup) :
    (∀ key value p, c.set key value = .error p → c.update [(key, value)] = (c, some p)) ∧
      ((∃ c' p, c.update entries = (c', some p)) ↔
        ∃ e ∈ entries, ∃ p, normalize e.1 e.2 = .error p) ∧
      (∀ c' p, c.update entries = (c', some p) → ∃ before key value after,
        entries = before ++ (key, value) :: after ∧ normalize key value = .error p ∧
          (∀ e ∈ before, ∃ v, normalize e.1 e.2 = .ok v) ∧ c.setAll before = .ok c' ∧
          Laid c before c') ∧
      ∀ c', c.update entries = (c', none) → Laid c entries c' ∧
        ∀ entries', entries.Perm entries' →
          ∃ c'', c.update entries' = (c'', none) ∧ Same c' c'' := by
  refine ⟨fun key value p h => ?_, exists_update_eq_some_iff, fun c' p h => ?_, fun c' h => ?_⟩
  · simp [update, h]
  · obtain ⟨before, key, value, after, rfl, hset, hrefused⟩ := update_eq_some_iff.mp h
    rw [List.map_append] at hkeys
    exact ⟨before, key, value, after, rfl, hrefused, exists_setAll_eq_ok_iff.mp ⟨c', hset⟩, hset,
      laid_of_setAll hkeys.of_append_left hset⟩
  · rw [update_eq_none_iff] at h
    have hlaid := laid_of_setAll hkeys h
    refine ⟨hlaid, fun entries' hperm => ?_⟩
    have htaken := exists_setAll_eq_ok_iff.mp ⟨c', h⟩
    obtain ⟨c'', hset⟩ := exists_setAll_eq_ok_iff.mpr fun e he => htaken e (hperm.mem_iff.mpr he)
    have hlaid' := laid_of_setAll ((hperm.map _).nodup_iff.mp hkeys) hset
    exact ⟨c'', update_eq_none_iff.mpr hset, hlaid.same (hlaid'.of_perm hperm.symm)⟩

def teamSettings : List (String × Data) :=
  [("maxDepth", .int 7), ("team", .list [.text "web"]), ("maxFields", .int (-1)),
   ("maxArguments", .int 3)]

theorem update_sets_up_to_refusal_team : (teamSettings.map (·.1)).Nodup ∧
    ∃ c' p before key value after, Preset.strict.update teamSettings = (c', some p) ∧
      teamSettings = before ++ (key, value) :: after ∧ normalize key value = .error p ∧
      Laid Preset.strict before c' ∧ "team" ∈ c'.explicit := by
  have hkeys : (teamSettings.map (·.1)).Nodup := by decide
  obtain ⟨-, hrefused, hfirst, -⟩ := update_sets_up_to_refusal Preset.strict hkeys
  obtain ⟨c', p, h⟩ := hrefused.mpr ⟨("maxFields", .int (-1)), by simp [teamSettings], _, rfl⟩
  obtain ⟨before, key, value, after, hentries, hp, -, -, hlaid⟩ := hfirst c' p h
  have hteam : "team" ∈ (Preset.strict.update teamSettings).1.explicit := by decide
  rw [h] at hteam
  exact ⟨hkeys, c', p, before, key, value, after, h, hentries, hp, hlaid, hteam⟩

end QueryLint.Config
