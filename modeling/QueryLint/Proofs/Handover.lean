import QueryLint.Proofs.Entries
import QueryLint.Proofs.Vocabulary

/-! # Values handed over

Whatever was handed over on the way to a configuration, a limit that is read from it is not
negative. A vocabulary that is read from it holds only texts unless the last value handed over under
its key was a frozen set with a member that is no text: such a set alone is not looked into.
-/

namespace QueryLint

namespace Data

variable {items : List Data}

/-- All members are texts, torn ones among them. -/
def OnlyTexts (items : List Data) : Prop :=
  ∀ x ∈ items, x.isText = true

theorem isText_of_equal {x y : Data} (h : equal y x = true) (hy : y.isText = true) :
    x.isText = true := by
  cases y with
  | text t => rw [text_equal_iff.mp h]; rfl
  | torn t => cases x <;> simp_all [equal, scalarEqual, toInt?, isText]
  | _ => cases hy

theorem onlyTexts_dedup (h : OnlyTexts items) : OnlyTexts (dedup items) :=
  fun x hx => h x (mem_of_mem_dedup hx)

/-- Only texts are equal to a text, so a member that is none leaves a trace. -/
theorem onlyTexts_dedup_iff : OnlyTexts (dedup items) ↔ OnlyTexts items := by
  refine ⟨fun h x hx => ?_, onlyTexts_dedup⟩
  obtain ⟨y, hy, rfl | hxy⟩ := exists_mem_dedup hx
  · exact h y hy
  · exact isText_of_equal hxy (h y hy)

end Data

/-- The values that the library itself puts into settings. -/
inductive Data.Fit : Data → Prop
  | flag (b : Bool) : Fit (.bool b)
  | limit {n : Int} (h : 0 ≤ n) : Fit (.int n)
  | terms {items : List Data} (h : OnlyTexts items) : Fit (.frozenSet items)

namespace Config

variable {c c' : Config} {key k : String} {value v x : Data} {entries : List (String × Data)}
  {handed : String → Option Data}

/-! ## Values in the form in which they are kept -/

theorem normalize_of_fit (h : value.Fit) (key : String) : normalize key value = .ok value := by
  cases h with
  | flag b => rfl
  | limit hn => exact if_neg (Int.not_lt.mpr hn)
  | terms hitems => rfl

theorem of_guard_eq_ok {items : List Data} {p : Problem}
    (h : (if items.all Data.isText then Except.ok (Data.frozenSet (Data.dedup items))
      else .error p) = .ok v) : Data.OnlyTexts items ∧ v = .frozenSet (Data.dedup items) := by
  split at h
  · exact ⟨List.all_eq_true.mp ‹_›, (Except.ok.inj h).symm⟩
  · cases h

/-- A value is kept as the set of its texts, as a limit, or as it is, if it is no list, tuple or
mutable set. -/
theorem normalize_eq_ok (h : normalize key value = .ok v) :
    (∃ items, Data.OnlyTexts items ∧ v = .frozenSet (Data.dedup items)) ∨
      (∃ n : Int, 0 ≤ n ∧ v = .int n) ∨
      v = value ∧ (∀ n, value ≠ .int n) ∧
        ∀ items, value.members? = some items → value = .frozenSet items := by
  cases value with
  | list items => exact .inl ⟨items, of_guard_eq_ok h⟩
  | tuple items => exact .inl ⟨items, of_guard_eq_ok h⟩
  | set items => exact .inl ⟨items, of_guard_eq_ok h⟩
  | int n =>
    by_cases hn : n < 0
    · rw [normalize, if_pos hn] at h
      cases h
    · rw [normalize, if_neg hn] at h
      exact .inr (.inl ⟨n, Int.not_lt.mp hn, (Except.ok.inj h).symm⟩)
  | frozenSet items =>
    exact .inr (.inr ⟨(Except.ok.inj h).symm, nofun, fun _ h => by rw [Option.some.inj h]⟩)
  | null | bool | float | text | torn | instant | bytes | loop | mapping =>
    exact .inr (.inr ⟨(Except.ok.inj h).symm, nofun, nofun⟩)

theorem eq_int_of_ofType? (h : ofType? .int v = some x) : ∃ n, v = .int n ∧ x = .int n := by
  cases v with
  | int n => exact ⟨n, rfl, (Option.some.inj h).symm⟩
  | _ => cases h

theorem ofType?_set_eq_some_iff : ofType? .set v = some x ↔
    ∃ items, v.members? = some items ∧ .frozenSet (Data.dedup items) = x := by
  simp [ofType?, Option.map_eq_some_iff]

theorem nonneg_of_normalize (hv : normalize key value = .ok v) (h : ofType? .int v = some x) :
    ∃ n : Int, 0 ≤ n ∧ x = .int n := by
  obtain ⟨n, rfl, rfl⟩ := eq_int_of_ofType? h
  rcases normalize_eq_ok hv with ⟨items, -, hset⟩ | ⟨m, hm, hint⟩ | ⟨rfl, hint, -⟩
  · cases hset
  · exact ⟨m, hm, hint⟩
  · exact absurd rfl (hint n)

theorem onlyTexts_of_normalize (hv : normalize key value = .ok v) (h : ofType? .set v = some x) :
    ∃ items, x = .frozenSet (Data.dedup items) ∧
      (Data.OnlyTexts items ∨ value = .frozenSet items) := by
  obtain ⟨items, hitems, rfl⟩ := ofType?_set_eq_some_iff.mp h
  refine ⟨items, rfl, ?_⟩
  rcases normalize_eq_ok hv with ⟨texts, htexts, rfl⟩ | ⟨m, -, rfl⟩ | ⟨rfl, -, hset⟩
  · rw [← Option.some.inj hitems]
    exact .inl (Data.onlyTexts_dedup htexts)
  · cases hitems
  · exact .inr (hset items hitems)

/-! ## Histories -/

/-- What is handed over under each key after some more entries, which are taken up to the first that
is refused. -/
def handOver (handed : String → Option Data) : List (String × Data) → String → Option Data
  | [] => handed
  | (key, value) :: entries =>
    match normalize key value with
    | .ok _ => handOver (Function.update handed key (some value)) entries
    | .error _ => handed

/-- A configuration that has come about, with the value that was last handed over under each key.
Nothing is handed over for the defaults and presets; in a merge the explicit keys of the second
configuration count as it has them. -/
inductive Assembled : (String → Option Data) → Config → Prop
  | standard : Assembled (fun _ => none) standard
  | preset {name : String} {c : Config} :
      Preset.find name = .ok c → Assembled (fun _ => none) c
  | ofSettings {entries : List (String × Data)} {c : Config} :
      ofSettings entries = .ok c → Assembled (handOver (fun _ => none) entries) c
  | set {handed : String → Option Data} {c c' : Config} {key : String} {value : Data} :
      Assembled handed c → c.set key value = .ok c' →
        Assembled (Function.update handed key (some value)) c'
  | update {handed : String → Option Data} {c : Config} (entries : List (String × Data)) :
      Assembled handed c → Assembled (handOver handed entries) (c.update entries).1
  | setRule {handed : String → Option Data} {c : Config} (id : String) (switch : RuleSwitch) :
      Assembled handed c → Assembled handed (c.setRule id switch)
  | merge {handed handed' : String → Option Data} {c other : Config} :
      Assembled handed c → Assembled handed' other →
        Assembled (fun k => if k ∈ other.explicit then handed' k else handed k) (c.merge other)

theorem Assembled.setRules (h : Assembled handed c) (switches : List (String × RuleSwitch)) :
    Assembled handed (c.setRules switches) := by
  unfold Config.setRules
  induction switches generalizing c with
  | nil => exact h
  | cons s switches ih => exact ih (h.setRule s.1 s.2)

theorem Assembled.disableRules (h : Assembled handed c) (ids : List String) :
    Assembled handed (c.disableRules ids) := by
  unfold Config.disableRules
  induction ids generalizing c with
  | nil => exact h
  | cons id ids ih => exact ih (h.setRule id _)

theorem Reachable.exists_assembled (h : Reachable c) : ∃ handed, Assembled handed c := by
  induction h with
  | standard => exact ⟨_, .standard⟩
  | preset hc => exact ⟨_, .preset hc⟩
  | ofSettings switches hc => exact ⟨_, (Assembled.ofSettings hc).setRules switches⟩
  | set _ hs ih =>
    obtain ⟨handed, h⟩ := ih
    exact ⟨_, h.set hs⟩
  | update entries _ ih =>
    obtain ⟨handed, h⟩ := ih
    exact ⟨_, h.update entries⟩
  | setRule id switch _ ih =>
    obtain ⟨handed, h⟩ := ih
    exact ⟨_, h.setRule id switch⟩
  | enableRule id _ ih =>
    obtain ⟨handed, h⟩ := ih
    exact ⟨_, h.setRule id _⟩
  | disableRule id _ ih =>
    obtain ⟨handed, h⟩ := ih
    exact ⟨_, h.setRule id _⟩
  | disableRules ids _ ih =>
    obtain ⟨handed, h⟩ := ih
    exact ⟨_, h.disableRules ids⟩
  | merge _ _ ihc iho =>
    obtain ⟨handed, hc⟩ := ihc
    obtain ⟨handed', ho⟩ := iho
    exact ⟨_, hc.merge ho⟩

theorem eq_of_ofSettings (h : ofSettings entries = .ok c) : c = (standard.update entries).1 := by
  unfold ofSettings at h
  rcases hu : standard.update entries with ⟨d, _ | p⟩
  · simpa [hu, eq_comm] using h
  · simp [hu] at h

theorem Assembled.reachable (h : Assembled handed c) : Reachable c := by
  induction h with
  | standard => exact .standard
  | preset hc => exact .preset hc
  | ofSettings hc =>
    rw [eq_of_ofSettings hc]
    exact .update _ .standard
  | set _ hs ih => exact .set ih hs
  | update entries _ ih => exact .update entries ih
  | setRule id switch _ ih => exact .setRule id switch ih
  | merge _ _ ihc iho => exact .merge ihc iho

/-! ## What a configuration holds -/

/-- A configuration holds what was handed over, in the form in which it is kept, and else only
values of the library. -/
structure Traced (handed : String → Option Data) (c : Config) : Prop where
  taken : ∀ k value, handed k = some value →
    ∃ v, normalize k value = .ok v ∧ c.settings.get? k = some v
  fit : ∀ k v, handed k = none → c.settings.get? k = some v → v.Fit

theorem Traced.put (h : Traced handed c) (hv : normalize key value = .ok v) :
    Traced (Function.update handed key (some value)) (c.put key v) := by
  constructor
  · intro k value' hk
    by_cases heq : k = key
    · subst heq
      rw [Function.update_self, Option.some.injEq] at hk
      subst hk
      exact ⟨v, hv, by simp [Config.put]⟩
    · rw [Function.update_of_ne heq] at hk
      obtain ⟨w, hw, hget⟩ := h.taken k value' hk
      exact ⟨w, hw, by simpa [Config.put, heq] using hget⟩
  · intro k w hk hget
    have heq : k ≠ key := by
      rintro rfl
      simp at hk
    rw [Function.update_of_ne heq] at hk
    exact h.fit k w hk (by simpa [Config.put, heq] using hget)

theorem Traced.update (h : Traced handed c) (entries : List (String × Data)) :
    Traced (handOver handed entries) (c.update entries).1 := by
  induction entries generalizing handed c with
  | nil => exact h
  | cons e entries ih =>
    obtain ⟨key, value⟩ := e
    rw [Config.update, set_eq, handOver]
    cases hv : normalize key value with
    | ok v => exact ih (h.put hv)
    | error p => exact h

theorem Traced.merge {handed' : String → Option Data} {other : Config} (h : Traced handed c)
    (ho : Traced handed' other) (hr : other.Recorded) :
    Traced (fun k => if k ∈ other.explicit then handed' k else handed k) (c.merge other) := by
  constructor
  · intro k value hk
    rw [get?_settings_merge c hr]
    by_cases hexp : k ∈ other.explicit
    · rw [if_pos hexp] at hk ⊢
      exact ho.taken k value hk
    · rw [if_neg hexp] at hk ⊢
      exact h.taken k value hk
  · intro k v hk hget
    rw [get?_settings_merge c hr] at hget
    by_cases hexp : k ∈ other.explicit
    · rw [if_pos hexp] at hk hget
      exact ho.fit k v hk hget
    · rw [if_neg hexp] at hk hget
      exact h.fit k v hk hget

/-! ### Values of the library -/

theorem fit_of_get?_defaultSettings (h : defaultSettings.get? k = some v) : v.Fit := by
  have hmem := Table.mem_of_find? h
  simp only [defaultSettings, List.mem_append, List.mem_map, Prod.mk.injEq] at hmem
  rcases hmem with (⟨l, -, -, rfl⟩ | ⟨w, -, -, rfl⟩) | ⟨f, -, -, rfl⟩
  · exact .limit (by cases l <;> decide)
  · refine .terms fun d hd => ?_
    obtain ⟨t, -, rfl⟩ := List.mem_map.mp hd
    rfl
  · exact .flag true

theorem traced_standard : Traced (fun _ => none) standard where
  taken := nofun
  fit _ _ _ := fit_of_get?_defaultSettings

theorem Traced.update_fit (h : Traced (fun _ => none) c) (hfit : ∀ e ∈ entries, e.2.Fit) :
    Traced (fun _ => none) (c.update entries).1 := by
  induction entries generalizing c with
  | nil => exact h
  | cons e entries ih =>
    obtain ⟨key, value⟩ := e
    have hvalue : value.Fit := hfit _ List.mem_cons_self
    rw [Config.update, set_eq, normalize_of_fit hvalue]
    refine ih ⟨fun k value' hk => ?_, fun k v _ hget => ?_⟩
      fun e he => hfit e (List.mem_cons_of_mem _ he)
    · cases hk
    · rw [Config.put, Table.get?_insert] at hget
      split at hget
      · obtain rfl := Option.some.inj hget
        exact hvalue
      · exact h.fit k v rfl hget

theorem Traced.setRule (h : Traced handed c) (id : String) (switch : RuleSwitch) :
    Traced handed (c.setRule id switch) :=
  ⟨h.taken, h.fit⟩

theorem traced_build (levels : Preset.Levels) {limits : List (Limit × Int)}
    (hlimits : ∀ l ∈ limits, 0 ≤ l.2) (flags : List (Flag × Bool))
    (vocabularies : List (Vocabulary × List String)) :
    Traced (fun _ => none) (Preset.build levels limits flags vocabularies) := by
  refine (((Traced.setRule ?_ _ _).setRule _ _).setRule _ _).setRule _ _
  refine traced_standard.update_fit fun e he => ?_
  simp only [List.mem_append, List.mem_map] at he
  rcases he with (⟨l, hl, rfl⟩ | ⟨f, -, rfl⟩) | ⟨w, -, rfl⟩
  · exact .limit (hlimits l hl)
  · exact .flag f.2
  · refine .terms fun d hd => ?_
    obtain ⟨t, -, rfl⟩ := List.mem_map.mp hd
    rfl

theorem traced_of_find {name : String} (h : Preset.find name = .ok c) :
    Traced (fun _ => none) c := by
  have hall : ∀ e ∈ Preset.all, Traced (fun _ => none) e.2 := by
    simp only [Preset.all, List.forall_mem_cons]
    refine ⟨?_, ?_, ?_, ?_, ?_, ?_, ?_, List.forall_mem_nil _⟩ <;>
      exact traced_build _ (by decide) _ _
  obtain ⟨key, hmem⟩ := exists_mem_all_of_find h
  exact hall (key, c) hmem

theorem Assembled.traced (h : Assembled handed c) : Traced handed c := by
  induction h with
  | standard => exact traced_standard
  | preset hc => exact traced_of_find hc
  | @ofSettings entries c hc =>
    rw [eq_of_ofSettings hc]
    exact traced_standard.update entries
  | set _ hs ih =>
    obtain ⟨v, hv, rfl⟩ := set_eq_ok_iff.mp hs
    exact ih.put hv
  | update entries _ ih => exact ih.update entries
  | setRule id switch _ ih => exact ih.setRule id switch
  | merge _ ho ihc iho => exact ihc.merge iho ho.reachable.recorded

/-! ## Reading a setting -/

/-- The value that is kept under a key came from one that was handed over or is the library's. -/
theorem Traced.exists_normalize (h : Traced handed c) (hk : c.settings.get? k = some v) :
    ∃ value, normalize k value = .ok v ∧ (handed k = some value ∨ value.Fit) := by
  cases hh : handed k with
  | none =>
    have hfit := h.fit k v hh hk
    exact ⟨v, normalize_of_fit hfit k, .inr hfit⟩
  | some value =>
    obtain ⟨w, hw, hget⟩ := h.taken k value hh
    obtain rfl := Option.some.inj (hk.symm.trans hget)
    exact ⟨value, hw, .inl rfl⟩

theorem get_eq_or (c : Config) (key : String) (type : SettingType) (otherwise : Data) :
    c.get key type otherwise = otherwise ∨ ∃ v, c.settings.get? key = some v ∧
      ofType? type v = some (c.get key type otherwise) := by
  unfold get
  cases hv : c.settings.get? key with
  | none => exact .inl rfl
  | some v =>
    cases hx : ofType? type v with
    | none => simp [hx]
    | some x => exact .inr ⟨v, rfl, by simp [hx]⟩

theorem get_eq_of_ofType? {type : SettingType} (hv : c.settings.get? key = some v)
    (hx : ofType? type v = some x) (otherwise : Data) : c.get key type otherwise = x := by
  simp [get, hv, hx]

theorem Traced.get_int (h : Traced handed c) (key : String) (otherwise : Data) :
    c.get key .int otherwise = otherwise ∨
      ∃ n : Int, 0 ≤ n ∧ c.get key .int otherwise = .int n := by
  rcases c.get_eq_or key .int otherwise with heq | ⟨v, hv, hx⟩
  · exact .inl heq
  · obtain ⟨value, hvalue, -⟩ := h.exists_normalize hv
    exact .inr (nonneg_of_normalize hvalue hx)

/-- The last value handed over under a key is a frozen set with a member that is no text. -/
def Unchecked (handed : String → Option Data) (key : String) (items : List Data) : Prop :=
  handed key = some (.frozenSet items) ∧ ¬ Data.OnlyTexts items

theorem Traced.get_of_unchecked (h : Traced handed c) {items : List Data}
    (hu : Unchecked handed key items) (otherwise : Data) :
    c.get key .set otherwise = .frozenSet (Data.dedup items) := by
  obtain ⟨v, hv, hget⟩ := h.taken key _ hu.1
  obtain rfl := Except.ok.inj hv
  exact get_eq_of_ofType? hget (ofType?_set_eq_some_iff.mpr ⟨items, rfl, rfl⟩) otherwise

theorem Traced.get_set (h : Traced handed c) (key : String) (otherwise : Data) :
    c.get key .set otherwise = otherwise ∨
      (∃ items, Data.OnlyTexts items ∧ c.get key .set otherwise = .frozenSet items) ∨
      ∃ items, Unchecked handed key items := by
  rcases c.get_eq_or key .set otherwise with heq | ⟨v, hv, hx⟩
  · exact .inl heq
  right
  obtain ⟨value, hvalue, hfrom⟩ := h.exists_normalize hv
  obtain ⟨items, hget, hitems⟩ := onlyTexts_of_normalize hvalue hx
  by_cases htexts : Data.OnlyTexts items
  · exact .inl ⟨_, Data.onlyTexts_dedup htexts, hget⟩
  · obtain rfl := hitems.resolve_left htexts
    rcases hfrom with hhanded | hfit
    · exact .inr ⟨items, hhanded, htexts⟩
    · cases hfit with
      | terms h => exact absurd h htexts

theorem Traced.get_set_iff (h : Traced handed c) (key : String) (otherwise : Data) :
    (c.get key .set otherwise = otherwise ∨
        ∃ items, Data.OnlyTexts items ∧ c.get key .set otherwise = .frozenSet items) ↔
      ¬ ∃ items, Unchecked handed key items ∧ otherwise ≠ .frozenSet (Data.dedup items) := by
  constructor
  · rintro hget ⟨items, hu, hne⟩
    rw [h.get_of_unchecked hu] at hget
    rcases hget with heq | ⟨texts, htexts, heq⟩
    · exact hne heq.symm
    · cases heq
      exact hu.2 (Data.onlyTexts_dedup_iff.mp htexts)
  · intro hnone
    rcases h.get_set key otherwise with heq | htexts | ⟨items, hu⟩
    · exact .inl heq
    · exact .inr htexts
    · rw [h.get_of_unchecked hu]
      by_contra hne
      exact hnone ⟨items, hu, fun heq => hne (.inl heq.symm)⟩

/-! ## What rules read -/

theorem get_limit (c : Config) (l : Limit) :
    c.get l.key .int (.int l.standard) = .int (c.limit l) := by
  unfold get limit
  cases hx : (c.settings.get? l.key).bind (ofType? .int) with
  | none => rfl
  | some x =>
    obtain ⟨v, -, hv⟩ := Option.bind_eq_some_iff.mp hx
    obtain ⟨n, -, rfl⟩ := eq_int_of_ofType? hv
    rfl

theorem get_vocabulary (c : Config) (w : Vocabulary) :
    c.get w.key .set (Vocabulary.toData w.standard) = .frozenSet (c.vocabulary w) := by
  unfold get vocabulary
  cases hx : (c.settings.get? w.key).bind (ofType? .set) with
  | none => rfl
  | some x =>
    obtain ⟨v, -, hv⟩ := Option.bind_eq_some_iff.mp hx
    obtain ⟨items, -, rfl⟩ := ofType?_set_eq_some_iff.mp hv
    rfl

theorem Traced.limit_nonneg (h : Traced handed c) (l : Limit) : 0 ≤ c.limit l := by
  rcases h.get_int l.key (.int l.standard) with heq | ⟨n, hn, heq⟩
  · rw [get_limit, Data.int.injEq] at heq
    rw [heq]
    cases l <;> decide
  · rw [get_limit, Data.int.injEq] at heq
    rwa [heq]

theorem Traced.onlyTexts_vocabulary_iff (h : Traced handed c) (w : Vocabulary) :
    Data.OnlyTexts (c.vocabulary w) ↔ ¬ ∃ items, Unchecked handed w.key items := by
  constructor
  · rintro htexts ⟨items, hu⟩
    have hget := h.get_of_unchecked hu (Vocabulary.toData w.standard)
    rw [get_vocabulary, Data.frozenSet.injEq] at hget
    rw [hget] at htexts
    exact hu.2 (Data.onlyTexts_dedup_iff.mp htexts)
  · intro hnone
    rcases h.get_set w.key (Vocabulary.toData w.standard) with heq | ⟨items, hitems, heq⟩ | hu
    · rw [get_vocabulary, Vocabulary.toData, Data.frozenSet.injEq] at heq
      rw [heq]
      intro d hd
      obtain ⟨t, -, rfl⟩ := List.mem_map.mp hd
      rfl
    · rw [get_vocabulary, Data.frozenSet.injEq] at heq
      rwa [heq]
    · exact absurd hu hnone

/-- A number that is read is the given one or not negative. A set that is read is the given one or
holds only texts, unless the last value handed over under its key was a frozen set with another
member, which is then read as it is. So it is with the limits and vocabularies that rules read. -/
theorem reading_tells_unchecked (h : Reachable c) : (∃ handed, Assembled handed c) ∧
    ∀ handed, Assembled handed c →
      (∀ key otherwise, c.get key .int otherwise = otherwise ∨
        ∃ n : Int, 0 ≤ n ∧ c.get key .int otherwise = .int n) ∧
      (∀ key otherwise, (c.get key .set otherwise = otherwise ∨
          ∃ items, Data.OnlyTexts items ∧ c.get key .set otherwise = .frozenSet items) ↔
        ¬ ∃ items, Unchecked handed key items ∧ otherwise ≠ .frozenSet (Data.dedup items)) ∧
      (∀ l, 0 ≤ c.limit l) ∧
      ∀ w, Data.OnlyTexts (c.vocabulary w) ↔ ¬ ∃ items, Unchecked handed w.key items := by
  refine ⟨h.exists_assembled, fun handed ha => ?_⟩
  have ht := ha.traced
  exact ⟨ht.get_int, ht.get_set_iff, ht.limit_nonneg, ht.onlyTexts_vocabulary_iff⟩

/-- A frozen set with a number in it is taken and read as it is. -/
theorem reading_tells_unchecked_number :
    let given : Data := .frozenSet [.int 7]
    ∃ c, standard.set "sensitiveFields" given = .ok c ∧ Reachable c ∧
      ¬ (c.get "sensitiveFields" .set (.frozenSet []) = .frozenSet [] ∨ ∃ items,
        Data.OnlyTexts items ∧ c.get "sensitiveFields" .set (.frozenSet []) = .frozenSet items) ∧
      ¬ Data.OnlyTexts (c.vocabulary .sensitiveFields) ∧ 0 ≤ c.limit .depth := by
  intro given
  have hset : standard.set "sensitiveFields" given = .ok (standard.put "sensitiveFields" given) :=
    rfl
  have hreach := Reachable.set .standard hset
  have hassembled := Assembled.set .standard hset
  have hunchecked : Unchecked (Function.update (fun _ => none) "sensitiveFields" (some given))
      "sensitiveFields" [.int 7] := by
    refine ⟨Function.update_self _ _ _, fun h => ?_⟩
    cases h (.int 7) List.mem_cons_self
  obtain ⟨-, hreads⟩ := reading_tells_unchecked hreach
  obtain ⟨-, hget, hlimit, hvocabulary⟩ := hreads _ hassembled
  refine ⟨_, hset, hreach, fun h => ?_, fun h => ?_, hlimit .depth⟩
  · exact (hget _ _).mp h ⟨_, hunchecked, nofun⟩
  · exact (hvocabulary .sensitiveFields).mp h ⟨_, hunchecked⟩

end Config

end QueryLint
