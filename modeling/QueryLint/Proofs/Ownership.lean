import QueryLint.Proofs.Session

/-! # Whose handlers are whose

While a journal is configured again and again, others may add handlers of their own and remove any
handler, also those that configuring installed. Whatever the order, configuring never loses sight of
a handler that it installed, has at most one on the console and one for a file, and leaves the
handlers of others alone.
-/

namespace QueryLint.Log.Journal

/-- The handlers that others have added. The one that exists before anything is configured is not
among them. -/
def others (j : Journal) : List Handler :=
  j.handlers.filter fun h => h.sink = .foreign ∧ h.id ≠ initialHandler

/-- What an event does to the handlers of others when the next handler gets the given id: only
others add to them and remove from them. -/
def Event.onOthers (nextId : Nat) (hs : List Handler) : Event → List Handler
  | .addForeign threshold => hs ++ [⟨nextId, threshold, .foreign⟩]
  | .remove ids => hs.filter fun h => h.id ∉ ids
  | .configure .. | .ensure _ | .record _ => hs

def othersAfter (j : Journal) (hs : List Handler) : List Event → List Handler
  | [] => hs
  | e :: es => (j.perform e).1.othersAfter (e.onOthers j.nextId hs) es

/-- A journal that was not configured yet and in which all handlers have got their ids in turn. -/
structure Untouched (j : Journal) : Prop extends j.Fresh where
  owned_eq : j.owned = []
  initial_lt : initialHandler < j.nextId
  id_lt : ∀ h ∈ j.handlers, h.id < j.nextId

/-- Ids are given once, and those that configuring may withdraw are not the ids of others. -/
structure Apart (j : Journal) : Prop where
  initial_lt : initialHandler < j.nextId
  id_lt : ∀ h ∈ j.handlers, h.id < j.nextId
  owned_lt : ∀ i ∈ j.owned, i < j.nextId
  not_owned : ∀ h ∈ j.handlers, h.sink = .foreign → h.id ∉ j.owned

/-- Part of one handler on the console and one for a file. -/
def AtMostPair (hs : List (Level × Sink)) : Prop :=
  ∃ level layout path, hs.Sublist [(level, .console layout), (level, .file path)]

variable {j : Journal}

theorem Untouched.apart (h : j.Untouched) : j.Apart where
  initial_lt := h.initial_lt
  id_lt := h.id_lt
  owned_lt := by simp [h.owned_eq]
  not_owned := by simp [h.owned_eq]

/-! ## Handlers of others -/

theorem handlers_withdraw (j : Journal) : j.withdraw.handlers
    = j.handlers.filter fun h => h.id ∉ j.owned ∧ (j.options = none → h.id ≠ initialHandler) := by
  unfold withdraw
  cases hoptions : j.options with
  | some o => simp [removeHandlers]
  | none => simp [removeHandlers, List.filter_filter]

theorem others_install (j : Journal) (level : Level) {sink : Sink} (hsink : sink ≠ .foreign) :
    (j.install level sink).others = j.others := by
  simp [others, install, hsink]

namespace Apart

theorem removeHandlers (h : j.Apart) (ids : List Nat) : (j.removeHandlers ids).Apart :=
  ⟨h.initial_lt, fun h' hh => h.id_lt h' (List.mem_filter.mp hh).1, h.owned_lt,
    fun h' hh => h.not_owned h' (List.mem_filter.mp hh).1⟩

theorem addForeign (h : j.Apart) (threshold : Level) : (j.addForeign threshold).Apart where
  initial_lt := Nat.lt_succ_of_lt h.initial_lt
  id_lt := by
    intro h' hh
    rcases List.mem_append.mp hh with hh | hh
    · exact Nat.lt_succ_of_lt (h.id_lt h' hh)
    · rw [List.mem_singleton.mp hh]
      exact Nat.lt_succ_self _
  owned_lt := fun i hi => Nat.lt_succ_of_lt (h.owned_lt i hi)
  not_owned := by
    intro h' hh hsink howned
    rcases List.mem_append.mp hh with hh | hh
    · exact h.not_owned h' hh hsink howned
    · rw [List.mem_singleton.mp hh] at howned
      exact Nat.lt_irrefl _ (h.owned_lt _ howned)

theorem install (h : j.Apart) (level : Level) {sink : Sink} (hsink : sink ≠ .foreign) :
    (j.install level sink).Apart where
  initial_lt := Nat.lt_succ_of_lt h.initial_lt
  id_lt := by
    intro h' hh
    rcases List.mem_append.mp hh with hh | hh
    · exact Nat.lt_succ_of_lt (h.id_lt h' hh)
    · rw [List.mem_singleton.mp hh]
      exact Nat.lt_succ_self _
  owned_lt := by
    intro i hi
    rcases List.mem_append.mp hi with hi | hi
    · exact Nat.lt_succ_of_lt (h.owned_lt i hi)
    · rw [List.mem_singleton.mp hi]
      exact Nat.lt_succ_self _
  not_owned := by
    intro h' hh hforeign howned
    rcases List.mem_append.mp hh with hh | hh
    · rcases List.mem_append.mp howned with howned | howned
      · exact h.not_owned h' hh hforeign howned
      · exact Nat.ne_of_lt (h.id_lt h' hh) (List.mem_singleton.mp howned)
    · rw [List.mem_singleton.mp hh] at hforeign
      exact hsink hforeign

theorem withdraw (h : j.Apart) : j.withdraw.Apart := by
  have howned : j.withdraw.owned = [] := rfl
  have hnextId : j.withdraw.nextId = j.nextId := by
    unfold Journal.withdraw
    split <;> rfl
  refine ⟨hnextId ▸ h.initial_lt, fun h' hh => ?_, by simp [howned], by simp [howned]⟩
  rw [handlers_withdraw] at hh
  exact hnextId ▸ h.id_lt h' (List.mem_filter.mp hh).1

/-- Withdrawing what was installed withdraws nothing of others. -/
theorem others_withdraw (h : j.Apart) : j.withdraw.others = j.others := by
  rw [others, handlers_withdraw, List.filter_filter]
  refine List.filter_congr fun h' hh => ?_
  by_cases hother : h'.sink = .foreign ∧ h'.id ≠ initialHandler
  · simp [hother, h.not_owned h' hh hother.1]
  · simp [hother]

theorem withFiles (h : j.Apart) (files : FileTree (List Record)) : { j with files }.Apart :=
  ⟨h.initial_lt, h.id_lt, h.owned_lt, h.not_owned⟩

theorem installAll (h : j.Apart) (o : Options) :
    (j.installAll o).1.Apart ∧ (j.installAll o).1.others = j.others := by
  have hconsole (level : Level) (layout : Layout) : (j.install level (.console layout)).Apart :=
    h.install level nofun
  unfold Journal.installAll
  split
  · exact ⟨h, rfl⟩
  · rename_i level _
    dsimp only
    split
    · exact ⟨hconsole level _, others_install j level nofun⟩
    · split
      · rename_i files r _
        exact ⟨(hconsole level _).withFiles files, others_install j level nofun⟩
      · rename_i files place _
        have hfile : Sink.file place ≠ .foreign := nofun
        refine ⟨((hconsole level _).withFiles files).install level hfile, ?_⟩
        exact (others_install _ level hfile).trans (others_install j level nofun)

theorem configure (h : j.Apart) (request : Request) (force : Bool) :
    (j.configure request force).1.Apart ∧ (j.configure request force).1.others = j.others := by
  obtain ⟨hall, hothers⟩ := h.withdraw.installAll request.options
  rw [h.others_withdraw] at hothers
  unfold Journal.configure
  split
  · exact ⟨h, rfl⟩
  · split
    · rename_i j' hinstall
      rw [hinstall] at hall hothers
      exact ⟨⟨hall.initial_lt, hall.id_lt, hall.owned_lt, hall.not_owned⟩, hothers⟩
    · rename_i j' r hinstall
      rw [hinstall] at hall hothers
      exact ⟨hall, hothers⟩

theorem ensure (h : j.Apart) (env : Table String) :
    (j.ensure env).1.Apart ∧ (j.ensure env).1.others = j.others := by
  unfold Journal.ensure
  split
  · exact ⟨h, rfl⟩
  · exact h.configure _ _

/-- Whatever happens, the handlers of others change by what others do. -/
theorem perform (h : j.Apart) (e : Event) :
    (j.perform e).1.Apart ∧ (j.perform e).1.others = e.onOthers j.nextId j.others := by
  cases e with
  | configure request force => exact h.configure request force
  | ensure env => exact h.ensure env
  | record r => exact ⟨⟨h.initial_lt, h.id_lt, h.owned_lt, h.not_owned⟩, rfl⟩
  | addForeign threshold =>
    refine ⟨h.addForeign threshold, ?_⟩
    have hnew : j.nextId ≠ initialHandler := (Nat.ne_of_lt h.initial_lt).symm
    simp [others, Journal.perform, Journal.addForeign, Event.onOthers, hnew]
  | remove ids =>
    refine ⟨h.removeHandlers ids, ?_⟩
    simp [others, Journal.perform, Journal.removeHandlers, Event.onOthers, List.filter_filter,
      Bool.and_comm]

theorem after (h : j.Apart) (es : List Event) :
    (j.after es).Apart ∧ (j.after es).others = j.othersAfter j.others es := by
  induction es generalizing j with
  | nil => exact ⟨h, rfl⟩
  | cons e es ih =>
    obtain ⟨hstep, hothers⟩ := h.perform e
    obtain ⟨hrun, hend⟩ := ih hstep
    refine ⟨hrun, hend.trans ?_⟩
    rw [hothers, othersAfter]

end Apart

/-! ## Installed handlers -/

theorem AtMostPair.of_sublist {hs hs' : List (Level × Sink)} (h : hs.Sublist hs')
    (hpair : AtMostPair hs') : AtMostPair hs := by
  obtain ⟨level, layout, path, hsub⟩ := hpair
  exact ⟨level, layout, path, h.trans hsub⟩

theorem atMostPair_of_asks {o : Options} {hs : List (Level × Sink)} (h : o.Asks hs) :
    AtMostPair hs := by
  obtain ⟨level, -, files, hfiles, rfl⟩ := h
  cases hfiles with
  | none _ => exact ⟨level, Layout.ofName o.format, default, by simp⟩
  | filled _ _ => exact ⟨level, Layout.ofName o.format, _, .refl _⟩

theorem atMostPair_leftovers (o : Options) : AtMostPair o.leftovers := by
  unfold Options.leftovers
  split
  · exact ⟨default, .plain, default, List.nil_sublist _⟩
  · rename_i level _
    exact ⟨level, Layout.ofName o.format, default, by simp⟩

def isConsole : Sink → Bool
  | .console _ => true
  | .file _ | .foreign => false

/-- All installed handlers are known, and they are few. -/
structure InHand (j : Journal) : Prop where
  tracked : j.Tracked
  few : AtMostPair j.installed

namespace InHand

theorem configure (h : j.InHand) (request : Request) (force : Bool) :
    (j.configure request force).1.InHand := by
  rcases configure_cases h.tracked request force with
    ⟨-, hconfigure⟩ | ⟨-, j', htracked, ⟨hconfigure, -, hasks⟩ | ⟨r, hconfigure, -, hleft⟩⟩
  · rw [hconfigure]
    exact h
  · rw [hconfigure]
    exact ⟨htracked, atMostPair_of_asks hasks⟩
  · rw [hconfigure]
    exact ⟨htracked, hleft ▸ atMostPair_leftovers request.options⟩

theorem perform (h : j.InHand) (e : Event) : (j.perform e).1.InHand := by
  cases e with
  | configure request force => exact h.configure request force
  | ensure env =>
    change (j.ensure env).1.InHand
    unfold Journal.ensure
    split
    · exact h
    · exact h.configure _ _
  | record r => exact ⟨h.tracked, h.few⟩
  | addForeign threshold =>
    have hinstalled : (j.addForeign threshold).installed = j.installed := by
      simp [installed, Journal.addForeign]
    refine ⟨fun h' hh hsink => ?_, hinstalled ▸ h.few⟩
    rcases List.mem_append.mp hh with hh | hh
    · exact h.tracked h' hh hsink
    · rw [List.mem_singleton.mp hh] at hsink
      exact absurd rfl hsink
  | remove ids =>
    refine ⟨fun h' hh => h.tracked h' (List.mem_filter.mp hh).1, .of_sublist ?_ h.few⟩
    exact (List.filter_sublist.filter _).map _

theorem after (h : j.InHand) (es : List Event) : (j.after es).InHand := by
  induction es generalizing j with
  | nil => exact h
  | cons e es ih => exact ih (h.perform e)

/-! ### Records -/

/-- Handlers for sinks of one kind are counted among the installed ones. -/
theorem countP_sink_le (h : j.InHand) {q : Sink → Bool} (hforeign : q .foreign = false)
    (hkind : ∀ layout path, ¬ (q (.console layout) = true ∧ q (.file path) = true)) :
    (j.handlers.countP fun h => q h.sink) ≤ 1 := by
  have hinstalled : (j.handlers.countP fun h => q h.sink) = j.installed.countP fun x => q x.2 := by
    rw [installed, List.countP_map, List.countP_filter]
    refine List.countP_congr fun h' _ => ?_
    by_cases hsink : h'.sink = .foreign <;> simp [hsink, hforeign]
  obtain ⟨level, layout, path, hsub⟩ := h.few
  have hpair : [(level, Sink.console layout), (level, Sink.file path)].countP (fun x => q x.2)
      ≤ 1 := by
    have hone := hkind layout path
    cases hc : q (.console layout) <;> cases hf : q (.file path) <;> simp_all
  rw [hinstalled]
  exact Nat.le_trans hsub.countP_le hpair

theorem length_lines_le (h : j.InHand) (r : Record) : (j.emit r).2.length ≤ 1 := by
  have hlines : (j.emit r).2.length ≤ j.handlers.countP fun h => isConsole h.sink := by
    change (j.handlers.filterMap (lineOf r)).length ≤ _
    rw [List.length_filterMap_eq_countP]
    refine List.countP_mono_left fun h' _ hline => ?_
    unfold lineOf at hline
    split at hline
    · cases hline
    · split at hline <;> simp_all [isConsole]
  exact Nat.le_trans hlines (h.countP_sink_le rfl fun _ _ hboth => Bool.false_ne_true hboth.2)

theorem countP_writesTo_le (h : j.InHand) (r : Record) (p : Path) :
    j.handlers.countP (writesTo r p) ≤ 1 := by
  have hwrites : j.handlers.countP (writesTo r p)
      ≤ j.handlers.countP fun h => h.sink == .file p := by
    refine List.countP_mono_left fun h' _ hw => ?_
    exact (Bool.and_eq_true_iff.mp hw).2
  refine Nat.le_trans hwrites (h.countP_sink_le (q := fun s => s == .file p) rfl ?_)
  exact fun _ _ hboth => Bool.false_ne_true hboth.1

end InHand

theorem Untouched.inHand (h : j.Untouched) : j.InHand where
  tracked := h.standing.tracked
  few := by
    have hnone : j.installed = [] := by
      simpa [installed, List.filter_eq_nil_iff] using h.foreign
    exact ⟨default, .plain, default, hnone ▸ List.nil_sublist _⟩

/-! ## Sessions -/

/-- After every session, all handlers that configuring installed are known and at most two are
there; the handlers of others are those that others have added and not removed. A record leaves at
most one line on the console and is written to a file at most once. -/
theorem session_keeps_handlers_apart {j : Journal} (hj : j.Untouched) (es : List Event) :
    (∀ h ∈ (j.after es).handlers, h.sink ≠ .foreign → h.id ∈ (j.after es).owned) ∧
      (j.after es).installed.length ≤ 2 ∧
      (j.after es).others = j.othersAfter j.others es ∧
      (∀ e : Event, ((j.after es).perform e).1.others
        = e.onOthers (j.after es).nextId (j.after es).others) ∧
      ∀ r : Record, ((j.after es).emit r).2.length ≤ 1 ∧
        ∀ p : Path, (j.after es).handlers.countP (writesTo r p) ≤ 1 := by
  have hands := hj.inHand.after es
  obtain ⟨hapart, hothers⟩ := hj.apart.after es
  obtain ⟨level, layout, path, hsub⟩ := hands.few
  exact ⟨hands.tracked, hsub.length_le, hothers, fun e => (hapart.perform e).2,
    fun r => ⟨hands.length_lines_le r, hands.countP_writesTo_le r⟩⟩

/-- Others take away a handler that was installed, and a configuration is refused when half of it is
done; the handler that others have added stays, and the initial one does not. -/
theorem session_keeps_handlers_apart_disturbed :
    let request : Request := { format := "json", outputFile := some (.text "log") }
    let refused : Request := { request with outputFile := some (.path (.ofText "log/none")) }
    let es : List Event := [.addForeign .info, .ensure {}, .remove [2, 7],
      .configure request false, .configure refused false]
    let j : Journal := { handlers := [⟨initialHandler, .debug, .foreign⟩] }
    j.Untouched ∧ (j.after es).owned = [5] ∧
      (j.after es).installed = [(.info, .console .detailed)] ∧
      (j.after es).others = [⟨1, .info, .foreign⟩] ∧ (j.after es).handlers.length = 2 ∧
      (∀ h ∈ (j.after es).handlers, h.sink ≠ .foreign → h.id ∈ (j.after es).owned) ∧
      (j.after es).others = j.othersAfter j.others es := by
  intro request refused es j
  have hj : j.Untouched := ⟨⟨rfl, by simp [j]⟩, rfl, by decide, by decide⟩
  obtain ⟨howned, -, hothers, -⟩ := session_keeps_handlers_apart hj es
  exact ⟨hj, by decide +kernel, by decide +kernel, by decide +kernel, by decide +kernel, howned,
    hothers⟩

end QueryLint.Log.Journal
