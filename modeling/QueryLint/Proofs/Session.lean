import QueryLint.Log.Journal

/-! # Sessions of a journal

In a session a journal is configured again and again, by calls and by the environment, while others
add and remove handlers of their own. The handlers that configuring has installed are decided by the
last attempt: all that its options ask for if it went through, and what it left behind if it was
refused. The options in force are decided by the last attempt that went through, so after a refusal
the two may disagree.
-/

namespace QueryLint.Log

/-! ## What options ask for -/

namespace Options

/-- The places of the log files that options ask for: the one that the name of the output file is
filled in to, if there is one. -/
inductive LogFiles (o : Options) : List Path → Prop
  | none (h : o.outputFile = none) : LogFiles o []
  | filled {text name : String} (htext : o.outputFile = some text)
      (hname : Template.render Journal.nameScope (Path.ofText text).toText = .ok name) :
    LogFiles o [(Path.ofText name).normal]

/-- The handlers that options ask for, one on the console and one for each log file, all of them at
the level that the options name. -/
def Asks (o : Options) (hs : List (Level × Sink)) : Prop :=
  ∃ level, Level.ofName? o.level = some level ∧ ∃ files, o.LogFiles files ∧
    hs = (level, .console (Layout.ofName o.format)) :: files.map fun p => (level, .file p)

def leftovers (o : Options) : List (Level × Sink) :=
  match Level.ofName? o.level with
  | none => []
  | some level => [(level, .console (Layout.ofName o.format))]

end Options

theorem Level.name_of_ofName? {name : String} {level : Level} (h : ofName? name = some level) :
    level.name = name := by
  simpa using List.find?_some h

/-- What refused options leave behind is what others ask for exactly if these have no output file,
the same level and the same layout. -/
theorem Options.asks_leftovers_iff {o refused : Options} {hs : List (Level × Sink)}
    (ho : o.Asks hs) : o.Asks refused.leftovers ↔ o.outputFile = none ∧ refused.level = o.level
      ∧ Layout.ofName refused.format = Layout.ofName o.format := by
  constructor
  · rintro ⟨level, hlevel, files, hfiles, hleft⟩
    unfold leftovers at hleft
    split at hleft
    · simp at hleft
    · rename_i level' hlevel'
      simp only [List.cons.injEq, Prod.mk.injEq, Sink.console.injEq, List.nil_eq,
        List.map_eq_nil_iff] at hleft
      obtain ⟨⟨rfl, hlayout⟩, rfl⟩ := hleft
      cases hfiles with
      | none hfile =>
        exact ⟨hfile, (Level.name_of_ofName? hlevel').symm.trans (Level.name_of_ofName? hlevel),
          hlayout⟩
  · rintro ⟨hfile, hlevel, hlayout⟩
    obtain ⟨level, hknown, -⟩ := ho
    refine ⟨level, hknown, [], .none hfile, ?_⟩
    simp [leftovers, hlevel, hknown, hlayout]

namespace Journal

/-! ## Installed handlers -/

/-- The handlers that configuring has installed: their levels and where they write. -/
def installed (j : Journal) : List (Level × Sink) :=
  (j.handlers.filter (·.sink ≠ .foreign)).map fun h => (h.threshold, h.sink)

/-- The ids of all installed handlers are known, so that they can be withdrawn. -/
def Tracked (j : Journal) : Prop :=
  ∀ h ∈ j.handlers, h.sink ≠ .foreign → h.id ∈ j.owned

variable {j : Journal}

@[simp] theorem options_withdraw : j.withdraw.options = j.options := by
  unfold withdraw
  split <;> rfl

theorem mem_of_mem_handlers_withdraw {h : Handler} (hh : h ∈ j.withdraw.handlers) :
    h ∈ j.handlers ∧ h.id ∉ j.owned := by
  unfold withdraw at hh
  split at hh <;> simp_all [removeHandlers]

/-- Configuring takes away all that it installed before. -/
theorem Tracked.foreign_of_mem_withdraw (hj : j.Tracked) {h : Handler}
    (hh : h ∈ j.withdraw.handlers) : h.sink = .foreign := by
  obtain ⟨hmem, howned⟩ := mem_of_mem_handlers_withdraw hh
  exact Decidable.not_not.mp fun hsink => howned (hj h hmem hsink)

theorem Tracked.installed_withdraw (hj : j.Tracked) : j.withdraw.installed = [] := by
  rw [installed, List.map_eq_nil_iff, List.filter_eq_nil_iff]
  intro h hh
  simp [hj.foreign_of_mem_withdraw hh]

theorem Tracked.withdraw (hj : j.Tracked) : j.withdraw.Tracked :=
  fun _ hh hsink => absurd (hj.foreign_of_mem_withdraw hh) hsink

theorem Tracked.install (hj : j.Tracked) (level : Level) (sink : Sink) :
    (j.install level sink).Tracked := by
  intro h hh hsink
  rcases List.mem_append.mp hh with hh | hh
  · exact List.mem_append_left _ (hj h hh hsink)
  · rw [List.mem_singleton.mp hh]
    exact List.mem_append_right _ (List.mem_singleton.mpr rfl)

theorem installed_install (level : Level) (sink : Sink) (hsink : sink ≠ .foreign) :
    (j.install level sink).installed = j.installed ++ [(level, sink)] := by
  simp [installed, Journal.install, hsink]

theorem openFile_eq_ok {tree files : FileTree (List Record)} {text : String} {place : Path}
    (h : openFile tree text = (files, .ok place)) : ∃ name,
      Template.render nameScope (Path.ofText text).toText = .ok name
        ∧ (Path.ofText name).normal = place := by
  unfold openFile at h
  dsimp only at h
  split at h
  · simp at h
  · split at h
    · simp at h
    · rename_i name hname
      split at h
      · simp at h
      · split at h
        · simp at h
        · simp only [Prod.mk.injEq, Except.ok.injEq] at h
          exact ⟨name, hname, h.2⟩

/-- Where nothing is installed, installing what options ask for goes through or leaves something
behind. -/
theorem installAll_cases (hj : j.Tracked) (hnone : j.installed = []) (o : Options) :
    ∃ j' : Journal, j'.Tracked ∧ j'.options = j.options ∧
      (j.installAll o = (j', none) ∧ o.Asks j'.installed ∨
        ∃ r, j.installAll o = (j', some r) ∧ j'.installed = o.leftovers) := by
  cases hlevel : Level.ofName? o.level with
  | none =>
    refine ⟨j, hj, rfl, .inr ⟨.unknownLevel o.level, ?_, ?_⟩⟩
    · rw [installAll, hlevel]
    · rw [hnone, Options.leftovers, hlevel]
  | some level =>
    have htracked := hj.install level (.console (Layout.ofName o.format))
    have hconsole : (j.install level (.console (Layout.ofName o.format))).installed
        = [(level, .console (Layout.ofName o.format))] := by
      rw [installed_install level (.console _) nofun, hnone, List.nil_append]
    have hleft : o.leftovers = [(level, .console (Layout.ofName o.format))] := by
      rw [Options.leftovers, hlevel]
    unfold installAll
    rw [hlevel]
    dsimp only
    split
    · rename_i hfile
      exact ⟨_, htracked, rfl, .inl ⟨rfl, level, hlevel, [], .none hfile, hconsole⟩⟩
    · rename_i text hfile
      -- the handler on the console is there before the file is opened, and stays if that fails
      split
      · rename_i files r _
        exact ⟨{ j.install level (.console (Layout.ofName o.format)) with files }, htracked, rfl,
          .inr ⟨r, rfl, hconsole.trans hleft.symm⟩⟩
      · rename_i files place hopen
        obtain ⟨name, hname, rfl⟩ := openFile_eq_ok hopen
        refine ⟨_, Tracked.install (j := { j.install level _ with files }) htracked level _, rfl,
          .inl ⟨rfl, level, hlevel, _, .filled hfile hname, ?_⟩⟩
        rw [installed_install level (.file _) nofun]
        exact congrArg (· ++ _) hconsole

/-- What configuring can do: nothing if the options are in force already; else it puts them in
force with all that they ask for, or is refused and leaves something behind. -/
theorem configure_cases (hj : j.Tracked) (request : Request) (force : Bool) :
    (force = false ∧ j.options = some request.options) ∧ j.configure request force = (j, none) ∨
    ¬ (force = false ∧ j.options = some request.options) ∧ ∃ j' : Journal, j'.Tracked ∧
      (j.configure request force = (j', none) ∧ j'.options = some request.options
          ∧ request.options.Asks j'.installed ∨
        ∃ r, j.configure request force = (j', some r) ∧ j'.options = j.options
          ∧ j'.installed = request.options.leftovers) := by
  by_cases hcurrent : force = false ∧ j.options = some request.options
  · refine .inl ⟨hcurrent, if_pos ?_⟩
    simp [hcurrent]
  · refine .inr ⟨hcurrent, ?_⟩
    have hattempt : ¬ (!force && j.options == some request.options) = true := by
      simpa using hcurrent
    obtain ⟨j', htracked, hoptions, ⟨hinstall, hasks⟩ | ⟨r, hinstall, hleft⟩⟩ :=
      installAll_cases hj.withdraw hj.installed_withdraw request.options
    · refine ⟨{ j' with options := some request.options }, htracked, .inl ⟨?_, rfl, hasks⟩⟩
      rw [configure, if_neg hattempt, hinstall]
    · refine ⟨j', htracked, .inr ⟨r, ?_, hoptions.trans options_withdraw, hleft⟩⟩
      rw [configure, if_neg hattempt, hinstall]

/-! ## Sessions -/

/-- What can happen to a journal. -/
inductive Event
  | configure (request : Request) (force : Bool)
  /-- Configuring by the environment, unless it was done before. -/
  | ensure (env : Table String)
  | record (r : Record)
  /-- Someone else adds a handler. -/
  | addForeign (threshold : Level)
  /-- Someone else removes handlers. -/
  | remove (ids : List Nat)

def perform (j : Journal) : Event → Journal × Option Refusal
  | .configure request force => j.configure request force
  | .ensure env => j.ensure env
  | .record r => ((j.emit r).1, none)
  | .addForeign threshold => (j.addForeign threshold, none)
  | .remove ids => (j.removeHandlers ids, none)

def after (j : Journal) (es : List Event) : Journal :=
  es.foldl (fun j e => (j.perform e).1) j

def attempt? (j : Journal) : Event → Option Options
  | .configure request force =>
    if force = false ∧ j.options = some request.options then none else some request.options
  | .ensure env => if j.options.isSome then none else some (environmentRequest env).options
  | .record _ | .addForeign _ | .remove _ => none

/-- The options that the last attempt was refused for, if it was. -/
def refusedBy (j : Journal) (refused : Option Options) (e : Event) : Option Options :=
  match j.attempt? e with
  | some o => if (j.perform e).2.isSome then some o else none
  | none => refused

/-- The options that the last attempt of a session was refused for, if it was; `refused` are those
from before the session. -/
def refusedAfter (j : Journal) (refused : Option Options) : List Event → Option Options
  | [] => refused
  | e :: es => (j.perform e).1.refusedAfter (j.refusedBy refused e) es

/-- A journal that was not configured yet. -/
structure Fresh (j : Journal) : Prop where
  options_eq : j.options = none
  foreign : ∀ h ∈ j.handlers, h.sink = .foreign

/-- How options, handlers and refusals hang together as long as nobody else removes a handler. -/
structure Standing (j : Journal) (refused : Option Options) : Prop where
  tracked : j.Tracked
  exists_asks : ∀ o, j.options = some o → ∃ hs, o.Asks hs
  installed_eq : ∀ o, refused = some o → j.installed = o.leftovers
  asks : refused = none → ∀ o, j.options = some o → o.Asks j.installed

theorem Fresh.standing (h : j.Fresh) : j.Standing none where
  tracked := fun h' hh hsink => absurd (h.foreign h' hh) hsink
  exists_asks := by simp [h.options_eq]
  installed_eq := nofun
  asks := by simp [h.options_eq]

namespace Standing

variable {refused : Option Options}

theorem configure (h : j.Standing refused) (request : Request) (force : Bool) :
    (j.configure request force).1.Standing (j.refusedBy refused (.configure request force)) := by
  rcases configure_cases h.tracked request force with
    ⟨hcurrent, hconfigure⟩ | ⟨hcurrent, j', htracked, hcases⟩
  · rw [hconfigure, refusedBy, attempt?, if_pos hcurrent]
    exact h
  · rcases hcases with ⟨hconfigure, hoptions, hasks⟩ | ⟨r, hconfigure, hoptions, hleft⟩
    · rw [refusedBy, attempt?, if_neg hcurrent, perform, hconfigure]
      have hown : ∀ o', j'.options = some o' → o'.Asks j'.installed := by
        intro o' ho'
        obtain rfl := Option.some.inj (hoptions.symm.trans ho')
        exact hasks
      exact ⟨htracked, fun o' ho' => ⟨_, hown o' ho'⟩, nofun, fun _ => hown⟩
    · rw [refusedBy, attempt?, if_neg hcurrent, perform, hconfigure]
      refine ⟨htracked, fun o' ho' => h.exists_asks o' (hoptions ▸ ho'), ?_, nofun⟩
      rintro o' ⟨⟩
      exact hleft

theorem ensure (h : j.Standing refused) (env : Table String) :
    (j.ensure env).1.Standing (j.refusedBy refused (.ensure env)) := by
  cases hoptions : j.options with
  | some o =>
    have hensure : j.ensure env = (j, none) := by simp [Journal.ensure, hoptions]
    rw [hensure, refusedBy, attempt?, hoptions]
    exact h
  | none =>
    have hensure : j.ensure env = j.configure (environmentRequest env) false := by
      simp [Journal.ensure, hoptions]
    have hrefused : j.refusedBy refused (.ensure env)
        = j.refusedBy refused (.configure (environmentRequest env) false) := by
      simp only [refusedBy, attempt?, Journal.perform, hoptions, hensure, reduceCtorEq, and_false]
      rfl
    rw [hensure, hrefused]
    exact h.configure _ _

theorem addForeign (h : j.Standing refused) (threshold : Level) :
    (j.addForeign threshold).Standing refused := by
  have hinstalled : (j.addForeign threshold).installed = j.installed := by
    simp [installed, Journal.addForeign]
  refine ⟨?_, h.exists_asks, fun o ho => hinstalled.trans (h.installed_eq o ho),
    fun hr o ho => hinstalled ▸ h.asks hr o ho⟩
  intro h' hh hsink
  rcases List.mem_append.mp hh with hh | hh
  · exact h.tracked h' hh hsink
  · rw [List.mem_singleton.mp hh] at hsink
    exact absurd rfl hsink

theorem perform (h : j.Standing refused) {e : Event} (he : ∀ ids, e ≠ .remove ids) :
    (j.perform e).1.Standing (j.refusedBy refused e) := by
  cases e with
  | configure request force => exact h.configure request force
  | ensure env => exact h.ensure env
  | record r => exact ⟨h.tracked, h.exists_asks, h.installed_eq, h.asks⟩
  | addForeign threshold => exact h.addForeign threshold
  | remove ids => exact absurd rfl (he ids)

/-- Options, handlers and refusals hang together all through a session. -/
theorem after {es : List Event} (h : j.Standing refused) (hes : ∀ e ∈ es, ∀ ids, e ≠ .remove ids) :
    (j.after es).Standing (j.refusedAfter refused es) := by
  induction es generalizing j refused with
  | nil => exact h
  | cons e es ih =>
    have hlater : ∀ e' ∈ es, ∀ ids, e' ≠ .remove ids := fun e' he' =>
      hes e' (List.mem_cons_of_mem _ he')
    exact ih (h.perform (hes e List.mem_cons_self)) hlater

end Standing

/-- Configuring that is not refused puts its options in force. The handlers are the ones that these
ask for, unless the options were in force already and something else was left behind by others that
were refused in the meantime. -/
theorem configure_installs_iff {j : Journal} (hj : j.Fresh) {es : List Event}
    (hes : ∀ e ∈ es, ∀ ids, e ≠ .remove ids) {request : Request} {force : Bool}
    (hok : ((j.after es).configure request force).2 = none) :
    ((j.after es).configure request force).1.options = some request.options ∧
      (request.options.Asks ((j.after es).configure request force).1.installed ↔
        (force = false → (j.after es).options = some request.options →
          ∀ refused, j.refusedAfter none es = some refused → request.options.outputFile = none
            ∧ refused.level = request.level
            ∧ Layout.ofName refused.format = Layout.ofName request.format)) := by
  have h := hj.standing.after hes
  rcases configure_cases h.tracked request force with
    ⟨⟨hforce, hoptions⟩, hconfigure⟩ | ⟨hcurrent, j', -, ⟨hconfigure, hoptions, hasks⟩ | hrefused⟩
  · -- nothing is done, so the handlers are those of the last attempt, which may have been refused
    rw [hconfigure]
    refine ⟨hoptions, ?_⟩
    obtain ⟨hs, hs'⟩ := h.exists_asks _ hoptions
    simp only [hforce, hoptions, true_implies]
    cases hlast : j.refusedAfter none es with
    | none => simp [h.asks hlast _ hoptions]
    | some refused =>
      rw [h.installed_eq refused hlast, Options.asks_leftovers_iff hs']
      simp [Request.options]
  · rw [hconfigure]
    refine ⟨hoptions, fun _ hforce ho => absurd ⟨hforce, ho⟩ hcurrent, fun _ => hasks⟩
  · obtain ⟨r, hconfigure, -⟩ := hrefused
    rw [hconfigure] at hok
    cases hok

/-- Between two calls with the same options a call with an unknown level takes the handler of the
first away, and the second does not bring it back. -/
theorem configure_installs_nothing_again :
    let request : Request := { format := "console" }
    let refused : Request := { request with level := "nope" }
    let es : List Event := [.configure request false, .configure refused false]
    let j : Journal := {}
    j.Fresh ∧ (∀ e ∈ es, ∀ ids, e ≠ .remove ids) ∧
      ((j.after es).configure request false).2 = none ∧
      ((j.after es).configure request false).1.options = some request.options ∧
      ¬ request.options.Asks ((j.after es).configure request false).1.installed := by
  intro request refused es j
  have hfresh : j.Fresh := ⟨rfl, nofun⟩
  have hkeeps : ∀ e ∈ es, ∀ ids, e ≠ .remove ids := by simp [es]
  have hok : ((j.after es).configure request false).2 = none := by decide
  have h := configure_installs_iff hfresh hkeeps hok
  refine ⟨hfresh, hkeeps, hok, h.1, fun hasks => ?_⟩
  obtain ⟨-, hlevel, -⟩ := h.2.mp hasks rfl (by decide) refused.options (by decide)
  exact absurd hlevel (by decide)

end Journal

end QueryLint.Log
