import Mathlib.Data.List.Forall2
import Mathlib.Logic.Relation
import QueryLint.Proofs.Descent
import QueryLint.Proofs.Reach
import QueryLint.Rule.Performance
import QueryLint.Rule.Security

/-! # Depth cannot be hidden in fragments

Where the spreads between fragments do not go around in a circle, every spread of a defined fragment
can be replaced by the selections of the fragment, again and again until none is left. The document
without spreads is exactly as deep: the guard against circles never stops a way down too early.
-/

namespace QueryLint

/-! ## The graph of spreads -/

/-- A fragment name is spread somewhere under some selections. -/
def Spreads (ss : List Selection) (name : String) : Prop :=
  ∃ x ∈ ss, ∃ s : Spread, (Node.ofSelection x).Contains (.spread s) ∧ s.name.value = name

namespace Document

/-- The last definition of a fragment spreads a name. -/
def Leads (d : Document) (a b : String) : Prop :=
  ∃ f, d.lastFragment? a = some f ∧ Spreads f.selectionSet.selections b

/-- No defined fragment leads back to itself through defined fragments. -/
def Acyclic (d : Document) : Prop :=
  ∀ name, ¬ Relation.TransGen (fun a b => d.Leads a b ∧ (d.lastFragment? b).isSome) name name

end Document

section Spreads

variable {ss ss' : List Selection} {name : String}

theorem Spreads.mono (h : Spreads ss name) (hs : ss ⊆ ss') : Spreads ss' name := by
  obtain ⟨x, hx, hn⟩ := h
  exact ⟨x, hs hx, hn⟩

theorem spreads_spread {s : Spread} (h : .spread s ∈ ss) : Spreads ss s.name.value :=
  ⟨_, h, s, .self _, rfl⟩

theorem spreads_iff :
    Spreads ss name ↔ name ∈ Node.spreadNames (Node.walkStack (ss.map Node.ofSelection)) := by
  simp only [Spreads, Node.mem_spreadNames_iff, Node.mem_walkStack_iff, List.mem_map,
    exists_exists_and_eq_and]
  constructor
  · rintro ⟨x, hx, s, hs, hn⟩
    exact ⟨s, ⟨x, hx, hs⟩, hn⟩
  · rintro ⟨s, ⟨x, hx, hs⟩, hn⟩
    exact ⟨x, hx, s, hs, hn⟩

theorem Spreads.of_body {x : Selection} {body : SelectionSet} (hx : x ∈ ss)
    (hb : .selectionSet body ∈ (Node.ofSelection x).children) (h : Spreads body.selections name) :
    Spreads ss name := by
  obtain ⟨y, hy, s, hs, hn⟩ := h
  exact ⟨x, hx, s, .child hb (.child (List.mem_map_of_mem hy) hs), hn⟩

theorem Spreads.of_field {f : Field} {body : SelectionSet} (hx : .field f ∈ ss)
    (hb : f.selectionSet = some body) (h : Spreads body.selections name) : Spreads ss name := by
  refine h.of_body hx ?_
  simp [Node.ofSelection, Node.children, hb]

theorem Spreads.of_inlineFragment {i : InlineFragment} (hx : .inlineFragment i ∈ ss)
    (h : Spreads i.selectionSet.selections name) : Spreads ss name := by
  refine h.of_body hx ?_
  simp [Node.ofSelection, Node.children]

end Spreads

namespace Document

variable {d : Document} {a b : String}

theorem Leads.isSome (h : d.Leads a b) : (d.lastFragment? a).isSome := by
  obtain ⟨f, hf, -⟩ := h
  rw [hf]
  rfl

/-- Undefined names lead nowhere, so they are on no circle. -/
theorem Acyclic.not_leads_self (h : d.Acyclic) : ¬ Relation.TransGen d.Leads a a := by
  have hdefined : ∀ b, Relation.TransGen d.Leads a b → (d.lastFragment? b).isSome →
      Relation.TransGen (fun a b => d.Leads a b ∧ (d.lastFragment? b).isSome) a b := by
    intro b hab
    induction hab with
    | single hab => exact fun hb => .single ⟨hab, hb⟩
    | tail _ hbc ih => exact fun hc => (ih hbc.isSome).tail ⟨hbc, hc⟩
  intro haa
  obtain ⟨b, hab, -⟩ := Relation.TransGen.head'_iff.mp haa
  exact h a (hdefined a haa hab.isSome)

end Document

/-- None of the fragments that some selections lead to is among the entered ones. -/
def Unentered (d : Document) (entered : List String) (ss : List Selection) : Prop :=
  ∀ m n, Spreads ss m → Relation.ReflTransGen d.Leads m n → n ∉ entered

section Unentered

variable {d : Document} {entered : List String} {ss ss' : List Selection}

theorem Unentered.of_spreads (h : Unentered d entered ss)
    (hs : ∀ name, Spreads ss' name → Spreads ss name) : Unentered d entered ss' :=
  fun m n hm => h m n (hs m hm)

theorem Unentered.subset (h : Unentered d entered ss) (hs : ss' ⊆ ss) : Unentered d entered ss' :=
  h.of_spreads fun _ hn => hn.mono hs

/-- Entering a fragment that is on no circle, one does not come back to it. -/
theorem Unentered.enter (h : Unentered d entered ss) (hd : d.Acyclic) {s : Spread} {f : Fragment}
    (hs : .spread s ∈ ss) (hf : d.lastFragment? s.name.value = some f) :
    Unentered d (s.name.value :: entered) f.selectionSet.selections := by
  intro m n hm hmn hn
  have hlead : d.Leads s.name.value m := ⟨f, hf, hm⟩
  rcases List.mem_cons.mp hn with rfl | hn
  · exact hd.not_leads_self (Relation.TransGen.head' hlead hmn)
  · exact h _ n (spreads_spread hs) (hmn.head hlead) hn

theorem Unentered.not_mem (h : Unentered d entered ss) {s : Spread} (hs : .spread s ∈ ss) :
    s.name.value ∉ entered :=
  h _ _ (spreads_spread hs) .refl

end Unentered

/-! ## Inlining -/

/-- Selections in which every spread of a defined fragment is replaced by an inline fragment that
holds the selections of its last definition, treated likewise. -/
inductive Inlines (d : Document) : List Selection → List Selection → Prop
  | nil : Inlines d [] []
  | leaf {f : Field} {ss ss' : List Selection} : f.selectionSet = none → Inlines d ss ss' →
      Inlines d (.field f :: ss) (.field f :: ss')
  | field {f : Field} {body : SelectionSet} {body' ss ss' : List Selection} :
      f.selectionSet = some body → Inlines d body.selections body' → Inlines d ss ss' →
      Inlines d (.field f :: ss) (.field { f with selectionSet := some ⟨body', body.span⟩ } :: ss')
  | inlineFragment {i : InlineFragment} {body' ss ss' : List Selection} :
      Inlines d i.selectionSet.selections body' → Inlines d ss ss' →
      Inlines d (.inlineFragment i :: ss)
        (.inlineFragment { i with selectionSet := ⟨body', i.selectionSet.span⟩ } :: ss')
  | spread {s : Spread} {f : Fragment} {i : InlineFragment} {ss ss' : List Selection} :
      d.lastFragment? s.name.value = some f →
      Inlines d f.selectionSet.selections i.selectionSet.selections → Inlines d ss ss' →
      Inlines d (.spread s :: ss) (.inlineFragment i :: ss')
  | undefined {s : Spread} {ss ss' : List Selection} : d.lastFragment? s.name.value = none →
      Inlines d ss ss' → Inlines d (.spread s :: ss) (.spread s :: ss')

inductive InlinesDefinition (d : Document) : Definition → Definition → Prop
  | operation {o : Operation} {body : SelectionSet} {body' : List Selection} :
      o.selectionSet = some body → Inlines d body.selections body' →
      InlinesDefinition d (.operation o)
        (.operation { o with selectionSet := some ⟨body', body.span⟩ })
  | bareOperation {o : Operation} : o.selectionSet = none →
      InlinesDefinition d (.operation o) (.operation o)
  | fragment {f : Fragment} {body' : List Selection} :
      Inlines d f.selectionSet.selections body' →
      InlinesDefinition d (.fragment f)
        (.fragment { f with selectionSet := ⟨body', f.selectionSet.span⟩ })
  | typeSystem (t : TypeSystemDefinition) : InlinesDefinition d (.typeSystem t) (.typeSystem t)

/-- A document is another one with all its spreads of defined fragments inlined. -/
structure Document.Inlined (d d' : Document) : Prop where
  definitions : List.Forall₂ (InlinesDefinition d) d.definitions d'.definitions
  span : d'.span = d.span
  text : d'.text = d.text

section Inlines

variable {d : Document} {entered : List String} {available available' : Table Fragment}
  {ss ss' : List Selection}

/-- Without circles the selections that are inlined are as deep as before. -/
theorem Inlines.selectionsDepth_eq (h : Inlines d ss ss') (hd : d.Acyclic)
    (hr : Remaining d entered available) (hu : Unentered d entered ss)
    (hlost : ∀ name, d.lastFragment? name = none → available'.get? name = none) :
    selectionsDepth available' ss' = selectionsDepth available ss := by
  induction h generalizing entered available with
  | nil => rw [selectionsDepth, selectionsDepth]
  | leaf hb _ ih =>
    rw [selectionsDepth, selectionsDepth, ih hr (hu.subset (List.subset_cons_self _ _)),
      selectionDepth_leaf hb, selectionDepth_leaf hb]
  | @field f body body' ss ss' hb _ _ ihb ih =>
    have hub : Unentered d entered body.selections :=
      hu.of_spreads fun _ hn => hn.of_field List.mem_cons_self hb
    rw [selectionsDepth, selectionsDepth, ih hr (hu.subset (List.subset_cons_self _ _)),
      selectionDepth_field hb, selectionDepth_field rfl, ihb hr hub]
  | @inlineFragment i body' ss ss' _ _ ihb ih =>
    have hub : Unentered d entered i.selectionSet.selections :=
      hu.of_spreads fun _ hn => hn.of_inlineFragment List.mem_cons_self
    rw [selectionsDepth, selectionsDepth, ih hr (hu.subset (List.subset_cons_self _ _)),
      selectionDepth_inlineFragment, selectionDepth_inlineFragment, ihb hr hub]
  | @spread s f i ss ss' hf _ _ ihb ih =>
    have hget : available.get? s.name.value = some f :=
      (hr.get?_of_not_mem (hu.not_mem List.mem_cons_self)).trans hf
    rw [selectionsDepth, selectionsDepth, ih hr (hu.subset (List.subset_cons_self _ _)),
      selectionDepth_inlineFragment, selectionDepth_spread hget,
      ihb (hr.erase _) (hu.enter hd List.mem_cons_self hf)]
  | @undefined s ss ss' hn _ ih =>
    have hget : available.get? s.name.value = none :=
      (hr.get?_of_not_mem (hu.not_mem List.mem_cons_self)).trans hn
    rw [selectionsDepth, selectionsDepth, ih hr (hu.subset (List.subset_cons_self _ _)),
      selectionDepth_lost (hlost _ hn), selectionDepth_lost hget]

/-- Without circles inlining comes to an end. The induction is that of the depth. -/
theorem exists_inlines (hd : d.Acyclic) (available : Table Fragment) (ss : List Selection) :
    ∀ entered, Remaining d entered available → Unentered d entered ss →
      ∃ ss', Inlines d ss ss' := by
  refine (selectionSetDepth.mutual_induct
    (fun available body => ∀ entered, Remaining d entered available →
      Unentered d entered body.selections → ∃ ss', Inlines d body.selections ss')
    (fun available ss => ∀ entered, Remaining d entered available → Unentered d entered ss →
      ∃ ss', Inlines d ss ss')
    (fun available x => ∀ entered, Remaining d entered available → Unentered d entered [x] →
      ∃ x', ∀ rest rest', Inlines d rest rest' → Inlines d (x :: rest) (x' :: rest'))
    ?set ?nil ?cons ?field ?leaf ?inlineFragment ?spread ?lost).2.1 available ss
  case set => exact fun available items span ih => ih
  case nil => exact fun available entered hr hu => ⟨[], .nil⟩
  case cons =>
    intro available x rest ihx ihrest entered hr hu
    obtain ⟨x', hx⟩ := ihx entered hr (hu.subset (by simp))
    obtain ⟨rest', hrest⟩ := ihrest entered hr (hu.subset (List.subset_cons_self x rest))
    exact ⟨x' :: rest', hx rest rest' hrest⟩
  case field =>
    intro available aliasName name arguments directives body span ih entered hr hu
    obtain ⟨body', hb⟩ := ih entered hr
      (hu.of_spreads fun _ hn => hn.of_field List.mem_cons_self rfl)
    exact ⟨_, fun rest rest' => .field rfl hb⟩
  case leaf =>
    intro available aliasName name arguments directives span entered hr hu
    exact ⟨_, fun rest rest' => .leaf rfl⟩
  case inlineFragment =>
    intro available condition directives body span ih entered hr hu
    obtain ⟨body', hb⟩ := ih entered hr
      (hu.of_spreads fun _ hn => hn.of_inlineFragment List.mem_cons_self)
    exact ⟨_, fun rest rest' => .inlineFragment hb⟩
  case spread =>
    intro available s f hf ih entered hr hu
    obtain ⟨-, hl⟩ := hr.not_mem_of_get? hf
    obtain ⟨body', hb⟩ := ih _ (hr.erase _) (hu.enter hd List.mem_cons_self hl)
    exact ⟨.inlineFragment ⟨some f.condition, s.directives, ⟨body', none⟩, none⟩,
      fun rest rest' => .spread hl hb⟩
  case lost =>
    intro available s hf entered hr hu
    have hl : d.lastFragment? s.name.value = none :=
      (hr.get?_of_not_mem (hu.not_mem List.mem_cons_self)).symm.trans hf
    exact ⟨.spread s, fun rest rest' => .undefined hl⟩

end Inlines

/-! ## Documents -/

theorem filterMap_eq_of_forall₂ {α β γ : Type} {R : α → β → Prop} {xs : List α} {ys : List β}
    {g : α → Option γ} {g' : β → Option γ} (h : List.Forall₂ R xs ys)
    (hg : ∀ x y, R x y → g' y = g x) : ys.filterMap g' = xs.filterMap g := by
  induction h with
  | nil => rfl
  | cons hxy _ ih => rw [List.filterMap_cons, List.filterMap_cons, hg _ _ hxy, ih]

/-- A diagnostic without the node it was reported on. -/
def Diagnostic.detached (d : Diagnostic) : Diagnostic :=
  { d with node := none }

namespace Document

variable {d d' : Document}

theorem Inlined.operations_isEmpty (h : d.Inlined d') :
    d'.operations.isEmpty = d.operations.isEmpty := by
  have hkinds : (d'.operations.map (·.kind)) = d.operations.map (·.kind) := by
    simp only [operations, List.map_filterMap]
    refine filterMap_eq_of_forall₂ h.definitions fun x y hxy => ?_
    cases hxy <;> rfl
  rw [← List.isEmpty_map (f := (·.kind)), hkinds, List.isEmpty_map]

theorem Inlined.lastFragment?_eq_none (h : d.Inlined d') {name : String}
    (hn : d.lastFragment? name = none) : d'.lastFragment? name = none := by
  have hnames : d'.fragments.map (·.name.value) = d.fragments.map (·.name.value) := by
    simp only [fragments, List.map_filterMap]
    refine filterMap_eq_of_forall₂ h.definitions fun x y hxy => ?_
    cases hxy <;> rfl
  rwa [lastFragment?_eq_none_iff, hnames, ← lastFragment?_eq_none_iff]

theorem Inlined.depths_eq (h : d.Inlined d') (hd : d.Acyclic) (hne : d.operations ≠ []) :
    d'.depthRoots.map (selectionSetDepth d'.fragmentTable)
      = d.depthRoots.map (selectionSetDepth d.fragmentTable) := by
  have hlost : ∀ name, d.lastFragment? name = none → d'.fragmentTable.get? name = none := by
    intro name hn
    rw [get?_fragmentTable]
    exact h.lastFragment?_eq_none hn
  have hbody : ∀ {ss ss' : List Selection}, Inlines d ss ss' →
      selectionsDepth d'.fragmentTable ss' = selectionsDepth d.fragmentTable ss := fun hss =>
    hss.selectionsDepth_eq hd (remaining_fragmentTable d) (fun _ _ _ _ => List.not_mem_nil) hlost
  have hroots : ∀ e : Document, e.operations.isEmpty = false →
      e.depthRoots = e.definitions.filterMap fun x => x.operation?.bind (·.selectionSet) := by
    intro e he
    rw [depthRoots, if_neg (by simp [he]), operations, List.filterMap_filterMap]
  have hne : d.operations.isEmpty = false := by simpa using hne
  rw [hroots d hne, hroots d' (h.operations_isEmpty.trans hne), List.map_filterMap,
    List.map_filterMap]
  refine filterMap_eq_of_forall₂ h.definitions fun x y hxy => ?_
  cases hxy with
  | operation hb hss => simp [Definition.operation?, hb, selectionSetDepth_eq, hbody hss]
  | bareOperation hb => simp [Definition.operation?, hb]
  | fragment _ => rfl
  | typeSystem => rfl

theorem Inlined.maxDepth_eq (h : d.Inlined d') (hd : d.Acyclic) (hne : d.operations ≠ []) :
    d'.maxDepth = d.maxDepth := by
  rw [maxDepth, maxDepth, h.depths_eq hd hne]

theorem exists_inlined (hd : d.Acyclic) : ∃ d', d.Inlined d' := by
  have hbody : ∀ body : SelectionSet, ∃ body', Inlines d body.selections body' := fun body =>
    exists_inlines hd d.fragmentTable body.selections [] (remaining_fragmentTable d)
      fun _ _ _ _ => List.not_mem_nil
  have hdefinition : ∀ x, ∃ y, InlinesDefinition d x y := by
    intro x
    cases x with
    | operation o =>
      cases ho : o.selectionSet with
      | none => exact ⟨_, .bareOperation ho⟩
      | some body =>
        obtain ⟨body', hb⟩ := hbody body
        exact ⟨_, .operation ho hb⟩
    | fragment f =>
      obtain ⟨body', hb⟩ := hbody f.selectionSet
      exact ⟨_, .fragment hb⟩
    | typeSystem t => exact ⟨_, .typeSystem t⟩
  choose inline hinline using hdefinition
  refine ⟨{ d with definitions := d.definitions.map inline }, ?_, rfl, rfl⟩
  rw [List.forall₂_map_right_iff]
  exact List.forall₂_same.mpr fun x _ => hinline x

/-- What is reported on a document as a whole does not depend on its definitions. -/
theorem Inlined.detached_eq (h : d.Inlined d') (id message : String) (s : Severity) :
    ((⟨s, message, .node d'.root⟩ : Finding).toDiagnostic id d'.text).detached
      = ((⟨s, message, .node d.root⟩ : Finding).toDiagnostic id d.text).detached := by
  simp only [Finding.toDiagnostic, Diagnostic.onNode, Diagnostic.detached, root, Node.span, h.text,
    h.span]
  rfl

/-- A document without circles of spreads can be inlined, and inlining changes neither its depth nor
anything that is reported about its depth. -/
theorem inlining_keeps_depth (hne : d.operations ≠ []) (hd : d.Acyclic) :
    (∃ d', d.Inlined d') ∧ ∀ d', d.Inlined d' → d'.maxDepth = d.maxDepth ∧
      ∀ c : Config,
        (Performance.depth ⟨d', c⟩).map (fun f => (f.toDiagnostic "PERFORMANCE" d'.text).detached)
            = (Performance.depth ⟨d, c⟩).map
              (fun f => (f.toDiagnostic "PERFORMANCE" d.text).detached) ∧
          (Security.depth ⟨d', c⟩).map (fun f => (f.toDiagnostic "SECURITY" d'.text).detached)
            = (Security.depth ⟨d, c⟩).map
              (fun f => (f.toDiagnostic "SECURITY" d.text).detached) := by
  refine ⟨exists_inlined hd, fun d' h => ⟨h.maxDepth_eq hd hne, fun c => ?_⟩⟩
  have hdepth := h.maxDepth_eq hd hne
  constructor
  · simp only [Performance.depth, Performance.depthFindings, Finding.warning, Finding.info, hdepth,
      List.map_append, apply_ite (List.map _), List.map_cons, List.map_nil, h.detached_eq]
  · simp only [Security.depth, Security.depthFindings, Finding.error, hdepth, List.map_append,
      apply_ite (List.map _), List.map_cons, List.map_nil, h.detached_eq]

/-- A query that spreads two fragments, one of which spreads the other once more, and an undefined
one. -/
def layered : Document :=
  let field (name : String) (body : List Selection) : Selection :=
    .field ⟨none, ⟨name, none⟩, [], [], if body.isEmpty then none else some ⟨body, none⟩, none⟩
  let spread (name : String) : Selection := .spread ⟨⟨name, none⟩, [], none⟩
  let fragment (name : String) (body : List Selection) : Definition :=
    .fragment ⟨⟨name, none⟩, ⟨⟨"T", none⟩, none⟩, [], ⟨body, none⟩, none⟩
  { definitions :=
      [.operation ⟨.query, none, [], [],
        some ⟨[field "a" [spread "Outer", spread "Inner", spread "Missing"]], none⟩, none⟩,
       fragment "Outer" [field "b" [spread "Inner"]],
       fragment "Inner" [field "c" []]] }

theorem acyclic_layered : layered.Acyclic := by
  have hfragments : ∀ f ∈ layered.fragments, ∀ b, Spreads f.selectionSet.selections b →
      f.name.value = "Outer" ∧ b = "Inner" := by
    simp [layered, fragments, List.filterMap_cons, Definition.fragment?, spreads_iff,
      Node.walkStack, Node.ofSelection, Node.children, Node.spreadNames, Node.spread?]
  have hleads : ∀ a b, layered.Leads a b → a = "Outer" ∧ b = "Inner" := by
    rintro a b ⟨f, hf, hb⟩
    obtain ⟨hmem, rfl⟩ := mem_of_lastFragment? hf
    exact hfragments f hmem b hb
  intro name hcircle
  obtain ⟨b, ⟨hfirst, -⟩, -⟩ := Relation.TransGen.head'_iff.mp hcircle
  obtain ⟨a, -, ⟨hlast, -⟩⟩ := Relation.TransGen.tail'_iff.mp hcircle
  have hname : "Outer" = "Inner" := (hleads _ _ hfirst).1.symm.trans (hleads _ _ hlast).2
  exact absurd hname (by decide)

theorem inlining_keeps_depth_layered : layered.operations ≠ [] ∧ layered.Acyclic ∧
    ∃ d', layered.Inlined d' ∧ d'.maxDepth = 3 := by
  have hne : layered.operations ≠ [] := by decide
  have hdepths : layered.depthRoots.map (selectionSetDepth layered.fragmentTable) = [3] := by
    simp [layered, depthRoots, operations, Definition.operation?, List.filterMap_cons,
      fragmentTable, fragments, Definition.fragment?, selectionSetDepth, selectionsDepth,
      selectionDepth, Table.ofList, Table.insert, Table.insertEntries, Table.get?, Table.find?,
      Table.erase]
  have hdepth : layered.maxDepth = 3 := by
    rw [maxDepth, hdepths]
    rfl
  obtain ⟨⟨d', hd'⟩, hkeeps⟩ := inlining_keeps_depth hne acyclic_layered
  exact ⟨hne, acyclic_layered, d', hd', (hkeeps d' hd').1.trans hdepth⟩

end Document

end QueryLint
