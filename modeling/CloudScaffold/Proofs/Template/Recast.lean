import CloudScaffold.Graph.Build
import CloudScaffold.Proofs.Lists
import CloudScaffold.Proofs.Template.Reading
/-!
# Drafts with other values

A draft is recast when it gets other values and each of its variables is changed in some way
(`Draft.recast`). Where recasting leaves the answers to what templates read, the names that resources
get, and what a taken field declares up to the change (`Recasts`), it does not matter to a run whether
it comes before or after: so it is for a step (`Step.run_recast`), a run, and the build of a service,
whose graph is the same up to the change of its variables (`Registry.build_recast`).
-/
namespace CloudScaffold

/-- A draft with other values and its variables changed. -/
def Draft.recast (w : Attributes) (change : Variable → Variable) (d : Draft) : Draft :=
  { d with values := w, inputs := d.inputs.map change }

/-- A graph with its variables changed. -/
def Graph.recast (change : Variable → Variable) (g : Graph) : Graph :=
  { g with inputs := g.inputs.map change }

/-- Whether a draft that was just started can be recast without a difference to some questions. -/
structure Recasts (o : Draft) (w : Attributes) (change : Variable → Variable) (qs : List Reading) :
    Prop where
  name : ∀ v, (change v).name = v.name
  naming : (o.recast w change).namingValue = o.namingValue
  declares : ∀ f, (o.recast w change).takeInput [] f = (o.takeInput [] f).map change
  answers : ∀ q ∈ qs, q.Agrees (o.recast w change) [] o []

section
variable {o d : Draft} {w : Attributes} {change : Variable → Variable} {qs ps : List Reading}
  {hs : Handles}

theorem Recasts.mono (h : Recasts o w change qs) (hsub : ∀ q ∈ ps, q ∈ qs) :
    Recasts o w change ps :=
  { h with answers := fun q hq => h.answers q (hsub q hq) }

/-- What holds at the start holds later on. -/
theorem Recasts.agrees (h : Recasts o w change qs) (ho : d.origin = o) :
    ∀ q ∈ qs, q.Agrees (d.recast w change) hs d hs := by
  intro q hq
  have ha := h.answers q hq
  subst ho
  cases q with
  | kind | made => rfl
  | value | either | number | flag | label | inbound => exact ha

/-! ## Taking fields -/

/-- Taking a field adds what it declares on a draft without variables, if it is not declared. -/
theorem Draft.takeInput_eq (d : Draft) (vs : List Variable) (f : String) :
    d.takeInput vs f = if vs.any (·.name == f) then vs else vs ++ d.takeInput [] f := by
  unfold Draft.takeInput
  by_cases hd : vs.any (·.name == f) = true <;>
    by_cases hs : d.isSecret f (d.given f .null) = true <;> simp [hd, hs]

theorem Recasts.takeInput (h : Recasts o w change qs) (ho : d.origin = o) (vs : List Variable)
    (f : String) :
    (d.recast w change).takeInput (vs.map change) f = (d.takeInput vs f).map change := by
  have hdecl : (d.recast w change).takeInput [] f = (d.takeInput [] f).map change := by
    subst ho
    exact h.declares f
  have hany : (vs.map change).any (·.name == f) = vs.any (·.name == f) := by
    rw [List.any_map]
    congr 1
    funext v
    exact congrArg (· == f) (h.name v)
  rw [Draft.takeInput_eq, hany, hdecl, d.takeInput_eq vs]
  split
  · rfl
  · rw [List.map_append]

/-- Only sensitive fields declare variables. -/
theorem Draft.takeAll_filter (d : Draft) (fs : List String) :
    d.takeAll (fs.filter d.service.isSensitive) = d.takeAll fs := by
  have hfold : ∀ (fs : List String) (vs : List Variable),
      (fs.filter d.service.isSensitive).foldl d.takeInput vs = fs.foldl d.takeInput vs := by
    intro fs
    induction fs with
    | nil => exact fun _ => rfl
    | cons f fs ih =>
      intro vs
      rw [List.filter_cons]
      split
      · exact ih _
      · next hs =>
        have hsame : d.takeInput vs f = vs := by simp [takeInput, isSecret, hs]
        rw [List.foldl_cons, hsame]
        exact ih vs
  rw [takeAll, hfold, takeAll]

theorem Recasts.takeAll (h : Recasts o w change qs) (ho : d.origin = o) {fs gs : List String}
    (hfs : fs.filter d.service.isSensitive = gs.filter d.service.isSensitive) :
    (d.recast w change).takeAll fs = (d.takeAll gs).recast w change := by
  have hfold : ∀ (gs : List String) (vs : List Variable),
      gs.foldl (d.recast w change).takeInput (vs.map change) =
        (gs.foldl d.takeInput vs).map change := by
    intro gs
    induction gs with
    | nil => exact fun _ => rfl
    | cons f gs ih =>
      intro vs
      rw [List.foldl_cons, List.foldl_cons, h.takeInput ho, ih]
  calc (d.recast w change).takeAll fs
      = (d.recast w change).takeAll (fs.filter d.service.isSensitive) :=
        ((d.recast w change).takeAll_filter fs).symm
    _ = (d.recast w change).takeAll gs := by
        rw [hfs]
        exact (d.recast w change).takeAll_filter gs
    _ = (d.takeAll gs).recast w change := by
        have hinputs := hfold gs d.inputs
        simp only [Draft.takeAll]
        rw [show (d.recast w change).inputs = d.inputs.map change from rfl, hinputs]
        rfl

theorem Recasts.made (h : Recasts o w change qs) (ho : d.origin = o) (m : Draft.Making) :
    (d.recast w change).made m = d.made m := by
  have hnaming : (d.recast w change).namingValue = d.namingValue := by
    subst ho
    exact h.naming
  simp only [Draft.made, Draft.nameOf, Draft.base, hnaming]
  rfl

theorem Recasts.add (h : Recasts o w change qs) (ho : d.origin = o) (m : Draft.Making) :
    (d.recast w change).add m = (d.add m).recast w change := by
  simp only [Draft.add, h.made ho]
  rfl

/-! ## Runs -/

/-- **A step goes the same way on a draft that is recast**, and leaves it recast. -/
theorem Step.run_recast : ∀ {s : Step}, Recasts o w change s.reads → d.origin = o →
    (s.run hs).on (d.recast w change) =
      (((s.run hs).on d).1, ((s.run hs).on d).2.recast w change)
  | .touch t, h, ho => by
    have hag : ∀ q ∈ t.reads, q.Agrees (d.recast w change).view hs d.view hs :=
      h.agrees (d := d.view) ho
    have htake : (d.recast w change).takeAll (t.takes (d.recast w change).view hs) =
        (d.takeAll (t.takes d.view hs)).recast w change := h.takeAll ho (Term.takes_congr hag)
    rw [Step.run_touch_on, Step.run_touch_on, Term.value_congr hag, htake]
  | .add a, h, ho => by
    have hc : a.onlyIf.holds (d.recast w change) hs = a.onlyIf.holds d hs :=
      Cond.holds_congr fun q hq => h.agrees ho q (List.mem_append_left _ hq)
    have hag : ∀ q ∈ Term.readsEntries a.attrs, q.Agrees (d.recast w change).view hs d.view hs :=
      fun q hq => h.agrees (d := d.view) ho q (List.mem_append_right _ hq)
    have htake : (d.recast w change).takeAll (Term.takesEntries (d.recast w change).view hs a.attrs) =
        (d.takeAll (Term.takesEntries d.view hs a.attrs)).recast w change :=
      h.takeAll ho (Term.takesEntries_congr hag)
    rw [Step.run_add_on, Step.run_add_on, hc]
    rcases a.onlyIf.holds d hs with _ | _ | _
    · rfl
    · rfl
    · simp only [Addition.run_on, Term.valueEntries_congr hag, htake, h.made ho]
      cases Term.valueEntries d.view hs a.attrs with
      | error e => rfl
      | ok attrs =>
        have hadd := h.add (d := d.takeAll (Term.takesEntries d.view hs a.attrs)) ho
        simp only [hadd (a.making attrs)]
  | .output e, h, ho => by
    have hc : e.onlyIf.holds (d.recast w change) hs = e.onlyIf.holds d hs :=
      Cond.holds_congr fun q hq => h.agrees ho q (List.mem_append_left _ hq)
    have hag : ∀ q ∈ e.value.reads, q.Agrees (d.recast w change).view hs d.view hs :=
      fun q hq => h.agrees (d := d.view) ho q (List.mem_append_right _ hq)
    have htake : (d.recast w change).takeAll (e.value.takes (d.recast w change).view hs) =
        (d.takeAll (e.value.takes d.view hs)).recast w change := h.takeAll ho (Term.takes_congr hag)
    rw [Step.run_output_on, Step.run_output_on, hc]
    rcases e.onlyIf.holds d hs with _ | _ | _
    · rfl
    · rfl
    · simp only [Exposure.run_on, Term.value_congr hag, htake]
      cases e.value.value d.view hs <;> rfl

/-- **A run goes the same way on a draft that is recast**, and leaves it recast. -/
theorem runSteps_recast : ∀ {ss : List Step} {d : Draft} {hs : Handles},
    Recasts o w change (ss.flatMap Step.reads) → d.origin = o →
    (runSteps hs ss).on (d.recast w change) =
      (((runSteps hs ss).on d).1, ((runSteps hs ss).on d).2.recast w change)
  | [], _, _, _, _ => rfl
  | s :: ss, d, hs, h, ho => by
    rw [List.flatMap_cons] at h
    have hgrows : d.Grows ((s.run hs).on d).2 := s.run_grows
    rw [runSteps_cons_on, runSteps_cons_on,
      Step.run_recast (h.mono fun _ => List.mem_append_left _) ho]
    rcases hrun : (s.run hs).on d with ⟨_ | hs', d'⟩
    · rfl
    · rw [hrun] at hgrows
      exact runSteps_recast (h.mono fun _ => List.mem_append_right _) (hgrows.origin.trans ho)

theorem Draft.apply_recast {t : Template} (h : Recasts o w change (t.flatMap Step.reads))
    (ho : d.origin = o) : (d.recast w change).apply t = (d.apply t).map (·.recast w change) := by
  have hrun : t.run (d.recast w change) = ((t.run d).1, (t.run d).2.recast w change) :=
    runSteps_recast h ho
  rw [Draft.apply, hrun, Draft.apply]
  rcases t.run d with ⟨_ | _, _⟩ <;> rfl

end

end CloudScaffold
