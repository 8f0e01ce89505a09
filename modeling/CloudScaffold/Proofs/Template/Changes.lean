import CloudScaffold.Catalog.Aws
import CloudScaffold.Graph.Build
import CloudScaffold.Proofs.Template.Usage
import CloudScaffold.Template.Aws
/-!
# Changes to a draft

Whatever is done with a draft comes down to four changes: a resource is added, a variable declared, an
output put down, the phase set. The history of some uses lists them as they happen, those of a template
among them, which end where it fails (`Draft.history`), and to replay it is to use the draft
(`after_eq_replay`). So a moment, be it between two uses or inside a template, is a history cut in two,
and what holds at every moment is shown by induction on changes.

Main statement: `sound_history`, that a draft accounts at every moment for what it hands out.
-/
namespace CloudScaffold

namespace Draft

/-- A change to a draft. -/
inductive Change where
  | add (m : Making)
  | declare (v : Variable)
  | output (o : Output)
  | setPhase (phase : String)

def change (d : Draft) : Change → Draft
  | .add m => d.add m
  | .declare v => d.declare v
  | .output o => d.output o
  | .setPhase phase => d.setPhase phase

/-- A draft after some changes. -/
def replay (d : Draft) (cs : List Change) : Draft := cs.foldl change d

/-! ## Histories -/

/-- The changes that it makes to take the value of a field. -/
def takeChanges (d : Draft) (field : String) (default : Value) : List Change :=
  let v := d.given field default
  if d.isSecret field v then [.declare (d.secret field v)] else []

end Draft

/-- The changes that a step makes; those up to the fault if there is one. -/
def Step.changes (d : Draft) (hs : Handles) : Step → List Draft.Change
  | .touch t => (t.takes d.view hs).flatMap (d.takeChanges · .null)
  | .add a => match a.onlyIf.holds d hs with
    | .ok true => (Term.takesEntries d.view hs a.attrs).flatMap (d.takeChanges · .null) ++
      match Term.valueEntries d.view hs a.attrs with
      | .ok attrs => [.add (a.making attrs)]
      | .error _ => []
    | _ => []
  | .output o => match o.onlyIf.holds d hs with
    | .ok true => (o.value.takes d.view hs).flatMap (d.takeChanges · .null) ++
      match o.value.value d.view hs with
      | .ok v => [.output ⟨o.name, v, o.description, o.sensitive⟩]
      | .error _ => []
    | _ => []

/-- The changes that steps make in turn, up to the one that fails. -/
def stepsChanges (d : Draft) (hs : Handles) : List Step → List Draft.Change
  | [] => []
  | s :: ss => s.changes d hs ++
    match (s.run hs).on d with
    | (.ok hs', d') => stepsChanges d' hs' ss
    | (.error _, _) => []

namespace Draft

/-- The changes that a use makes. -/
def Use.changes (d : Draft) : Use → List Change
  | .add m => [.add m]
  | .value field default => d.takeChanges field default
  | .declare v => [.declare v]
  | .output o => [.output o]
  | .setPhase phase => [.setPhase phase]
  | .run t => stepsChanges d [] t
  | .name _ | .label _ | .tags _ | .has _ | .get _ | .ref _ _ | .number _ _ | .flag _ => []

/-- The changes that uses make in turn. -/
def history (d : Draft) : List Use → List Change
  | [] => []
  | u :: us => u.changes d ++ history (d.use u).2 us

section
variable {d d' : Draft} {k n : String} {r : Resource} {c : Change} {cs : List Change}

theorem replay_append (d : Draft) (cs cs' : List Change) :
    d.replay (cs ++ cs') = (d.replay cs).replay cs' :=
  List.foldl_append

theorem value_eq_replay (d : Draft) (field : String) (default : Value) :
    (d.value field default).2 = d.replay (d.takeChanges field default) := by
  dsimp only [Draft.value, takeChanges]
  split <;> rfl

theorem takeChanges_congr (h : d'.origin = d.origin) : d'.takeChanges = d.takeChanges := by
  show d'.origin.takeChanges = d.origin.takeChanges
  rw [h]

theorem takeAll_eq_replay (d : Draft) (fs : List String) :
    d.takeAll fs = d.replay (fs.flatMap (d.takeChanges · .null)) := by
  induction fs generalizing d with
  | nil => rfl
  | cons f fs ih =>
    have hone : d.takeAll [f] = d.replay (d.takeChanges f .null) := by
      rw [← value_eq_replay, value_eq]
    have hsame : (d.takeAll [f]).takeChanges = d.takeChanges := takeChanges_congr rfl
    rw [List.flatMap_cons, replay_append, ← hone, ← List.singleton_append, ← takeAll_takeAll, ih, hsame]

end

end Draft

open Draft

/-- A step makes the changes that are listed for it. -/
theorem Step.run_eq_replay (d : Draft) (hs : Handles) :
    ∀ s : Step, ((s.run hs).on d).2 = d.replay (s.changes d hs)
  | .touch t => by
    rw [Step.run_touch_on, Step.changes]
    exact d.takeAll_eq_replay _
  | .add a => by
    rw [Step.run_add_on, Step.changes]
    rcases a.onlyIf.holds d hs with _ | _ | _
    · rfl
    · rfl
    · simp only [Addition.run_on, replay_append, ← takeAll_eq_replay]
      cases Term.valueEntries d.view hs a.attrs <;> rfl
  | .output o => by
    rw [Step.run_output_on, Step.changes]
    rcases o.onlyIf.holds d hs with _ | _ | _
    · rfl
    · rfl
    · simp only [Exposure.run_on, replay_append, ← takeAll_eq_replay]
      cases o.value.value d.view hs <;> rfl

theorem runSteps_eq_replay : ∀ (ss : List Step) (d : Draft) (hs : Handles),
    ((runSteps hs ss).on d).2 = d.replay (stepsChanges d hs ss)
  | [], _, _ => rfl
  | s :: ss, d, hs => by
    have hstep := s.run_eq_replay d hs
    rw [runSteps_cons_on, stepsChanges, replay_append, ← hstep]
    rcases (s.run hs).on d with ⟨_ | hs', d'⟩
    · rfl
    · exact runSteps_eq_replay ss d' hs'

namespace Draft

section
variable {d d' : Draft} {k n : String} {r : Resource} {c : Change} {cs : List Change}

theorem use_eq_replay (d : Draft) (u : Use) : (d.use u).2 = d.replay (u.changes d) := by
  cases u with
  | value field default => exact d.value_eq_replay field default
  | run t => exact runSteps_eq_replay t d []
  | _ => rfl

/-- **To replay the history of some uses is to use the draft.** -/
theorem after_eq_replay (d : Draft) (us : List Use) : d.after us = d.replay (d.history us) := by
  induction us generalizing d with
  | nil => rfl
  | cons u us ih =>
    rw [history, replay_append, ← use_eq_replay]
    exact ih (d.use u).2

theorem history_append (d : Draft) (us ws : List Use) :
    d.history (us ++ ws) = d.history us ++ (d.after us).history ws := by
  induction us generalizing d with
  | nil => rfl
  | cons u us ih =>
    rw [List.cons_append, history, history, ih, List.append_assoc]
    rfl

/-! ## What only grows -/

/-- A draft has what another has, unchanged and in front of what it has besides. -/
structure Extends (d d' : Draft) : Prop where
  resources : d.resources <+: d'.resources
  inputs : d.inputs <+: d'.inputs
  outputs : d.outputs <+: d'.outputs

theorem Extends.refl (d : Draft) : d.Extends d :=
  ⟨List.prefix_rfl, List.prefix_rfl, List.prefix_rfl⟩

theorem Extends.trans {d₁ d₂ d₃ : Draft} (h : d₁.Extends d₂) (h' : d₂.Extends d₃) : d₁.Extends d₃ :=
  ⟨h.resources.trans h'.resources, h.inputs.trans h'.inputs, h.outputs.trans h'.outputs⟩

theorem Extends.inputNames (h : d.Extends d') (hn : n ∈ d.inputNames) : n ∈ d'.inputNames :=
  (h.inputs.map (·.name)).subset hn

theorem extends_change (d : Draft) (c : Change) : d.Extends (d.change c) := by
  have hsame := Extends.refl d
  cases c with
  | add m => exact { hsame with resources := List.prefix_append _ _ }
  | declare v =>
    dsimp only [change, Draft.declare]
    split
    · exact hsame
    · exact { hsame with inputs := List.prefix_append _ _ }
  | output o => exact { hsame with outputs := List.prefix_append _ _ }
  | setPhase phase => exact ⟨hsame.resources, hsame.inputs, hsame.outputs⟩

/-- **Changes only append**: what a draft has stays as it is, in its place. -/
theorem extends_replay (d : Draft) (cs : List Change) : d.Extends (d.replay cs) := by
  induction cs generalizing d with
  | nil => exact .refl d
  | cons c cs ih => exact (extends_change d c).trans (ih (d.change c))

/-! ## Names of variables -/

theorem mem_inputNames_declare (d : Draft) (v : Variable) : v.name ∈ (d.declare v).inputNames := by
  unfold Draft.declare
  split
  · next h => exact any_name_iff.1 h
  · simp [inputNames]

theorem nodup_change (h : d.inputNames.Nodup) (c : Change) : (d.change c).inputNames.Nodup := by
  cases c with
  | declare v =>
    dsimp only [change, Draft.declare]
    split
    · exact h
    · next hnew => exact nodup_names_concat h (mt any_name_iff.2 hnew)
  | _ => exact h

/-- **The variables of a draft have different names.** -/
theorem nodup_replay (h : d.inputNames.Nodup) (cs : List Change) : (d.replay cs).inputNames.Nodup := by
  induction cs generalizing d with
  | nil => exact h
  | cons c cs ih => exact ih (nodup_change h c)

/-! ## Kinds -/

/-- The change adds a resource of a kind; nothing is of the empty kind. -/
def Change.AddsKind (k : String) : Change → Prop
  | .add m => m.kind = k ∧ k ≠ ""
  | _ => False

/-- Of some changes to a draft, the last that adds a resource of a kind adds this one. -/
def LastOfKind (d : Draft) (cs : List Change) (k : String) (r : Resource) : Prop :=
  ∃ before m behind, cs = before ++ .add m :: behind ∧ (Change.add m).AddsKind k ∧
    (∀ c ∈ behind, ¬ c.AddsKind k) ∧ r = (d.replay before).made m

theorem kind?_add_of_adds {m : Making} (h : (Change.add m).AddsKind k) :
    (d.add m).kind? k = some (d.made m) := by
  obtain ⟨rfl, hne⟩ := h
  simp [Draft.add, kind?, hne]

/-- A change that adds no resource of a kind leaves the kind as it is. -/
theorem kind?_change (h : ¬ c.AddsKind k) : (d.change c).kind? k = d.kind? k := by
  cases c with
  | add m =>
    dsimp only [change, Draft.add, kind?]
    split
    · rfl
    · next hm =>
      have hk : (k == m.kind) = false := by
        rw [beq_eq_false_iff_ne]
        rintro rfl
        exact h ⟨rfl, hm⟩
      rw [List.lookup_cons, hk]
  | declare v =>
    dsimp only [change, Draft.declare]
    split <;> rfl
  | output o => rfl
  | setPhase phase => rfl

theorem kind?_replay_of_forall (h : ∀ c ∈ cs, ¬ c.AddsKind k) : (d.replay cs).kind? k = d.kind? k := by
  induction cs generalizing d with
  | nil => rfl
  | cons c cs ih =>
    obtain ⟨hc, hcs⟩ := List.forall_mem_cons.1 h
    exact (ih hcs).trans (kind?_change hc)

theorem LastOfKind.concat (h : d.LastOfKind cs k r) (hc : ¬ c.AddsKind k) :
    d.LastOfKind (cs ++ [c]) k r := by
  obtain ⟨before, m, behind, rfl, hm, hnone, hr⟩ := h
  refine ⟨before, m, behind ++ [c], by simp, hm, fun x hx => ?_, hr⟩
  rcases List.mem_append.1 hx with hx | hx
  · exact hnone x hx
  · exact List.mem_singleton.1 hx ▸ hc

/-- **A kind denotes the resource that was added last under it.** -/
theorem kind?_replay_iff (h : d.kinds = []) (cs : List Change) :
    (d.replay cs).kind? k = some r ↔ d.LastOfKind cs k r := by
  constructor
  · intro hr
    -- from the last change back: it adds the resource of the kind, or has nothing to do with it
    induction cs using List.reverseRecOn with
    | nil => simp [replay, kind?, h] at hr
    | append_singleton cs c ih =>
      have hstep : d.replay (cs ++ [c]) = (d.replay cs).change c := replay_append d cs [c]
      rw [hstep] at hr
      by_cases hc : c.AddsKind k
      · cases c with
        | add m =>
          have hmade := hr.symm.trans (kind?_add_of_adds hc)
          exact ⟨cs, m, [], rfl, hc, by simp, Option.some.inj hmade⟩
        | declare | output | setPhase => exact hc.elim
      · rw [kind?_change hc] at hr
        exact (ih hr).concat hc
  · rintro ⟨before, m, behind, rfl, hm, hnone, rfl⟩
    rw [replay_append]
    exact (kind?_replay_of_forall (d := (d.replay before).add m) hnone).trans (kind?_add_of_adds hm)

theorem LastOfKind.mem (h : d.LastOfKind cs k r) : r ∈ (d.replay cs).resources := by
  obtain ⟨before, m, behind, rfl, -, -, rfl⟩ := h
  rw [replay_append]
  have hadd : (d.replay before).made m ∈ ((d.replay before).add m).resources :=
    List.mem_append_right _ (List.mem_singleton.2 rfl)
  exact (extends_replay ((d.replay before).add m) behind).resources.subset hadd

/-! ## Answers -/

theorem use_ref_eq_ok {attr : String} {p : Reference}
    (h : (d.use (.ref k attr)).1 = .ok (.value (.ref p))) :
    ∃ r, d.kind? k = some r ∧ p = r.reference attr := by
  dsimp only [use, kindRef] at h
  cases hk : d.kind? k with
  | none => simp [hk, Except.map] at h
  | some r =>
    simp only [hk, Except.map, Except.ok.injEq, Answer.value.injEq, Value.ref.injEq] at h
    exact ⟨r, rfl, h.symm⟩

/-- A variable that is handed out for a field is that of the field, or the field's own value. -/
theorem use_value_eq_var {field : String} {default : Value}
    (h : (d.use (.value field default)).1 = .ok (.value (.var n))) :
    n ∈ (d.use (.value field default)).2.inputNames ∨
      d.isSecret field (.var n) = false ∧ d.given field default = .var n := by
  dsimp only [use, Draft.value, usable] at h ⊢
  by_cases hs : d.isSecret field (d.given field default) = true
  · obtain rfl : field = n := by simpa [hs] using h
    rw [if_pos hs]
    exact .inl (mem_inputNames_declare d (d.secret field (d.given field default)))
  · have hgiven : d.given field default = .var n := by simpa [hs] using h
    exact .inr ⟨by simpa [hgiven] using hs, hgiven⟩

/-! ## Every moment -/

/-- What a draft `d` answers for that was started as `d₀` and has seen some changes. -/
structure Accounts (d₀ d : Draft) (seen : List Change) : Prop where
  /-- No two variables share a name. -/
  distinct : d.inputNames.Nodup
  /-- What is there stays, as it is and in its place, whatever comes next. -/
  kept : ∀ next, d.Extends (d₀.replay (seen ++ next))
  /-- A kind denotes the resource that was added last under it. -/
  latest : ∀ k r, d.kind? k = some r ↔ d₀.LastOfKind seen k r
  /-- A reference by kind leads to the resource of the kind, which has been added. -/
  led : ∀ k attr p, (d.use (.ref k attr)).1 = .ok (.value (.ref p)) →
    ∃ r ∈ d.resources, d.kind? k = some r ∧ p.target = r.address
  /-- What a declaration hands out is declared from then on. -/
  declared : ∀ v, (d.use (.declare v)).1 = .ok (.value (.var v.name)) ∧
    ∀ later, v.name ∈ ((d.use (.declare v)).2.replay later).inputNames
  /-- So is a variable that stands for the value of a field; any other is that value itself. -/
  valued : ∀ field default n, (d.use (.value field default)).1 = .ok (.value (.var n)) →
    (∀ later, n ∈ ((d.use (.value field default)).2.replay later).inputNames) ∨
      d.isSecret field (.var n) = false ∧ d.given field default = .var n

theorem accounts_replay (hkinds : d.kinds = []) (hnames : d.inputNames.Nodup) (seen : List Change) :
    d.Accounts (d.replay seen) seen where
  distinct := nodup_replay hnames seen
  kept next := by
    rw [replay_append]
    exact extends_replay _ next
  latest _ _ := kind?_replay_iff hkinds seen
  led k attr p hp := by
    obtain ⟨r, hr, rfl⟩ := use_ref_eq_ok hp
    exact ⟨r, ((kind?_replay_iff hkinds seen).1 hr).mem, hr, rfl⟩
  declared v := ⟨rfl, fun later => (extends_replay _ later).inputNames (mem_inputNames_declare _ v)⟩
  valued _ _ _ h := (use_value_eq_var h).imp_left fun hn later => (extends_replay _ later).inputNames hn

/-- **A draft accounts at every moment for what it hands out**, whatever is done with it. The moments of
some uses are the ways to cut their history; those between two uses are among them. -/
theorem accounts_history (provider : String) (s : Service) (values : Attributes) (us : List Use) :
    let d₀ := start provider s values
    (∀ done, done <+: us →
      d₀.history done <+: d₀.history us ∧ d₀.after done = d₀.replay (d₀.history done)) ∧
    ∀ seen, seen <+: d₀.history us → d₀.Accounts (d₀.replay seen) seen := by
  intro d₀
  constructor
  · rintro done ⟨todo, rfl⟩
    rw [history_append]
    exact ⟨List.prefix_append _ _, after_eq_replay d₀ done⟩
  · intro seen _
    exact accounts_replay (d := d₀) rfl List.nodup_nil seen

/-- A template that fails for want of a network, a network that is added twice, a variable that is
declared twice, and a password: the moment at which the template has failed, and the end. -/
theorem accounts_history_network :
    let d₀ := start "aws" Catalog.Aws.rds [("db_identifier", .str "orders"), ("password", .str "opensesame")]
    let fails : Use := .run Template.Aws.subnet
    let us : List Use := [fails, .add { type := "aws_vpc", attributes := [], kind := "network" },
      .add { type := "aws_vpc", attributes := [], role := "other", kind := "network" },
      .declare { name := "zone" }, .declare { name := "zone", value := .str "b" }, .value "password" .null]
    (d₀.use fails).1 = .error (.noKind "network") ∧ (d₀.after [fails]).resources.length = 1 ∧
      [fails] <+: us ∧ d₀.Accounts (d₀.after [fails]) (d₀.history [fails]) ∧
      ((d₀.after us).kind? "network").map (·.name) = some "orders_other" ∧
      (d₀.after us).inputNames = ["zone", "password"] ∧
      d₀.Accounts (d₀.after us) (d₀.history us) := by
  intro d₀ fails us
  obtain ⟨hmoments, haccounts⟩ := accounts_history "aws" Catalog.Aws.rds
    [("db_identifier", .str "orders"), ("password", .str "opensesame")] us
  have hdone : [fails] <+: us := ⟨us.tail, rfl⟩
  obtain ⟨hcut, hfailed⟩ := hmoments [fails] hdone
  obtain ⟨hall, hend⟩ := hmoments us List.prefix_rfl
  refine ⟨rfl, rfl, hdone, ?_, by decide +kernel, by decide +kernel, ?_⟩
  · rw [hfailed]
    exact haccounts _ hcut
  · rw [hend]
    exact haccounts _ hall

/-- A variable that nobody declared, as the default of a field that is not sensitive: it is handed out
as it is. -/
theorem value_undeclared :
    let d := start "aws" { id := "db", name := "Db", category := "Database", fields := [{ name := "title" }] }
      [("title", .str "orders")]
    (d.use (.value "size" (.var "ghost"))).1 = .ok (.value (.var "ghost")) ∧
      "ghost" ∉ (d.use (.value "size" (.var "ghost"))).2.inputNames :=
  ⟨rfl, by decide +kernel⟩

end

end Draft

end CloudScaffold
