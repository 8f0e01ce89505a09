import CloudScaffold.Proofs.Graph.Soundness
import CloudScaffold.Proofs.Template.SketchTerm
/-!
# Sketches of runs are right

`Sketch.Depicts` relates a sketch to a draft: the resources of the draft are the nodes of the sketch,
in order, and refer to nothing but what the nodes list. Main statements: a step for which a sketch
goes on succeeds and keeps the relation (`Depicts.step_sound`), and so do a whole template
(`Depicts.run_sound`) and the build of a service (`Depicts.sketch_sound`).

The contract that carries the variables is that `inputs` has each sensitive field at most once and
every one that was taken; taking is done before a resource is added, so a resource never waits for
its variables.
-/
namespace CloudScaffold

/-! ## Taking fields -/

namespace Draft

/-- The names of the variables of a draft. -/
def inputNames (d : Draft) : List String := d.inputs.map (·.name)

section
variable {d : Draft}

theorem any_name_iff {vs : List Variable} {n : String} :
    vs.any (·.name == n) = true ↔ n ∈ vs.map (·.name) := by
  simp

/-- A variable of a new name behind others whose names differ. -/
theorem nodup_names_concat {vs : List Variable} {v : Variable} (h : (vs.map (·.name)).Nodup)
    (hnew : v.name ∉ vs.map (·.name)) : ((vs ++ [v]).map (·.name)).Nodup := by
  rw [List.map_append, List.map_singleton, List.nodup_append]
  exact ⟨h, by simp, by simpa using hnew⟩

/-- Taking a field declares a variable just for a sensitive value whose variable is not there. -/
theorem takeInput_cases (d : Draft) (vs : List Variable) (f : String) :
    (d.isSecret f (d.given f .null) = true ∧ f ∉ vs.map (·.name) ∧
      d.takeInput vs f = vs ++ [d.secret f (d.given f .null)]) ∨
    ((d.isSecret f (d.given f .null) = true → f ∈ vs.map (·.name)) ∧ d.takeInput vs f = vs) := by
  by_cases hs : d.isSecret f (d.given f .null) = true
  · by_cases hd : f ∈ vs.map (·.name)
    · right
      have hany := any_name_iff.2 hd
      exact ⟨fun _ => hd, by simp [takeInput, hany]⟩
    · left
      have hany := Bool.eq_false_iff.2 (mt any_name_iff.1 hd)
      exact ⟨hs, hd, by simp [takeInput, hs, hany]⟩
  · right
    exact ⟨fun h => absurd h hs, by simp [takeInput, hs]⟩

theorem foldl_takeInput_mono : ∀ (fs : List String) {vs : List Variable} {v : Variable},
    v ∈ vs → v ∈ fs.foldl d.takeInput vs
  | [], _, _, h => h
  | f :: fs, vs, v, h => by
    refine foldl_takeInput_mono fs ?_
    rcases d.takeInput_cases vs f with ⟨_, _, ht⟩ | ⟨_, ht⟩
    · rw [ht]; simp [h]
    · rw [ht]; exact h

/-- A sensitive field that is taken has its variable. -/
theorem mem_foldl_takeInput {f : String} (hs : d.isSecret f (d.given f .null) = true) :
    ∀ {fs : List String} (vs : List Variable), f ∈ fs → f ∈ (fs.foldl d.takeInput vs).map (·.name)
  | g :: fs, vs, hf => by
    rw [List.foldl_cons]
    rcases List.mem_cons.1 hf with rfl | hf
    · have hin : f ∈ (d.takeInput vs f).map (·.name) := by
        rcases d.takeInput_cases vs f with ⟨_, _, ht⟩ | ⟨h, ht⟩
        · rw [ht]; simp [secret]
        · rw [ht]; exact h hs
      obtain ⟨v, hv, hn⟩ := List.mem_map.1 hin
      exact List.mem_map.2 ⟨v, foldl_takeInput_mono fs hv, hn⟩
    · exact mem_foldl_takeInput hs _ hf

/-- What holds of the variables before, and of those of sensitive fields, holds after. -/
theorem forall_foldl_takeInput {P : Variable → Prop}
    (hs : ∀ f, d.isSecret f (d.given f .null) = true → P (d.secret f (d.given f .null))) :
    ∀ (fs : List String) {vs : List Variable}, (∀ v ∈ vs, P v) → ∀ v ∈ fs.foldl d.takeInput vs, P v
  | [], _, h => h
  | f :: fs, vs, h => by
    refine forall_foldl_takeInput hs fs fun v hv => ?_
    rcases d.takeInput_cases vs f with ⟨hsec, _, ht⟩ | ⟨_, ht⟩
    · rw [ht] at hv
      rcases List.mem_append.1 hv with hv | hv
      · exact h v hv
      · rw [List.mem_singleton.1 hv]; exact hs f hsec
    · rw [ht] at hv; exact h v hv

theorem nodup_foldl_takeInput : ∀ (fs : List String) {vs : List Variable},
    (vs.map (·.name)).Nodup → ((fs.foldl d.takeInput vs).map (·.name)).Nodup
  | [], _, h => h
  | f :: fs, vs, h => by
    refine nodup_foldl_takeInput fs ?_
    rcases d.takeInput_cases vs f with ⟨_, hnew, ht⟩ | ⟨_, ht⟩
    · rw [ht]
      exact nodup_names_concat h hnew
    · rw [ht]; exact h

theorem inputNames_takeAll_mono (fs : List String) {n : String} (h : n ∈ d.inputNames) :
    n ∈ (d.takeAll fs).inputNames := by
  obtain ⟨v, hv, rfl⟩ := List.mem_map.1 h
  exact List.mem_map.2 ⟨v, foldl_takeInput_mono fs hv, rfl⟩

end

end Draft

/-! ## Nodes and resources -/

/-- Whether a resource is as a node says, for variables with the property `D`. -/
structure Node.Depicts (base : String) (G : List String) (D : String → Prop) (n : Node)
    (r : Resource) : Prop where
  names : n.key.Names base r
  role : r.role = if n.primary then "primary" else "dependency"
  points : ∀ p ∈ r.refs, p.Within base G n.points D

/-- Whether an output refers only to some keys, and to variables with the property `D`. -/
def Exposes (base : String) (G : List String) (D : String → Prop) (ps : List Key) (o : Output) : Prop :=
  ∀ p ∈ o.value.refs, p.Within base G ps D

/-- Whether a draft, with the handles of its template, is as a sketch says. -/
structure Sketch.Depicts (G : List String) (k : Sketch) (d : Draft) (hs : Handles) : Prop
    extends k.Sees G d hs where
  phase : d.phase = if k.primary then "primary" else "dependency"
  resources : List.Forall₂ (Node.Depicts d.base G (· ∈ d.inputNames)) k.nodes d.resources
  outputs : List.Forall₂ (Exposes d.base G (· ∈ d.inputNames)) k.outputs d.outputs
  nodup : d.inputNames.Nodup
  sensitive : ∀ v ∈ d.inputs, d.service.isSensitive v.name = true

section
variable {base : String} {G : List String} {D E : String → Prop}

theorem Node.Depicts.mono {n : Node} {r : Resource} (h : n.Depicts base G D r) (hD : ∀ x, D x → E x) :
    n.Depicts base G E r :=
  ⟨h.names, h.role, fun p hp => (h.points p hp).mono (fun _ hm => hm) hD⟩

theorem Exposes.mono {ps : List Key} {o : Output} (h : Exposes base G D ps o) (hD : ∀ x, D x → E x) :
    Exposes base G E ps o :=
  fun p hp => (h p hp).mono (fun _ hm => hm) hD

theorem refsEntries_filter {p : Pointer} {q : String × Value → Bool} {kvs : Attributes}
    (h : p ∈ Value.refsEntries (kvs.filter q)) : p ∈ Value.refsEntries kvs := by
  rw [Value.mem_refsEntries] at h ⊢
  obtain ⟨kv, hkv, hp⟩ := h
  exact ⟨kv, List.mem_of_mem_filter hkv, hp⟩

theorem Registered.register {es : List (String × Resource)} {ms : List (String × Key)}
    (h : Registered base es ms) {key : Key} {r : Resource} (hr : key.Names base r) (n : String) :
    Registered base (if n = "" then es else (n, r) :: es) (Sketch.register n key ms) := by
  unfold Sketch.register
  by_cases hn : n = ""
  · simpa [hn] using h
  · simp only [hn, if_false]
    exact .cons ⟨rfl, hr⟩ h

end

/-! ## One step -/

namespace Sketch

section
variable {G : List String} {k k' : Sketch} {d : Draft} {hs : Handles}

theorem Depicts.takeAll (h : k.Depicts G d hs) (fs : List String) : k.Depicts G (d.takeAll fs) hs where
  globals := h.globals
  answers := h.answers
  shapes := h.shapes
  plain := h.plain
  inbound := h.inbound
  kinds := h.kinds
  handles := h.handles
  phase := h.phase
  resources := h.resources.imp fun _ _ hn => hn.mono fun _ => Draft.inputNames_takeAll_mono fs
  outputs := h.outputs.imp fun _ _ ho => ho.mono fun _ => Draft.inputNames_takeAll_mono fs
  nodup := Draft.nodup_foldl_takeInput fs h.nodup
  sensitive := Draft.forall_foldl_takeInput
    (fun _ hf => (Bool.and_eq_true_iff.1 hf).1) fs h.sensitive

/-- After the fields of a value are taken, its variables are declared. -/
theorem Covers.within {ps : List Key} {fs : List String} {refs : List Pointer}
    (h : Covers G d.view ps fs refs) {p : Pointer} (hp : p ∈ refs) :
    p.Within d.base G ps (· ∈ (d.takeAll fs).inputNames) :=
  (h p hp).mono (fun _ hm => hm) fun _ hn => Draft.mem_foldl_takeInput hn.2 d.inputs hn.1

theorem Depicts.add (h : k.Depicts G d hs) (a : Addition) {attrs : Attributes} {ps : List Key}
    (hp : ∀ p ∈ Value.refsEntries attrs, p.Within d.base G ps (· ∈ d.inputNames)) :
    (k.add a ps).Depicts G (d.add (a.making attrs)) (a.handles hs (d.made (a.making attrs))) := by
  have hn : Key.Names d.base ⟨a.data, a.type, a.role⟩ (d.made (a.making attrs)) := ⟨rfl, rfl, rfl⟩
  have hrole : (d.made (a.making attrs)).role =
      if (k.primary && !a.dependency) = true then "primary" else "dependency" := by
    have hmade : (d.made (a.making attrs)).role = if a.dependency then "dependency" else d.phase := by
      by_cases ha : a.dependency = true <;> simp [Draft.made, Addition.making, ha]
    rw [hmade, h.phase]
    cases a.dependency <;> cases k.primary <;> rfl
  exact {
    globals := h.globals
    answers := h.answers
    shapes := h.shapes
    plain := h.plain
    inbound := h.inbound
    kinds := h.kinds.register hn a.kind
    handles := h.handles.register hn a.handle
    phase := h.phase
    resources := List.rel_append h.resources
      (.cons ⟨hn, hrole, fun p hm => hp p (refsEntries_filter hm)⟩ .nil)
    outputs := h.outputs
    nodup := h.nodup
    sensitive := h.sensitive }

theorem Depicts.output (h : k.Depicts G d hs) {o : Output} {ps : List Key}
    (ho : Exposes d.base G (· ∈ d.inputNames) ps o) :
    { k with outputs := k.outputs ++ [ps] }.Depicts G (d.output o) hs where
  globals := h.globals
  answers := h.answers
  shapes := h.shapes
  plain := h.plain
  inbound := h.inbound
  kinds := h.kinds
  handles := h.handles
  phase := h.phase
  resources := h.resources
  outputs := List.rel_append h.outputs (.cons ho .nil)
  nodup := h.nodup
  sensitive := h.sensitive

/-- **A step with a sketch succeeds**, and the draft after it is as the sketch after it says. -/
theorem Depicts.step_sound (h : k.Depicts G d hs) : ∀ {s : Step}, k.step s = some k' →
    ∃ hs' d', (s.run hs).on d = (.ok hs', d') ∧ k'.Depicts G d' hs' ∧ d'.origin = d.origin
  | .touch t, hk => by
    obtain ⟨ps, ht, rfl⟩ := Option.map_eq_some_iff.1 hk
    obtain ⟨v, hv, _⟩ := h.toSees.view.points_sound ht
    exact ⟨hs, _, by rw [Step.run_touch_on, hv]; rfl, h.takeAll _, rfl⟩
  | .add a, hk => by
    simp only [step, Option.bind_eq_bind, Option.bind_eq_some_iff] at hk
    obtain ⟨b, hb, hk⟩ := hk
    have hc := h.toSees.answer hb
    cases b with
    | false =>
      cases hk
      exact ⟨hs, d, by rw [Step.run_add_on, hc], h, rfl⟩
    | true =>
      obtain ⟨ps, ht, rfl⟩ := Option.map_eq_some_iff.1 hk
      obtain ⟨vs, hvs, hcov⟩ := h.toSees.view.pointsEntries_sound ht
      refine ⟨_, _, ?_, (h.takeAll _).add a fun p hp => hcov.within hp, rfl⟩
      rw [Step.run_add_on, hc]
      simp only [Addition.run_on, hvs]
      rfl
  | .output o, hk => by
    simp only [step, Option.bind_eq_bind, Option.bind_eq_some_iff] at hk
    obtain ⟨b, hb, hk⟩ := hk
    have hc := h.toSees.answer hb
    cases b with
    | false =>
      cases hk
      exact ⟨hs, d, by rw [Step.run_output_on, hc], h, rfl⟩
    | true =>
      obtain ⟨ps, ht, rfl⟩ := Option.map_eq_some_iff.1 hk
      obtain ⟨v, hv, hcov⟩ := h.toSees.view.points_sound ht
      refine ⟨hs, (d.takeAll _).output ⟨o.name, v, o.description, o.sensitive⟩, ?_,
        (h.takeAll _).output fun p hp => hcov.within hp, rfl⟩
      rw [Step.run_output_on, hc]
      simp only [Exposure.run_on, hv]
      rfl

/-! ## Whole runs -/

theorem Depicts.steps_sound : ∀ {ss : List Step} {k : Sketch} {d : Draft} {hs : Handles},
    k.Depicts G d hs → k.steps ss = some k' →
    ∃ hs' d', (runSteps hs ss).on d = (.ok (), d') ∧ k'.Depicts G d' hs' ∧ d'.origin = d.origin
  | [], k, d, hs, h, hk => by
    cases hk
    exact ⟨hs, d, rfl, h, rfl⟩
  | s :: ss, k, d, hs, h, hk => by
    simp only [steps, Option.bind_eq_bind, Option.bind_eq_some_iff] at hk
    obtain ⟨k1, h1, hk⟩ := hk
    obtain ⟨hs1, d1, hrun1, hd1, ho1⟩ := h.step_sound h1
    obtain ⟨hs2, d2, hrun2, hd2, ho2⟩ := steps_sound hd1 hk
    refine ⟨hs2, d2, ?_, hd2, ho2.trans ho1⟩
    rw [runSteps_cons_on, hrun1]
    exact hrun2

theorem Depicts.forget (h : k.Depicts G d hs) : { k with handles := [] }.Depicts G d [] :=
  { h with
    toSees := { h.toSees with handles := .nil } }

theorem Depicts.setPrimary (h : k.Depicts G d hs) :
    { k with primary := true }.Depicts G (d.setPhase "primary") hs where
  globals := h.globals
  answers := h.answers
  shapes := h.shapes
  plain := h.plain
  inbound := h.inbound
  kinds := h.kinds
  handles := h.handles
  phase := rfl
  resources := h.resources
  outputs := h.outputs
  nodup := h.nodup
  sensitive := h.sensitive

theorem Depicts.run_sound (h : k.Depicts G d hs) {t : Template} (hk : k.run t = some k') :
    ∃ hs' d', d.apply t = .ok d' ∧ k'.Depicts G d' hs' ∧ d'.origin = d.origin := by
  obtain ⟨hs', d', hrun, hd, ho⟩ := steps_sound h.forget hk
  exact ⟨hs', d', Draft.apply_eq_ok.2 hrun, hd, ho⟩

/-! ## Services -/

/-- The dependency kinds of a service with a sketch are built. -/
theorem Depicts.sketchKinds_sound (r : Registry) (provider : String) : ∀ {ds : List String}
    {k : Sketch} {d : Draft} {hs : Handles}, k.Depicts G d hs → d.provider = provider →
    r.sketchKinds provider k ds = some k' →
    ∃ hs' d', r.buildDependencies d ds = .ok d' ∧ k'.Depicts G d' hs' ∧ d'.origin = d.origin
  | [], k, d, hs, h, _, hk => by
    cases hk
    exact ⟨hs, d, rfl, h, rfl⟩
  | kind :: ds, k, d, hs, h, hp, hk => by
    simp only [Registry.sketchKinds, Option.bind_eq_bind, Option.bind_eq_some_iff] at hk
    obtain ⟨t, ht, k1, h1, hk⟩ := hk
    obtain ⟨hs1, d1, hrun1, hd1, ho1⟩ := h.run_sound h1
    obtain ⟨hs2, d2, hrun2, hd2, ho2⟩ :=
      sketchKinds_sound r provider hd1 ((congrArg Draft.provider ho1).trans hp) hk
    rw [← hp] at ht
    exact ⟨hs2, d2, Registry.buildDependencies_cons_eq_ok.2 ⟨t, d1, ht, hrun1, hrun2⟩, hd2,
      ho2.trans ho1⟩

/-- **A service with a sketch is built**, for every draft that the sketch depicts at the start. -/
theorem Depicts.sketch_sound (r : Registry) {provider : String} {s : Service} {values : Attributes}
    (h : k.Depicts G (.start provider s values) []) (hk : r.sketch provider s k = some k') :
    ∃ d₁ d hs, r.buildDependencies (.start provider s values) s.dependencies = .ok d₁ ∧
      r.buildPrimary d₁ = .ok d ∧ k'.Depicts G d hs ∧ d.origin = .start provider s values := by
  simp only [Registry.sketch, Option.bind_eq_bind, Option.bind_eq_some_iff] at hk
  obtain ⟨k₁, h₁, t, ht, hk⟩ := hk
  obtain ⟨hs₁, d₁, hrun₁, hd₁, ho₁⟩ := h.sketchKinds_sound r provider rfl h₁
  obtain ⟨hs, d, hrun, hd, ho⟩ := hd₁.setPrimary.run_sound hk
  refine ⟨d₁, d, hs, hrun₁, ?_, hd, ho.trans ho₁⟩
  have hp : d₁.provider = provider := congrArg Draft.provider ho₁
  have hs : d₁.service = s := congrArg Draft.service ho₁
  rw [← hp, ← hs] at ht
  exact Registry.buildPrimary_eq_ok.2 ⟨t, ht, hrun⟩

end

end Sketch

end CloudScaffold
