import CloudScaffold.Graph.Build
import CloudScaffold.Proofs.Lists
/-!
# Sound graphs

`Graph.Sound` says what `Graph.check` is there to find out, without an order of checking: addresses
are distinct, resources point backwards, outputs point into the graph, and every variable is
declared. Main statement: `check_eq_ok_iff_sound`.

The contract of the walk over the resources is that `before` holds the addresses of everything
already passed, so what it accepts is stated for every split of the remaining list.
-/
namespace CloudScaffold

/-- A graph that `check` has no objection to. -/
structure Graph.Sound (g : Graph) : Prop where
  nodup : g.addresses.Nodup
  /-- A reference of a resource points to a resource listed before it. -/
  backwards : ∀ pre r post, g.resources = pre ++ r :: post →
    ∀ p, Pointer.ref p ∈ r.refs → p.target ∈ pre.map (·.address)
  /-- A reference of an output points to a resource of the graph. -/
  outputs : ∀ o ∈ g.outputs, ∀ p, Pointer.ref p ∈ o.value.refs → p.target ∈ g.addresses
  /-- The variables of resources and outputs are declared. -/
  declared : ∀ n, (∃ r ∈ g.resources, Pointer.var n ∈ r.refs) ∨
    (∃ o ∈ g.outputs, Pointer.var n ∈ o.value.refs) → n ∈ g.inputs.map (·.name)

/-- What a pointer may point to, given the declared variables and the addresses before it. -/
def Pointer.Allowed (declared before : List String) : Pointer → Prop
  | .var n => n ∈ declared
  | .ref r => r.target ∈ before

theorem Pointer.Allowed.mono {declared before after : List String} {p : Pointer}
    (h : p.Allowed declared before) (hsub : ∀ a ∈ before, a ∈ after) : p.Allowed declared after := by
  cases p with
  | ref r => exact hsub _ h
  | var n => exact h

section
variable {declared : List String}

theorem checkPointer_eq_ok_iff {before : List String} (owner : String) {p : Pointer} :
    checkPointer declared before owner p = .ok () ↔ p.Allowed declared before := by
  cases p <;> simp [checkPointer, Pointer.Allowed]

theorem checkPointers_eq_ok_iff {before : List String} (owner : String) :
    ∀ {ps : List Pointer}, checkPointers declared before owner ps = .ok () ↔
      ∀ p ∈ ps, p.Allowed declared before
  | [] => by simp [checkPointers]
  | p :: ps => by
    rw [List.forall_mem_cons, ← checkPointers_eq_ok_iff owner,
      ← checkPointer_eq_ok_iff owner, checkPointers]
    cases h : checkPointer declared before owner p with
    | ok u => simp [bind, Except.bind]
    | error e => simp [bind, Except.bind]

/-- What the walk over the resources accepts, from any point of the list on. -/
theorem checkResources_eq_ok_iff : ∀ {before : List String} {rs : List Resource},
    checkResources declared before rs = .ok () ↔
      (∀ a ∈ before, a ∉ rs.map (·.address)) ∧ (rs.map (·.address)).Nodup ∧
      ∀ pre r post, rs = pre ++ r :: post →
        ∀ p ∈ r.refs, p.Allowed declared (before ++ pre.map (·.address))
  | before, [] => by simp [checkResources]
  | before, r :: rs => by
    have step : checkResources declared before (r :: rs) = .ok () ↔ r.address ∉ before ∧
        (∀ p ∈ r.refs, p.Allowed declared before) ∧
        checkResources declared (before ++ [r.address]) rs = .ok () := by
      rw [← checkPointers_eq_ok_iff r.address, checkResources]
      by_cases hb : r.address ∈ before
      · simp [hb, bind, Except.bind, throw, throwThe, MonadExceptOf.throw]
      · cases hp : checkPointers declared before r.address r.refs <;> simp [hb, bind, Except.bind]
    rw [step, checkResources_eq_ok_iff]
    constructor
    · rintro ⟨hr, hp, hb, hnd, hsplit⟩
      refine ⟨fun a ha => ?_, ?_, fun pre q post heq => ?_⟩
      · have := hb a (by simp [ha])
        simp only [List.map_cons, List.mem_cons, not_or]
        exact ⟨fun e => hr (e ▸ ha), this⟩
      · rw [List.map_cons, List.nodup_cons]
        exact ⟨hb _ (by simp), hnd⟩
      · match pre, heq with
        | [], heq =>
          obtain ⟨rfl, rfl⟩ := List.cons.inj heq
          simpa using hp
        | a :: pre, heq =>
          obtain ⟨rfl, rfl⟩ := List.cons.inj heq
          simpa using hsplit pre q post rfl
    · rintro ⟨hb, hnd, hsplit⟩
      rw [List.map_cons, List.nodup_cons] at hnd
      refine ⟨fun hr => hb _ hr (by simp), ?_, fun a ha => ?_, hnd.2, fun pre q post heq => ?_⟩
      · simpa using hsplit [] r rs rfl
      · rcases List.mem_append.1 ha with ha | ha
        · exact fun hm => hb a ha (by simp [hm])
        · rw [List.mem_singleton.1 ha]; exact hnd.1
      · simpa using hsplit (r :: pre) q post (by rw [heq]; rfl)

theorem checkOutputs_eq_ok_iff {addresses : List String} : ∀ {os : List Output},
    checkOutputs declared addresses os = .ok () ↔
      ∀ o ∈ os, ∀ p ∈ o.value.refs, p.Allowed declared addresses
  | [] => by simp [checkOutputs]
  | o :: os => by
    rw [List.forall_mem_cons, ← checkOutputs_eq_ok_iff,
      ← checkPointers_eq_ok_iff ("output." ++ o.name), checkOutputs]
    cases h : checkPointers declared addresses ("output." ++ o.name) o.value.refs <;>
      simp [bind, Except.bind]

end

/-- **The check is sound and complete**: it lets a graph pass just when the graph is sound. -/
theorem Graph.check_eq_ok_iff_sound {g : Graph} : g.check = .ok () ↔ g.Sound := by
  have step : g.check = .ok () ↔
      checkResources (g.inputs.map (·.name)) [] g.resources = .ok () ∧
      checkOutputs (g.inputs.map (·.name)) g.addresses g.outputs = .ok () := by
    rw [Graph.check]
    cases h : checkResources (g.inputs.map (·.name)) [] g.resources <;> simp [bind, Except.bind]
  rw [step, checkResources_eq_ok_iff, checkOutputs_eq_ok_iff]
  constructor
  · rintro ⟨⟨_, hnd, hres⟩, hout⟩
    refine ⟨hnd, fun pre r post heq p hp => ?_, fun o ho p hp => hout o ho _ hp, ?_⟩
    · simpa [Pointer.Allowed] using hres pre r post heq _ hp
    · rintro n (⟨r, hr, hp⟩ | ⟨o, ho, hp⟩)
      · obtain ⟨pre, post, heq⟩ := List.append_of_mem hr
        exact hres pre r post heq _ hp
      · exact hout o ho _ hp
  · rintro ⟨hnd, hback, hout, hdecl⟩
    refine ⟨⟨by simp, hnd, fun pre r post heq p hp => ?_⟩, fun o ho p hp => ?_⟩
    · cases p with
      | ref q => simpa [Pointer.Allowed] using hback pre r post heq q hp
      | var n => exact hdecl n (.inl ⟨r, by simp [heq], hp⟩)
    · cases p with
      | ref q => exact hout o ho q hp
      | var n => exact hdecl n (.inr ⟨o, ho, hp⟩)

/-! ## The order of resources -/

/-- Whether resources stand in the order of their classes: data sources, dependencies, primary
resources. -/
def Layered (rs : List Resource) : Prop :=
  ∃ data deps own, rs = data ++ deps ++ own ∧ (∀ r ∈ data, r.isData = true) ∧
    (∀ r ∈ deps, r.isData = false ∧ r.isDependency = true) ∧
    ∀ r ∈ own, r.isData = false ∧ r.isPrimary = true

theorem layered_ordered (rs : List Resource) : Layered (ordered rs) := by
  refine ⟨_, _, _, rfl, ?_, ?_, ?_⟩ <;>
  · intro r hr
    simpa using (List.mem_filter.1 hr).2

theorem isPrimary_ne_isDependency {r : Resource} (h : r.isPrimary = true) : r.isDependency = false := by
  simp only [Resource.isPrimary, beq_iff_eq] at h
  simp [Resource.isDependency, h]

/-- Resources in the order of their classes are those that `ordered` leaves as they are. -/
theorem layered_iff {rs : List Resource} : Layered rs ↔ ordered rs = rs := by
  constructor
  · rintro ⟨data, deps, own, heq, hdata, hdeps, hown⟩
    have hother (r : Resource) (h : r ∈ own) : r.isDependency = false :=
      isPrimary_ne_isDependency (hown r h).2
    have hnot (r : Resource) (h : r ∈ deps) : r.isPrimary = false := by
      cases hp : r.isPrimary with
      | false => rfl
      | true => rw [← (hdeps r h).2, isPrimary_ne_isDependency hp]
    rw [heq]
    have f₁ : (data ++ deps ++ own).filter (·.isData) = data := by
      rw [List.filter_append, List.filter_append, List.filter_eq_self.2 hdata,
        List.filter_eq_nil_iff.2 fun r h => by simp [(hdeps r h).1],
        List.filter_eq_nil_iff.2 fun r h => by simp [(hown r h).1]]
      simp
    have f₂ : (data ++ deps ++ own).filter (fun r => !r.isData && r.isDependency) = deps := by
      rw [List.filter_append, List.filter_append,
        List.filter_eq_nil_iff.2 fun r h => by simp [hdata r h],
        List.filter_eq_self.2 fun r h => by simp [hdeps r h],
        List.filter_eq_nil_iff.2 fun r h => by simp [hother r h]]
      simp
    have f₃ : (data ++ deps ++ own).filter (fun r => !r.isData && r.isPrimary) = own := by
      rw [List.filter_append, List.filter_append,
        List.filter_eq_nil_iff.2 fun r h => by simp [hdata r h],
        List.filter_eq_nil_iff.2 fun r h => by simp [hnot r h],
        List.filter_eq_self.2 fun r h => by simp [hown r h]]
      simp
    rw [ordered, f₁, f₂, f₃]
  · intro h
    rw [← h]
    exact layered_ordered rs

/-! ## Built graphs -/

theorem Draft.apply_eq_ok {d d' : Draft} {t : Template} :
    d.apply t = .ok d' ↔ t.run d = (.ok (), d') := by
  rw [apply]
  rcases t.run d with ⟨e | _, d₁⟩
  · exact ⟨fun h => (nomatch h), fun h => (nomatch h)⟩
  · exact ⟨fun h => by cases h; rfl, fun h => by cases h; rfl⟩

section
variable {r : Registry} {provider : String} {s : Service} {values : Attributes} {g : Graph}
  {d d' : Draft}

/-- How the first of some kinds was built. -/
theorem Registry.buildDependencies_cons_eq_ok {k : String} {ks : List String} :
    r.buildDependencies d (k :: ks) = .ok d' ↔ ∃ t d₁, r.dependency? d.provider k = some t ∧
      d.apply t = .ok d₁ ∧ r.buildDependencies d₁ ks = .ok d' := by
  rw [buildDependencies]
  cases r.dependency? d.provider k with
  | none => simp
  | some t => simp [bind_eq_ok, mapError_eq_ok]

theorem Registry.buildPrimary_eq_ok : r.buildPrimary d = .ok d' ↔
    ∃ t, r.primary? d.provider d.service.id = some t ∧ (d.setPhase "primary").apply t = .ok d' := by
  rw [buildPrimary]
  cases r.primary? d.provider d.service.id with
  | none => simp
  | some t => simp [mapError_eq_ok]

/-- How a graph was built. -/
theorem Registry.build_eq_ok (h : r.build provider s values = .ok g) : ∃ c d₁ d,
    r.contract? provider = some c ∧
      r.buildDependencies (.start provider s values) s.dependencies = .ok d₁ ∧
      r.buildPrimary d₁ = .ok d ∧ graphOf c d = g ∧ g.check = .ok () := by
  unfold Registry.build at h
  cases hc : r.contract? provider with
  | none => simp [hc] at h
  | some c =>
    simp only [hc, bind_eq_ok] at h
    obtain ⟨d₁, hd₁, d, hd, _, hcheck, h⟩ := h
    cases h
    refine ⟨c, d₁, d, rfl, hd₁, hd, rfl, ?_⟩
    cases hg : (Registry.graphOf c d).check with
    | ok u => rfl
    | error e => simp [hg, Except.mapError] at hcheck

/-- What is built has passed the check, and is in order. -/
theorem Registry.build_spec (h : r.build provider s values = .ok g) :
    g.check = .ok () ∧ ordered g.resources = g.resources := by
  obtain ⟨_, _, d, _, _, _, rfl, hcheck⟩ := build_eq_ok h
  exact ⟨hcheck, layered_iff.1 (layered_ordered d.resources)⟩

end

end CloudScaffold
