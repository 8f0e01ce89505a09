import CloudScaffold.Proofs.Catalog.Discreet
import CloudScaffold.Proofs.Graph.Order
import CloudScaffold.Proofs.Template.Record
/-!
# What a graph tells of its build

The graph of a service is a record of the additions of all its templates, dependencies included
(`Registry.build_recorded`): putting the resources in order loses none, since a draft is in one of two
phases. The variables of a graph tell the values of the sensitive fields that were taken
(`Registry.build_secret`).
-/
namespace CloudScaffold

/-- The additions of all templates that a service is built from. -/
def Registry.additions (r : Registry) (provider : String) (s : Service) : List Addition :=
  (r.templates provider s).flatten.flatMap Step.additions

section
variable {r : Registry} {provider : String} {s : Service} {values : Attributes} {g : Graph}

theorem Draft.apply_records {d d' : Draft} (hp : d.InPhase) {t : Template}
    (h : d.apply t = .ok d') : d.Records (t.flatMap Step.additions) d' :=
  runSteps_records hp (apply_eq_ok.1 h)

theorem buildDependencies_records : ∀ {ks : List String} {d d' : Draft}, d.InPhase →
    r.buildDependencies d ks = .ok d' →
    d.Records ((ks.filterMap (r.dependency? d.provider)).flatten.flatMap Step.additions) d'
  | [], d, _, _, h => by cases h; exact .refl d
  | k :: ks, d, d', hp, h => by
    obtain ⟨t, d₁, ht, happ, h⟩ := Registry.buildDependencies_cons_eq_ok.1 h
    have hfirst := Draft.apply_records hp happ
    have hp₁ : d₁.InPhase := by rw [Draft.InPhase, hfirst.phase]; exact hp
    have hrest := buildDependencies_records hp₁ h
    rw [hfirst.provider] at hrest
    rw [List.filterMap_cons, ht, List.flatten_cons, List.flatMap_append]
    exact hfirst.trans hrest

/-- The role of a resource is that of a dependency or of a primary resource. -/
theorem Addition.Makes.role {a : Addition} {o : Draft} {q : Resource} (h : a.Makes o q) :
    q.isDependency = true ∨ q.isPrimary = true := by
  obtain ⟨d, _, attrs, -, hp, -, -, rfl⟩ := h
  by_cases ha : a.dependency = true
  · exact .inl (by simp [Draft.made, Addition.making, Resource.isDependency, ha])
  · exact hp.imp (fun hd => by simp [Draft.made, Addition.making, Resource.isDependency, ha, hd])
      fun hd => by simp [Draft.made, Addition.making, Resource.isPrimary, ha, hd]

/-- **The graph of a service is a record** of the additions of its templates. -/
theorem Registry.build_recorded (h : r.build provider s values = .ok g) :
    Recorded (.start provider s values) (r.additions provider s) g.resources := by
  obtain ⟨c, d₁, d, -, hd₁, hd, rfl, -⟩ := build_eq_ok h
  have hdeps := buildDependencies_records (.inl rfl) hd₁
  have hprov : d₁.provider = provider := congrArg Draft.provider hdeps.origin
  have hserv : d₁.service = s := congrArg Draft.service hdeps.origin
  obtain ⟨t, ht, happ⟩ := buildPrimary_eq_ok.1 hd
  rw [hprov, hserv] at ht
  have hprim := Draft.apply_records (.inr rfl) happ
  obtain ⟨rs, hrs, hr⟩ := hdeps.resources
  obtain ⟨qs, hqs, hq⟩ := hprim.resources
  have hall : Recorded (.start provider s values) (r.additions provider s) d.resources := by
    have hstart : (d₁.setPhase "primary").origin = .start provider s values := hdeps.origin
    have hsetPhase : (d₁.setPhase "primary").resources = rs := hrs
    rw [hstart] at hq
    have hsplit : r.additions provider s =
        (s.dependencies.filterMap (r.dependency? provider)).flatten.flatMap Step.additions ++
          t.flatMap Step.additions := by simp [additions, templates, ht]
    rw [hqs, hsetPhase, hsplit]
    exact hr.append hq
  have hlayer (q : Resource) (hq : q ∈ d.resources) : q.layer < 3 := by
    obtain ⟨a, -, hm⟩ := hall.made q hq
    exact Resource.layer_lt hm.role
  exact hall.congr fun q => (ordered_perm hlayer).mem_iff

/-- A sensitive variable of a graph has the value of its field. -/
theorem Registry.build_secret (h : r.build provider s values = .ok g)
    (hapart : ∀ c ∈ r.contract? provider, c.isApart s = true) :
    ∀ v ∈ g.inputs, s.isSensitive v.name = true →
      v.value = (Draft.start provider s values).given v.name .null := by
  refine forall_inputs h (fun c hc v hv hs => ?_) fun f _ => rfl
  obtain ⟨i, hi, rfl⟩ := List.mem_map.1 hv
  have hfree := List.all_eq_true.1 (Bool.and_eq_true_iff.1 (hapart c hc)).2 i hi
  simp [hs] at hfree

end

end CloudScaffold
