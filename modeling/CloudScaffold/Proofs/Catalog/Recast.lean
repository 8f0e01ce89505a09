import CloudScaffold.Proofs.Catalog.Built
import CloudScaffold.Proofs.Template.Recast
/-!
# Building from other values

A draft grows only while a service is built: what it was started from stays as it is, whatever the
templates do (`Draft.Grows`). So a service whose templates see no difference between two mappings is
built from the one as from the other, up to a change of the variables. Main statement:
`Registry.build_recast`.
-/
namespace CloudScaffold

/-- All that the templates of a service may ask. -/
def Registry.reads (r : Registry) (provider : String) (s : Service) : List Reading :=
  (r.templates provider s).flatten.flatMap Step.reads

section
variable {r : Registry} {d : Draft}

/-! ## Growing -/

theorem Draft.apply_grows {d' : Draft} {t : Template} (h : d.apply t = .ok d') : d.Grows d' := by
  have hgrows : d.Grows (t.run d).2 := runSteps_grows t
  rwa [Draft.apply_eq_ok.1 h] at hgrows

theorem buildDependencies_grows : ∀ {ks : List String} {d d' : Draft},
    r.buildDependencies d ks = .ok d' → d.Grows d'
  | [], d, _, h => by cases h; exact .refl d
  | k :: ks, d, d', h => by
    obtain ⟨t, d₁, -, happ, h⟩ := Registry.buildDependencies_cons_eq_ok.1 h
    exact (Draft.apply_grows happ).trans (buildDependencies_grows h)

theorem buildPrimary_grows {d' : Draft} (h : r.buildPrimary d = .ok d') : d.Grows d' := by
  obtain ⟨t, -, happ⟩ := Registry.buildPrimary_eq_ok.1 h
  -- the phase is no part of what a draft grows in
  have hgrows := Draft.apply_grows happ
  exact ⟨hgrows.origin, hgrows.inputs⟩

/-! ## Recasting -/

variable {o : Draft} {w : Attributes} {change : Variable → Variable}

theorem buildDependencies_recast : ∀ {ks : List String} {d : Draft},
    Recasts o w change ((ks.filterMap (r.dependency? d.provider)).flatten.flatMap Step.reads) →
    d.origin = o →
    r.buildDependencies (d.recast w change) ks = (r.buildDependencies d ks).map (·.recast w change)
  | [], _, _, _ => rfl
  | k :: ks, d, h, ho => by
    have hprov : r.dependency? (d.recast w change).provider k = r.dependency? d.provider k := rfl
    rw [Registry.buildDependencies, hprov, Registry.buildDependencies]
    cases ht : r.dependency? d.provider k with
    | none => rfl
    | some t =>
      rw [List.filterMap_cons, ht, List.flatten_cons, List.flatMap_append] at h
      simp only [Draft.apply_recast (h.mono fun _ => List.mem_append_left _) ho]
      cases happ : d.apply t with
      | error e => rfl
      | ok d' =>
        have hgrows := Draft.apply_grows happ
        refine buildDependencies_recast (h.mono fun q hq => ?_) (hgrows.origin.trans ho)
        exact List.mem_append_right _ (hgrows.provider ▸ hq)

theorem buildPrimary_recast (ho : d.origin = o)
    (h : ∀ t ∈ r.primary? d.provider d.service.id, Recasts o w change (t.flatMap Step.reads)) :
    r.buildPrimary (d.recast w change) = (r.buildPrimary d).map (·.recast w change) := by
  have hprov : r.primary? (d.recast w change).provider (d.recast w change).service.id =
      r.primary? d.provider d.service.id := rfl
  rw [Registry.buildPrimary, hprov, Registry.buildPrimary]
  cases ht : r.primary? d.provider d.service.id with
  | none => rfl
  | some t =>
    have happ : ((d.recast w change).setPhase "primary").apply t =
        ((d.setPhase "primary").apply t).map (·.recast w change) :=
      Draft.apply_recast (d := d.setPhase "primary") (h t ht) ho
    simp only [happ]
    cases (d.setPhase "primary").apply t <;> rfl

theorem Graph.check_recast (hname : ∀ v, (change v).name = v.name) (g : Graph) :
    (g.recast change).check = g.check := by
  have hnames : (g.recast change).inputs.map (·.name) = g.inputs.map (·.name) := by
    rw [Graph.recast, List.map_map]
    exact List.map_congr_left fun v _ => hname v
  rw [Graph.check, hnames, Graph.check]
  rfl

end

/-- **A service is built from other values as from the first**, up to a change of its variables, if
its templates see no difference. -/
theorem Registry.build_recast {r : Registry} {provider : String} {s : Service} {v w : Attributes}
    {change : Variable → Variable}
    (h : Recasts (.start provider s v) w change (r.reads provider s))
    (hdecl : ∀ c ∈ r.contract? provider, c.declarations.map change = c.declarations) :
    r.build provider s w = (r.build provider s v).map (·.recast change) := by
  rw [build, build]
  cases hc : r.contract? provider with
  | none => rfl
  | some c =>
    have hsplit : r.reads provider s =
        (s.dependencies.filterMap (r.dependency? provider)).flatten.flatMap Step.reads ++
          (r.primary? provider s.id).toList.flatten.flatMap Step.reads := by
      rw [reads, templates, List.flatten_append, List.flatMap_append]
    rw [hsplit] at h
    have hdeps : r.buildDependencies (.start provider s w) s.dependencies =
        (r.buildDependencies (.start provider s v) s.dependencies).map (·.recast w change) :=
      buildDependencies_recast (d := .start provider s v) (h.mono fun _ => List.mem_append_left _) rfl
    simp only [hdeps]
    cases hd : r.buildDependencies (.start provider s v) s.dependencies with
    | error e => rfl
    | ok d =>
      have hgrows := buildDependencies_grows hd
      have hprim : r.buildPrimary (d.recast w change) =
          (r.buildPrimary d).map (·.recast w change) := by
        refine buildPrimary_recast hgrows.origin fun t ht => h.mono fun q hq => ?_
        rw [hgrows.provider, hgrows.service] at ht
        have ht : r.primary? provider s.id = some t := ht
        exact List.mem_append_right _ (by simpa [ht] using hq)
      simp only [Except.map, bind, Except.bind, hprim]
      cases r.buildPrimary d with
      | error e => rfl
      | ok d' =>
        have hgraph : graphOf c (d'.recast w change) = (graphOf c d').recast change := by
          have hinputs : (c.declarations ++ d'.inputs).map change =
              c.declarations ++ d'.inputs.map change := by rw [List.map_append, hdecl c hc]
          rw [graphOf, graphOf, Graph.recast, hinputs]
          rfl
        have hlabel : ((graphOf c d').recast change).label = (graphOf c d').label := rfl
        simp only [hgraph, Graph.check_recast h.name, hlabel]
        cases (graphOf c d').check <;> rfl

end CloudScaffold
