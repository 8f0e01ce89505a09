import CloudScaffold.Generation
import CloudScaffold.Proofs.Catalog.Discreet
import CloudScaffold.Proofs.Template.Fitting
/-!
# Every service of the catalog can be written

`Registry.isWritableFor` is a check of a service that looks at no values: what its templates make
fits where it stands. For a service that passes, whatever is built from accepted values has project
files (`Registry.build_writable`). Main statement: `generateFromTemplates_ok`, by which templates and
renderer can handle whatever validation accepts.
-/
namespace CloudScaffold

open Hcl

/-! ## The check -/

namespace Registry

/-- Whether all that is built for a service can be written. -/
def isWritableFor (r : Registry) (provider : String) (s : Service) : Bool :=
  (Contract.find? provider).any isWritableContract
    && (r.contract? provider).all (fun c => c.inputs.all fun v => isMember v.default)
    && (r.templates provider s).all (·.all (Step.fits s.shapes))

end Registry

/-- The shipped catalog passes the check. -/
theorem shipped_isWritableFor : ∀ p ∈ Catalog.shipped, ∀ s ∈ p.services,
    Registry.shipped.isWritableFor p.id s = true := by
  decide +kernel

/-! ## Building -/

section
variable {r : Registry} {shapes : String → Option Shape} {d d' : Draft}

theorem buildDependencies_written : ∀ {ks : List String} {d : Draft}, d.Written shapes →
    (∀ t ∈ ks.filterMap (r.dependency? d.provider), t.all (Step.fits shapes) = true) →
    r.buildDependencies d ks = .ok d' → d'.Written shapes
  | [], _, h, _, hd => by
    cases hd
    exact h
  | k :: ks, d, h, hf, hd => by
    obtain ⟨t, d₁, ht, happ, hd⟩ := Registry.buildDependencies_cons_eq_ok.1 hd
    rw [List.filterMap_cons, ht, List.forall_mem_cons] at hf
    have hprov := (Draft.apply_grows happ).provider
    exact buildDependencies_written (h.apply hf.1 happ) (by rw [hprov]; exact hf.2) hd

theorem buildPrimary_written (h : d.Written shapes)
    (hf : ∀ t ∈ r.primary? d.provider d.service.id, t.all (Step.fits shapes) = true)
    (hd : r.buildPrimary d = .ok d') : d'.Written shapes := by
  obtain ⟨t, ht, happ⟩ := Registry.buildPrimary_eq_ok.1 hd
  exact (h.setPhase "primary").apply (hf t ht) happ

end

section
variable {r : Registry} {provider : String} {s : Service} {given values : Attributes}

/-- What accepted values are known for, in a draft that starts from them. -/
theorem start_written (hv : s.validated given = .ok values) (hr : s.isRegular = true)
    (hdig : s.WithinDigits given) : (Draft.start provider s values).Written s.shapes where
  plain := Service.validated_plain hv hr
  shapes := fun _ _ hsh => shapes_start provider hv hr hdig hsh
  resources := by simp [Draft.start]
  outputs := by simp [Draft.start]

/-- **What is built can be written.** -/
theorem Registry.build_writable {g : Graph} (hw : r.isWritableFor provider s = true)
    (hr : s.isRegular = true) (hv : s.validated given = .ok values) (hdig : s.WithinDigits given)
    (hg : r.build provider s values = .ok g) : Writable g := by
  simp only [isWritableFor, templates, Bool.and_eq_true, List.all_append, List.all_eq_true,
    Option.mem_toList] at hw
  obtain ⟨⟨hcontract, hdefaults⟩, hdeps, hprim⟩ := hw
  have hplain := build_plain hg (Service.validated_plain hv hr)
  have hinputs : ∀ v ∈ g.inputs, isMember v.default = true := by
    refine forall_inputs hg (fun c hc v hv => ?_) fun _ => rfl
    obtain ⟨u, hu, rfl⟩ := List.mem_map.1 hv
    exact List.all_eq_true.1 ((Option.all_eq_true _ _).1 hdefaults c hc) u hu
  obtain ⟨c, d₁, d, hc, hd₁, hd, rfl, _⟩ := build_eq_ok hg
  have hgrows := buildDependencies_grows hd₁
  have hwritten : d.Written s.shapes := by
    refine buildPrimary_written (buildDependencies_written (start_written hv hr hdig)
      (fun t ht => List.all_eq_true.2 (hdeps t ht)) hd₁) (fun t ht => ?_) hd
    rw [hgrows.provider, hgrows.service] at ht
    exact List.all_eq_true.2 (hprim t ht)
  have hprov : (graphOf c d).provider = provider := (hgrows.trans (buildPrimary_grows hd)).provider
  exact {
    contract := by rw [hprov]; exact (Option.any_eq_true _ _).1 hcontract
    resources := fun r hr => hwritten.resources r (mem_of_mem_ordered hr)
    outputs := hwritten.outputs
    defaults := hinputs
    values := hplain }

/-- **Templates give files** for all accepted values, up to the length of numerals. -/
theorem generateFromTemplates_ok {id : String} (hs : Catalog.shipped.service provider id = .ok s)
    (hv : s.validated given = .ok values) (hdig : s.WithinDigits given) :
    ∃ g files, generateFromTemplates provider s values = .ok { files := files, graph := some g } ∧
      files ≠ [] := by
  obtain ⟨p, hp, rfl, hmem⟩ := Catalog.mem_of_service hs
  have hsound := shipped_isSoundFor p hp s hmem
  obtain ⟨_, _, hr, _, _⟩ := Registry.isSoundFor_iff.1 hsound
  obtain ⟨g, hg, _⟩ := Registry.build_sound hsound hv hdig
  obtain ⟨files, hfiles, hne⟩ := projectFiles_of_writable
    (Registry.build_writable (shipped_isWritableFor p hp s hmem) hr hv hdig hg)
  refine ⟨g, files, ?_, hne⟩
  simp only [generateFromTemplates, buildGraph, hg, hfiles, Except.mapError, bind, Except.bind]

end

end CloudScaffold
