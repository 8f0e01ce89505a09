import CloudScaffold.Proofs.Catalog.Recast
import CloudScaffold.Proofs.Template.Masked
import CloudScaffold.Proofs.Value.Attributes
/-!
# What depends on secrets

`Registry.isDiscreet` is a check of a service that looks at no values: validation asks nothing of a
sensitive field but a text, the naming field is not sensitive, and no template reads a sensitive
field bare. For a service that passes, values that differ in nothing but secrets (`Service.Alike`)
have the same errors and the same accepted values up to a mask (`validated_masked`), and the graph
of masked values is the masked graph (`Registry.build_masked`).
-/
namespace CloudScaffold

open Text

/-! ## The check -/

/-- Whether a field accepts every text that is not blank. -/
def Field.takesAnyText (f : Field) : Bool := f.kind == .string && f.pattern.isNone

/-- Whether the sensitive fields accept every text that is not blank. -/
def Service.isLenient (s : Service) : Bool :=
  s.fields.all fun f => !s.isSensitive f.name || f.takesAnyText

namespace Registry

/-- Whether nothing but the variables of a service depends on its sensitive values. -/
def isDiscreet (r : Registry) (provider : String) (s : Service) : Bool :=
  s.isLenient && s.isNamedOpenly && (r.templates provider s).all s.isOpenTo

end Registry

/-- The shipped catalog passes the check. -/
theorem shipped_isDiscreet : ∀ p ∈ Catalog.shipped, ∀ s ∈ p.services,
    Registry.shipped.isDiscreet p.id s = true := by
  decide +kernel

/-! ## Validation -/

/-- Whether values differ in nothing but the texts of sensitive fields, none of them blank. -/
def Service.Alike (s : Service) (given given' : Attributes) : Prop :=
  ∀ n, given.get? n = given'.get? n ∨ s.isSensitive n = true ∧
    ∃ t t', given.get? n = some (.str t) ∧ given'.get? n = some (.str t') ∧
      allBlank t = false ∧ allBlank t' = false

theorem Field.outcome_text {f : Field} (h : f.takesAnyText = true) {t : String}
    (ht : allBlank t = false) : f.outcome (some (.str t)) = .accepted (.str (trim t)) := by
  simp only [Field.takesAnyText, Bool.and_eq_true, beq_iff_eq, Option.isNone_iff_eq_none] at h
  simp [Field.outcome, isMissing, ht, Field.checkGiven, h.1, h.2]

section
variable {s : Service} {given given' : Attributes}

/-- A field has the same outcome, or two texts were accepted as they are for a sensitive one. -/
theorem Service.Alike.outcome (h : s.Alike given given') (hl : s.isLenient = true) {f : Field}
    (hf : f ∈ s.fields) :
    f.outcome (given.get? f.name) = f.outcome (given'.get? f.name) ∨
    s.isSensitive f.name = true ∧ ∃ t t', f.outcome (given.get? f.name) = .accepted (.str t) ∧
      f.outcome (given'.get? f.name) = .accepted (.str t') := by
  rcases h f.name with heq | ⟨hs, t, t', ht, ht', hb, hb'⟩
  · exact .inl (by rw [heq])
  · have hany : f.takesAnyText = true := by simpa [hs] using List.all_eq_true.1 hl f hf
    exact .inr ⟨hs, _, _, by rw [ht, Field.outcome_text hany hb],
      by rw [ht', Field.outcome_text hany hb']⟩

/-- **Validation does not tell secrets apart**: the errors are the same, and the accepted values up
to the mask. -/
theorem Service.Alike.validated_masked (h : s.Alike given given') (hl : s.isLenient = true) :
    (s.validated given).map s.masked = (s.validated given').map s.masked := by
  have herrors : (s.validate given).errors = (s.validate given').errors := by
    refine List.filterMap_congr fun f hf => ?_
    rcases h.outcome hl hf with heq | ⟨_, t, t', ht, ht'⟩
    · rw [heq]
    · rw [ht, ht']
  have hvalues : s.masked (s.validate given).values = s.masked (s.validate given').values := by
    simp only [Service.masked, Service.validate, List.map_filterMap]
    refine List.filterMap_congr fun f hf => ?_
    rcases h.outcome hl hf with heq | ⟨hs, t, t', ht, ht'⟩
    · rw [heq]
    · simp [ht, ht', hs, Value.masked, Value.isNull]
  simp only [Service.validated, herrors]
  split
  · simp only [Except.map, hvalues]
  · rfl

/-- Another text for a secret that is given makes values that are alike. -/
theorem Service.Alike.of_insert {k t t' : String} (hs : s.isSensitive k = true)
    (ht : given.get? k = some (.str t)) (hb : allBlank t = false) (hb' : allBlank t' = false) :
    s.Alike given (given.insert k (.str t')) := by
  intro n
  rw [Attributes.get?_insert]
  by_cases hn : n = k
  · subst hn
    exact .inr ⟨hs, t, t', ht, by rw [if_pos rfl], hb, hb'⟩
  · exact .inl (by rw [if_neg hn])

end

/-! ## Building -/

section
variable {r : Registry} {provider : String} {s : Service} {values : Attributes}

/-- What a discreet service is known for. -/
theorem Registry.isDiscreet_iff : r.isDiscreet provider s = true ↔
    s.isLenient = true ∧ s.isNamedOpenly = true ∧
      ∀ t ∈ r.templates provider s, s.isOpenTo t = true := by
  simp only [isDiscreet, Bool.and_eq_true, List.all_eq_true, and_assoc]

/-- **The graph of masked values is the masked graph.** -/
theorem Registry.build_masked (h : r.isDiscreet provider s = true) :
    r.build provider s (s.masked values) = (r.build provider s values).map (·.masked) := by
  obtain ⟨hn, hopen⟩ := isDiscreet_iff.1 h |>.2
  refine build_recast (recasts_masked (d := .start provider s values) hn fun q hq => ?_)
    fun c _ => ?_
  · obtain ⟨step, hstep, hq⟩ := List.mem_flatMap.1 hq
    obtain ⟨t, ht, hstep⟩ := List.mem_flatten.1 hstep
    exact Service.isOpen_of_isOpenTo (hopen t ht) (List.mem_flatMap.2 ⟨step, hstep, hq⟩)
  · rw [Contract.declarations, List.map_map]
    rfl

/-- What holds of the variables of the contract, and of those of sensitive fields, holds of all
variables of a graph. -/
theorem Registry.forall_inputs {P : Variable → Prop} {g : Graph}
    (h : r.build provider s values = .ok g)
    (hdecl : ∀ c ∈ r.contract? provider, ∀ v ∈ c.declarations, P v)
    (hsecret : ∀ f, P ((Draft.start provider s values).secret f
      ((Draft.start provider s values).given f .null))) : ∀ v ∈ g.inputs, P v := by
  obtain ⟨c, d, d', hc, hd, hd', rfl, _⟩ := build_eq_ok h
  obtain ⟨fs, hfs⟩ := ((buildDependencies_grows hd).trans (buildPrimary_grows hd')).inputs
  intro v hv
  rcases List.mem_append.1 hv with hv | hv
  · exact hdecl c hc v hv
  · rw [hfs] at hv
    exact Draft.forall_foldl_takeInput (fun f _ => hsecret f) fs (List.forall_mem_nil _) v hv

/-- What a graph assigns to its variables is plain if the values that it was built from are. -/
theorem Registry.build_plain {g : Graph} (h : r.build provider s values = .ok g)
    (hp : ∀ n, ((values.get? n).getD .null).isPlain = true) :
    ∀ v ∈ g.inputs, v.value.isPlain = true := by
  refine forall_inputs h (fun c _ v hv => ?_) hp
  obtain ⟨_, _, rfl⟩ := List.mem_map.1 hv
  rfl

end

end CloudScaffold
