import CloudScaffold.Proofs.Catalog.Writable
import CloudScaffold.Proofs.Generation.Fallback
/-!
# Requests that are answered

A request for a service of the catalog that does not ask the assistant has an answer: errors and
nothing else, or files without errors (`generate_settled`). The one thing that it takes is that
the numeric texts that are accepted keep to the length of numerals (`Service.NumeralsFit`), and it
cannot be done without: a longer text passes validation and stops the templates (`generate_wideDisk`).
-/
namespace CloudScaffold

open Number Text

/-! ## The length of numerals -/

/-- Whether the texts that are accepted for numeric fields have no more digits than a numeral may
have. -/
def Service.NumeralsFit (s : Service) (given : Attributes) : Prop :=
  ∀ f ∈ s.fields, f.pattern = some .digits → ∀ t, given.get? f.name = some (.str t) →
    Pattern.digits.accepts (trim t) = true → (trim t).toList.length ≤ digitLimit

/-- Trimming drops no digits. -/
theorem countP_trim (t : String) : (trim t).toList.countP isDigit = t.toList.countP isDigit := by
  have hdigit : ∀ c, isBlank c = true → isDigit c = false := by
    intro c hc
    rw [← Bool.not_eq_true]
    intro hd
    simp [isBlank_of_isDigit hd] at hc
  rw [trim, String.toList_ofList, List.countP_eq_length_filter, filter_trimChars hdigit,
    ← List.countP_eq_length_filter]

/-- The shipped catalog asks for digits in texts only. -/
theorem shipped_digits : ∀ p ∈ Catalog.shipped, ∀ s ∈ p.services, ∀ f ∈ s.fields,
    f.pattern = some .digits → f.kind = .string := by
  decide +kernel

/-- What is accepted keeps to the limit as it is given, too. -/
theorem Service.NumeralsFit.withinDigits {provider id : String} {s : Service}
    {given values : Attributes} (h : s.NumeralsFit given)
    (hs : Catalog.shipped.service provider id = .ok s) (hv : s.validated given = .ok values) :
    s.WithinDigits given := by
  intro f hf hp t ht
  obtain ⟨p, hmem, rfl, hserv⟩ := Catalog.mem_of_service hs
  have hk := shipped_digits p hmem s hserv f hf hp
  have hout := (Service.validated_eq_ok hv).2 f hf
  rw [ht] at hout
  by_cases hb : allBlank t = true
  · have hnone : t.toList.countP isDigit = 0 := by
      refine List.countP_eq_zero.2 fun c hc hd => ?_
      have hblank := (allBlank_iff t).1 hb c hc
      simp [isBlank_of_isDigit hd] at hblank
    rw [hnone]
    exact Nat.zero_le _
  · have haccepts : Pattern.digits.accepts (trim t) = true := by
      cases hc : f.checkGiven (.str t) with
      | error e => exact absurd (by simp [Field.outcome, isMissing, hb, hc]) (hout e)
      | ok u =>
        rcases Field.checkGiven_cases hc with ⟨hk', _⟩ | ⟨hk', _⟩ | ⟨_, t', ht', _, hpat⟩
        · rw [hk] at hk'; cases hk'
        · rw [hk] at hk'; cases hk'
        · cases ht'
          rwa [hp, Option.all_some] at hpat
    rw [← countP_trim]
    exact Nat.le_trans List.countP_le_length (h f hf hp t ht haccepts)

/-- Whether an answer is errors and nothing else, or files without errors. -/
def Generation.IsSettled (g : Generation) : Prop :=
  (g.errors ≠ [] ∧ g.files = [] ∧ g.graph = none) ∨
    (g.errors = [] ∧ g.files ≠ [] ∧ g.graph.isSome = true)

/-- **Requests without the assistant are answered.** -/
theorem generate_settled {m : Type → Type} [Monad m] (ask : Question → m (Option String))
    {r : Request} {s : Service} (hs : Catalog.shipped.service r.provider r.service = .ok s)
    (hr : r.useAssistant = false) (hfit : s.NumeralsFit r.values) :
    ∃ g : Generation, generate ask false r = pure (.ok g) ∧ g.IsSettled := by
  cases hv : s.validated r.values with
  | error errors =>
    exact ⟨_, generate_of_invalid hs hv, .inl ⟨validated_ne_nil hv, rfl, rfl⟩⟩
  | ok values =>
    obtain ⟨g, files, hfiles, hne⟩ := generateFromTemplates_ok hs hv (hfit.withinDigits hs hv)
    refine ⟨{ files := files, graph := some g }, ?_, .inr ⟨rfl, hne, rfl⟩⟩
    rw [generate_of_unasked hs hv (by rw [hr]; rfl), hfiles]

/-! ## Numerals that are too long -/

section
variable {values : Attributes}

theorem Term.value_of_mem {d : Draft} {hs : Handles} : ∀ {kvs : List (String × Term)} {vs : Attributes},
    Term.valueEntries d hs kvs = .ok vs → ∀ kv ∈ kvs, ∃ v, kv.2.value d hs = .ok v
  | [], _, _ => by simp
  | (k, t) :: r, vs, h => by
    simp only [Term.valueEntries, bind_eq_ok] at h
    obtain ⟨v, hv, ws, hws, _⟩ := h
    exact List.forall_mem_cons.2 ⟨⟨v, hv⟩, value_of_mem hws⟩

/-- A template that starts with a resource had values for all of its attributes. -/
theorem valueEntries_of_apply {d d' : Draft} {a : Addition} {ss : List Step}
    (h : d.apply (.add a :: ss) = .ok d') (ha : a.onlyIf = .always) :
    ∃ attrs, Term.valueEntries d.view [] a.attrs = .ok attrs := by
  have hrun : (Template.run (.add a :: ss)) d = (runSteps [] (.add a :: ss)).on d := rfl
  rw [Draft.apply, hrun, runSteps_cons_on, Step.run_add_on, ha, Cond.holds] at h
  simp only [Addition.run_on] at h
  cases hvs : Term.valueEntries d.view [] a.attrs with
  | ok attrs => exact ⟨attrs, rfl⟩
  | error e => simp [hvs, Except.map] at h

/-- A virtual machine has no files if the size of its disk has too many digits. -/
theorem generateFromTemplates_ec2 {t : String}
    (hsize : values.get? "root_volume_size" = some (.str t))
    (ht : ∀ c ∈ t.toList, isDigit c = true) (hlen : digitLimit < t.toList.length) :
    ∃ e, generateFromTemplates "aws" Catalog.Aws.ec2 values = .error e := by
  cases hg : generateFromTemplates "aws" Catalog.Aws.ec2 values with
  | error e => exact ⟨e, rfl⟩
  | ok g =>
    exfalso
    simp only [generateFromTemplates, bind_eq_ok] at hg
    obtain ⟨g', hbuild, -⟩ := hg
    obtain ⟨c, d₁, d, _, hd₁, hd, _⟩ := Registry.build_eq_ok (mapError_eq_ok.1 hbuild)
    have hgrows := buildDependencies_grows hd₁
    have hvalues : d₁.values = values := congrArg Draft.values hgrows.origin
    rw [Registry.buildPrimary, hgrows.provider, hgrows.service] at hd
    obtain ⟨attrs, hattrs⟩ := valueEntries_of_apply (mapError_eq_ok.1 hd) rfl
    obtain ⟨_, hdisk⟩ := Term.value_of_mem hattrs
      ("root_block_device", .block [("volume_size", .number "root_volume_size" 20),
        ("volume_type", .field "root_volume_type"), ("encrypted", .yes)]) (by simp)
    obtain ⟨entries, hentries, _⟩ := map_eq_ok.1 hdisk
    obtain ⟨_, hnumber⟩ := Term.value_of_mem hentries
      ("volume_size", .number "root_volume_size" 20) (by simp)
    obtain ⟨n, hn, _⟩ := map_eq_ok.1 hnumber
    have hne : t ≠ "" := by
      rintro rfl
      simp at hlen
    have hread : (d₁.setPhase "primary").view.number "root_volume_size" 20 =
        (readInt t).mapError .number := by
      have hview : (d₁.setPhase "primary").view.values = values := hvalues
      simp [Draft.number, hview, hsize, Value.isAbsent, Value.isText, hne, numberOf]
    rw [hread, readInt_of_tooManyDigits ht hlen] at hn
    cases hn

end

/-- A request for a virtual machine with a disk of a size. -/
def wideDisk (size : String) : Request where
  provider := "aws"
  service := "ec2"
  values := [("instance_name", .str "web"), ("root_volume_size", .str size)]

section
variable {size : String} (hsize : ∀ c ∈ size.toList, isDigit c = true)
  (hlen : digitLimit < size.toList.length)
include hsize hlen

/-- Every size that is a text of digits is accepted, and is left as it is. -/
theorem validated_wideDisk : ∃ values, Catalog.Aws.ec2.validated (wideDisk size).values = .ok values ∧
    values.get? "root_volume_size" = some (.str size) := by
  have hne : size.toList ≠ [] := List.ne_nil_of_length_pos (Nat.lt_of_le_of_lt (Nat.zero_le _) hlen)
  have hfield : ∀ f ∈ Catalog.Aws.ec2.fields, f.name = "root_volume_size" →
      f.kind = .string ∧ f.pattern = some .digits := by decide +kernel
  have hout : ∀ f ∈ Catalog.Aws.ec2.fields, f.name = "root_volume_size" →
      f.outcome (some (.str size)) = .accepted (.str size) := fun f hf hn =>
    Field.outcome_digits (hfield f hf hn).1 (hfield f hf hn).2 hne hsize
  have herrors : (Catalog.Aws.ec2.validate (wideDisk size).values).errors = [] := by
    have hname : (Catalog.Aws.ec2.validate [("instance_name", .str "web")]).errors.isEmpty = true := by
      decide +kernel
    have hinsert : (wideDisk size).values =
      Attributes.insert [("instance_name", .str "web")] "root_volume_size" (.str size) := rfl
    rw [hinsert]
    exact errors_insert (List.isEmpty_iff.1 hname) fun f hf hn => ⟨_, hout f hf hn⟩
  have hv : Catalog.Aws.ec2.validated (wideDisk size).values =
      .ok (Catalog.Aws.ec2.validate (wideDisk size).values).values := by
    simp [Service.validated, herrors]
  refine ⟨_, hv, ?_⟩
  obtain ⟨f, hf, hn⟩ : ∃ f, Catalog.Aws.ec2.field? "root_volume_size" = some f ∧
      f.name = "root_volume_size" := ⟨_, rfl, rfl⟩
  have hgiven : (wideDisk size).values.get? "root_volume_size" = some (.str size) := rfl
  have htaken := Service.validated_value hv (by decide +kernel) "root_volume_size"
  rw [hf, Option.map_some, Option.getD_some, Field.taken, hn, hgiven,
    hout f (Service.mem_of_field? hf).1 hn] at htaken
  cases hget : (Catalog.Aws.ec2.validate (wideDisk size).values).values.get? "root_volume_size" with
  | none => rw [hget] at htaken; cases htaken
  | some v => rw [hget] at htaken; exact congrArg some htaken

/-- **Too many digits pass validation and stop the templates.** -/
theorem generate_wideDisk : (∃ values, Catalog.Aws.ec2.validated (wideDisk size).values = .ok values) ∧
    ∃ e, Id.run (generate (fun _ => none) false (wideDisk size)) = .error e := by
  obtain ⟨values, hv, hget⟩ := validated_wideDisk hsize hlen
  obtain ⟨e, he⟩ := generateFromTemplates_ec2 hget hsize hlen
  have hprov : (wideDisk size).provider = "aws" := rfl
  exact ⟨⟨values, hv⟩, e, by rw [generate_of_unasked rfl hv rfl, Id.run_pure, hprov, he]⟩

end

/-- One digit too many. -/
theorem generate_wideDisk_ones :
    let size := String.ofList (List.replicate (digitLimit + 1) '1')
    (∃ values, Catalog.Aws.ec2.validated (wideDisk size).values = .ok values) ∧
      ∃ e, Id.run (generate (fun _ => none) false (wideDisk size)) = .error e := by
  refine generate_wideDisk ?_ ?_
  · intro c hc
    rw [String.toList_ofList] at hc
    rw [List.eq_of_mem_replicate hc]
    decide
  · rw [String.toList_ofList, List.length_replicate]
    exact Nat.lt_succ_self _

end CloudScaffold
