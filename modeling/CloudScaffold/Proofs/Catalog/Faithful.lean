import CloudScaffold.Proofs.Catalog.Revealing
/-!
# A graph tells the choices that it was built from

Mappings that make the same choices are built alike (`Registry.build_eq_of_sameChoice`), as long as
templates ask about a field only what its spellings have in common. A number that has several spellings
is read as a number, a switch that may be left out is read as a flag, and nothing else is asked of
them. That is a property of what templates read (`Registry.IsSettled`), which the kernel checks on the
shipped catalog.

Together with the marks that choices leave in a graph this says just how much a graph tells. Main
statement: `buildGraph_iff_sameChoice`.
-/
namespace CloudScaffold

open Text Number

/-! ## What is asked about a choice -/

section
variable (provider : String) (s : Service) (n : String)

/-- Whether a field has texts of digits, of which several may write one number. -/
def Service.mayCount : Bool := (s.field? n).any (·.pattern == some .digits)

/-- Whether a field has truth values and can be left out. -/
def Service.mayBeOff : Bool := (s.field? n).any fun f => f.kind == .boolean && !f.required

/-- Whether the choices of a field are its values. -/
def Service.isFirm : Bool :=
  !s.mayCount n && !s.mayBeOff n && (standIn? provider s.id n).isNone

/-- Whether a question gets one answer for all mappings that make the same choices. -/
def Reading.isSettled : Reading → Bool
  | .value f => s.isFirm provider f
  | .either f g => s.isFirm provider g && !s.isSensitive f && !s.isSensitive g && !s.mayCount f &&
    !s.mayBeOff f && (standIn? provider s.id f).all (· == g)
  | .number f => !s.mayBeOff f && (standIn? provider s.id f).isNone
  | .flag f => !s.mayCount f && (standIn? provider s.id f).isNone
  | .label => s.namingField?.all fun f => s.isFirm provider f.name
  | .inbound => s.isFirm provider "engine"
  | .kind _ | .made _ => true

end

namespace Registry

/-- Whether nothing in the graph of a service depends on more than the choices that are made: its
templates ask what is settled, and so are its names and its secrets. -/
def IsSettled (r : Registry) (provider : String) (s : Service) : Prop :=
  (∀ q ∈ r.reads provider s, q.isSettled provider s = true) ∧
    Reading.label.isSettled provider s = true ∧
      ∀ f ∈ s.fields, f.sensitive = true → s.isFirm provider f.name = true

instance (r : Registry) (provider : String) (s : Service) : Decidable (r.IsSettled provider s) :=
  inferInstanceAs (Decidable (_ ∧ _))

end Registry

/-- The shipped catalog passes the check. -/
theorem shipped_isSettled : ∀ p ∈ Catalog.shipped, ∀ s ∈ p.services,
    Registry.shipped.IsSettled p.id s := by
  decide +kernel

/-! ## The same choices -/

section
variable {provider : String} {s : Service} {v w : Attributes} {n : String}

theorem SameChoice.cases_of_not (h : SameChoice provider s v w n) (hc : s.mayCount n = false)
    (ho : s.mayBeOff n = false) : v.get? n = w.get? n ∨ ∃ m, standIn? provider s.id n = some m ∧
      v.get? m = w.get? m ∧
        (v.get? n = none ∧ w.get? n = w.get? m ∨ v.get? n = v.get? m ∧ w.get? n = none) := by
  cases h with
  | same h => exact .inl h
  | number hf hp => simp [Service.mayCount, hf, hp] at hc
  | off hf hk hr => simp [Service.mayBeOff, hf, hk, hr] at ho
  | standIn hm hsame h => exact .inr ⟨_, hm, hsame, h⟩

theorem SameChoice.get?_eq (h : SameChoice provider s v w n) (hn : s.isFirm provider n = true) :
    v.get? n = w.get? n := by
  simp only [Service.isFirm, Bool.and_eq_true, Bool.not_eq_true', Option.isNone_iff_eq_none] at hn
  rcases h.cases_of_not hn.1.1 hn.1.2 with heq | ⟨m, hm, -⟩
  · exact heq
  · rw [hn.2] at hm
    cases hm

theorem Draft.start_congr (h : v.get? n = w.get? n) :
    (Draft.start provider s v).given n .null = (Draft.start provider s w).given n .null :=
  congrArg (·.getD .null) h

theorem Draft.start_usable_congr (h : v.get? n = w.get? n) :
    (Draft.start provider s v).usable n .null = (Draft.start provider s w).usable n .null := by
  have hgiven : (Draft.start provider s v).given n .null =
      (Draft.start provider s w).given n .null :=
    Draft.start_congr h
  unfold Draft.usable
  rw [hgiven]
  rfl

theorem Draft.start_number_congr (h : SameChoice provider s v w n) (ho : s.mayBeOff n = false)
    (hm : standIn? provider s.id n = none) (k : Int) :
    (Draft.start provider s v).number n k = (Draft.start provider s w).number n k := by
  cases h with
  | same h => simp only [Draft.number, Draft.start, h]; rfl
  | number hf hp hv hw ha hb =>
    have hempty {a : String} {m : Int} (ha : readInt a = .ok m) : (a == "") = false := by
      rw [beq_eq_false_iff_ne]
      rintro rfl
      cases ha
    simp [Draft.number, Draft.start, hv, hw, Value.isAbsent, Value.isText, hempty ha, hempty hb,
      numberOf, ha, hb]
  | off hf hk hr => simp [Service.mayBeOff, hf, hk, hr] at ho
  | standIn hm' => rw [hm] at hm'; cases hm'

theorem Draft.start_flag_congr (h : SameChoice provider s v w n) (hc : s.mayCount n = false)
    (hm : standIn? provider s.id n = none) :
    (Draft.start provider s v).flag n = (Draft.start provider s w).flag n := by
  cases h with
  | same h => simp only [Draft.flag, Draft.start, h]
  | number hf hp => simp [Service.mayCount, hf, hp] at hc
  | off hf hk hr h => rcases h with ⟨hv, hw⟩ | ⟨hv, hw⟩ <;> simp [Draft.flag, Draft.start, hv, hw]
  | standIn hm' => rw [hm] at hm'; cases hm'

/-- A settled alternative of two fields has one value, whichever of them is left out. -/
theorem Draft.start_either_congr {m : String} (h : SameChoice provider s v w n)
    (hc : s.mayCount n = false) (ho : s.mayBeOff n = false) (hn : s.isSensitive n = false)
    (hm : ∀ k, standIn? provider s.id n = some k → k = m) (hsm : s.isSensitive m = false)
    (hsame : v.get? m = w.get? m) :
    (Draft.start provider s v).either n m = (Draft.start provider s w).either n m := by
  simp only [Draft.either, Draft.start_usable_of_open hn, Draft.start_usable_of_open hsm,
    Attributes.chosen]
  rcases h.cases_of_not hc ho with heq | ⟨k, hk, -, h⟩
  · rw [heq, hsame]
  · obtain rfl := hm k hk
    rcases h with ⟨hv, hw⟩ | ⟨hv, hw⟩
    · simp [hv, hw, hsame, Value.truthy]
    · simp [hv, hw, hsame, Value.truthy]

theorem Draft.start_namingValue_congr (h : ∀ n, SameChoice provider s v w n)
    (hl : Reading.label.isSettled provider s = true) :
    (Draft.start provider s v).namingValue = (Draft.start provider s w).namingValue := by
  rw [Draft.start_namingValue, Draft.start_namingValue]
  cases hf : s.namingField? with
  | none => rfl
  | some f =>
    have hfirm : s.isFirm provider f.name = true := by simpa [Reading.isSettled, hf] using hl
    rw [Option.bind_some, Option.bind_some, (h f.name).get?_eq hfirm]

/-- **What is settled has one answer** for mappings that make the same choices. -/
theorem Reading.agrees_of_sameChoice (h : ∀ n, SameChoice provider s v w n) {q : Reading}
    (hq : q.isSettled provider s = true) :
    q.Agrees (.start provider s w) [] (.start provider s v) [] := by
  cases q with
  | value f => exact (Draft.start_usable_congr ((h f).get?_eq hq)).symm
  | either f g =>
    simp only [isSettled, Bool.and_eq_true, Bool.not_eq_true'] at hq
    obtain ⟨⟨⟨⟨⟨hg, hsf⟩, hsg⟩, hc⟩, ho⟩, hst⟩ := hq
    refine ⟨(Draft.start_either_congr (h f) hc ho hsf (fun k hk => ?_) hsg
      ((h g).get?_eq hg)).symm, .inr hsg⟩
    simpa [hk] using hst
  | number f =>
    simp only [isSettled, Bool.and_eq_true, Bool.not_eq_true', Option.isNone_iff_eq_none] at hq
    exact fun k => (Draft.start_number_congr (h f) hq.1 hq.2 k).symm
  | flag f =>
    simp only [isSettled, Bool.and_eq_true, Bool.not_eq_true', Option.isNone_iff_eq_none] at hq
    exact (Draft.start_flag_congr (h f) hq.1 hq.2).symm
  | label =>
    show (Draft.start provider s w).displayName = (Draft.start provider s v).displayName
    rw [Draft.displayName, ← Draft.start_namingValue_congr h hq]
    rfl
  | inbound =>
    have hrules : inboundRules? provider s.id w = inboundRules? provider s.id v := by
      simp only [inboundRules?, (h "engine").get?_eq hq]
    show Draft.inboundRules _ = Draft.inboundRules _
    simp only [Draft.inboundRules, Draft.start, hrules]
  | kind | made => rfl

/-- Mappings that make the same choices declare the same variables. -/
theorem Draft.start_takeInput_congr (h : ∀ n, SameChoice provider s v w n)
    (hs : ∀ f ∈ s.fields, f.sensitive = true → s.isFirm provider f.name = true) (n : String) :
    (Draft.start provider s w).takeInput [] n = (Draft.start provider s v).takeInput [] n := by
  by_cases hsens : s.isSensitive n = true
  · obtain ⟨f, hf, hfs⟩ := (Option.any_eq_true _ _).1 hsens
    obtain ⟨hmem, rfl⟩ := Service.mem_of_field? hf
    have hgiven : (Draft.start provider s w).given f.name .null =
        (Draft.start provider s v).given f.name .null :=
      Draft.start_congr ((h f.name).get?_eq (hs f hmem hfs)).symm
    unfold Draft.takeInput
    rw [hgiven]
    rfl
  · have hopen (u : Attributes) : (Draft.start provider s u).takeInput [] n = [] := by
      have hsens : (Draft.start provider s u).service.isSensitive n = false :=
        Bool.eq_false_of_not_eq_true hsens
      simp [Draft.takeInput, Draft.isSecret, hsens]
    rw [hopen, hopen]

/-- **The same choices are built to one graph**, or fail in one way. -/
theorem Registry.build_eq_of_sameChoice {r : Registry} (hr : r.IsSettled provider s)
    (h : ∀ n, SameChoice provider s v w n) : r.build provider s w = r.build provider s v := by
  obtain ⟨hreads, hlabel, hsecrets⟩ := hr
  have hrecasts : Recasts (.start provider s v) w id (r.reads provider s) := {
    name := fun _ => rfl
    naming := (Draft.start_namingValue_congr h hlabel).symm
    declares := fun f => by
      rw [List.map_id]
      exact Draft.start_takeInput_congr h hsecrets f
    answers := fun q hq => Reading.agrees_of_sameChoice h (hreads q hq) }
  rw [build_recast hrecasts fun c _ => List.map_id _]
  have hid : Graph.recast id = id := by
    funext g
    rw [Graph.recast, List.map_id, id]
  rw [hid]
  cases r.build provider s v <;> rfl

end

/-! ## Main statement -/

section
variable {provider id : String} {s : Service} {given given' v w : Attributes} {g : Graph}

/-- **A graph tells the choices that it was built from**, and nothing but those: of two accepted
mappings for a service of the catalog, one of which is built to a graph, the other is built to the same
graph just when they make the same choice for every name. -/
theorem buildGraph_iff_sameChoice (hs : Catalog.shipped.service provider id = .ok s)
    (hv : s.validated given = .ok v) (hw : s.validated given' = .ok w)
    (hg : buildGraph provider s v = .ok g) :
    buildGraph provider s w = .ok g ↔ ∀ n, SameChoice provider s v w n := by
  obtain ⟨p, hp, rfl, hmem⟩ := Catalog.mem_of_service hs
  constructor
  · intro hg'
    obtain ⟨c, hc, hr, hapart, -⟩ := Registry.isSoundFor_iff.1 (shipped_isSoundFor p hp s hmem)
    obtain ⟨hlegible, hrev⟩ := shipped_isRevealing p hp s hmem
    have htwins : Twins Registry.shipped p.id s v w g := ⟨hg, hg', fun c' hc' => by
      obtain rfl : c = c' := Option.some.inj (hc.symm.trans hc')
      exact hapart, hlegible⟩
    exact htwins.sameChoice hr ⟨given, hv⟩ ⟨given', hw⟩ hrev
  · intro h
    rw [← hg]
    exact Registry.build_eq_of_sameChoice (shipped_isSettled p hp s hmem) h

end

/-- The id of an account, and a display name if there is one. -/
def deployAccount (display : Option String) : Attributes :=
  ("account_id", .str "deploy") :: (display.map fun t => ("display_name", Value.str t)).toList

/-- An account that is displayed by its id has the graph of one without a display name, and one that
is displayed by another name has not. -/
theorem buildGraph_iff_sameChoice_deployAccount : ∃ g,
    buildGraph "gcp" Catalog.Gcp.iamServiceAccount (deployAccount none) = .ok g ∧
      buildGraph "gcp" Catalog.Gcp.iamServiceAccount (deployAccount (some "deploy")) = .ok g ∧
        buildGraph "gcp" Catalog.Gcp.iamServiceAccount (deployAccount (some "Deployer")) ≠
          .ok g := by
  have hs : Catalog.shipped.service "gcp" "iam_service_account" =
      .ok Catalog.Gcp.iamServiceAccount := rfl
  have hv : Catalog.Gcp.iamServiceAccount.validated (deployAccount none) =
      .ok (deployAccount none) := rfl
  have hid : Catalog.Gcp.iamServiceAccount.validated (deployAccount (some "deploy")) =
      .ok (deployAccount (some "deploy")) := rfl
  have hname : Catalog.Gcp.iamServiceAccount.validated (deployAccount (some "Deployer")) =
      .ok (deployAccount (some "Deployer")) := rfl
  have hsound := shipped_isSoundFor ⟨"gcp", "Google Cloud Platform", Catalog.Gcp.services⟩
    (by simp [Catalog.shipped]) Catalog.Gcp.iamServiceAccount (by simp [Catalog.Gcp.services])
  have hdig : Catalog.Gcp.iamServiceAccount.WithinDigits (deployAccount none) := by
    intro f hf hp
    simp only [Catalog.Gcp.iamServiceAccount, List.mem_cons, List.not_mem_nil, or_false] at hf
    rcases hf with rfl | rfl | rfl <;> cases hp
  obtain ⟨g, hg, -⟩ := Registry.build_sound hsound hv hdig
  refine ⟨g, hg, (buildGraph_iff_sameChoice hs hv hid hg).2 fun n => ?_, fun hother => ?_⟩
  · by_cases hn : n = "display_name"
    · subst hn
      exact .standIn rfl rfl (.inl ⟨rfl, rfl⟩)
    · refine .same ?_
      have hb : (n == "display_name") = false := by simpa using hn
      simp [deployAccount, Attributes.get?, List.lookup_cons, hb]
  · have hsame := (buildGraph_iff_sameChoice hs hv hname hg).1 hother "display_name"
    cases hsame with
    | same h => cases h
    | number _ _ hv _ _ _ => cases hv
    | off _ _ _ h =>
      rcases h with ⟨_, hw⟩ | ⟨hnone, _⟩
      · cases hw
      · cases hnone
    | standIn hm _ h =>
      cases hm
      rcases h with ⟨_, hw⟩ | ⟨hv, _⟩
      · exact absurd (Value.str.inj (Option.some.inj hw)) (by decide)
      · cases hv

end CloudScaffold
