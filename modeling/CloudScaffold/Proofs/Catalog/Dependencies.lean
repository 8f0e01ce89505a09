import CloudScaffold.Proofs.Catalog.Built
/-!
# A checked catalog has what its services depend on

`Registry.checkCatalog` looks at declarations only: each kind that a service declares must have a
template, and the kinds that a table names for it must be declared before it. The table does not name
all that a template refers to. A subnet of Azure stands in a resource group, which the table asks for
only by way of the network.

That the check is enough all the same is a fact about the orders in which kinds can be declared.
`Registry.isOrderly` follows every order that the check lets pass, with a sketch of the resources that
are there, and the kernel runs it on the shipped registry for both answers to the one condition that
dependencies ask about values. A registry that lacks some entries lets fewer orders pass. Main
statement: `checkCatalog_sound`.
-/
namespace CloudScaffold

/-! ## Sketches of dependencies -/

namespace Sketch

/-- A sketch of which nothing is known but the answers to some conditions. -/
def blank (c : Contract) (answers : List (Cond × Bool)) : Sketch where
  answers := answers
  shapes := fun _ => none
  globals := c.inputs.map (·.name)

/-- Whether the resources of any draft with this sketch have different addresses and refer only to
resources that were made before them. -/
def isBackward (k : Sketch) : Bool :=
  let keys := k.nodes.map (·.key)
  keys.all (·.isProper) && decide keys.Nodup && pointsBack [] k.nodes

end Sketch

/-- The condition on values that templates of dependencies may ask for. -/
def dependencyAtoms : List Cond := [.inbound]

/-! ## Orders of declaration -/

/-- Whether the kinds that a kind needs, by the table of a contract, are among some kinds. -/
def Contract.isReady (c : Contract) (before : List String) (kind : String) : Bool :=
  (c.prerequisites.lookup kind).any fun needed => needed.all before.contains

namespace Registry

/-- Whether all goes well in every order in which kinds may follow those in `before`: the templates
run, and no resource refers to one that was not made yet. At most `left` kinds follow. -/
def isOrderly (r : Registry) (provider : String) (c : Contract) :
    Nat → List String → Sketch → Bool
  | 0, before, k => k.isBackward && dependencyKinds.all before.contains
  | left + 1, before, k => k.isBackward && dependencyKinds.all fun kind =>
      before.contains kind || !c.isReady before kind || (r.dependency? provider kind).all fun t =>
        (k.run t).any (r.isOrderly provider c left (before ++ [kind]))

/-- The kinds of the shipped registry go together in every order that their contracts allow. -/
theorem shipped_isOrderly : ∀ e ∈ Contract.all, ∀ answers ∈ assignments dependencyAtoms,
    shipped.isOrderly e.1 e.2 dependencyKinds.length [] (.blank e.2 answers) = true := by
  decide +kernel

theorem isBackward_of_isOrderly {r : Registry} {provider : String} {c : Contract} {left : Nat}
    {before : List String} {k : Sketch} (h : r.isOrderly provider c left before k = true) :
    k.isBackward = true := by
  cases left <;> exact (Bool.and_eq_true_iff.1 h).1

/-! ## What the check lets pass -/

section
variable {r : Registry} {c : Contract} {provider service : String}

theorem checkPrerequisites_eq_ok {kind : String} {before : List String} : ∀ {needed : List String},
    checkPrerequisites provider service kind before needed = .ok () →
      needed.all before.contains = true
  | [], _ => rfl
  | q :: qs, h => by
    rw [checkPrerequisites] at h
    split at h
    · rename_i hq
      rw [List.all_cons, hq, checkPrerequisites_eq_ok h]
      rfl
    · cases h

/-- A declaration that passes has its template, and the kinds that it needs before it. -/
theorem checkKinds_cons {before : List String} {kind : String} {kinds : List String}
    (h : r.checkKinds c provider service before (kind :: kinds) = .ok ()) :
    kind ∈ dependencyKinds ∧ (∃ t, r.dependency? provider kind = some t) ∧
      c.isReady before kind = true ∧
        r.checkKinds c provider service (before ++ [kind]) kinds = .ok () := by
  rw [checkKinds] at h
  cases hneeded : c.prerequisites.lookup kind with
  | none => simp [hneeded] at h
  | some needed =>
    simp only [hneeded] at h
    by_cases hknown :
        (!dependencyKinds.contains kind || (r.dependency? provider kind).isNone) = true
    · simp only [hknown, if_true] at h
      cases h
    · simp only [hknown, Bool.false_eq_true, if_false, bind_eq_ok] at h
      obtain ⟨_, hready, hrest⟩ := h
      simp only [Bool.or_eq_true, Bool.not_eq_true', not_or, Bool.not_eq_false,
        List.contains_iff_mem, Option.isNone_iff_eq_none] at hknown
      refine ⟨hknown.1, Option.ne_none_iff_exists'.1 hknown.2, ?_, hrest⟩
      rw [Contract.isReady, hneeded]
      exact checkPrerequisites_eq_ok hready

theorem dependency?_of_checkKinds : ∀ {kinds before : List String},
    r.checkKinds c provider service before kinds = .ok () →
      ∀ kind ∈ kinds, ∃ t, r.dependency? provider kind = some t
  | [], _, _ => by simp
  | kind :: kinds, before, h => by
    obtain ⟨_, ht, _, hrest⟩ := checkKinds_cons h
    exact List.forall_mem_cons.2 ⟨ht, dependency?_of_checkKinds hrest⟩

/-- A service that passes has what its provider needs, its kinds in order and its own template. -/
theorem checkServices_of_mem : ∀ {ss : List Service} {s : Service},
    r.checkServices c provider ss = .ok () → s ∈ ss →
      r.checkKinds c provider s.id [] s.dependencies = .ok () ∧
        ∃ t, r.primary? provider s.id = some t
  | s' :: ss, s, h, hs => by
    rw [checkServices, bind_eq_ok] at h
    obtain ⟨_, hfirst, hrest⟩ := h
    rcases List.mem_cons.1 hs with rfl | hs
    · rw [checkService, bind_eq_ok] at hfirst
      obtain ⟨_, hkinds, hprimary⟩ := hfirst
      refine ⟨hkinds, ?_⟩
      cases hp : r.primary? provider s.id with
      | none => simp [hp, throw, throwThe, MonadExceptOf.throw] at hprimary
      | some t => exact ⟨t, rfl⟩
    · exact checkServices_of_mem hrest hs

theorem checkCatalog_of_mem : ∀ {ps : Catalog} {p : Provider}, r.checkCatalog ps = .ok () → p ∈ ps →
    ∃ c, r.contract? p.id = some c ∧ r.checkServices c p.id p.services = .ok ()
  | p' :: ps, p, h, hp => by
    rw [checkCatalog] at h
    cases hc : r.contract? p'.id with
    | none => simp [hc] at h
    | some c =>
      simp only [hc, bind_eq_ok] at h
      obtain ⟨_, hfirst, hrest⟩ := h
      rcases List.mem_cons.1 hp with rfl | hp
      · exact ⟨c, hc, hfirst⟩
      · exact checkCatalog_of_mem hrest hp

end

/-! ## Running dependencies -/

section
variable {r r' : Registry} {c : Contract} {provider service : String}

/-- **Declarations that pass the check are built**, by a registry with no templates but those of one in
which all orders go well. The induction is on the declarations; what it keeps is that they are some
order that `isOrderly` still follows. -/
theorem buildDependencies_backward
    (hsub : ∀ kind t, r.dependency? provider kind = some t →
      r'.dependency? provider kind = some t) :
    ∀ {kinds : List String} {left : Nat} {before : List String} {k : Sketch} {d : Draft}
      {hs : Handles} {G : List String}, k.Depicts G d hs → d.provider = provider →
      r'.isOrderly provider c left before k = true →
      r.checkKinds c provider service before kinds = .ok () → (before ++ kinds).Nodup →
      ∃ d' hs', ∃ k' : Sketch, r.buildDependencies d kinds = .ok d' ∧ k'.Depicts G d' hs' ∧
        k'.isBackward = true
  | [], _, _, k, d, hs, _, hd, _, ho, _, _ => ⟨d, hs, k, rfl, hd, isBackward_of_isOrderly ho⟩
  | kind :: kinds, left, before, k, d, hs, G, hd, hp, ho, hcheck, hnodup => by
    obtain ⟨hkind, ⟨t, ht⟩, hready, hrest⟩ := checkKinds_cons hcheck
    have hnew : before.contains kind = false := by
      have hdisjoint := (List.nodup_append.1 hnodup).2.2
      rw [← Bool.not_eq_true, List.contains_iff_mem]
      exact fun hmem => hdisjoint kind hmem kind List.mem_cons_self rfl
    cases left with
    | zero =>
      have hall := List.all_eq_true.1 (Bool.and_eq_true_iff.1 ho).2 kind hkind
      rw [hnew] at hall
      cases hall
    | succ left =>
      have hall := List.all_eq_true.1 (Bool.and_eq_true_iff.1 ho).2 kind hkind
      simp only [hnew, hready, hsub kind t ht, Bool.not_true, Bool.false_or, Option.all_some]
        at hall
      obtain ⟨k₁, hrun, ho₁⟩ := Option.any_eq_true _ _ |>.1 hall
      obtain ⟨hs₁, d₁, happly, hd₁, horigin⟩ := hd.run_sound hrun
      have hp₁ : d₁.provider = provider := (congrArg Draft.provider horigin).trans hp
      have hnodup₁ : (before ++ [kind] ++ kinds).Nodup := by
        rwa [List.append_assoc, List.singleton_append]
      obtain ⟨d', hs', k', hbuild, hd', hback⟩ :=
        buildDependencies_backward hsub hd₁ hp₁ ho₁ hrest hnodup₁
      rw [← hp] at ht
      exact ⟨d', hs', k', buildDependencies_cons_eq_ok.2 ⟨t, d₁, ht, happly, hbuild⟩, hd', hback⟩

end

/-! ## Registries that lack entries -/

section
variable {r : Registry} {contracts : List String} {dependencies primaries : List (String × String)}

theorem contract?_of_without {provider : String} {c : Contract}
    (h : (r.without contracts dependencies primaries).contract? provider = some c) :
    r.contract? provider = some c :=
  lookup_of_filter (p := fun id => !contracts.contains id) h

theorem dependency?_of_without {provider kind : String} {t : Template}
    (h : (r.without contracts dependencies primaries).dependency? provider kind = some t) :
    r.dependency? provider kind = some t :=
  lookup_of_filter (p := fun id => !dependencies.contains id) h

end

end Registry

/-! ## Services that can be loaded -/

/-- Whether a service is what some entry is read as. -/
def Service.Loadable (s : Service) : Prop := ∃ entry, Service.load entry = .ok s

theorem nodup_of_repeated {xs : List String} (h : (repeated xs).isEmpty = true) : xs.Nodup := by
  have hnil : xs.eraseDups.filter (fun x => 1 < xs.count x) = [] := by
    rw [repeated, List.isEmpty_iff] at h
    exact List.nil_perm.1 (h ▸ List.mergeSort_perm _ _)
  rw [List.nodup_iff_count_le_one]
  intro x
  by_cases hx : x ∈ xs
  · have hmem : x ∈ xs.eraseDups := List.mem_eraseDups.2 hx
    simpa using List.filter_eq_nil_iff.1 hnil x hmem
  · rw [List.count_eq_zero.2 hx]
    exact Nat.zero_le 1

namespace Service

section
variable {entry : Attributes} {s t : Service}

/-- A service that passes its check is as it was, and repeats no field and no kind. -/
theorem check_eq_ok (h : s.check = .ok t) :
    t = s ∧ (s.fields.map (·.name)).Nodup ∧ s.dependencies.Nodup := by
  unfold check at h
  dsimp only at h
  split at h
  · cases h
  split at h
  · cases h
  rename_i hfields
  split at h
  · cases h
  rename_i hkinds
  exact ⟨(Except.ok.inj h).symm, nodup_of_repeated (by simpa using hfields),
    nodup_of_repeated (by simpa using hkinds)⟩

/-- A loaded service has passed its check, and its fields were loaded. -/
theorem check_of_load (h : load entry = .ok s) :
    s.check = .ok s ∧ ∃ entries, List.mapM Field.load entries = .ok s.fields := by
  simp only [load, bind_eq_ok] at h
  obtain ⟨entries, _, fields, hfields, _, _, _, _, _, _, _, _, h⟩ := h
  obtain rfl := (check_eq_ok h).1
  exact ⟨h, entries, hfields⟩

/-- A loaded service declares no kind twice. -/
theorem Loadable.nodup (h : s.Loadable) : s.dependencies.Nodup := by
  obtain ⟨entry, h⟩ := h
  exact (check_eq_ok (check_of_load h).1).2.2

end

end Service

namespace Registry

/-- **The check of a catalog is enough for its dependencies.** Take a registry with no entries but
those of the shipped one, and a catalog of loadable services that passes its check. Every service of
the catalog has its contract, a template for each kind that it declares and one of its own; and
whatever plain values are given, its dependencies are built, under different addresses, and refer only
to what was built before them. -/
theorem checkCatalog_sound {contracts : List String} {dependencies primaries : List (String × String)}
    {ps : Catalog} {p : Provider} {s : Service} {values : Attributes}
    (hload : ∀ p ∈ ps, ∀ s ∈ p.services, s.Loadable)
    (hcheck : (shipped.without contracts dependencies primaries).checkCatalog ps = .ok ())
    (hp : p ∈ ps) (hs : s ∈ p.services) (hv : ∀ kv ∈ values, kv.2.isPlain = true) :
    let r := shipped.without contracts dependencies primaries
    (∃ c, r.contract? p.id = some c) ∧
      (∀ kind ∈ s.dependencies, ∃ t, r.dependency? p.id kind = some t) ∧
      (∃ t, r.primary? p.id s.id = some t) ∧
      ∃ d, r.buildDependencies (.start p.id s values) s.dependencies = .ok d ∧
        (d.resources.map (·.address)).Nodup ∧
        ∀ pre x post, d.resources = pre ++ x :: post →
          ∀ ref, Pointer.ref ref ∈ x.refs → ref.target ∈ pre.map (·.address) := by
  intro r
  obtain ⟨c, hc, hservices⟩ := checkCatalog_of_mem hcheck hp
  obtain ⟨hkinds, hprimary⟩ := checkServices_of_mem hservices hs
  refine ⟨⟨c, hc⟩, dependency?_of_checkKinds hkinds, hprimary, ?_⟩
  have hplain : ∀ n, ((values.get? n).getD .null).isPlain = true := by
    intro n
    cases hget : values.get? n with
    | none => rfl
    | some v => exact hv _ (Attributes.mem_of_get? hget)
  obtain ⟨answers, hanswers, hstart⟩ :=
    depicts_start p.id s (fun _ => none) hplain (fun _ _ h => nomatch h) c dependencyAtoms
  have hknown : (p.id, c) ∈ Contract.all := mem_of_lookup (contract?_of_without hc)
  obtain ⟨d, _, k, hbuild, hd, hback⟩ := buildDependencies_backward
    (fun _ _ => dependency?_of_without) hstart rfl (shipped_isOrderly _ hknown answers hanswers)
      hkinds (hload p hp s hs).nodup
  simp only [Sketch.isBackward, Bool.and_eq_true, decide_eq_true_eq] at hback
  obtain ⟨⟨hproper, hkeys⟩, hpoints⟩ := hback
  exact ⟨d, hbuild, Sketch.backward_of_depicts hd.resources hproper hkeys hpoints⟩

/-- An entry for a service in a subnet of Azure. -/
def gatewayEntry : Attributes :=
  [("id", .str "application_gateway"), ("name", .str "Gateway"), ("category", .str "Networking"),
   ("dependencies", .list [.str "resource-group", .str "network", .str "subnet"])]

def gateway : Service where
  id := "application_gateway"
  name := "Gateway"
  category := "Networking"
  dependencies := ["resource-group", "network", "subnet"]

/-- A registry without anything for two of the providers. -/
theorem checkCatalog_sound_gateway :
    let r := shipped.without ["aws", "gcp"] [("aws", "network")] [("gcp", "firestore")]
    ∃ d, r.buildDependencies (.start "azure" gateway [("sku", .str "WAF_v2"), ("http2", .bool true)])
        gateway.dependencies = .ok d ∧ (d.resources.map (·.address)).Nodup ∧
      ∀ pre x post, d.resources = pre ++ x :: post →
        ∀ ref, Pointer.ref ref ∈ x.refs → ref.target ∈ pre.map (·.address) := by
  let azure : Provider := ⟨"azure", "Microsoft Azure", [gateway]⟩
  have hload : ∀ p ∈ [azure], ∀ s ∈ p.services, s.Loadable := by
    intro p hp s hs
    rw [List.mem_singleton.1 hp] at hs
    rw [List.mem_singleton.1 hs]
    exact ⟨gatewayEntry, by with_unfolding_all rfl⟩
  exact (checkCatalog_sound hload rfl (List.mem_singleton_self azure) (List.mem_singleton_self gateway)
    (by decide)).2.2.2

end Registry

end CloudScaffold
