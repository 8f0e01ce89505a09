import CloudScaffold.Catalog.Basic
import CloudScaffold.Proofs.Catalog.Accepted
import CloudScaffold.Proofs.Template.SketchGraph
import CloudScaffold.Proofs.Value.Attributes
/-!
# Every service of the catalog can be built

`Registry.isSoundFor` is a check of a service that looks at no values: for every way in which the
conditions of its templates can turn out, there is a sound sketch. `Registry.build_sound` says what
the check is good for, and the kernel runs it on the shipped catalog. Main statement:
`buildGraph_sound`.
-/
namespace CloudScaffold

open Text Number

/-! ## What templates ask -/

/-- The conditions on values that a condition depends on. -/
def Cond.atoms : Cond → List Cond
  | .flag f => [.flag f]
  | .equals f t => [.equals f t]
  | .given f => [.given f]
  | .inbound => [.inbound]
  | .not c => c.atoms
  | .always | .never | .made _ | .kind _ => []

namespace Term

mutual
def atoms : Term → List Cond
  | .ite c t e => c.atoms ++ t.atoms ++ e.atoms
  | .list ts | .interp ts => atomsAll ts
  | .map kvs | .block kvs => atomsEntries kvs
  | .lookup _ table dflt => atomsEntries table ++ atomsAll dflt
  | .json t => t.atoms
  | _ => []

def atomsAll : List Term → List Cond
  | [] => []
  | t :: ts => t.atoms ++ atomsAll ts

def atomsEntries : List (String × Term) → List Cond
  | [] => []
  | (_, t) :: r => t.atoms ++ atomsEntries r
end

end Term

def Step.atoms : Step → List Cond
  | .touch t => t.atoms
  | .add a => a.onlyIf.atoms ++ Term.atomsEntries a.attrs
  | .output o => o.onlyIf.atoms ++ o.value.atoms

/-- The templates that a service is built from. -/
def Registry.templates (r : Registry) (provider : String) (s : Service) : List Template :=
  s.dependencies.filterMap (r.dependency? provider) ++ (r.primary? provider s.id).toList

/-- The conditions on values that the templates of a service depend on, each once. -/
def Registry.atoms (r : Registry) (provider : String) (s : Service) : List Cond :=
  ((r.templates provider s).flatten.flatMap Step.atoms).eraseDups

/-- Every way in which conditions can turn out. -/
def assignments : List Cond → List (List (Cond × Bool))
  | [] => [[]]
  | c :: cs => (assignments cs).flatMap fun a => [(c, true) :: a, (c, false) :: a]

theorem mem_assignments (truth : Cond → Bool) : ∀ cs : List Cond,
    cs.map (fun c => (c, truth c)) ∈ assignments cs
  | [] => by simp [assignments]
  | c :: cs => by
    rw [assignments, List.mem_flatMap]
    refine ⟨_, mem_assignments truth cs, ?_⟩
    cases h : truth c <;> simp [h]

theorem lookup_map_truth (truth : Cond → Bool) {c : Cond} {b : Bool} : ∀ {cs : List Cond},
    (cs.map fun c => (c, truth c)).lookup c = some b → b = truth c
  | c' :: cs, h => by
    by_cases hc : c = c'
    · simp only [List.map_cons, hc, List.lookup_cons_self, Option.some.injEq] at h
      rw [hc, h]
    · have hb : (c == c') = false := by simpa using hc
      rw [List.map_cons, List.lookup_cons, hb] at h
      exact lookup_map_truth truth h

/-! ## The check -/

/-- The sketch that a service starts with. -/
def Sketch.start (c : Contract) (s : Service) (answers : List (Cond × Bool)) : Sketch where
  answers := answers
  shapes := s.shapes
  globals := c.inputs.map (·.name)

/-- Whether the variables of a contract are distinct and none of them is a sensitive field. -/
def Contract.isApart (c : Contract) (s : Service) : Bool :=
  decide (c.inputs.map (·.name)).Nodup && c.inputs.all fun v => !s.isSensitive v.name

namespace Registry

/-- Whether a service has a sound sketch in every way in which its conditions can turn out. -/
def isSoundFor (r : Registry) (provider : String) (s : Service) : Bool :=
  (r.contract? provider).any fun c =>
    s.isRegular && c.isApart s &&
      (assignments (r.atoms provider s)).all fun answers =>
        (r.sketch provider s (.start c s answers)).any (·.isSound)

end Registry

/-! ## What the check is good for -/

section
variable {provider : String} {s : Service} {given values : Attributes}

theorem inboundRules_start (provider : String) (s : Service)
    (h : ∀ n, ((values.get? n).getD .null).isPlain = true) :
    ∃ rs, (Draft.start provider s values).inboundRules = .ok rs := by
  have hsome : ∃ rs, inboundRules? provider s.id values = some rs := by
    unfold inboundRules?
    split
    · exact ⟨_, rfl⟩
    · next ports fromInternet _ =>
      cases ports with
      | fixed ps => exact ⟨_, rfl⟩
      | ofEngine =>
        have he := h "engine"
        cases hv : values.get? "engine" with
        | none => exact ⟨_, rfl⟩
        | some v =>
          rw [hv, Option.getD_some] at he
          cases v <;> first | exact ⟨_, rfl⟩ | cases he
  obtain ⟨rs, hrs⟩ := hsome
  exact ⟨rs, by simp [Draft.inboundRules, Draft.start, hrs]⟩

/-- A condition turns out one way or the other. -/
theorem holds_start {d : Draft} (h : ∃ rs, d.inboundRules = .ok rs) :
    ∀ c : Cond, ∃ b, c.holds d [] = .ok b
  | .not c => by
    obtain ⟨b, hb⟩ := holds_start h c
    exact ⟨!b, by rw [Cond.holds, hb]; rfl⟩
  | .inbound => by
    obtain ⟨rs, hrs⟩ := h
    exact ⟨!rs.isEmpty, by rw [Cond.holds, hrs]; rfl⟩
  | .always | .never | .flag _ | .equals _ _ | .given _ | .made _ | .kind _ => ⟨_, rfl⟩

/-- What is known of a field holds of what a draft is started from. -/
theorem shapes_start (provider : String) (hv : s.validated given = .ok values)
    (hr : s.isRegular = true) (hdig : s.WithinDigits given) {f : String} {sh : Shape}
    (hsh : s.shapes f = some sh) :
    (Draft.start provider s values).usable f .null = (Draft.start provider s values).given f .null ∧
      sh.Holds ((Draft.start provider s values).given f .null) := by
  have hsec : s.isSensitive f = false := Service.not_isSensitive_of_shapes hsh
  refine ⟨?_, Service.validated_shape hv hr hdig hsh⟩
  simp [Draft.usable, Draft.isSecret, Draft.start, hsec]

/-- A draft that starts from plain values is depicted by the sketch with the answers that these give,
as long as what the sketch knows of fields holds. -/
theorem depicts_start (provider : String) (s : Service) (shapes : String → Option Shape)
    (hv : ∀ n, ((values.get? n).getD .null).isPlain = true)
    (hshapes : ∀ f sh, shapes f = some sh →
      (Draft.start provider s values).usable f .null = (Draft.start provider s values).given f .null ∧
        sh.Holds ((Draft.start provider s values).given f .null)) (c : Contract) (cs : List Cond) :
    ∃ answers ∈ assignments cs,
      ({ answers := answers, shapes := shapes, globals := c.inputs.map (·.name) } : Sketch).Depicts
        (c.inputs.map (·.name)) (.start provider s values) [] := by
  have hin := inboundRules_start provider s hv
  choose truth htruth using holds_start hin
  refine ⟨_, mem_assignments truth cs, ?_⟩
  exact {
    globals := rfl
    answers := fun a b hl => by rw [lookup_map_truth truth hl]; exact htruth a
    shapes := hshapes
    plain := hv
    inbound := hin
    kinds := .nil
    handles := .nil
    phase := rfl
    resources := .nil
    outputs := .nil
    nodup := List.nodup_nil
    sensitive := by simp [Draft.start] }

/-- The sketch of a service sees the draft of every accepted values, for the answers that these give. -/
theorem start_depicts (provider : String) (hv : s.validated given = .ok values)
    (hr : s.isRegular = true) (hdig : s.WithinDigits given) (c : Contract) (cs : List Cond) :
    ∃ answers ∈ assignments cs, (Sketch.start c s answers).Depicts (c.inputs.map (·.name))
      (.start provider s values) [] :=
  depicts_start provider s s.shapes (Service.validated_plain hv hr)
    (fun _ _ => shapes_start provider hv hr hdig) c cs

theorem Registry.isSoundFor_iff {r : Registry} : r.isSoundFor provider s = true ↔
    ∃ c, r.contract? provider = some c ∧ s.isRegular = true ∧ c.isApart s = true ∧
      ∀ answers ∈ assignments (r.atoms provider s),
        (r.sketch provider s (.start c s answers)).any (·.isSound) = true := by
  unfold isSoundFor
  cases r.contract? provider with
  | none => simp
  | some c => simp [and_assoc]

/-- **What passes the check is built**: for all accepted values there is a graph, and it is sound. -/
theorem Registry.build_sound {r : Registry} (hs : r.isSoundFor provider s = true)
    (hv : s.validated given = .ok values) (hdig : s.WithinDigits given) :
    ∃ g, r.build provider s values = .ok g ∧ g.Sound ∧ Layered g.resources ∧
      (g.inputs.map (·.name)).Nodup ∧ g.primaries ≠ [] := by
  obtain ⟨c, hc, hr, hapart, hall⟩ := isSoundFor_iff.1 hs
  simp only [Contract.isApart, Bool.and_eq_true, decide_eq_true_eq] at hapart
  obtain ⟨hnd, hfree⟩ := hapart
  obtain ⟨answers, hmem, hstart⟩ := start_depicts provider hv hr hdig c (r.atoms provider s)
  obtain ⟨k, hk, hks⟩ : ∃ k, r.sketch provider s (.start c s answers) = some k ∧ k.isSound = true := by
    have := hall answers hmem
    cases hk : r.sketch provider s (.start c s answers) with
    | none => simp [hk] at this
    | some k => exact ⟨k, rfl, by simpa [hk] using this⟩
  obtain ⟨d₁, d, hs, hdeps, hprim, hd, ho⟩ := hstart.sketch_sound r hk
  have hserv : d.service = s := congrArg Draft.service ho
  obtain ⟨hsound, hlayered, hnames, hne⟩ := hd.graph_sound hks hnd fun n hn => by
    obtain ⟨v, hv, rfl⟩ := List.mem_map.1 hn
    simpa [hserv] using List.all_eq_true.1 hfree v hv
  refine ⟨_, ?_, hsound, hlayered, hnames, hne⟩
  have hcheck := Graph.check_eq_ok_iff_sound.2 hsound
  simp only [Registry.build, hc, hdeps, hprim, hcheck, bind, Except.bind, Except.mapError]

/-- The shipped catalog passes the check. -/
theorem shipped_isSoundFor : ∀ p ∈ Catalog.shipped, ∀ s ∈ p.services,
    Registry.shipped.isSoundFor p.id s = true := by
  decide +kernel

/-- A service that is found belongs to the provider. -/
theorem Catalog.mem_of_service {c : Catalog} {id : String} (h : c.service provider id = .ok s) :
    ∃ p ∈ c, p.id = provider ∧ s ∈ p.services := by
  unfold Catalog.service Catalog.services Catalog.provider at h
  cases hp : c.find? (·.id == provider) with
  | none => simp [hp, Except.map, bind, Except.bind] at h
  | some p =>
    simp only [hp, Except.map, bind, Except.bind] at h
    refine ⟨p, List.mem_of_find?_eq_some hp, by simpa using List.find?_some hp, ?_⟩
    cases hs : p.services.find? (·.id == id) with
    | none => simp [hs] at h
    | some s' =>
      simp only [hs, Except.ok.injEq] at h
      exact h ▸ List.mem_of_find?_eq_some hs

theorem exists_buildGraph {id : String} (hs : Catalog.shipped.service provider id = .ok s)
    (hv : s.validated given = .ok values) (hdig : s.WithinDigits given) :
    ∃ g, buildGraph provider s values = .ok g := by
  obtain ⟨p, hp, rfl, hmem⟩ := Catalog.mem_of_service hs
  exact (Registry.build_sound (shipped_isSoundFor p hp s hmem) hv hdig).imp fun _ h => h.1

/-- **Every service of the catalog can be built** from every accepted values, and the graph is sound. -/
theorem buildGraph_sound {id : String} (hs : Catalog.shipped.service provider id = .ok s)
    (hv : s.validated given = .ok values) (hdig : s.WithinDigits given) :
    ∃ g, buildGraph provider s values = .ok g ∧ g.Sound ∧ Layered g.resources ∧
      (g.inputs.map (·.name)).Nodup ∧ g.primaries ≠ [] := by
  obtain ⟨p, hp, rfl, hmem⟩ := Catalog.mem_of_service hs
  exact Registry.build_sound (shipped_isSoundFor p hp s hmem) hv hdig

end

/-- Values for a database, some of them left to their defaults. -/
def ordersDatabase : Attributes :=
  [("db_identifier", .str " orders "), ("engine", .str "postgres"), ("allocated_storage", .str "50"),
   ("password", .str "correct horse")]

theorem validated_ordersDatabase : Catalog.Aws.rds.validated ordersDatabase =
    .ok (Catalog.Aws.rds.validate ordersDatabase).values :=
  Service.validated_of_isEmpty (by decide +kernel)

theorem buildGraph_sound_ordersDatabase : ∃ values g,
    Catalog.Aws.rds.validated ordersDatabase = .ok values ∧
      buildGraph "aws" Catalog.Aws.rds values = .ok g ∧ g.Sound ∧ Layered g.resources ∧
      (g.inputs.map (·.name)).Nodup ∧ g.primaries ≠ [] := by
  have hs : Catalog.shipped.service "aws" "rds" = .ok Catalog.Aws.rds := rfl
  have hdig : Catalog.Aws.rds.WithinDigits ordersDatabase := by
    intro f _ _ t ht
    have hmem := Attributes.mem_of_get? ht
    simp only [ordersDatabase, List.mem_cons, List.not_mem_nil, or_false, Prod.mk.injEq,
      Value.str.injEq] at hmem
    rcases hmem with ⟨_, rfl⟩ | ⟨_, rfl⟩ | ⟨_, rfl⟩ | ⟨_, rfl⟩ <;> decide
  obtain ⟨g, hg, hrest⟩ := buildGraph_sound hs validated_ordersDatabase hdig
  exact ⟨_, g, validated_ordersDatabase, hg, hrest⟩

end CloudScaffold
