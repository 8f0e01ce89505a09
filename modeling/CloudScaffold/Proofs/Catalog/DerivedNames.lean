import CloudScaffold.Proofs.Catalog.DisplayName
import CloudScaffold.Proofs.Catalog.Recorded
import CloudScaffold.Proofs.Template.Hyphenated
/-!
# Names that templates derive

Resources that have no field for a name get one from their template: the label, in lower case with
hyphens. Such a name stands in the attributes of the resource as it is (`Derives.spec`). It holds nothing
but lower-case ASCII letters, digits and hyphens just if the display name comes to these, whatever the
service, the resource and the suffix are: `isHyphenated_derived_iff`. A display name may be any text, so
that is not always the case (`derives_point`).

Where the terms for names stand is a question to the templates alone, and the kernel runs the check on the
services of the provider (`shipped_derivesPlainly`).
-/
namespace CloudScaffold

open Text

/-! ## Terms for names -/

namespace Term

mutual
/-- The suffixes of the names in lower case with hyphens that a term has anywhere in it. -/
def suffixes : Term → List String
  | .label .hyphenated suffix => [suffix]
  | .lookup _ table dflt => suffixesEntries table ++ suffixesAll dflt
  | .ite _ t e => t.suffixes ++ e.suffixes
  | .list ts | .interp ts => suffixesAll ts
  | .map kvs | .block kvs => suffixesEntries kvs
  | .json t => t.suffixes
  | _ => []

def suffixesAll : List Term → List String
  | [] => []
  | t :: ts => t.suffixes ++ suffixesAll ts

def suffixesEntries : List (String × Term) → List String
  | [] => []
  | (_, t) :: r => t.suffixes ++ suffixesEntries r
end

/-- Whether a term is the name with a suffix. -/
def isDerived (suffix : String) : Term → Bool
  | .label .hyphenated other => other == suffix
  | _ => false

end Term

def Addition.suffixes (a : Addition) : List String := Term.suffixesEntries a.attrs

/-- Whether all names that the resources of a service derive stand in their attributes as they are, with
suffixes that fit. -/
def Registry.derivesPlainly (r : Registry) (provider : String) (s : Service) : Bool :=
  (r.additions provider s).all fun a => a.suffixes.all fun suffix =>
    suffix.toList.all (decide <| IsNameable ·) && (Term.partsEntries a.attrs).any (Term.isDerived suffix)

/-- The services of the provider pass the check, and the text of their naming fields is free. -/
theorem shipped_derivesPlainly : ∀ p ∈ Catalog.shipped, p.id = "gcp" → ∀ s ∈ p.services,
    Registry.shipped.derivesPlainly "gcp" s = true ∧ s.isRegular = true ∧ s.isNamedFreely = true := by
  decide +kernel

/-! ## Texts in values -/

/-- Whether a text stands somewhere in a value: in a list, a mapping or a block, at any depth. -/
inductive Value.Contains (t : String) : Value → Prop
  | text : Contains t (.str t)
  | item {xs : List Value} {v : Value} (hv : v ∈ xs) (h : v.Contains t) : Contains t (.list xs)
  | entry {kvs : List (String × Value)} {k : String} {v : Value} (hv : (k, v) ∈ kvs) (h : v.Contains t) :
    Contains t (.map kvs)
  | member {kvs : List (String × Value)} {k : String} {v : Value} (hv : (k, v) ∈ kvs) (h : v.Contains t) :
    Contains t (.block kvs)

theorem Value.Contains.not_isNull {t : String} {v : Value} (h : v.Contains t) : v.isNull = false := by
  cases h <;> rfl

/-- Whether a text stands somewhere in the attributes of a resource. -/
def Resource.Contains (t : String) (r : Resource) : Prop := ∃ kv ∈ r.attributes, kv.2.Contains t

section
variable {d o : Draft} {hs : Handles} {p : Term} {t : String}

namespace Term

mutual
/-- The text of a part stands in the value. -/
theorem contains_of_mem_parts (hp : p.value d hs = .ok (.str t)) : ∀ {u : Term} {v : Value},
    u.value d hs = .ok v → p ∈ u.parts → v.Contains t
  | .list ts, v, hv, hmem => by
    rcases List.mem_cons.1 hmem with rfl | hmem
    · obtain ⟨vs, -, hlist⟩ := map_eq_ok.1 hp
      cases hlist
    · obtain ⟨vs, hvs, rfl⟩ := map_eq_ok.1 hv
      obtain ⟨w, hw, hcontains⟩ := contains_of_mem_partsAll hp hvs hmem
      exact .item hw hcontains
  | .map kvs, v, hv, hmem => by
    rcases List.mem_cons.1 hmem with rfl | hmem
    · obtain ⟨vs, -, hmap⟩ := map_eq_ok.1 hp
      cases hmap
    · obtain ⟨vs, hvs, rfl⟩ := map_eq_ok.1 hv
      obtain ⟨kv, hkv, hcontains⟩ := contains_of_mem_partsEntries hp hvs hmem
      exact .entry hkv hcontains
  | .block kvs, v, hv, hmem => by
    rcases List.mem_cons.1 hmem with rfl | hmem
    · obtain ⟨vs, -, hblock⟩ := map_eq_ok.1 hp
      cases hblock
    · obtain ⟨vs, hvs, rfl⟩ := map_eq_ok.1 hv
      obtain ⟨kv, hkv, hcontains⟩ := contains_of_mem_partsEntries hp hvs hmem
      exact .member hkv hcontains
  | .lit _, v, hv, hmem | .field _, v, hv, hmem | .fieldOr _ _, v, hv, hmem
  | .number _ _, v, hv, hmem | .decimal _, v, hv, hmem | .flag _, v, hv, hmem
  | .ending _ _ _, v, hv, hmem | .label _ _, v, hv, hmem | .compactName _ _, v, hv, hmem
  | .described _, v, hv, hmem | .tags _, v, hv, hmem | .kind _ _, v, hv, hmem | .made _ _, v, hv, hmem
  | .lookup _ _ _, v, hv, hmem | .ite _ _ _, v, hv, hmem | .interp _, v, hv, hmem
  | .json _, v, hv, hmem | .inboundBlocks _, v, hv, hmem | .inboundPorts, v, hv, hmem
  | .inboundSources, v, hv, hmem => by
    obtain rfl := List.mem_singleton.1 hmem
    obtain rfl := Except.ok.inj (hp.symm.trans hv)
    exact .text

theorem contains_of_mem_partsAll (hp : p.value d hs = .ok (.str t)) : ∀ {ts : List Term} {vs : List Value},
    valueAll d hs ts = .ok vs → p ∈ partsAll ts → ∃ v ∈ vs, v.Contains t
  | u :: ts, vs, hvs, hmem => by
    simp only [valueAll, bind_eq_ok] at hvs
    obtain ⟨v, hv, ws, hws, heq⟩ := hvs
    cases heq
    rcases List.mem_append.1 hmem with hmem | hmem
    · exact ⟨v, List.mem_cons_self, contains_of_mem_parts hp hv hmem⟩
    · obtain ⟨w, hw, hcontains⟩ := contains_of_mem_partsAll hp hws hmem
      exact ⟨w, List.mem_cons_of_mem v hw, hcontains⟩

theorem contains_of_mem_partsEntries (hp : p.value d hs = .ok (.str t)) :
    ∀ {kvs : List (String × Term)} {vs : Attributes}, valueEntries d hs kvs = .ok vs →
      p ∈ partsEntries kvs → ∃ kv ∈ vs, kv.2.Contains t
  | (k, u) :: r, vs, hvs, hmem => by
    simp only [valueEntries, bind_eq_ok] at hvs
    obtain ⟨v, hv, ws, hws, heq⟩ := hvs
    cases heq
    rcases List.mem_append.1 hmem with hmem | hmem
    · exact ⟨(k, v), List.mem_cons_self, contains_of_mem_parts hp hv hmem⟩
    · obtain ⟨kv, hkv, hcontains⟩ := contains_of_mem_partsEntries hp hws hmem
      exact ⟨kv, List.mem_cons_of_mem (k, v) hkv, hcontains⟩
end

end Term

/-- A text that a part of an addition always has stands in every resource that the addition made. -/
theorem Addition.Makes.contains {a : Addition} {r : Resource} (h : a.Makes o r)
    (hmem : p ∈ Term.partsEntries a.attrs)
    (hp : ∀ d hs, d.origin = o → p.value d hs = .ok (.str t)) : r.Contains t := by
  obtain ⟨d, hs, attrs, ho, -, -, hattrs, rfl⟩ := h
  obtain ⟨kv, hkv, hcontains⟩ := Term.contains_of_mem_partsEntries (hp d.view hs ho) hattrs hmem
  exact ⟨kv, List.mem_filter.2 ⟨hkv, by simp [hcontains.not_isNull]⟩, hcontains⟩

end

/-! ## Derived names -/

/-- A name that a template derives for a resource: some addition made the resource and has a term for the
name in it. -/
inductive Derives (o : Draft) (as : List Addition) (r : Resource) : String → Prop
  | name {a : Addition} {suffix : String} (ha : a ∈ as) (hmade : a.Makes o r) (hs : suffix ∈ a.suffixes) :
    Derives o as r (NameStyle.hyphenated.apply (o.label suffix))

section
variable {r : Registry} {provider : String} {s : Service} {values : Attributes} {q : Resource} {n : String}

/-- What is known of a suffix in a service that passes the check. -/
theorem Registry.derivesPlainly_iff : r.derivesPlainly provider s = true ↔
    ∀ a ∈ r.additions provider s, ∀ suffix ∈ a.suffixes, (∀ c ∈ suffix.toList, IsNameable c) ∧
      Term.label .hyphenated suffix ∈ Term.partsEntries a.attrs := by
  have hterm (suffix : String) (ts : List Term) :
      ts.any (Term.isDerived suffix) = true ↔ Term.label .hyphenated suffix ∈ ts := by
    rw [List.any_eq_true]
    constructor
    · rintro ⟨t, ht, hd⟩
      unfold Term.isDerived at hd
      split at hd
      · rwa [← beq_iff_eq.1 hd]
      · cases hd
    · exact fun ht => ⟨_, ht, beq_self_eq_true suffix⟩
  simp only [derivesPlainly, List.all_eq_true, Bool.and_eq_true, decide_eq_true_eq, hterm]

/-- **A derived name stands in its resource**, and the display name decides what it holds. -/
theorem Derives.spec (hr : r.derivesPlainly provider s = true)
    (h : Derives (.start provider s values) (r.additions provider s) q n) :
    q.Contains n ∧ (IsHyphenated n ↔
      ∀ c ∈ (Draft.start provider s values).displayName.toList, IsNameable c) := by
  obtain ⟨ha, hmade, hs⟩ := h
  obtain ⟨hsuffix, hmem⟩ := Registry.derivesPlainly_iff.1 hr _ ha _ hs
  refine ⟨hmade.contains hmem fun d _ ho => ?_, ?_⟩
  · rw [← ho]
    rfl
  · rw [isHyphenated_apply_iff]
    exact Draft.forall_label_iff _ hsuffix

end

/-- An addition that is made in any case leaves a resource with its names. -/
theorem Recorded.exists_derives {o : Draft} {as : List Addition} {rs : List Resource}
    (h : Recorded o as rs) (suffix : String)
    (hs : as.any (fun a => a.onlyIf == .always && a.suffixes.contains suffix) = true) :
    ∃ q ∈ rs, Derives o as q (NameStyle.hyphenated.apply (o.label suffix)) := by
  obtain ⟨a, ha, halways⟩ := List.any_eq_true.1 hs
  simp only [Bool.and_eq_true, beq_iff_eq, List.contains_iff_mem] at halways
  obtain ⟨q, hq, hm⟩ := h.exists_makes ha halways.1
  exact ⟨q, hq, .name ha hm halways.2⟩

/-- **Derived names are made of lower-case ASCII letters, digits and hyphens** just if the text that was
given for the naming field, without the blanks at its ends, is made of characters that come to these: ASCII
letters and digits, hyphens, low lines, spaces and the Kelvin sign. That holds for every service of the
provider, all accepted values, and every name that a template derives for a resource of the graph, in whose
attributes it stands. The resources of the graph are those that the templates made. -/
theorem isHyphenated_derived_iff {id : String} {s : Service} {given values : Attributes} {g : Graph}
    (hs : Catalog.shipped.service "gcp" id = .ok s) (hv : s.validated given = .ok values)
    (hg : buildGraph "gcp" s values = .ok g) :
    Recorded (.start "gcp" s values) (Registry.shipped.additions "gcp" s) g.resources ∧
      ∃ f text, s.namingField? = some f ∧ given.get? f.name = some (.str text) ∧
        ∀ q ∈ g.resources, ∀ n,
          Derives (.start "gcp" s values) (Registry.shipped.additions "gcp" s) q n →
            q.Contains n ∧ (IsHyphenated n ↔ ∀ c ∈ (trim text).toList, IsNameable c) := by
  obtain ⟨p, hp, hid, hmem⟩ := Catalog.mem_of_service hs
  obtain ⟨hplain, hregular, hfree⟩ := shipped_derivesPlainly p hp hid s hmem
  obtain ⟨f, text, hf, hgiven, hname⟩ := Service.displayName_validated "gcp" hv hregular hfree
  refine ⟨Registry.build_recorded hg, f, text, hf, hgiven, fun q _ n hn => ?_⟩
  have hspec := hn.spec hplain
  rwa [hname] at hspec

/-- A single text has as many digits as it may have if there are few in it. -/
theorem Service.withinDigits_singleton {s : Service} {n t : String}
    (h : t.toList.countP isDigit ≤ Number.digitLimit) : s.WithinDigits [(n, .str t)] := by
  intro f _ _ u hu
  have hmem := Attributes.mem_of_get? hu
  simp only [List.mem_singleton, Prod.mk.injEq, Value.str.injEq] at hmem
  rwa [hmem.2]

/-- The name of a machine with a low line, a space, capital letters and blanks around it. -/
def webApp : Attributes := [("instance_name", .str " Web_App 1 ")]

theorem isHyphenated_derived_iff_webApp : ∃ values g,
    Catalog.Gcp.computeInstance.validated webApp = .ok values ∧
      buildGraph "gcp" Catalog.Gcp.computeInstance values = .ok g ∧
        (∃ q ∈ g.resources, Derives (.start "gcp" Catalog.Gcp.computeInstance values)
          (Registry.shipped.additions "gcp" Catalog.Gcp.computeInstance) q "web-app-1-allow-ingress") ∧
        ∀ q ∈ g.resources, ∀ n, Derives (.start "gcp" Catalog.Gcp.computeInstance values)
          (Registry.shipped.additions "gcp" Catalog.Gcp.computeInstance) q n → q.Contains n ∧ IsHyphenated n := by
  have hs : Catalog.shipped.service "gcp" "compute_instance" = .ok Catalog.Gcp.computeInstance := rfl
  have hv : Catalog.Gcp.computeInstance.validated webApp =
      .ok (Catalog.Gcp.computeInstance.validate webApp).values :=
    Service.validated_of_isEmpty (by decide +kernel)
  obtain ⟨g, hg⟩ := exists_buildGraph hs hv (Service.withinDigits_singleton (by decide))
  obtain ⟨hrecord, f, text, hf, hgiven, hnames⟩ := isHyphenated_derived_iff hs hv hg
  obtain ⟨q, hq, hderives⟩ := hrecord.exists_derives "allow-ingress" (by decide +kernel)
  have hname : NameStyle.hyphenated.apply ((Draft.start "gcp" Catalog.Gcp.computeInstance
      (Catalog.Gcp.computeInstance.validate webApp).values).label "allow-ingress") =
        "web-app-1-allow-ingress" := by decide +kernel
  cases hf
  cases hgiven
  refine ⟨_, g, hv, hg, ⟨q, hq, hname ▸ hderives⟩, fun q hq n hn => ?_⟩
  obtain ⟨hcontains, hiff⟩ := hnames q hq n hn
  exact ⟨hcontains, hiff.2 (List.all_iff_forall_prop.1 (by decide))⟩

/-- The name of a load balancer with a point in it. -/
def webPoint : Attributes := [("lb_name", .str "web.1")]

/-- **A point stays** in the names of the parts of a load balancer. -/
theorem derives_point : ∃ g, Catalog.Gcp.loadBalancer.validated webPoint = .ok webPoint ∧
    buildGraph "gcp" Catalog.Gcp.loadBalancer webPoint = .ok g ∧
      ∃ q ∈ g.resources, q.Contains "web.1-url-map" ∧ ¬ IsHyphenated "web.1-url-map" ∧
        Derives (.start "gcp" Catalog.Gcp.loadBalancer webPoint)
          (Registry.shipped.additions "gcp" Catalog.Gcp.loadBalancer) q "web.1-url-map" := by
  have hs : Catalog.shipped.service "gcp" "load_balancer" = .ok Catalog.Gcp.loadBalancer := rfl
  have hv : Catalog.Gcp.loadBalancer.validated webPoint = .ok webPoint := rfl
  obtain ⟨g, hg⟩ := exists_buildGraph hs hv (Service.withinDigits_singleton (by decide))
  obtain ⟨q, hq, hderives⟩ :=
    (Registry.build_recorded hg).exists_derives "url-map" (by decide +kernel)
  have hname : NameStyle.hyphenated.apply ((Draft.start "gcp" Catalog.Gcp.loadBalancer webPoint).label
      "url-map") = "web.1-url-map" := by decide +kernel
  obtain ⟨p, hp, hid, hmem⟩ := Catalog.mem_of_service hs
  have hplain := (shipped_derivesPlainly p hp hid _ hmem).1
  rw [hname] at hderives
  exact ⟨g, hv, hg, q, hq, (hderives.spec hplain).1, by decide, hderives⟩

end CloudScaffold
