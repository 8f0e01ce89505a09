import CloudScaffold.Graph.Basic
import CloudScaffold.Proofs.Lists
import CloudScaffold.Proofs.Template.Evaluation
import CloudScaffold.Proofs.Value.Attributes
/-!
# What a run leaves on record

The resources that a template leaves behind tell which of its additions were made: each of them was
made by some addition, and an addition that made none was held back by its condition (`Recorded`).
One step keeps the record (`Step.run_records`), and so does a run (`runSteps_records`).

So two runs of one template that leave the same resources made the same additions, as long as a
resource tells which addition it is from (`Addition.Apart`). Then each attribute had one value in
both runs, and so had each term that shows in an attribute (`Term.parts`). Main statements: a term
that shows had one value (`TwoRuns.shows`), and a condition on fields turned out one way
(`TwoRuns.holds_eq`).
-/
namespace CloudScaffold

/-! ## Records -/

def Step.additions : Step → List Addition
  | .add a => [a]
  | .touch _ | .output _ => []

/-- The phases that a draft goes through. -/
def Draft.InPhase (d : Draft) : Prop := d.phase = "dependency" ∨ d.phase = "primary"

namespace Addition

/-- Whether an addition makes a resource in some draft that was started from `o`. -/
def Makes (a : Addition) (o : Draft) (r : Resource) : Prop :=
  ∃ d hs attrs, d.origin = o ∧ d.InPhase ∧ a.onlyIf.holds d hs = .ok true ∧
    Term.valueEntries d.view hs a.attrs = .ok attrs ∧ r = d.made (a.making attrs)

/-- Whether an addition is held back in some draft that was started from `o`. -/
def HeldBack (a : Addition) (o : Draft) : Prop :=
  ∃ d hs, d.origin = o ∧ a.onlyIf.holds d hs = .ok false

end Addition

/-- Whether some resources are what additions made, each of them where it was not held back. -/
structure Recorded (o : Draft) (as : List Addition) (rs : List Resource) : Prop where
  made : ∀ r ∈ rs, ∃ a ∈ as, a.Makes o r
  spared : ∀ a ∈ as, a.HeldBack o ∨ ∃ r ∈ rs, a.Makes o r

/-- Whether a draft went on to another by resources that additions made. -/
structure Draft.Records (as : List Addition) (d d' : Draft) : Prop where
  origin : d'.origin = d.origin
  phase : d'.phase = d.phase
  resources : ∃ rs, d'.resources = d.resources ++ rs ∧ Recorded d.origin as rs

section
variable {o d d' d'' : Draft} {as bs : List Addition} {rs qs : List Resource}

theorem Recorded.nil : Recorded o [] [] := ⟨by simp, by simp⟩

theorem Recorded.append (h : Recorded o as rs) (h' : Recorded o bs qs) :
    Recorded o (as ++ bs) (rs ++ qs) where
  made := by
    intro r hr
    rcases List.mem_append.1 hr with hr | hr
    · obtain ⟨a, ha, hm⟩ := h.made r hr
      exact ⟨a, List.mem_append_left _ ha, hm⟩
    · obtain ⟨a, ha, hm⟩ := h'.made r hr
      exact ⟨a, List.mem_append_right _ ha, hm⟩
  spared := by
    intro a ha
    rcases List.mem_append.1 ha with ha | ha
    · exact (h.spared a ha).imp_right fun ⟨r, hr, hm⟩ => ⟨r, List.mem_append_left _ hr, hm⟩
    · exact (h'.spared a ha).imp_right fun ⟨r, hr, hm⟩ => ⟨r, List.mem_append_right _ hr, hm⟩

/-- A record is about which resources there are, not about their order. -/
theorem Recorded.congr (h : Recorded o as rs) (hq : ∀ r, r ∈ qs ↔ r ∈ rs) : Recorded o as qs where
  made r hr := h.made r ((hq r).1 hr)
  spared a ha := (h.spared a ha).imp_right fun ⟨r, hr, hm⟩ => ⟨r, (hq r).2 hr, hm⟩

/-- An addition that is made in any case leaves a resource. -/
theorem Recorded.exists_makes (h : Recorded o as rs) {a : Addition} (ha : a ∈ as) (hc : a.onlyIf = .always) :
    ∃ r ∈ rs, a.Makes o r := by
  refine (h.spared a ha).resolve_left ?_
  rintro ⟨d, hs, -, hheld⟩
  rw [hc] at hheld
  cases hheld

theorem Addition.Makes.type {a : Addition} {r : Resource} (h : a.Makes o r) : r.type = a.type := by
  obtain ⟨d, hs, attrs, -, -, -, -, rfl⟩ := h
  rfl

theorem Draft.Records.refl (d : Draft) : d.Records [] d := ⟨rfl, rfl, [], by simp, .nil⟩

theorem Draft.Records.provider (h : d.Records as d') : d'.provider = d.provider := by
  have hprov : d'.origin.provider = d.origin.provider := by rw [h.origin]
  exact hprov

theorem Draft.Records.trans (h : d.Records as d') (h' : d'.Records bs d'') :
    d.Records (as ++ bs) d'' := by
  obtain ⟨rs, hrs, hr⟩ := h.resources
  obtain ⟨qs, hqs, hq⟩ := h'.resources
  rw [h.origin] at hq
  exact ⟨h'.origin.trans h.origin, h'.phase.trans h.phase, rs ++ qs,
    by rw [hqs, hrs, List.append_assoc], hr.append hq⟩

end

/-! ## Runs leave records -/

section
variable {d d' : Draft} {hs hs' : Handles}

/-- **One step** leaves the resource of its addition, or was held back. -/
theorem Step.run_records (hp : d.InPhase) : ∀ {s : Step}, (s.run hs).on d = (.ok hs', d') →
    d.Records s.additions d'
  | .touch t, h => by
    rw [Step.run_touch_on, Prod.mk.injEq] at h
    obtain ⟨-, rfl⟩ := h
    exact ⟨rfl, rfl, [], by simp [Draft.takeAll], .nil⟩
  | .output o, h => by
    rw [Step.run_output_on] at h
    split at h
    · rw [Exposure.run_on, Prod.mk.injEq] at h
      obtain ⟨-, rfl⟩ := h
      cases o.value.value d.view hs with
      | ok v => exact ⟨rfl, rfl, [], by simp [Draft.takeAll, Draft.output], .nil⟩
      | error e => exact ⟨rfl, rfl, [], by simp [Draft.takeAll], .nil⟩
    · cases h; exact .refl d
    · cases h
  | .add a, h => by
    rw [Step.run_add_on] at h
    split at h
    · next hc =>
      rw [Addition.run_on, Prod.mk.injEq] at h
      obtain ⟨hok, rfl⟩ := h
      obtain ⟨attrs, hattrs, -⟩ := map_eq_ok.1 hok
      have hmakes : a.Makes d.origin (d.made (a.making attrs)) :=
        ⟨d, hs, attrs, rfl, hp, hc, hattrs, rfl⟩
      simp only [hattrs]
      exact ⟨rfl, rfl, [d.made (a.making attrs)], rfl,
        ⟨fun r hr => ⟨a, List.mem_singleton_self a, List.mem_singleton.1 hr ▸ hmakes⟩,
          fun b hb => .inr ⟨_, List.mem_singleton_self _, List.mem_singleton.1 hb ▸ hmakes⟩⟩⟩
    · next hc =>
      cases h
      exact ⟨rfl, rfl, [], by simp, ⟨by simp,
        fun b hb => .inl ⟨d, hs, rfl, List.mem_singleton.1 hb ▸ hc⟩⟩⟩
    · cases h

/-- **A run** leaves the resources of its additions, but for those that were held back. -/
theorem runSteps_records : ∀ {ss : List Step} {hs : Handles} {d d' : Draft}, d.InPhase →
    (runSteps hs ss).on d = (.ok (), d') → d.Records (ss.flatMap Step.additions) d'
  | [], _, d, _, _, h => by cases h; exact .refl d
  | s :: ss, hs, d, d', hp, h => by
    rw [runSteps_cons_on] at h
    rcases hrun : (s.run hs).on d with ⟨_ | hs₁, d₁⟩
    · rw [hrun] at h; cases h
    · rw [hrun] at h
      have hstep := Step.run_records hp hrun
      have hp₁ : d₁.InPhase := by rw [Draft.InPhase, hstep.phase]; exact hp
      rw [List.flatMap_cons]
      exact hstep.trans (runSteps_records hp₁ h)

end

/-! ## Two runs with one record -/

namespace Addition

/-- Whether resources of two additions differ in their class, their type or, whatever they are called
after, the end of their name. -/
def Apart (a b : Addition) : Bool :=
  a.data != b.data || a.type != b.type ||
    (!a.role.toList.isSuffixOf b.role.toList && !b.role.toList.isSuffixOf a.role.toList)

end Addition

section
variable {o o₁ o₂ : Draft} {as : List Addition} {rs : List Resource} {a b : Addition} {r : Resource}

theorem Draft.suffix_nameOf (d : Draft) (role : String) :
    role.toList <:+ (d.nameOf role).toList := by
  unfold Draft.nameOf
  split
  · exact List.suffix_rfl
  · rw [String.toList_append]
    exact List.suffix_append _ _

/-- A resource tells its addition from others. -/
theorem Addition.Makes.not_apart (ha : a.Makes o₁ r) (hb : b.Makes o₂ r) : a.Apart b = false := by
  obtain ⟨d₁, _, attrs₁, -, -, -, -, rfl⟩ := ha
  obtain ⟨d₂, _, attrs₂, -, -, -, -, hr⟩ := hb
  have htype : a.type = b.type := congrArg Resource.type hr
  have hmode : (if a.data then "data" else "resource") = (if b.data then "data" else "resource") :=
    congrArg Resource.mode hr
  have hname : d₁.nameOf a.role = d₂.nameOf b.role := congrArg Resource.name hr
  have hdata : a.data = b.data := by
    cases ha : a.data <;> cases hb : b.data <;> simp [ha, hb] at hmode ⊢
  have hrole := List.suffix_or_suffix_of_suffix (d₁.suffix_nameOf a.role)
    (hname ▸ d₂.suffix_nameOf b.role)
  rcases hrole with hs | hs <;> simp [Addition.Apart, htype, hdata, List.isSuffixOf_iff_suffix.2 hs]

/-- Of additions that are apart, the one that makes a resource in one run makes it in the other. -/
theorem Recorded.makes (h : Recorded o₂ as rs) (hd : as.Pairwise fun a b => a.Apart b = true)
    (ha : a ∈ as) (hr : r ∈ rs) (hm : a.Makes o₁ r) : a.Makes o₂ r := by
  obtain ⟨b, hb, hmb⟩ := h.made r hr
  rcases cases_of_pairwise hd ha hb with rfl | hab | hab
  · exact hmb
  · rw [hm.not_apart hmb] at hab; cases hab
  · rw [hmb.not_apart hm] at hab; cases hab

end

/-! ## What shows in an attribute -/

namespace Term

mutual
/-- The terms whose values stand in the value of a term as they are. -/
def parts : Term → List Term
  | .list ts => .list ts :: partsAll ts
  | .map kvs => .map kvs :: partsEntries kvs
  | .block kvs => .block kvs :: partsEntries kvs
  | t => [t]

def partsAll : List Term → List Term
  | [] => []
  | t :: ts => t.parts ++ partsAll ts

def partsEntries : List (String × Term) → List Term
  | [] => []
  | (_, t) :: r => t.parts ++ partsEntries r
end

/-- Whether a term had one value in two runs, all of whose pointers are among some. -/
def Shows (o₁ o₂ : Draft) (ps : List Pointer) (t : Term) : Prop :=
  ∃ d₁ hs₁ d₂ hs₂ v, d₁.origin = o₁ ∧ d₂.origin = o₂ ∧ t.value d₁ hs₁ = .ok v ∧
    t.value d₂ hs₂ = .ok v ∧ ∀ p ∈ v.refs, p ∈ ps

section
variable {o₁ o₂ : Draft} {d₁ d₂ : Draft} {hs₁ hs₂ : Handles} {ps : List Pointer} {p : Term}

mutual
/-- What stands in a value that two runs have in common is common to them too. -/
theorem shows_of_mem_parts (ho₁ : d₁.origin = o₁) (ho₂ : d₂.origin = o₂) : ∀ {t : Term} {v : Value},
    t.value d₁ hs₁ = .ok v → t.value d₂ hs₂ = .ok v → (∀ q ∈ v.refs, q ∈ ps) → p ∈ t.parts →
      p.Shows o₁ o₂ ps
  | .list ts, v, h₁, h₂, hv, hp => by
    rcases List.mem_cons.1 hp with rfl | hp
    · exact ⟨d₁, hs₁, d₂, hs₂, v, ho₁, ho₂, h₁, h₂, hv⟩
    · obtain ⟨vs, hvs₁, rfl⟩ := map_eq_ok.1 h₁
      obtain ⟨_, hvs₂, heq⟩ := map_eq_ok.1 h₂
      cases heq
      exact shows_of_mem_partsAll ho₁ ho₂ hvs₁ hvs₂ hv hp
  | .map kvs, v, h₁, h₂, hv, hp => by
    rcases List.mem_cons.1 hp with rfl | hp
    · exact ⟨d₁, hs₁, d₂, hs₂, v, ho₁, ho₂, h₁, h₂, hv⟩
    · obtain ⟨vs, hvs₁, rfl⟩ := map_eq_ok.1 h₁
      obtain ⟨_, hvs₂, heq⟩ := map_eq_ok.1 h₂
      cases heq
      exact shows_of_mem_partsEntries ho₁ ho₂ hvs₁ hvs₂ hv hp
  | .block kvs, v, h₁, h₂, hv, hp => by
    rcases List.mem_cons.1 hp with rfl | hp
    · exact ⟨d₁, hs₁, d₂, hs₂, v, ho₁, ho₂, h₁, h₂, hv⟩
    · obtain ⟨vs, hvs₁, rfl⟩ := map_eq_ok.1 h₁
      obtain ⟨_, hvs₂, heq⟩ := map_eq_ok.1 h₂
      cases heq
      exact shows_of_mem_partsEntries ho₁ ho₂ hvs₁ hvs₂ hv hp
  | .lit _, v, h₁, h₂, hv, hp | .field _, v, h₁, h₂, hv, hp | .fieldOr _ _, v, h₁, h₂, hv, hp
  | .number _ _, v, h₁, h₂, hv, hp | .decimal _, v, h₁, h₂, hv, hp | .flag _, v, h₁, h₂, hv, hp
  | .ending _ _ _, v, h₁, h₂, hv, hp | .label _ _, v, h₁, h₂, hv, hp
  | .compactName _ _, v, h₁, h₂, hv, hp | .described _, v, h₁, h₂, hv, hp
  | .tags _, v, h₁, h₂, hv, hp | .kind _ _, v, h₁, h₂, hv, hp | .made _ _, v, h₁, h₂, hv, hp
  | .lookup _ _ _, v, h₁, h₂, hv, hp | .ite _ _ _, v, h₁, h₂, hv, hp | .interp _, v, h₁, h₂, hv, hp
  | .json _, v, h₁, h₂, hv, hp | .inboundBlocks _, v, h₁, h₂, hv, hp
  | .inboundPorts, v, h₁, h₂, hv, hp | .inboundSources, v, h₁, h₂, hv, hp => by
    obtain rfl := List.mem_singleton.1 hp
    exact ⟨d₁, hs₁, d₂, hs₂, v, ho₁, ho₂, h₁, h₂, hv⟩

theorem shows_of_mem_partsAll (ho₁ : d₁.origin = o₁) (ho₂ : d₂.origin = o₂) :
    ∀ {ts : List Term} {vs : List Value}, valueAll d₁ hs₁ ts = .ok vs →
      valueAll d₂ hs₂ ts = .ok vs → (∀ q ∈ Value.refsList vs, q ∈ ps) → p ∈ partsAll ts → p.Shows o₁ o₂ ps
  | t :: ts, _, h₁, h₂, hv, hp => by
    simp only [valueAll, bind_eq_ok] at h₁ h₂
    obtain ⟨v, h₁, vs, hs₁, heq⟩ := h₁
    cases heq
    obtain ⟨_, h₂, _, hs₂, heq⟩ := h₂
    cases heq
    rw [Value.refsList, List.forall_mem_append] at hv
    rcases List.mem_append.1 hp with hp | hp
    · exact shows_of_mem_parts ho₁ ho₂ h₁ h₂ hv.1 hp
    · exact shows_of_mem_partsAll ho₁ ho₂ hs₁ hs₂ hv.2 hp

theorem shows_of_mem_partsEntries (ho₁ : d₁.origin = o₁) (ho₂ : d₂.origin = o₂) :
    ∀ {kvs : List (String × Term)} {vs : Attributes}, valueEntries d₁ hs₁ kvs = .ok vs →
      valueEntries d₂ hs₂ kvs = .ok vs → (∀ q ∈ Value.refsEntries vs, q ∈ ps) →
      p ∈ partsEntries kvs → p.Shows o₁ o₂ ps
  | (k, t) :: r, _, h₁, h₂, hv, hp => by
    simp only [valueEntries, bind_eq_ok] at h₁ h₂
    obtain ⟨v, h₁, vs, hs₁, heq⟩ := h₁
    cases heq
    obtain ⟨_, h₂, _, hs₂, heq⟩ := h₂
    cases heq
    rw [Value.refsEntries, List.forall_mem_append] at hv
    rcases List.mem_append.1 hp with hp | hp
    · exact shows_of_mem_parts ho₁ ho₂ h₁ h₂ hv.1 hp
    · exact shows_of_mem_partsEntries ho₁ ho₂ hs₁ hs₂ hv.2 hp
end

end

end Term

/-! ## Attributes -/

section
variable {o₁ o₂ : Draft} {as : List Addition} {rs : List Resource} {a : Addition} {r : Resource}

theorem Term.keys_of_valueEntries {d : Draft} {hs : Handles} : ∀ {kvs : List (String × Term)}
    {vs : Attributes}, Term.valueEntries d hs kvs = .ok vs → vs.map (·.1) = kvs.map (·.1)
  | [], _, h => by cases h; rfl
  | (k, t) :: r, _, h => by
    simp only [Term.valueEntries, bind_eq_ok] at h
    obtain ⟨v, -, vs, hvs, heq⟩ := h
    cases heq
    rw [List.map_cons, List.map_cons, keys_of_valueEntries hvs]

theorem Term.mem_valueEntries {d : Draft} {hs : Handles} {k : String} {t : Term} :
    ∀ {kvs : List (String × Term)} {vs : Attributes}, Term.valueEntries d hs kvs = .ok vs →
      (k, t) ∈ kvs → ∃ v, t.value d hs = .ok v ∧ (k, v) ∈ vs
  | (k', u) :: r, _, h, hmem => by
    simp only [Term.valueEntries, bind_eq_ok] at h
    obtain ⟨v, hv, vs, hvs, heq⟩ := h
    cases heq
    rcases List.mem_cons.1 hmem with hmem | hmem
    · cases hmem
      exact ⟨v, hv, List.mem_cons_self⟩
    · obtain ⟨w, hw, hin⟩ := mem_valueEntries hvs hmem
      exact ⟨w, hw, List.mem_cons_of_mem (k', v) hin⟩

/-- An attribute of a resource is what its term comes to, if that depends on the given values only. -/
theorem Addition.Makes.get? {o : Draft} (h : a.Makes o r) (hnd : (a.attrs.map (·.1)).Nodup) {k : String}
    {t : Term} (hmem : (k, t) ∈ a.attrs) {v : Value} (hnull : v.isNull = false)
    (hv : ∀ d hs, d.origin = o → t.value d hs = .ok v) : r.attributes.get? k = some v := by
  obtain ⟨d, hs, attrs, ho, -, -, hattrs, rfl⟩ := h
  obtain ⟨w, hw, hin⟩ := Term.mem_valueEntries hattrs hmem
  obtain rfl := Except.ok.inj ((hv d.view hs ho).symm.trans hw)
  have hkept : (k, v) ∈ attrs.filter fun kv => !kv.2.isNull := List.mem_filter.2 ⟨hin, by simp [hnull]⟩
  have hkeys : ((attrs.filter fun kv => !kv.2.isNull).map (·.1)).Nodup := by
    rw [← Term.keys_of_valueEntries hattrs] at hnd
    exact hnd.sublist (List.filter_sublist.map _)
  exact (Attributes.get?_eq_some_iff hkeys).2 hkept

/-- **What shows in a resource that is left by two runs** had one value in both of them. -/
theorem Addition.Makes.shows (h₁ : a.Makes o₁ r) (h₂ : a.Makes o₂ r)
    (hnd : (a.attrs.map (·.1)).Nodup) {p : Term} (hp : p ∈ Term.partsEntries a.attrs) : p.Shows o₁ o₂ r.refs := by
  obtain ⟨d₁, hs₁, attrs₁, ho₁, -, -, hv₁, rfl⟩ := h₁
  obtain ⟨d₂, hs₂, attrs₂, ho₂, -, -, hv₂, hr⟩ := h₂
  have hk₁ := Term.keys_of_valueEntries hv₁
  have hk₂ := Term.keys_of_valueEntries hv₂
  have heq : attrs₁ = attrs₂ :=
    Attributes.eq_of_filter_eq (hk₁ ▸ hnd) (hk₁.trans hk₂.symm) (congrArg Resource.attributes hr)
  have hview₁ : d₁.view.origin = o₁ := ho₁
  have hview₂ : d₂.view.origin = o₂ := ho₂
  exact Term.shows_of_mem_partsEntries hview₁ hview₂ hv₁ (heq ▸ hv₂)
    (fun q hq => Value.mem_refsEntries_filter hq) hp

/-! ## Two runs -/

/-- Whether resources of some additions tell which of them they are from, and under which name each
attribute was listed. -/
def Addition.AreLegible (as : List Addition) : Prop :=
  (as.Pairwise fun a b => a.Apart b = true) ∧ ∀ a ∈ as, (a.attrs.map (·.1)).Nodup

instance (as : List Addition) : Decidable (Addition.AreLegible as) :=
  inferInstanceAs (Decidable (_ ∧ _))

/-- Two runs that leave the same resources. -/
structure TwoRuns (o₁ o₂ : Draft) (as : List Addition) (rs : List Resource) : Prop where
  left : Recorded o₁ as rs
  right : Recorded o₂ as rs
  legible : Addition.AreLegible as

/-- **What shows in a resource had one value**: that of a term in an addition which was not held
back. -/
theorem TwoRuns.shows (h : TwoRuns o₁ o₂ as rs) (ha : a ∈ as) (hmade : ¬ a.HeldBack o₁) {p : Term}
    (hp : p ∈ Term.partsEntries a.attrs) : ∃ q ∈ rs, p.Shows o₁ o₂ q.refs := by
  obtain ⟨q, hq, hm⟩ := (h.left.spared a ha).resolve_left hmade
  exact ⟨q, hq, hm.shows (h.right.makes h.legible.1 ha hq hm) (h.legible.2 a ha) hp⟩

/-- **A condition turned out one way**, if it does not depend on what was made before. -/
theorem TwoRuns.holds_eq (h : TwoRuns o₁ o₂ as rs) (ha : a ∈ as) {b₁ b₂ : Except TemplateFault Bool}
    (h₁ : ∀ d hs, d.origin = o₁ → a.onlyIf.holds d hs = b₁)
    (h₂ : ∀ d hs, d.origin = o₂ → a.onlyIf.holds d hs = b₂) : b₁ = b₂ := by
  -- what was made in one run was made in the other, so both were made or both held back
  have made {q : Resource} (hq : q ∈ rs) (hm : a.Makes o₁ q) : b₁ = b₂ := by
    obtain ⟨d₂, hs₂, _, ho₂, -, hc₂, -, -⟩ := h.right.makes h.legible.1 ha hq hm
    obtain ⟨d₁, hs₁, _, ho₁, -, hc₁, -, -⟩ := hm
    rw [← h₁ d₁ hs₁ ho₁, hc₁, ← h₂ d₂ hs₂ ho₂, hc₂]
  rcases h.left.spared a ha with ⟨d₁, hs₁, ho₁, hc₁⟩ | ⟨q, hq, hm⟩
  · rcases h.right.spared a ha with ⟨d₂, hs₂, ho₂, hc₂⟩ | ⟨q, hq, hm⟩
    · rw [← h₁ d₁ hs₁ ho₁, hc₁, ← h₂ d₂ hs₂ ho₂, hc₂]
    · exact made hq (h.left.makes h.legible.1 ha hq hm)
  · exact made hq hm

end

end CloudScaffold
