import CloudScaffold.Proofs.Catalog.Choices
import CloudScaffold.Proofs.Catalog.Recorded
import CloudScaffold.Value.Text
/-!
# Every choice shows in the graph

Each choice leaves a mark in the graph of a service. Whether it does is a question to the templates
alone, and `Registry.reveals` looks for the mark of a field. A text must show as it is in a resource
that is always made, or made whenever the text is given. Of a field with a few values only, any two must
show differently: as terms or conditions that read nothing but the field, evaluated on a draft that has
nothing but the field. The kernel runs the check on the shipped catalog.

Two builds that come to one graph are two runs that leave the same resources, so what shows had one
value in both. Main statement: `Twins.sameChoice`.
-/
namespace CloudScaffold

open Text Number

/-! ## The check -/

/-- Whether a term is the value of a field. -/
def Term.isField (n : String) : Term → Bool
  | .field m => m == n
  | _ => false

/-- Whether a term is the whole number in a field. -/
def Term.isNumber (n : String) : Term → Bool
  | .number m _ => m == n
  | _ => false

/-- Whether a term is the tags of a resource that has the display name itself. -/
def Term.isTags : Term → Bool
  | .tags suffix => suffix == ""
  | _ => false

/-- Whether a term is the value of a field or, if there is none, that of another. -/
def Term.isEither (n m : String) : Term → Bool
  | .fieldOr n' m' => n' == n && m' == m
  | _ => false

namespace Registry

section
variable (r : Registry) (provider : String) (s : Service)

/-- Whether a term of some form shows in a resource that is made on a condition. -/
def displays (c : Cond) (p : Term → Bool) : Bool :=
  (r.additions provider s).any fun a => a.onlyIf == c && (Term.partsEntries a.attrs).any p

/-- Whether two values of a field show differently: in what reads nothing but the field. -/
def tells (n : String) (x y : Value) : Bool :=
  let dx := Draft.start provider s [(n, x)]
  let dy := Draft.start provider s [(n, y)]
  (r.additions provider s).any fun a =>
    (a.onlyIf.isAbout n && (a.onlyIf.holds dx []).toOption != (a.onlyIf.holds dy []).toOption) ||
    (a.onlyIf == .always && (Term.partsEntries a.attrs).any fun t => t.isAbout n &&
      (t.value dx []).toOption.map (·.text) != (t.value dy []).toOption.map (·.text))

/-- Whether a text shows: as it is, as the name that all resources are tagged with, as a number, or
as what another field stands in for. -/
def revealsText (f : Field) : Bool :=
  f.hasTexts && (r.displays provider s (.given f.name) (Term.isField f.name) ||
    (!f.isOptional && s.namingField?.any (·.name == f.name) &&
      r.displays provider s .always Term.isTags) ||
    (!f.isOptional && f.pattern == some .digits &&
      r.displays provider s .always (Term.isNumber f.name)) ||
    (standIn? provider s.id f.name).any fun m => !s.isSensitive f.name &&
      r.displays provider s .always (Term.isField m) &&
      r.displays provider s .always (Term.isEither f.name m))

/-- Whether the value of a field shows. -/
def reveals (f : Field) : Bool :=
  r.displays provider s .always (Term.isField f.name) ||
    if f.kind = .string then r.revealsText provider s f
    else f.check.isOk && decide (f.choices.Pairwise fun x y =>
      (f.merges x y || r.tells provider s f.name x y) = true)

/-- Whether all fields of a service show. -/
def IsRevealing : Prop :=
  Addition.AreLegible (r.additions provider s) ∧ ∀ f ∈ s.fields, r.reveals provider s f = true

instance : Decidable (r.IsRevealing provider s) := inferInstanceAs (Decidable (_ ∧ _))

end

end Registry

/-- The shipped catalog passes the check. -/
theorem shipped_isRevealing : ∀ p ∈ Catalog.shipped, ∀ s ∈ p.services,
    Registry.shipped.IsRevealing p.id s := by
  decide +kernel

/-! ## What shows is the same -/

/-- Two builds of a service that come to one graph. -/
structure Twins (r : Registry) (provider : String) (s : Service) (v w : Attributes) (g : Graph) :
    Prop where
  left : r.build provider s v = .ok g
  right : r.build provider s w = .ok g
  apart : ∀ c ∈ r.contract? provider, c.isApart s = true
  legible : Addition.AreLegible (r.additions provider s)

namespace Twins

section
variable {r : Registry} {provider : String} {s : Service} {v w : Attributes} {g : Graph} {n : String}

theorem symm (h : Twins r provider s v w g) : Twins r provider s w v g :=
  ⟨h.right, h.left, h.apart, h.legible⟩

theorem runs (h : Twins r provider s v w g) : TwoRuns (.start provider s v) (.start provider s w)
    (r.additions provider s) g.resources :=
  ⟨Registry.build_recorded h.left, Registry.build_recorded h.right, h.legible⟩

/-- A term that shows on a condition which the first build met. -/
theorem exists_shows (h : Twins r provider s v w g) {c : Cond} {p : Term → Bool}
    (hd : r.displays provider s c p = true)
    (hc : ∀ d hs, d.origin = Draft.start provider s v → c.holds d hs ≠ .ok false) :
    ∃ t, p t = true ∧ ∃ q ∈ g.resources,
      t.Shows (.start provider s v) (.start provider s w) q.refs := by
  obtain ⟨a, ha, hd⟩ := List.any_eq_true.1 hd
  obtain ⟨hcond, hd⟩ := Bool.and_eq_true_iff.1 hd
  obtain ⟨t, ht, hp⟩ := List.any_eq_true.1 hd
  have hcond : a.onlyIf = c := by simpa using hcond
  exact ⟨t, hp, h.runs.shows ha (fun ⟨d, hs, ho, hf⟩ => hc d hs ho (hcond ▸ hf)) ht⟩

/-- A term that shows in any case. -/
theorem exists_shows_always (h : Twins r provider s v w g) {p : Term → Bool}
    (hd : r.displays provider s .always p = true) : ∃ t, p t = true ∧ ∃ q ∈ g.resources,
      t.Shows (.start provider s v) (.start provider s w) q.refs :=
  h.exists_shows hd fun _ _ _ => by simp [Cond.holds]

/-- **The value of a field that shows is the same**, be it as a variable. -/
theorem chosen_eq (h : Twins r provider s v w g) {q : Resource} (hq : q ∈ g.resources)
    (hs : (Term.field n).Shows (.start provider s v) (.start provider s w) q.refs) :
    v.chosen n = w.chosen n := by
  obtain ⟨d₁, _, d₂, _, x, ho₁, ho₂, hx₁, hx₂, hrefs⟩ := hs
  have hx₁ : (Draft.start provider s v).usable n .null = x := ho₁ ▸ Except.ok.inj hx₁
  have hx₂ : (Draft.start provider s w).usable n .null = x := ho₂ ▸ Except.ok.inj hx₂
  -- a variable is declared, and its value tells that of the field
  have declared (hsens : s.isSensitive n = true) (hvar : x = .var n) :
      v.chosen n = w.chosen n := by
    have hsound := Graph.check_eq_ok_iff_sound.1 (Registry.build_spec h.left).1
    have hptr : Pointer.var n ∈ q.refs := hrefs _ (by rw [hvar]; exact List.mem_singleton_self _)
    obtain ⟨i, hi, rfl⟩ := List.mem_map.1 (hsound.declared n (.inl ⟨q, hq, hptr⟩))
    exact (Registry.build_secret h.left h.apart i hi hsens).symm.trans
      (Registry.build_secret h.right h.apart i hi hsens)
  rcases Draft.start_usable provider s v n with ⟨hvar, hsens⟩ | hv
  · exact declared hsens (hx₁.symm.trans hvar)
  · rcases Draft.start_usable provider s w n with ⟨hvar, hsens⟩ | hw
    · exact declared hsens (hx₂.symm.trans hvar)
    · rw [← hv, ← hw, hx₁, hx₂]

/-- The value of a field that always shows. -/
theorem chosen_eq_of_displays (h : Twins r provider s v w g)
    (hd : r.displays provider s .always (Term.isField n) = true) :
    v.chosen n = w.chosen n := by
  obtain ⟨t, ht, q, hq, hs⟩ := h.exists_shows_always hd
  cases t with
  | field m =>
    obtain rfl : m = n := by simpa [Term.isField] using ht
    exact h.chosen_eq hq hs
  | _ => cases ht

/-- Values that show differently are not those of a field in two builds with one graph. -/
theorem not_tells (h : Twins r provider s v w g) :
    r.tells provider s n (v.chosen n) (w.chosen n) = false := by
  have probe (x : Value) : (Draft.start provider s [(n, x)]).given n .null = x := by
    simp [Draft.given, Draft.start, Attributes.get?]
  have hserv {d : Draft} {u : Attributes} (ho : d.origin = Draft.start provider s u) :
      d.service = s := by
    have hs : d.origin.service = s := by rw [ho]; rfl
    exact hs
  have hgiven {d : Draft} {u : Attributes} (ho : d.origin = Draft.start provider s u) :
      d.given n .null = u.chosen n := by
    show d.origin.given n .null = _
    rw [ho, Draft.start_given]
  rw [← Bool.not_eq_true]
  intro htells
  obtain ⟨a, ha, hor⟩ := List.any_eq_true.1 htells
  rcases Bool.or_eq_true_iff.1 hor with hc | ht
  · obtain ⟨habout, hne⟩ := Bool.and_eq_true_iff.1 hc
    refine absurd (congrArg Except.toOption (h.runs.holds_eq ha (fun d hs ho => ?_)
      fun d hs ho => ?_)) (bne_iff_ne.1 hne)
    · exact Cond.holds_of_given (hserv ho) ((hgiven ho).trans (probe _).symm) habout
    · exact Cond.holds_of_given (hserv ho) ((hgiven ho).trans (probe _).symm) habout
  · obtain ⟨halways, ht⟩ := Bool.and_eq_true_iff.1 ht
    obtain ⟨t, ht, hne⟩ := List.any_eq_true.1 ht
    obtain ⟨habout, hne⟩ := Bool.and_eq_true_iff.1 hne
    have halways : a.onlyIf = .always := by simpa using halways
    obtain ⟨q, -, d₁, hs₁, d₂, hs₂, x, ho₁, ho₂, hx₁, hx₂, -⟩ :=
      h.runs.shows ha (by rintro ⟨d, hs, -, hf⟩; rw [halways] at hf; cases hf) ht
    have hprobe {d : Draft} {u : Attributes} {hs : Handles}
        (ho : d.origin = Draft.start provider s u) :
        t.value d hs = t.value (Draft.start provider s [(n, u.chosen n)]) [] :=
      Term.value_of_given (hserv ho) ((hgiven ho).trans (probe _).symm) habout
    rw [← hprobe ho₁, ← hprobe ho₂, hx₁, hx₂] at hne
    simp at hne

/-! ### Texts -/

/-- A text that shows whenever it is given is the same. -/
theorem chosen_eq_of_displays_given (h : Twins r provider s v w g) (hx : (v.chosen n).NoneOrText)
    (hy : (w.chosen n).NoneOrText)
    (hd : r.displays provider s (.given n) (Term.isField n) = true) : v.chosen n = w.chosen n := by
  -- where the text is given in one build it shows, and so is the same in the other
  have shown {v w : Attributes} (h : Twins r provider s v w g) {t : String} (ht : t ≠ "")
      (hv : v.chosen n = .str t) : v.chosen n = w.chosen n := by
    obtain ⟨t, ht, q, hq, hs⟩ := h.exists_shows hd fun d hs ho hf => by
      have hfalse : (d.origin.usable n .null).truthy = false := Except.ok.inj hf
      rw [ho, Draft.truthy_start_usable (Value.truthy_of_text ht hv)] at hfalse
      cases hfalse
    cases t with
    | field m =>
      obtain rfl : m = n := by simpa [Term.isField] using ht
      exact h.chosen_eq hq hs
    | _ => cases ht
  rcases hx with hx | ⟨t, ht, hx⟩
  · rcases hy with hy | ⟨t, ht, hy⟩
    · rw [hx, hy]
    · exact (shown h.symm ht hy).symm
  · exact shown h ht hx

/-- The text of the naming field shows in the tags of a resource. -/
theorem chosen_eq_of_displays_tags (h : Twins r provider s v w g) {a b : String} (ha : a ≠ "")
    (hb : b ≠ "") (hv : v.chosen n = .str a) (hw : w.chosen n = .str b)
    (hn : s.namingField?.any (·.name == n) = true)
    (hd : r.displays provider s .always Term.isTags = true) : a = b := by
  have hname {u : Attributes} {d : Draft} (ho : d.origin = Draft.start provider s u) {t : String}
      (ht : t ≠ "") (hu : u.chosen n = .str t) : d.displayName = t := by
    show d.origin.displayName = t
    rw [ho, Draft.start_displayName hn ht hu]
  obtain ⟨t, ht, q, hq, d₁, _, d₂, _, x, ho₁, ho₂, hx₁, hx₂, -⟩ := h.exists_shows_always hd
  cases t with
  | tags suffix =>
    obtain rfl : suffix = "" := by simpa [Term.isTags] using ht
    have htags := hx₁.trans hx₂.symm
    simp only [Term.value, Draft.tags, Draft.label, if_true, hname ho₁ ha hv, hname ho₂ hb hw]
      at htags
    simpa using htags
  | _ => cases ht

/-- Texts that show as a number write one. -/
theorem readInt_of_displays_number (h : Twins r provider s v w g) {a b : String} (ha : a ≠ "")
    (hb : b ≠ "") (hv : v.chosen n = .str a) (hw : w.chosen n = .str b)
    (hd : r.displays provider s .always (Term.isNumber n) = true) :
    ∃ m, readInt a = .ok m ∧ readInt b = .ok m := by
  obtain ⟨t, ht, q, hq, d₁, _, d₂, _, x, ho₁, ho₂, hx₁, hx₂, -⟩ := h.exists_shows_always hd
  cases t with
  | number k m =>
    obtain rfl : k = n := by simpa [Term.isNumber] using ht
    obtain ⟨m₁, hm₁, rfl⟩ := map_eq_ok.1 hx₁
    obtain ⟨m₂, hm₂, heq⟩ := map_eq_ok.1 hx₂
    obtain rfl : m₂ = m₁ := Value.int.inj heq
    have hm₁ : d₁.origin.number k m = .ok m₂ := hm₁
    have hm₂ : d₂.origin.number k m = .ok m₂ := hm₂
    rw [ho₁] at hm₁
    rw [ho₂] at hm₂
    exact ⟨m₂, Draft.readInt_of_start_number ha hv hm₁, Draft.readInt_of_start_number hb hw hm₂⟩
  | _ => cases ht

/-- An alternative of two fields that shows has one value. -/
theorem either_eq (h : Twins r provider s v w g) {m : String}
    (hd : r.displays provider s .always (Term.isEither n m) = true) :
    (Draft.start provider s v).either n m = (Draft.start provider s w).either n m := by
  obtain ⟨t, ht, q, hq, d₁, _, d₂, _, x, ho₁, ho₂, hx₁, hx₂, -⟩ := h.exists_shows_always hd
  cases t with
  | fieldOr n' m' =>
    obtain ⟨rfl, rfl⟩ : n' = n ∧ m' = m := by simpa [Term.isEither] using ht
    have h₁ : d₁.origin.either n' m' = x := Except.ok.inj hx₁
    have h₂ : d₂.origin.either n' m' = x := Except.ok.inj hx₂
    rw [← ho₁, ← ho₂, h₁, h₂]
  | _ => cases ht

/-- A value that shows only where it is given is the same, or was left out in one build and stood in
for in the other. -/
theorem cases_of_displays_either (h : Twins r provider s v w g) {m : String}
    (hx : (v.chosen n).NoneOrText) (hy : (w.chosen n).NoneOrText) (hn : s.isSensitive n = false)
    (hm : v.chosen m = w.chosen m)
    (hd : r.displays provider s .always (Term.isEither n m) = true) :
    v.chosen n = w.chosen n ∨ v.chosen n = .null ∧ w.chosen n = w.chosen m ∨
      v.chosen n = v.chosen m ∧ w.chosen n = .null := by
  have heither := h.either_eq hd
  simp only [Draft.either, Draft.start_usable_of_open hn] at heither
  rcases hx with hx | ⟨a, ha, hx⟩
  · rcases hy with hy | ⟨b, hb, hy⟩
    · exact .inl (hx.trans hy.symm)
    · rw [Value.truthy_of_text hb hy, hx, hy] at heither
      exact .inr (.inl ⟨hx, by rw [hy, ← hm, Draft.chosen_of_usable heither]⟩)
  · rcases hy with hy | ⟨b, hb, hy⟩
    · rw [Value.truthy_of_text ha hx, hx, hy] at heither
      exact .inr (.inr ⟨by rw [hx, hm, Draft.chosen_of_usable heither.symm], hy⟩)
    · rw [Value.truthy_of_text ha hx, Value.truthy_of_text hb hy] at heither
      exact .inl heither

/-! ### Fields of a few values -/

/-- Values of a field that are told apart are one, or are none as choices. -/
theorem cases_of_tells (h : Twins r provider s v w g) {f : Field} (hv : v.chosen f.name ∈ f.choices)
    (hw : w.chosen f.name ∈ f.choices) (hd : f.choices.Pairwise fun x y =>
      (f.merges x y || r.tells provider s f.name x y) = true) :
    v.chosen f.name = w.chosen f.name ∨ f.merges (v.chosen f.name) (w.chosen f.name) = true := by
  rcases cases_of_pairwise hd hv hw with heq | hvw | hwv
  · exact .inl heq
  · rw [h.not_tells, Bool.or_false] at hvw
    exact .inr hvw
  · rw [h.symm.not_tells, Bool.or_false] at hwv
    simp only [Field.merges, Bool.and_eq_true] at hwv ⊢
    exact .inr ⟨⟨hwv.1.1, hwv.2⟩, hwv.1.2⟩

end

end Twins

/-! ## Main statement -/

section
variable {r : Registry} {provider : String} {s : Service} {v w : Attributes} {g : Graph} {n : String}
  {f : Field}

/-- A text that shows is the same choice. -/
theorem Twins.sameChoice_text (h : Twins r provider s v w g) (hr : s.isRegular = true)
    (hv : s.Accepts v) (hw : s.Accepts w) (hf : s.field? f.name = some f) (hk : f.kind = .string)
    (hrev : r.revealsText provider s f = true) : SameChoice provider s v w f.name := by
  have same {m : String} (heq : v.chosen m = w.chosen m) : v.get? m = w.get? m := by
    rw [hv.get?_eq hr, hw.get?_eq hr, heq]
  rw [Registry.revealsText, Bool.and_eq_true] at hrev
  obtain ⟨htext, hd⟩ := hrev
  have hx := hv.noneOrText hr hf hk htext
  have hy := hw.noneOrText hr hf hk htext
  have texts (ho : f.isOptional = false) : ∃ a b, a ≠ "" ∧ b ≠ "" ∧ v.chosen f.name = .str a ∧
      w.chosen f.name = .str b := by
    obtain ⟨a, ha, hxa⟩ := hx.resolve_left (hv.ne_null hr hf ho)
    obtain ⟨b, hb, hyb⟩ := hy.resolve_left (hw.ne_null hr hf ho)
    exact ⟨a, b, ha, hb, hxa, hyb⟩
  simp only [Bool.or_eq_true, Bool.and_eq_true, Bool.not_eq_true'] at hd
  rcases hd with ((hd | ⟨⟨ho, hn⟩, hd⟩) | ⟨⟨ho, hp⟩, hd⟩) | hd
  · exact .same (same (h.chosen_eq_of_displays_given hx hy hd))
  · obtain ⟨a, b, ha, hb, hxa, hyb⟩ := texts ho
    have hab := h.chosen_eq_of_displays_tags ha hb hxa hyb hn hd
    exact .same (same (by rw [hxa, hyb, hab]))
  · obtain ⟨a, b, ha, hb, hxa, hyb⟩ := texts ho
    obtain ⟨m, hma, hmb⟩ := h.readInt_of_displays_number ha hb hxa hyb hd
    exact .number hf (by simpa using hp) (by rw [hv.get?_eq hr, hxa]; rfl)
      (by rw [hw.get?_eq hr, hyb]; rfl) hma hmb
  · obtain ⟨m, hm, hd⟩ := (Option.any_eq_true _ _).1 hd
    simp only [Bool.and_eq_true, Bool.not_eq_true'] at hd
    obtain ⟨⟨hsens, hdm⟩, hd⟩ := hd
    have hsame := h.chosen_eq_of_displays hdm
    rcases h.cases_of_displays_either hx hy hsens hsame hd with heq | ⟨hnull, heq⟩ | ⟨heq, hnull⟩
    · exact .same (same heq)
    · exact .standIn hm (same hsame)
        (.inl ⟨by rw [hv.get?_eq hr, hnull]; rfl, by rw [hw.get?_eq hr, hw.get?_eq hr, heq]⟩)
    · exact .standIn hm (same hsame)
        (.inr ⟨by rw [hv.get?_eq hr, hv.get?_eq hr, heq], by rw [hw.get?_eq hr, hnull]; rfl⟩)

/-- One of a few values, any two of which are told apart, is the same choice. -/
theorem Twins.sameChoice_few (h : Twins r provider s v w g) (hr : s.isRegular = true)
    (hv : s.Accepts v) (hw : s.Accepts w) (hf : s.field? f.name = some f) (hk : f.kind ≠ .string)
    (hc : f.check.isOk = true) (hd : f.choices.Pairwise fun x y =>
      (f.merges x y || r.tells provider s f.name x y) = true) : SameChoice provider s v w f.name := by
  have hx := hv.mem_choices hr hf hk hc
  have hy := hw.mem_choices hr hf hk hc
  have same (heq : v.chosen f.name = w.chosen f.name) : SameChoice provider s v w f.name :=
    .same (by rw [hv.get?_eq hr, hw.get?_eq hr, heq])
  rcases h.cases_of_tells hx hy hd with heq | hmerge
  · exact same heq
  · obtain ⟨hkb, hreq, heq | ⟨hnull, hoff⟩ | ⟨hoff, hnull⟩⟩ := Field.merges_cases hx hy hmerge
    · exact same heq
    · exact .off hf hkb hreq
        (.inl ⟨by rw [hv.get?_eq hr, hnull]; rfl, by rw [hw.get?_eq hr, hoff]; rfl⟩)
    · exact .off hf hkb hreq
        (.inr ⟨by rw [hv.get?_eq hr, hoff]; rfl, by rw [hw.get?_eq hr, hnull]; rfl⟩)

/-- **A field that shows is the same choice** in two builds with one graph. -/
theorem Twins.sameChoice (h : Twins r provider s v w g) (hr : s.isRegular = true)
    (hv : s.Accepts v) (hw : s.Accepts w) (hrev : ∀ f ∈ s.fields, r.reveals provider s f = true)
    (n : String) : SameChoice provider s v w n := by
  cases hf : s.field? n with
  | none =>
    -- what is no field has no value
    obtain ⟨_, hv⟩ := hv
    obtain ⟨_, hw⟩ := hw
    exact .same (by rw [Service.get?_validated hv hr, Service.get?_validated hw hr, hf]; rfl)
  | some f =>
    obtain ⟨hmem, rfl⟩ := Service.mem_of_field? hf
    rcases Bool.or_eq_true_iff.1 (hrev f hmem) with hd | hd
    · have heq := h.chosen_eq_of_displays hd
      exact .same (by rw [hv.get?_eq hr, hw.get?_eq hr, heq])
    · split at hd
      · next hk => exact h.sameChoice_text hr hv hw hf hk hd
      · next hk =>
        simp only [Bool.and_eq_true, decide_eq_true_eq] at hd
        exact h.sameChoice_few hr hv hw hf hk hd.1 hd.2

end

end CloudScaffold
