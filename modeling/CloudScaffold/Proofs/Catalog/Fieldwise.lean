import CloudScaffold.Proofs.Catalog.Stable
/-!
# Validation field by field

Validation goes through all fields, whatever it finds wrong with one of them (`Service.validateBy_eq_foldl`):
every field but an optional one without a value and without a default ends as an accepted value or as an
error (`Validation.Divides`). What is said of a field (`Validation.about`) comes from the field and from the
value given for it, and from nothing else (`Service.KeepsApart`).

All of this is shown for any forms that texts may be asked for (`Service.validateBy`). Main statement:
`validate_fieldwise`.

Fields of a service have different names, which `Service.check` makes sure of. It is all that is asked here.
-/
namespace CloudScaffold

/-! ## What a validation says -/

/-- Whether a field may go without value and without error: it is optional and has no default, and its
value is missing. -/
def Field.IsLeftOut (f : Field) (w : Option Value) : Prop :=
  f.required = false ∧ f.default.isNull = true ∧ isMissing (w.getD .null) = true

namespace Validation

def valueNames (v : Validation) : List String := v.values.map (·.1)

def errorNames (v : Validation) : List String := v.errors.map (·.field)

/-- The values that are accepted under a name, and the faults that are found under it. -/
def about (v : Validation) (n : String) : List Value × List FieldFault :=
  ((v.values.filter (·.1 == n)).map (·.2), (v.errors.filter (·.field == n)).map (·.fault))

/-- What was found so far, and what becomes of one more field. -/
def note (forms : Field → String → Bool) (given : Attributes) (v : Validation) (f : Field) : Validation :=
  match f.outcomeBy forms (given.get? f.name) with
  | .absent => v
  | .accepted u => { v with values := v.values ++ [(f.name, u)] }
  | .rejected e => { v with errors := v.errors ++ [⟨f.name, e⟩] }

/-- A validation that divides the fields of a service among values and errors. -/
structure Divides (v : Validation) (s : Service) (given : Attributes) : Prop where
  valuesInOrder : v.valueNames.Sublist (s.fields.map (·.name))
  errorsInOrder : v.errorNames.Sublist (s.fields.map (·.name))
  /-- No name stands twice, be it among the values, among the errors, or among both. -/
  nodup : (v.valueNames ++ v.errorNames).Nodup
  /-- No field is passed over that may not be left out, and there is nothing but fields. -/
  complete : ∀ n, n ∈ v.valueNames ++ v.errorNames ↔
    ∃ f ∈ s.fields, f.name = n ∧ ¬ f.IsLeftOut (given.get? n)

end Validation

/-- A service whose fields are validated without regard to each other. -/
structure Service.KeepsApart (forms : Field → String → Bool) (s : Service) (given : Attributes) : Prop where
  /-- A field of two services, with the same value in both, comes to the same. -/
  own : ∀ f ∈ s.fields, ∀ (s' : Service) (given' : Attributes), (s'.fields.map (·.name)).Nodup →
    f ∈ s'.fields → given'.get? f.name = given.get? f.name →
    (s'.validateBy forms given').about f.name = (s.validateBy forms given).about f.name
  /-- A value for another field changes nothing for a field. -/
  others : ∀ f ∈ s.fields, ∀ n v, n ≠ f.name →
    (s.validateBy forms (given.insert n v)).about f.name = (s.validateBy forms given).about f.name
  /-- A value for a name that is no field changes nothing. -/
  unknown : ∀ n v, n ∉ s.fields.map (·.name) →
    s.validateBy forms (given.insert n v) = s.validateBy forms given
  /-- The order in which values are given changes nothing. -/
  reordered : ∀ given' : Attributes, given'.Perm given → (given.map (·.1)).Nodup →
    s.validateBy forms given' = s.validateBy forms given

/-! ## One field -/

theorem Field.outcome_eq_absent_iff {f : Field} {w : Option Value} :
    f.outcome w = .absent ↔ f.IsLeftOut w := by
  unfold Field.outcome Field.IsLeftOut
  by_cases hm : isMissing (w.getD .null) = true
  · cases hd : f.default.isNull <;> cases hr : f.required <;> simp [hm]
  · simp only [hm, Bool.false_eq_true, if_false, and_false, iff_false]
    cases f.checkGiven (w.getD .null) <;> simp

theorem Field.outcomeBy_eq_absent_iff {forms : Field → String → Bool} {f : Field} {w : Option Value} :
    f.outcomeBy forms w = .absent ↔ f.IsLeftOut w := by
  rcases f.outcomeBy_cases forms w with ⟨t, -, rfl, hb, ho⟩ | ⟨ho, -⟩
  · rw [ho]
    refine iff_of_false ?_ fun h => ?_
    · split <;> simp
    · exact absurd (hb.symm.trans h.2.2) (by decide)
  · rw [ho, Field.outcome_eq_absent_iff]

/-- An outcome other than that of a field that is left out is a value or a fault. -/
theorem FieldOutcome.isSome_iff (o : FieldOutcome) :
    (o.value?.isSome = true ∨ o.fault?.isSome = true) ↔ o ≠ .absent := by
  cases o <;> simp [FieldOutcome.value?, FieldOutcome.fault?]

namespace Service

section
variable {forms : Field → String → Bool} {s : Service} {given : Attributes}

/-- The errors are those of the outcomes. -/
theorem errors_validateBy (forms : Field → String → Bool) (s : Service) (given : Attributes) :
    (s.validateBy forms given).errors =
      s.fields.filterMap fun f => (f.outcomeBy forms (given.get? f.name)).fault?.map (⟨f.name, ·⟩) := by
  unfold validateBy
  refine List.filterMap_congr fun f _ => ?_
  cases f.outcomeBy forms (given.get? f.name) <;> rfl

/-- What a walk over fields adds to what was found before. -/
theorem foldl_note (given : Attributes) (fs : List Field) (v : Validation) :
    fs.foldl (Validation.note forms given) v =
      ⟨v.values ++ fs.filterMap fun f => (f.outcomeBy forms (given.get? f.name)).value?.map (f.name, ·),
        v.errors ++ fs.filterMap fun f =>
          (f.outcomeBy forms (given.get? f.name)).fault?.map (⟨f.name, ·⟩)⟩ := by
  induction fs generalizing v with
  | nil => simp
  | cons f fs ih =>
    rw [List.foldl_cons, ih, Validation.note]
    cases ho : f.outcomeBy forms (given.get? f.name) <;> simp [ho, FieldOutcome.value?, FieldOutcome.fault?]

/-- **Validation is a walk over the fields**, which no fault cuts short. -/
theorem validateBy_eq_foldl (forms : Field → String → Bool) (s : Service) (given : Attributes) :
    s.validateBy forms given = s.fields.foldl (Validation.note forms given) ⟨[], []⟩ := by
  rw [foldl_note, List.nil_append, List.nil_append, ← values_validateBy, ← errors_validateBy]

theorem fst_of_mem_value? (given : Attributes) : ∀ f : Field,
    ∀ kv ∈ (f.outcomeBy forms (given.get? f.name)).value?.map (f.name, ·), kv.1 = f.name := by
  intro f kv h
  obtain ⟨v, -, rfl⟩ := Option.map_eq_some_iff.1 h
  rfl

theorem field_of_mem_fault? (given : Attributes) : ∀ f : Field,
    ∀ e ∈ (f.outcomeBy forms (given.get? f.name)).fault?.map (⟨f.name, ·⟩ : FieldFault → FieldError),
      e.field = f.name := by
  intro f e h
  obtain ⟨fault, -, rfl⟩ := Option.map_eq_some_iff.1 h
  rfl

theorem valueNames_sublist (forms : Field → String → Bool) (s : Service) (given : Attributes) :
    (s.validateBy forms given).valueNames.Sublist (s.fields.map (·.name)) := by
  rw [Validation.valueNames, values_validateBy]
  exact map_filterMap_sublist (fst_of_mem_value? given) s.fields

theorem errorNames_sublist (forms : Field → String → Bool) (s : Service) (given : Attributes) :
    (s.validateBy forms given).errorNames.Sublist (s.fields.map (·.name)) := by
  rw [Validation.errorNames, errors_validateBy]
  exact map_filterMap_sublist (field_of_mem_fault? given) s.fields

theorem mem_valueNames {n : String} : n ∈ (s.validateBy forms given).valueNames ↔
    ∃ f ∈ s.fields, f.name = n ∧ (f.outcomeBy forms (given.get? f.name)).value?.isSome = true := by
  rw [Validation.valueNames, values_validateBy, mem_map_filterMap (fst_of_mem_value? given)]
  simp only [Option.isSome_map]

theorem mem_errorNames {n : String} : n ∈ (s.validateBy forms given).errorNames ↔
    ∃ f ∈ s.fields, f.name = n ∧ (f.outcomeBy forms (given.get? f.name)).fault?.isSome = true := by
  rw [Validation.errorNames, errors_validateBy, mem_map_filterMap (field_of_mem_fault? given)]
  simp only [Option.isSome_map]

/-- **What is said of a field is its outcome.** -/
theorem about_validateBy (hnames : (s.fields.map (·.name)).Nodup) {f : Field} (hf : f ∈ s.fields) :
    (s.validateBy forms given).about f.name = ((f.outcomeBy forms (given.get? f.name)).value?.toList,
      (f.outcomeBy forms (given.get? f.name)).fault?.toList) := by
  unfold Validation.about
  rw [values_validateBy, errors_validateBy, filter_filterMap_named (fst_of_mem_value? given) hnames hf,
    filter_filterMap_named (field_of_mem_fault? given) hnames hf]
  cases f.outcomeBy forms (given.get? f.name) <;> rfl

/-- No name is both that of a value and that of an error. -/
theorem disjoint_names (hnames : (s.fields.map (·.name)).Nodup) :
    (s.validateBy forms given).valueNames.Disjoint (s.validateBy forms given).errorNames := by
  intro n hv he
  obtain ⟨f, hf, rfl, hvalue⟩ := mem_valueNames.1 hv
  obtain ⟨f', hf', hname, hfault⟩ := mem_errorNames.1 he
  obtain rfl : f' = f := List.inj_on_of_nodup_map hnames hf' hf hname
  cases ho : f'.outcomeBy forms (given.get? f'.name) <;>
    simp [ho, FieldOutcome.value?, FieldOutcome.fault?] at hvalue hfault

theorem divides_validateBy (hnames : (s.fields.map (·.name)).Nodup) (given : Attributes) :
    (s.validateBy forms given).Divides s given where
  valuesInOrder := valueNames_sublist forms s given
  errorsInOrder := errorNames_sublist forms s given
  nodup := List.nodup_append'.2
    ⟨(valueNames_sublist forms s given).nodup hnames, (errorNames_sublist forms s given).nodup hnames,
      disjoint_names hnames⟩
  complete n := by
    rw [List.mem_append, mem_valueNames, mem_errorNames]
    constructor
    · rintro (⟨f, hf, rfl, ho⟩ | ⟨f, hf, rfl, ho⟩)
      · have hpresent := (FieldOutcome.isSome_iff _).1 (.inl ho)
        exact ⟨f, hf, rfl, mt Field.outcomeBy_eq_absent_iff.2 hpresent⟩
      · have hpresent := (FieldOutcome.isSome_iff _).1 (.inr ho)
        exact ⟨f, hf, rfl, mt Field.outcomeBy_eq_absent_iff.2 hpresent⟩
    · rintro ⟨f, hf, rfl, hleft⟩
      have hpresent : f.outcomeBy forms (given.get? f.name) ≠ .absent :=
        mt Field.outcomeBy_eq_absent_iff.1 hleft
      refine ((FieldOutcome.isSome_iff _).2 hpresent).imp (fun ho => ?_) fun ho => ?_
      · exact ⟨f, hf, rfl, ho⟩
      · exact ⟨f, hf, rfl, ho⟩

theorem keepsApart (hnames : (s.fields.map (·.name)).Nodup) (given : Attributes) :
    s.KeepsApart forms given where
  own f hf s' given' hnames' hf' hget := by
    rw [about_validateBy hnames hf, about_validateBy hnames' hf', hget]
  others f hf n v hne := by
    rw [about_validateBy hnames hf, about_validateBy hnames hf, Attributes.get?_insert, if_neg hne.symm]
  unknown n v hn := by
    refine validateBy_congr fun f hf => ?_
    have hne : f.name ≠ n := fun h => hn (List.mem_map.2 ⟨f, hf, h⟩)
    rw [Attributes.get?_insert, if_neg hne]
  reordered given' hperm hnd :=
    validateBy_congr fun f _ => congrArg _ (Attributes.get?_perm hperm hnd f.name)

end

end Service

/-- **Every field is judged, and on its own.** Take a service with fields of different names, whatever forms
its texts are asked for; with those of the patterns this is `validate`. Validation notes one field after the
other; it divides the fields among accepted values and errors, whatever is given; and what it says of a field
comes from that field and the value given for it alone. -/
theorem validate_fieldwise (forms : Field → String → Bool) {s : Service}
    (hnames : (s.fields.map (·.name)).Nodup) (given : Attributes) :
    Service.validateBy Field.hasForm = Service.validate ∧
      s.validateBy forms given = s.fields.foldl (Validation.note forms given) ⟨[], []⟩ ∧
      (s.validateBy forms given).Divides s given ∧ s.KeepsApart forms given :=
  ⟨funext₂ Service.validateBy_hasForm, s.validateBy_eq_foldl forms given,
    Service.divides_validateBy hnames given, Service.keepsApart hnames given⟩

/-- A service with fields for every way in which a field can end. -/
def orderForm : Service where
  id := "order"
  name := "Order"
  category := "Database"
  fields :=
    [{ name := "note" },
     { name := "size", required := true, pattern := some .digits },
     { name := "engine", kind := .enum, allowed := ["mysql", "postgres"], default := .str "mysql" },
     { name := "title", required := true },
     { name := "backup", kind := .boolean },
     { name := "owner", required := true }]

/-- Values out of order: one that is fine, two at fault, one for a name that is no field. -/
def orderValues : Attributes :=
  [("backup", .str "maybe"), ("color", .str "red"), ("title", .str " orders "), ("size", .str "ten")]

theorem validate_fieldwise_orderForm :
    let v := orderForm.validate orderValues
    (orderForm.fields.map (·.name)).Nodup ∧ v.valueNames = ["engine", "title"] ∧
      v.errorNames = ["size", "backup", "owner"] ∧
      v = orderForm.fields.foldl (Validation.note Field.hasForm orderValues) ⟨[], []⟩ ∧
      v.Divides orderForm orderValues ∧ orderForm.KeepsApart Field.hasForm orderValues := by
  have hnames : (orderForm.fields.map (·.name)).Nodup := by decide +kernel
  obtain ⟨hforms, hfold, hdivides, happart⟩ := validate_fieldwise Field.hasForm hnames orderValues
  rw [hforms] at hfold hdivides
  exact ⟨hnames, by decide +kernel, by decide +kernel, hfold, hdivides, happart⟩

end CloudScaffold
