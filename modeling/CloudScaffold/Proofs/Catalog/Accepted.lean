import CloudScaffold.Catalog.Validation
import CloudScaffold.Proofs.Number.Numeral
import CloudScaffold.Proofs.Template.Sketch
import CloudScaffold.Proofs.Value.Attributes
/-!
# Accepted values

What `Service.validated` lets through, field by field. An accepted value is the default of its field
or what the check of its field makes of a given one (`Field.taken_cases`); so it has the shape that
the field promises (`validated_shape`) and is plain (`validated_plain`).

An error tells the value that was given, or a text made of it (`value_of_mem_errors`).

The one thing that the checks do not look at is how many digits a numeric text has; `WithinDigits`
is the bound that numerals need.
-/
namespace CloudScaffold

open Text Number

/-! ## What a field can have -/

/-- Whether a value is a text of digits within the limit. -/
def Value.isNumeral : Value → Bool
  | .str s => isNumeralText s
  | _ => false

namespace Field

/-- What stands in for a value that is not given. -/
def fallback (f : Field) : List Value :=
  if !f.default.isNull then [f.default] else if f.required then [] else [.null]

/-- What is known of the accepted values of a field; nothing if it is sensitive. -/
def shape (f : Field) : Option Shape :=
  if f.sensitive then none
  else match f.kind with
    | .boolean => some (.oneOf (f.fallback ++ [.bool true, .bool false]))
    | .enum => some (.oneOf (f.fallback ++ f.allowed.map .str))
    | .string =>
      if f.pattern == some .digits && f.fallback.all (·.isNumeral) then some .numeral
      else if f.fallback.all (·.isStr) then some .text
      else none

end Field

namespace Service

/-- What is known of the value of a name. -/
def shapes (s : Service) (name : String) : Option Shape := (s.field? name).bind (·.shape)

/-- Whether field names are distinct and defaults plain. -/
def isRegular (s : Service) : Bool :=
  decide (s.fields.map (·.name)).Nodup && s.fields.all (·.default.isPlain)

/-- Whether the texts given for numeric fields have no more digits than a numeral may have. -/
def WithinDigits (s : Service) (given : Attributes) : Prop :=
  ∀ f ∈ s.fields, f.pattern = some .digits → ∀ t, given.get? f.name = some (.str t) →
    t.toList.countP isDigit ≤ digitLimit

end Service

/-! ## Outcomes -/

/-- The value of an outcome that has one. -/
def FieldOutcome.value? : FieldOutcome → Option Value
  | .accepted v => some v
  | _ => none

/-- The fault of an outcome that has one. -/
def FieldOutcome.fault? : FieldOutcome → Option FieldFault
  | .rejected e => some e
  | _ => none

theorem Service.values_validate (s : Service) (given : Attributes) : (s.validate given).values =
    s.fields.filterMap fun f => (f.outcome (given.get? f.name)).value?.map (f.name, ·) := by
  refine List.filterMap_congr fun f _ => ?_
  cases f.outcome (given.get? f.name) <;> rfl

theorem Service.errors_validate (s : Service) (given : Attributes) : (s.validate given).errors =
    s.fields.filterMap fun f => (f.outcome (given.get? f.name)).fault?.map (⟨f.name, ·⟩) := by
  refine List.filterMap_congr fun f _ => ?_
  cases f.outcome (given.get? f.name) <;> rfl

/-- The value that a field has after validation: null if there is none. -/
def Field.taken (f : Field) (given : Option Value) : Value := (f.outcome given).value?.getD .null

section
variable {f : Field}

theorem accepts_digits_iff {s : String} :
    Pattern.digits.accepts s = true ↔ s.toList ≠ [] ∧ ∀ c ∈ s.toList, isDigit c = true := by
  simp [Pattern.accepts, Pattern.matchesChars, Pattern.isDigits]

theorem trim_sublist (s : String) : (trim s).toList.Sublist s.toList := by
  obtain ⟨front, back, hs, -⟩ := trimChars_split s.toList
  rw [trim, String.toList_ofList]
  conv => rhs; rw [hs]
  exact (List.sublist_append_left _ back).trans (List.sublist_append_right front _)

/-- A text of which trimming leaves nothing is one of blanks. -/
theorem allBlank_of_trim {s : String} (h : trim s = "") : allBlank s = true := by
  rw [allBlank_iff, ← trimChars_eq_nil_iff]
  simpa [trim] using congrArg String.toList h

/-- Trimming a text of digits keeps the limit of the text. -/
theorem isNumeralText_trim {s : String} (h : Pattern.digits.accepts (trim s) = true)
    (hlen : s.toList.countP isDigit ≤ digitLimit) : isNumeralText (trim s) = true := by
  obtain ⟨hne, hall⟩ := accepts_digits_iff.1 h
  have hcount : (trim s).toList.length ≤ s.toList.countP isDigit := by
    rw [← List.countP_eq_length.2 hall]
    exact (trim_sublist s).countP_le
  simp only [isNumeralText, Bool.and_eq_true, Bool.not_eq_true', List.isEmpty_eq_false_iff,
    List.all_eq_true, decide_eq_true_eq]
  exact ⟨⟨hne, hall⟩, Nat.le_trans hcount hlen⟩

/-- A text without blanks is accepted as it is by a field that asks for its form. -/
theorem Field.outcome_blankless {f : Field} (hk : f.kind = .string) {t : String} (hne : t.toList ≠ [])
    (ht : ∀ c ∈ t.toList, isBlank c = false) (hp : f.pattern.all (·.accepts t) = true) :
    f.outcome (some (.str t)) = .accepted (.str t) := by
  have htrim : trim t = t := by
    rw [trim, trimChars_of_ends (fun c hc => ?_) fun c hc => ?_, String.ofList_toList]
    · exact ht c (List.mem_of_mem_head? hc)
    · exact ht c (List.mem_of_mem_getLast? hc)
  have hblank : allBlank t = false := by
    rw [← Bool.not_eq_true, allBlank_iff]
    intro hall
    obtain ⟨c, cs, hcs⟩ := List.exists_cons_of_ne_nil hne
    have hc : c ∈ t.toList := by simp [hcs]
    exact absurd (hall c hc) (by simp [ht c hc])
  simp [Field.outcome, isMissing, hblank, Field.checkGiven, hk, htrim, hp]

/-- A text of digits is accepted as it is by a field that asks for digits. -/
theorem Field.outcome_digits {f : Field} (hk : f.kind = .string) (hp : f.pattern = some .digits)
    {t : String} (hne : t.toList ≠ []) (ht : ∀ c ∈ t.toList, isDigit c = true) :
    f.outcome (some (.str t)) = .accepted (.str t) := by
  refine Field.outcome_blankless hk hne (fun c hc => isBlank_of_isDigit (ht c hc)) ?_
  rw [hp]
  exact accepts_digits_iff.2 ⟨hne, ht⟩

/-- What the check of a field makes of a value: a truth value, an allowed text, or a trimmed text of
the form that is asked for. -/
theorem Field.checkGiven_cases {v u : Value} (h : f.checkGiven v = .ok u) :
    (f.kind = .boolean ∧ ∃ b, u = .bool b) ∨
    (f.kind = .enum ∧ ∃ t ∈ f.allowed, v = .str t ∧ u = .str t) ∨
    (f.kind = .string ∧ ∃ t, v = .str t ∧ u = .str (trim t) ∧
      f.pattern.all (·.accepts (trim t)) = true) := by
  unfold Field.checkGiven at h
  split at h
  · next hk => cases h; exact .inl ⟨hk, _, rfl⟩
  · next hk =>
    split at h
    · cases h; exact .inl ⟨hk, _, rfl⟩
    · cases h
  · cases h
  · next t hk =>
    split at h
    · next hm => cases h; exact .inr (.inl ⟨hk, t, by simpa using hm, rfl, rfl⟩)
    · cases h
  · next t hk =>
    simp only at h
    split at h
    · next hp => cases h; exact .inr (.inr ⟨hk, t, rfl, rfl, hp⟩)
    · cases h
  · cases h

/-- An accepted value is the default of its field or what was made of a given value. -/
theorem Field.taken_cases {w : Option Value} (h : ∀ e, f.outcome w ≠ .rejected e) :
    f.taken w ∈ f.fallback ∨
      ∃ v, w = some v ∧ isMissing v = false ∧ f.checkGiven v = .ok (f.taken w) := by
  unfold Field.taken
  unfold Field.outcome at h ⊢
  by_cases hm : isMissing (w.getD .null) = true
  · left
    by_cases hd : f.default.isNull = true
    · by_cases hr : f.required = true
      · exact absurd (by simp [hm, hd, hr]) (h .missing)
      · simp [hm, hd, hr, Field.fallback, FieldOutcome.value?]
    · simp [hm, hd, Field.fallback, FieldOutcome.value?]
  · right
    cases w with
    | none => exact absurd rfl hm
    | some v =>
      simp only [Option.getD_some] at hm h ⊢
      cases hc : f.checkGiven v with
      | ok u => exact ⟨v, rfl, by simpa using hm, by simp [hm, hc, FieldOutcome.value?]⟩
      | error e => exact absurd (by simp [hm, hc]) (h e)

/-- A field never comes to a null. -/
theorem Field.outcome_ne_null (f : Field) (w : Option Value) : (f.outcome w).value? ≠ some .null := by
  unfold Field.outcome
  by_cases hm : isMissing (w.getD .null) = true
  · by_cases hd : f.default.isNull = true
    · by_cases hr : f.required = true <;> simp [hm, hd, hr, FieldOutcome.value?]
    · intro h
      simp only [hm, hd, if_true, FieldOutcome.value?, Bool.not_false, Option.some.injEq] at h
      exact hd (by rw [h]; rfl)
  · simp only [hm]
    cases hc : f.checkGiven (w.getD .null) with
    | error e => simp [FieldOutcome.value?]
    | ok u =>
      intro h
      obtain rfl : u = .null := by simpa [FieldOutcome.value?] using h
      rcases Field.checkGiven_cases hc with ⟨_, b, hu⟩ | ⟨_, t, _, _, hu⟩ | ⟨_, t, _, hu, _⟩ <;>
        cases hu

theorem Field.taken_shape {w : Option Value} {sh : Shape} (h : ∀ e, f.outcome w ≠ .rejected e)
    (hdig : f.pattern = some .digits → ∀ t, w = some (.str t) → t.toList.countP isDigit ≤ digitLimit)
    (hsh : f.shape = some sh) : sh.Holds (f.taken w) := by
  unfold Field.shape at hsh
  by_cases hs : f.sensitive = true
  · simp [hs] at hsh
  simp only [hs, Bool.false_eq_true, if_false] at hsh
  rcases f.taken_cases h with hfb | ⟨v, rfl, -, hc⟩
  · -- a default, which the shape allows for
    cases hk : f.kind with
    | boolean => simp only [hk, Option.some.injEq] at hsh; subst hsh; exact List.mem_append_left _ hfb
    | enum => simp only [hk, Option.some.injEq] at hsh; subst hsh; exact List.mem_append_left _ hfb
    | string =>
      simp only [hk] at hsh
      split at hsh
      · next hn =>
        cases hsh
        have hall := List.all_eq_true.1 (Bool.and_eq_true_iff.1 hn).2 _ hfb
        cases hv : f.taken w with
        | str s => exact ⟨s, rfl, by simpa [hv, Value.isNumeral] using hall⟩
        | _ => simp [hv, Value.isNumeral] at hall
      · split at hsh
        · next hall =>
          cases hsh
          have hall := List.all_eq_true.1 hall _ hfb
          cases hv : f.taken w with
          | str s => exact ⟨s, rfl⟩
          | _ => simp [hv, Value.isStr] at hall
        · cases hsh
  · rcases Field.checkGiven_cases hc with ⟨hk, b, hu⟩ | ⟨hk, t, ht, _, hu⟩ | ⟨hk, t, rfl, hu, hp⟩
    · simp only [hk, Option.some.injEq] at hsh
      subst hsh
      rw [hu]
      cases b <;> simp [Shape.Holds]
    · simp only [hk, Option.some.injEq] at hsh
      subst hsh
      rw [hu]
      simpa [Shape.Holds] using .inr ht
    · simp only [hk] at hsh
      rw [hu]
      split at hsh
      · next hn =>
        cases hsh
        simp only [Bool.and_eq_true, beq_iff_eq] at hn
        rw [hn.1, Option.all_some] at hp
        exact ⟨_, rfl, isNumeralText_trim hp (hdig hn.1 t rfl)⟩
      · split at hsh
        · cases hsh; exact ⟨_, rfl⟩
        · cases hsh

theorem Field.taken_plain {w : Option Value} (h : ∀ e, f.outcome w ≠ .rejected e)
    (hp : f.default.isPlain = true) : (f.taken w).isPlain = true := by
  rcases f.taken_cases h with hfb | ⟨v, rfl, -, hc⟩
  · unfold Field.fallback at hfb
    split at hfb
    · rw [List.mem_singleton.1 hfb]; exact hp
    · split at hfb
      · cases hfb
      · rw [List.mem_singleton.1 hfb]; rfl
  · rcases Field.checkGiven_cases hc with ⟨_, b, hu⟩ | ⟨_, t, _, _, hu⟩ | ⟨_, t, _, hu, _⟩ <;>
      rw [hu] <;> rfl

end

/-! ## Validated values -/

/-- Looking up a name among entries made from fields of different names. -/
theorem lookup_filterMap_named {g : Field → Option Value} (n : String) : ∀ {fs : List Field},
    (fs.map (·.name)).Nodup →
    (fs.filterMap fun f => (g f).map (f.name, ·)).lookup n = (fs.find? (·.name == n)).bind g
  | [], _ => rfl
  | f :: fs, hnd => by
    rw [List.map_cons, List.nodup_cons] at hnd
    have ih := lookup_filterMap_named (g := g) n hnd.2
    by_cases hn : f.name = n
    · rw [List.find?_cons_of_pos (by simpa using hn), Option.bind_some]
      cases hg : g f with
      | some v => simp [hg, hn]
      | none =>
        rw [List.filterMap_cons, hg, Option.map_none, ih]
        have hno : fs.find? (·.name == n) = none := by
          rw [List.find?_eq_none]
          intro f' hf' he
          exact hnd.1 (List.mem_map.2 ⟨f', hf', by rw [hn]; simpa using he⟩)
        rw [hno]; rfl
    · rw [List.find?_cons_of_neg (by simpa using hn), ← ih]
      cases hg : g f with
      | some v =>
        have hb : (n == f.name) = false := by simpa using fun e => hn e.symm
        simp [hg, List.lookup_cons, hb]
      | none => simp [hg]

namespace Service

section
variable {s : Service} {given values : Attributes}

/-- Values without an error are accepted. -/
theorem validated_of_isEmpty (h : (s.validate given).errors.isEmpty = true) :
    s.validated given = .ok (s.validate given).values := by
  simp only [validated, h, if_true]

theorem validated_eq_ok (h : s.validated given = .ok values) :
    values = (s.fields.filterMap fun f => (f.outcome (given.get? f.name)).value?.map (f.name, ·)) ∧
      ∀ f ∈ s.fields, ∀ e, f.outcome (given.get? f.name) ≠ .rejected e := by
  unfold validated at h
  simp only at h
  split at h
  · next he =>
    cases h
    constructor
    · exact s.values_validate given
    · intro f hf e ho
      rw [List.isEmpty_iff] at he
      have := List.filterMap_eq_nil_iff.1 he f hf
      simp [ho] at this
  · cases h

/-- What is found under a name after validation: what its field came to, if it is one. -/
theorem get?_validated (h : s.validated given = .ok values) (hr : s.isRegular = true) (n : String) :
    values.get? n = (s.field? n).bind fun f => (f.outcome (given.get? f.name)).value? := by
  obtain ⟨rfl, -⟩ := validated_eq_ok h
  have hnd := of_decide_eq_true (Bool.and_eq_true_iff.1 hr).1
  rw [Attributes.get?, lookup_filterMap_named n hnd, field?]

/-- The value of a name after validation: that of the field of this name. -/
theorem validated_value (h : s.validated given = .ok values) (hr : s.isRegular = true) (n : String) :
    (values.get? n).getD .null =
      ((s.field? n).map fun f => f.taken (given.get? f.name)).getD .null := by
  rw [get?_validated h hr]
  cases s.field? n <;> rfl

/-- A name has a value that is no null, or none. -/
theorem validated_ne_null (h : s.validated given = .ok values) (hr : s.isRegular = true) (n : String) :
    values.get? n ≠ some .null := by
  rw [get?_validated h hr]
  intro hn
  obtain ⟨f, -, hf⟩ := Option.bind_eq_some_iff.1 hn
  exact Field.outcome_ne_null f _ hf

theorem mem_of_field? {n : String} {f : Field} (h : s.field? n = some f) : f ∈ s.fields ∧ f.name = n :=
  ⟨List.mem_of_find?_eq_some h, by simpa using List.find?_some h⟩

/-- **Accepted values have the shapes of their fields.** -/
theorem validated_shape (h : s.validated given = .ok values) (hr : s.isRegular = true)
    (hdig : s.WithinDigits given) {n : String} {sh : Shape} (hsh : s.shapes n = some sh) :
    sh.Holds ((values.get? n).getD .null) := by
  obtain ⟨f, hf, hsh⟩ := Option.bind_eq_some_iff.1 hsh
  obtain ⟨hmem, hn⟩ := mem_of_field? hf
  rw [validated_value h hr, hf]
  exact Field.taken_shape ((validated_eq_ok h).2 f hmem) (hdig f hmem) hsh

theorem validated_plain (h : s.validated given = .ok values) (hr : s.isRegular = true) (n : String) :
    ((values.get? n).getD .null).isPlain = true := by
  rw [validated_value h hr]
  cases hf : s.field? n with
  | none => rfl
  | some f =>
    obtain ⟨hmem, -⟩ := mem_of_field? hf
    exact Field.taken_plain ((validated_eq_ok h).2 f hmem)
      (List.all_eq_true.1 (Bool.and_eq_true_iff.1 hr).2 f hmem)

/-- A field of which something is known is not sensitive. -/
theorem not_isSensitive_of_shapes {n : String} {sh : Shape} (h : s.shapes n = some sh) :
    s.isSensitive n = false := by
  obtain ⟨f, hf, hsh⟩ := Option.bind_eq_some_iff.1 h
  rw [isSensitive, hf, Option.any_some]
  unfold Field.shape at hsh
  by_cases hs : f.sensitive = true
  · simp [hs] at hsh
  · simpa using hs

end

end Service

/-! ## Errors -/

section
variable {s : Service} {given values : Attributes} {errors : List FieldError}

/-- An error tells of a field that was rejected. -/
theorem rejected_of_mem_errors (h : s.validated given = .error errors) {e : FieldError}
    (he : e ∈ errors) : ∃ f ∈ s.fields, f.outcome (given.get? f.name) = .rejected e.fault := by
  unfold Service.validated at h
  dsimp only at h
  split at h
  · cases h
  · cases h
    rw [Service.errors_validate] at he
    obtain ⟨f, hf, hfe⟩ := List.mem_filterMap.1 he
    obtain ⟨fault, hfault, rfl⟩ := Option.map_eq_some_iff.1 hfe
    refine ⟨f, hf, ?_⟩
    cases hout : f.outcome (given.get? f.name) with
    | rejected e => rw [hout] at hfault; cases hfault; rfl
    | absent | accepted v => rw [hout] at hfault; cases hfault

theorem FieldError.value_of_checkGiven {f : Field} {v : Value} {e : FieldError}
    (h : f.checkGiven v = .error e.fault) : e.value = v ∨ ∃ t, e.value = .str t := by
  obtain ⟨n, fault⟩ := e
  unfold Field.checkGiven at h
  split at h
  · cases h
  · split at h
    · cases h
    · cases h; exact .inl rfl
  · cases h; exact .inl rfl
  · split at h
    · cases h
    · cases h; exact .inr ⟨_, rfl⟩
  · dsimp only at h
    split at h
    · cases h
    · cases h; exact .inr ⟨_, rfl⟩
  · cases h; exact .inl rfl

/-- The value that an error tells is null, a text, or the value that was given. -/
theorem FieldError.value_of_outcome {f : Field} {w : Option Value} {e : FieldError}
    (h : f.outcome w = .rejected e.fault) :
    e.value = .null ∨ (∃ t, e.value = .str t) ∨ w = some e.value := by
  obtain ⟨n, fault⟩ := e
  unfold Field.outcome at h
  by_cases hm : isMissing (w.getD .null) = true
  · simp only [hm, if_true] at h
    split at h
    · cases h
    · split at h
      · cases h; exact .inl rfl
      · cases h
  · cases w with
    | none => exact absurd rfl hm
    | some v =>
      rw [Option.getD_some] at hm h
      simp only [hm] at h
      cases hc : f.checkGiven v with
      | ok u => simp [hc] at h
      | error fault =>
        simp only [hc] at h
        cases h
        rcases FieldError.value_of_checkGiven (e := ⟨n, _⟩) hc with heq | ht
        · exact .inr (.inr (by rw [heq]))
        · exact .inr (.inl ht)

theorem value_of_mem_errors (h : s.validated given = .error errors) {e : FieldError}
    (he : e ∈ errors) :
    e.value = .null ∨ (∃ t, e.value = .str t) ∨ ∃ n, given.get? n = some e.value := by
  obtain ⟨f, _, hf⟩ := rejected_of_mem_errors h he
  rcases FieldError.value_of_outcome hf with hv | hv | hv
  · exact .inl hv
  · exact .inr (.inl hv)
  · exact .inr (.inr ⟨f.name, hv⟩)

/-- Values stay valid when a field is set to what it accepts. -/
theorem errors_insert {n : String} {v : Value} (h : (s.validate given).errors = [])
    (hn : ∀ f ∈ s.fields, f.name = n → ∃ u, f.outcome (some v) = .accepted u) :
    (s.validate (given.insert n v)).errors = [] := by
  refine List.filterMap_eq_nil_iff.2 fun f hf => ?_
  by_cases hfn : f.name = n
  · obtain ⟨u, hu⟩ := hn f hf hfn
    rw [Attributes.get?_insert, if_pos hfn, hu]
  · rw [Attributes.get?_insert, if_neg hfn]
    exact List.filterMap_eq_nil_iff.1 h f hf

end

end CloudScaffold
