import CloudScaffold.Catalog.Basic
import CloudScaffold.Proofs.Catalog.Accepted
import Mathlib.Data.List.Nodup
/-!
# Validating again

A value that a field accepted is one that the field accepts as it is (`Field.outcomeBy_accepted`):
trimming twice is trimming once, a text that was spelled out as a truth value is one from then on, and a
default is kept if it is given. So accepted values may be put in the place of those that they were made
from, all of them or some, and validation comes to the same.

This does not depend on what patterns there are. It is shown for any forms that texts may be asked for
(`Service.validateBy`), of which those of the fields' patterns are one case
(`Service.validateBy_hasForm`). Main statement: `validateBy_updated`.
-/
namespace CloudScaffold

open Text

/-! ## Entries over entries -/

namespace Attributes

/-- Entries with others set over them. -/
def updated (m news : Attributes) : Attributes := news.foldl (fun m kv => m.insert kv.1 kv.2) m

/-- What is set over entries is found under its name, and what is not stays. -/
theorem get?_updated (n : String) : ∀ {news : Attributes} (m : Attributes), (news.map (·.1)).Nodup →
    (m.updated news).get? n = (get? news n).or (m.get? n)
  | [], m, _ => rfl
  | (k, v) :: news, m, hnd => by
    rw [List.map_cons, List.nodup_cons] at hnd
    have ih := get?_updated n (m.insert k v) hnd.2
    rw [updated, List.foldl_cons, ← updated, ih, get?_insert, get?_cons]
    by_cases hn : n = k
    · have hnone : get? news n = none := by
        cases hget : get? news n with
        | none => rfl
        | some u => exact absurd (List.mem_map.2 ⟨(n, u), mem_of_get? hget, hn⟩) hnd.1
      rw [if_pos hn, if_pos hn, hnone]
      rfl
    · rw [if_neg hn, if_neg hn]

end Attributes

/-! ## Any forms of texts -/

/-- Whether a text has the form of the field's pattern. -/
def Field.hasForm (f : Field) (t : String) : Bool := f.pattern.all (·.accepts t)

/-- The outcome of a field if its texts are asked for other forms than that of its pattern. -/
def Field.outcomeBy (forms : Field → String → Bool) (f : Field) (given : Option Value) : FieldOutcome :=
  match f.kind, given with
  | .string, some (.str t) =>
    if allBlank t then f.outcome given
    else if forms f (trim t) then .accepted (.str (trim t))
    else .rejected (.badForm (trim t))
  | _, _ => f.outcome given

namespace Service

/-- Validates given values against all fields, with any forms for their texts. -/
def validateBy (forms : Field → String → Bool) (s : Service) (given : Attributes) : Validation where
  values := s.fields.filterMap fun f => match f.outcomeBy forms (given.get? f.name) with
    | .accepted v => some (f.name, v)
    | _ => none
  errors := s.fields.filterMap fun f => match f.outcomeBy forms (given.get? f.name) with
    | .rejected e => some ⟨f.name, e⟩
    | _ => none

/-- Whether every default is accepted as it is when it is given as a value. -/
def KeepsDefaults (forms : Field → String → Bool) (s : Service) : Prop :=
  ∀ f ∈ s.fields, f.default.isNull = false →
    f.outcomeBy forms (some f.default) = .accepted f.default

end Service

section
variable {forms : Field → String → Bool} {f : Field}

/-- Other forms matter for the texts of text fields only, and not for blank ones. -/
theorem Field.outcomeBy_cases (forms : Field → String → Bool) (f : Field) (w : Option Value) :
    (∃ t, f.kind = .string ∧ w = some (.str t) ∧ allBlank t = false ∧ f.outcomeBy forms w =
      if forms f (trim t) then .accepted (.str (trim t)) else .rejected (.badForm (trim t))) ∨
    f.outcomeBy forms w = f.outcome w ∧
      (f.kind = .string → ∀ t, w = some (.str t) → allBlank t = true) := by
  by_cases h : ∃ t, f.kind = .string ∧ w = some (.str t) ∧ allBlank t = false
  · obtain ⟨t, hk, rfl, hb⟩ := h
    exact .inl ⟨t, hk, rfl, hb, by simp [Field.outcomeBy, hk, hb]⟩
  · have hblank : f.kind = .string → ∀ t, w = some (.str t) → allBlank t = true := by
      intro hk t hw
      by_contra hb
      exact h ⟨t, hk, hw, Bool.not_eq_true _ ▸ hb⟩
    refine .inr ⟨?_, hblank⟩
    unfold Field.outcomeBy
    split
    · next t hk => rw [if_pos (hblank hk t rfl)]
    · rfl

theorem Field.outcomeBy_hasForm (f : Field) (w : Option Value) :
    f.outcomeBy Field.hasForm w = f.outcome w := by
  rcases f.outcomeBy_cases Field.hasForm w with ⟨t, hk, rfl, hb, ho⟩ | ⟨ho, _⟩
  · rw [ho]
    unfold Field.hasForm
    cases hf : f.pattern.all (·.accepts (trim t)) <;>
      simp [Field.outcome, isMissing, Field.checkGiven, hk, hb, hf]
  · exact ho

/-- Validation asks for the forms of the fields' patterns. -/
theorem Service.validateBy_hasForm (s : Service) (given : Attributes) :
    s.validateBy Field.hasForm given = s.validate given := by
  have h : Field.outcomeBy Field.hasForm = Field.outcome := funext₂ Field.outcomeBy_hasForm
  unfold Service.validateBy
  rw [h]
  rfl

/-! ## Outcomes -/

/-- A text of which something is left is still a text when it is trimmed. -/
theorem allBlank_trim {t : String} (h : allBlank t = false) : allBlank (trim t) = false := by
  rw [← Bool.not_eq_true, allBlank_iff, ← trimChars_eq_nil_iff] at h ⊢
  rwa [trim, String.toList_ofList, trimChars_trimChars]

theorem trim_trim (t : String) : trim (trim t) = trim t := by
  rw [trim, trim, String.toList_ofList, trimChars_trimChars]

/-- The outcome of a missing value is the default, if anything is accepted. -/
theorem Field.eq_default_of_missing {w : Option Value} {v : Value} (hm : isMissing (w.getD .null) = true)
    (h : f.outcome w = .accepted v) : v = f.default ∧ f.default.isNull = false := by
  unfold Field.outcome at h
  simp only [hm, if_true] at h
  split at h
  · next hd =>
    cases h
    exact ⟨rfl, by simpa using hd⟩
  · split at h <;> cases h

/-- What is accepted of a value that is not missing is what the check of the field made of it. -/
theorem Field.checkGiven_of_accepted {w : Option Value} {v : Value}
    (hm : ¬ isMissing (w.getD .null) = true) (h : f.outcome w = .accepted v) :
    ∃ g, w = some g ∧ f.checkGiven g = .ok v := by
  cases w with
  | none => exact absurd rfl hm
  | some g =>
    rw [Option.getD_some] at hm
    unfold Field.outcome at h
    rw [Option.getD_some] at h
    simp only [hm, if_false, Bool.false_eq_true] at h
    cases hc : f.checkGiven g with
    | ok u => rw [hc] at h; cases h; exact ⟨g, rfl, hc⟩
    | error e => rw [hc] at h; cases h

/-- **What a field accepted it accepts as it is.** -/
theorem Field.outcomeBy_accepted {w : Option Value} {v : Value}
    (hdefault : f.default.isNull = false → f.outcomeBy forms (some f.default) = .accepted f.default)
    (h : f.outcomeBy forms w = .accepted v) : f.outcomeBy forms (some v) = .accepted v := by
  have missing (hm : isMissing (w.getD .null) = true) (ho : f.outcome w = .accepted v) :
      f.outcomeBy forms (some v) = .accepted v := by
    obtain ⟨rfl, hd⟩ := Field.eq_default_of_missing hm ho
    exact hdefault hd
  rcases f.outcomeBy_cases forms w with ⟨t, hk, rfl, hb, ho⟩ | ⟨ho, hblank⟩
  · rw [ho] at h
    split at h
    · next hf =>
      cases h
      simp [Field.outcomeBy, hk, allBlank_trim hb, trim_trim, hf]
    · cases h
  · rw [ho] at h
    by_cases hm : isMissing (w.getD .null) = true
    · exact missing hm h
    obtain ⟨g, rfl, hc⟩ := Field.checkGiven_of_accepted hm h
    rcases Field.checkGiven_cases hc with ⟨hk, b, rfl⟩ | ⟨hk, t, _, rfl, rfl⟩ | ⟨hk, t, rfl, _⟩
    · simp [Field.outcomeBy, Field.outcome, Field.checkGiven, isMissing, hk]
    · simpa [Field.outcomeBy, hk] using h
    · exact absurd (hblank hk t rfl) hm

theorem Field.outcomeBy_absent {w : Option Value} (h : f.outcomeBy forms w = .absent) :
    f.outcomeBy forms none = .absent := by
  rcases f.outcomeBy_cases forms w with ⟨t, hk, rfl, hb, ho⟩ | ⟨ho, _⟩
  · rw [ho] at h
    split at h <;> cases h
  · have hnone : f.outcomeBy forms none = f.outcome none := by
      unfold Field.outcomeBy
      split
      · next hw => cases hw
      · rfl
    rw [ho] at h
    rw [hnone]
    unfold Field.outcome at h ⊢
    by_cases hm : isMissing (w.getD .null) = true
    · simp only [hm, if_true] at h
      exact h
    · simp only [hm, if_false, Bool.false_eq_true] at h
      cases hc : f.checkGiven (w.getD .null) with
      | ok u => rw [hc] at h; cases h
      | error e => rw [hc] at h; cases h

end

/-! ## Validations -/

namespace Service

section
variable {forms : Field → String → Bool} {s : Service} {given : Attributes}

/-- Validation is settled by the outcomes of the fields. -/
theorem validateBy_congr {given' : Attributes}
    (h : ∀ f ∈ s.fields, f.outcomeBy forms (given'.get? f.name) = f.outcomeBy forms (given.get? f.name)) :
    s.validateBy forms given' = s.validateBy forms given := by
  unfold validateBy
  congr 1 <;> refine List.filterMap_congr fun f hf => ?_ <;> rw [h f hf]

/-- The accepted values are those of the outcomes. -/
theorem values_validateBy (forms : Field → String → Bool) (s : Service) (given : Attributes) :
    (s.validateBy forms given).values =
      s.fields.filterMap fun f => (f.outcomeBy forms (given.get? f.name)).value?.map (f.name, ·) := by
  unfold validateBy
  refine List.filterMap_congr fun f _ => ?_
  cases f.outcomeBy forms (given.get? f.name) <;> rfl

theorem names_validateBy_sublist (forms : Field → String → Bool) (s : Service) (given : Attributes) :
    ((s.validateBy forms given).values.map (·.1)).Sublist (s.fields.map (·.name)) := by
  rw [values_validateBy]
  refine map_filterMap_sublist (fun f kv h => ?_) s.fields
  obtain ⟨v, -, rfl⟩ := Option.map_eq_some_iff.1 h
  rfl

theorem field?_of_mem (hnames : (s.fields.map (·.name)).Nodup) {f : Field} (hf : f ∈ s.fields) :
    s.field? f.name = some f := by
  cases hfind : s.field? f.name with
  | none => exact absurd (List.find?_eq_none.1 hfind f hf) (by simp)
  | some g =>
    obtain ⟨hg, hname⟩ := mem_of_field? hfind
    rw [List.inj_on_of_nodup_map hnames hg hf hname]

/-- What is found under the name of a field is what the field accepted. -/
theorem get?_values_validateBy (hnames : (s.fields.map (·.name)).Nodup) {f : Field}
    (hf : f ∈ s.fields) : (s.validateBy forms given).values.get? f.name =
      (f.outcomeBy forms (given.get? f.name)).value? := by
  rw [values_validateBy, Attributes.get?, lookup_filterMap_named f.name hnames, ← field?,
    field?_of_mem hnames hf, Option.bind_some]

/-- A field without an error and without a value finds nothing under its name again. -/
theorem outcomeBy_values (hnames : (s.fields.map (·.name)).Nodup) (hdefaults : s.KeepsDefaults forms)
    {f : Field} (hf : f ∈ s.fields) (hok : (s.validateBy forms given).errors = []) :
    f.outcomeBy forms ((s.validateBy forms given).values.get? f.name) =
      f.outcomeBy forms (given.get? f.name) := by
  rw [get?_values_validateBy hnames hf]
  cases ho : f.outcomeBy forms (given.get? f.name) with
  | absent => exact Field.outcomeBy_absent ho
  | accepted v => exact Field.outcomeBy_accepted (hdefaults f hf) ho
  | rejected e =>
    have hnone := List.filterMap_eq_nil_iff.1 hok f hf
    rw [ho] at hnone
    cases hnone

/-- A field has the same outcome for what it accepted, set over what was given. -/
theorem outcomeBy_updated (hnames : (s.fields.map (·.name)).Nodup) (hdefaults : s.KeepsDefaults forms)
    {f : Field} (hf : f ∈ s.fields) (chosen : String → Bool) :
    f.outcomeBy forms ((given.updated
        ((s.validateBy forms given).values.filter fun kv => chosen kv.1)).get? f.name) =
      f.outcomeBy forms (given.get? f.name) := by
  have hnd : (((s.validateBy forms given).values.filter fun kv => chosen kv.1).map (·.1)).Nodup :=
    (((List.filter_sublist).map _).trans (names_validateBy_sublist forms s given)).nodup hnames
  have hfind : Attributes.get? ((s.validateBy forms given).values.filter fun kv => chosen kv.1) f.name =
      if chosen f.name then (f.outcomeBy forms (given.get? f.name)).value? else none := by
    rw [Attributes.get?, lookup_filter]
    split
    · exact get?_values_validateBy hnames hf
    · rfl
  rw [Attributes.get?_updated f.name given hnd, hfind]
  split
  · cases ho : f.outcomeBy forms (given.get? f.name) with
    | accepted v => exact Field.outcomeBy_accepted (hdefaults f hf) ho
    | absent | rejected e => exact ho
  · rfl

end

end Service

/-! ## Defaults of the catalog -/

/-- Whether the default of a field is one of the values that the field accepts as they are. -/
def Field.isKept (f : Field) : Bool :=
  match f.kind, f.default with
  | _, .null | .boolean, .bool _ => true
  | .enum, .str t => !allBlank t && f.allowed.contains t
  | .string, .str t => !allBlank t && trim t == t && f.hasForm t
  | _, _ => false

theorem Field.outcome_of_isKept {f : Field} (h : f.isKept = true) (hd : f.default.isNull = false) :
    f.outcome (some f.default) = .accepted f.default := by
  unfold Field.isKept at h
  split at h
  · next hnull => rw [hnull] at hd; cases hd
  · next b hk hb => simp [Field.outcome, isMissing, Field.checkGiven, hk, hb]
  · next t hk ht =>
    simp only [Bool.and_eq_true, Bool.not_eq_true'] at h
    have hmem : t ∈ f.allowed := List.contains_iff_mem.1 h.2
    simp [Field.outcome, isMissing, Field.checkGiven, hk, ht, h.1, hmem]
  · next t hk ht =>
    simp only [Bool.and_eq_true, Bool.not_eq_true', beq_iff_eq, Field.hasForm] at h
    simp [Field.outcome, isMissing, Field.checkGiven, hk, ht, h.1.1, h.1.2, h.2]
  · cases h

/-- The defaults of the catalog are kept. -/
theorem shipped_keepsDefaults : ∀ p ∈ Catalog.shipped, ∀ s ∈ p.services,
    s.KeepsDefaults Field.hasForm := by
  have hkept : ∀ p ∈ Catalog.shipped, ∀ s ∈ p.services, ∀ f ∈ s.fields, f.isKept = true := by
    decide +kernel
  intro p hp s hs f hf hd
  rw [Field.outcomeBy_hasForm]
  exact Field.outcome_of_isKept (hkept p hp s hs f hf) hd

/-! ## Validation -/

/-- **Accepted values are accepted again.** Take a service with fields of different names that keeps its
defaults, whatever forms its texts are asked for; with those of the patterns this is `validate`. If some
of the values that were accepted are set over those that were given, then validation gives the same
values in the same order, and the same errors; and if there are no errors, then the accepted values
alone give the same again. -/
theorem validateBy_updated (forms : Field → String → Bool) {s : Service}
    (hnames : (s.fields.map (·.name)).Nodup) (hdefaults : s.KeepsDefaults forms) (given : Attributes)
    (chosen : List String) :
    let v := s.validateBy forms given
    (forms = Field.hasForm → v = s.validate given) ∧
    s.validateBy forms (given.updated (v.values.filter fun kv => chosen.contains kv.1)) = v ∧
    (v.errors = [] → s.validateBy forms v.values = v) := by
  intro v
  refine ⟨?_, ?_, fun hok => ?_⟩
  · rintro rfl
    exact s.validateBy_hasForm given
  · exact Service.validateBy_congr fun f hf =>
      Service.outcomeBy_updated hnames hdefaults hf chosen.contains
  · exact Service.validateBy_congr fun f hf => Service.outcomeBy_values hnames hdefaults hf hok

/-- Values for a database: one that is missing, three to be brought into form, two at fault. -/
def looseDatabase : Attributes :=
  [("db_identifier", .str " orders "), ("engine", .str "postgres"), ("multi_az", .str " TRUE "),
   ("storage_encrypted", .str "False"), ("backup_retention", .str "seven"), ("password", .str "  "),
   ("color", .str "red")]

theorem validateBy_updated_looseDatabase :
    let v := Catalog.Aws.rds.validate looseDatabase
    v.errors.map (·.field) = ["backup_retention", "password"] ∧
      Catalog.Aws.rds.validate (looseDatabase.updated (v.values.filter fun kv =>
        ["db_identifier", "engine_version", "multi_az"].contains kv.1)) = v := by
  intro v
  refine ⟨by decide +kernel, ?_⟩
  have hmem : ∃ p ∈ Catalog.shipped, Catalog.Aws.rds ∈ p.services :=
    ⟨⟨"aws", "Amazon Web Services", Catalog.Aws.services⟩, by simp [Catalog.shipped], by
      simp [Catalog.Aws.services]⟩
  obtain ⟨p, hp, hs⟩ := hmem
  have h := (validateBy_updated Field.hasForm (by decide +kernel) (shipped_keepsDefaults p hp _ hs)
    looseDatabase ["db_identifier", "engine_version", "multi_az"]).2.1
  simpa only [Service.validateBy_hasForm] using h

end CloudScaffold
