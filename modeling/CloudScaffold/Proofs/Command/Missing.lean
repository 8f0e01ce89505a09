import CloudScaffold.Command.Run
import CloudScaffold.Proofs.Catalog.Fieldwise
/-!
# Missing values

The user is asked for the fields that want a value (`isWanting`), each once and in their order, however
the answers turn out: no answer makes or spares a question about another field (`askMissing_eq_askEach`).
Validation reports the fields that have neither value nor default and are required.

The two agree on all values but one kind. A text of blanks counts as no value in validation, and as one
when it is decided what to ask (`Field.HoldsBlanks`). Main statement: `askMissing_asks`, by which the
fields asked for are those that are reported as missing unless some field holds blanks. It holds for any
forms that texts may be asked for (`Service.validateBy`).
-/
namespace CloudScaffold

open Text

/-! ## What is asked, and what is missing -/

/-- The names of the fields that are reported as missing, in order. -/
def Validation.missingNames (v : Validation) : List String :=
  (v.errors.filter (·.code == "MissingRequiredField")).map (·.field)

/-- Whether a field that must have a value is given blanks instead. -/
def Field.HoldsBlanks (f : Field) (values : Attributes) : Prop :=
  f.required = true ∧ f.default = .null ∧
    ∃ t, values.get? f.name = some (.str t) ∧ t ≠ "" ∧ ∀ c ∈ t.toList, isBlank c = true

namespace Command

/-- The fields that want a value. -/
def wanting (s : Service) (values : Attributes) : List Field := s.fields.filter (isWanting · values)

/-- Whether a field must have a value and is given none that counts in validation. -/
def lacks (f : Field) (values : Attributes) : Bool :=
  f.required && f.default.isNull && isMissing ((values.get? f.name).getD .null)

/-- Asks for the value of each of some fields. -/
def askEach : List Field → Attributes → Session Attributes
  | [], values => pure values
  | f :: fs, values => do
    let v ← askField f
    askEach fs (values.insert f.name (.str v))

section
variable {s : Service} {f : Field} {fs : List Field} {values : Attributes}

/-- An answer for one field is none for another. -/
theorem isWanting_insert {n : String} {v : Value} (h : f.name ≠ n) :
    isWanting f (values.insert n v) = isWanting f values := by
  rw [isWanting, isWanting, Attributes.get?_insert, if_neg h]

/-- **The user is asked for the fields that want a value at the start, and for no others.** -/
theorem askMissing_eq_askEach (h : (fs.map (·.name)).Nodup) (values : Attributes) :
    askMissing fs values = askEach (fs.filter (isWanting · values)) values := by
  induction fs generalizing values with
  | nil => rfl
  | cons f fs ih =>
    rw [List.map_cons, List.nodup_cons] at h
    cases hw : isWanting f values with
    | false =>
      rw [askMissing, hw, List.filter_cons_of_neg (by simp [hw])]
      exact ih h.2 values
    | true =>
      rw [askMissing, hw, List.filter_cons_of_pos (by simp [hw]), askEach]
      refine congrArg (askField f >>= ·) (funext fun v => ?_)
      have hsame : fs.filter (isWanting · (values.insert f.name (.str v))) =
          fs.filter (isWanting · values) :=
        List.filter_congr fun g hg => isWanting_insert fun hname =>
          h.1 (hname ▸ List.mem_map_of_mem hg)
      rw [ih h.2, hsame]

/-! ## Missing values -/

/-- A value that is missing is never at fault for what it is. -/
theorem checkGiven_ne_missing {v : Value} : f.checkGiven v ≠ .error .missing := by
  unfold Field.checkGiven
  split
  · simp
  · split <;> simp
  · simp
  · split <;> simp
  · dsimp only
    split <;> simp
  · simp

/-- A field is found missing just if it lacks its value. -/
theorem outcome_eq_missing_iff {w : Option Value} : f.outcome w = .rejected .missing ↔
    (f.required && f.default.isNull && isMissing (w.getD .null)) = true := by
  unfold Field.outcome
  by_cases hm : isMissing (w.getD .null) = true
  · cases hd : f.default.isNull <;> cases hr : f.required <;> simp [hm]
  · have hgiven := checkGiven_ne_missing (f := f) (v := w.getD .null)
    cases hc : f.checkGiven (w.getD .null) with
    | ok u => simp [hm, hc]
    | error e =>
      rw [hc] at hgiven
      simpa [hm, hc] using hgiven

/-- A text that something is left of is not missing, whatever form it is asked for. -/
theorem outcomeBy_eq_missing_iff (forms : Field → String → Bool) :
    f.outcomeBy forms (values.get? f.name) = .rejected .missing ↔ lacks f values = true := by
  unfold lacks
  rcases f.outcomeBy_cases forms (values.get? f.name) with ⟨t, -, hget, hb, ho⟩ | ⟨ho, -⟩
  · rw [ho, hget]
    refine iff_of_false ?_ (by simp [isMissing, hb])
    split <;> simp
  · rw [ho, outcome_eq_missing_iff]

theorem code_eq_missing_iff {e : FieldError} : e.code = "MissingRequiredField" ↔ e.fault = .missing := by
  cases e with
  | mk field fault => cases fault <;> simp [FieldError.code]

theorem missingNames_validateBy (forms : Field → String → Bool) (s : Service) (values : Attributes) :
    (s.validateBy forms values).missingNames = (s.fields.filter (lacks · values)).map (·.name) := by
  rw [Validation.missingNames, Service.errors_validateBy]
  induction s.fields with
  | nil => rfl
  | cons f fs ih =>
    cases hfault : (f.outcomeBy forms (values.get? f.name)).fault? with
    | none =>
      have hl : ¬ lacks f values = true := fun hl => by
        rw [(outcomeBy_eq_missing_iff forms).2 hl] at hfault
        cases hfault
      rw [List.filterMap_cons_none (by rw [hfault]; rfl), List.filter_cons_of_neg (by simpa using hl), ih]
    | some e =>
      have hl : lacks f values = true ↔ e = .missing := by
        rw [← outcomeBy_eq_missing_iff forms]
        cases ho : f.outcomeBy forms (values.get? f.name) <;> simp_all [FieldOutcome.fault?]
      rw [List.filterMap_cons_some (b := ⟨f.name, e⟩) (by rw [hfault]; rfl)]
      by_cases he : e = .missing
      · have hcode : (⟨f.name, e⟩ : FieldError).code = "MissingRequiredField" := code_eq_missing_iff.2 he
        rw [List.filter_cons_of_pos (by simpa using hcode), List.filter_cons_of_pos (by simpa using hl.2 he),
          List.map_cons, List.map_cons, ih]
      · have hcode : (⟨f.name, e⟩ : FieldError).code ≠ "MissingRequiredField" := mt code_eq_missing_iff.1 he
        rw [List.filter_cons_of_neg (by simpa using hcode), List.filter_cons_of_neg (by simpa using mt hl.1 he),
          ih]

/-- Of fields with different names, those that are picked are told by their names. -/
theorem mem_map_name_filter {p : Field → Bool} (hnames : (fs.map (·.name)).Nodup) (hf : f ∈ fs) :
    f.name ∈ (fs.filter p).map (·.name) ↔ p f = true := by
  constructor
  · intro h
    obtain ⟨g, hg, hname⟩ := List.mem_map.1 h
    obtain ⟨hg, hp⟩ := List.mem_filter.1 hg
    rwa [List.inj_on_of_nodup_map hnames hg hf hname] at hp
  · exact fun hp => List.mem_map_of_mem (List.mem_filter.2 ⟨hf, hp⟩)

/-- A value is missing in validation if there is none, or if it is a text of blanks. -/
theorem isMissing_iff {w : Option Value} (h : ∀ t, w ≠ some (.raw t)) :
    isMissing (w.getD .null) = true ↔ (w.getD .null).isAbsent = true ∨
      ∃ t, w = some (.str t) ∧ t ≠ "" ∧ ∀ c ∈ t.toList, isBlank c = true := by
  match w with
  | none => simp [isMissing, Value.isAbsent]
  | some (.str t) =>
    by_cases ht : t = ""
    · simp [ht, isMissing, allBlank, Value.isAbsent, Value.isText]
    · simp [ht, isMissing, allBlank, Value.isAbsent, Value.isText]
  | some (.raw t) => exact absurd rfl (h t)
  | some .null => simp [isMissing, Value.isAbsent]
  | some (.bool _) | some (.int _) | some (.float _) | some (.list _) | some (.tuple _) | some (.map _)
  | some (.block _) | some (.ref _) | some (.var _) | some (.interp _) | some (.other _) =>
    simp [isMissing, Value.isAbsent, Value.isText]

/-- A field lacks its value if it wants one or holds blanks in its place. -/
theorem lacks_iff (h : ∀ t, values.get? f.name ≠ some (.raw t)) :
    lacks f values = true ↔ isWanting f values = true ∨ f.HoldsBlanks values := by
  simp only [lacks, isWanting, Field.HoldsBlanks, Bool.and_eq_true, isMissing_iff h, Value.isNull_iff]
  tauto

/-- A field that holds blanks is not asked for. -/
theorem isWanting_of_holdsBlanks (h : f.HoldsBlanks values) : isWanting f values = false := by
  obtain ⟨-, -, t, ht, hne, -⟩ := h
  simp [isWanting, ht, Value.isAbsent, Value.isText, hne]

end

/-- **What is asked for is what is missing, unless it is blanks.** Take a service with fields of different
names, whatever forms its texts are asked for, and values that are no expressions; with the forms of the
patterns validation is `validate`. The user is asked for each field that wants a value, and for no other; a
field is reported as missing if it is asked for or holds blanks. So the fields asked for are those that are
reported exactly if no field holds blanks. -/
theorem askMissing_asks (forms : Field → String → Bool) {s : Service} {values : Attributes}
    (hnames : (s.fields.map (·.name)).Nodup)
    (hraw : ∀ f ∈ s.fields, ∀ t, values.get? f.name ≠ some (.raw t)) :
    (forms = Field.hasForm → s.validateBy forms values = s.validate values) ∧
      askMissing s.fields values = askEach (wanting s values) values ∧
      (∀ f ∈ s.fields, f.name ∈ (s.validateBy forms values).missingNames ↔
        f ∈ wanting s values ∨ f.HoldsBlanks values) ∧
      ((wanting s values).map (·.name) = (s.validateBy forms values).missingNames ↔
        ∀ f ∈ s.fields, ¬ f.HoldsBlanks values) := by
  have hmem : ∀ f ∈ s.fields, f.name ∈ (s.validateBy forms values).missingNames ↔
      f ∈ wanting s values ∨ f.HoldsBlanks values := fun f hf => by
    rw [missingNames_validateBy, mem_map_name_filter hnames hf, wanting, List.mem_filter,
      lacks_iff (hraw f hf)]
    simp [hf]
  refine ⟨?_, askMissing_eq_askEach hnames values, hmem, fun h f hf hblanks => ?_, fun h => ?_⟩
  · rintro rfl
    exact s.validateBy_hasForm values
  · have hasked : f.name ∈ (wanting s values).map (·.name) := h ▸ (hmem f hf).2 (.inr hblanks)
    rw [wanting, mem_map_name_filter hnames hf, isWanting_of_holdsBlanks hblanks] at hasked
    cases hasked
  · rw [missingNames_validateBy, wanting]
    refine congrArg (List.map fun f : Field => f.name) (List.filter_congr fun f hf => ?_)
    rw [Bool.eq_iff_iff, lacks_iff (hraw f hf), or_iff_left (h f hf)]

/-- Blanks for fields that need no value, and an empty text for one that does. -/
theorem askMissing_asks_orderForm :
    let values : Attributes := [("note", .str " "), ("title", .str ""), ("engine", .str " ")]
    (orderForm.fields.map (·.name)).Nodup ∧
      (∀ f ∈ orderForm.fields, ∀ t, values.get? f.name ≠ some (.raw t)) ∧
      (∀ f ∈ orderForm.fields, ¬ f.HoldsBlanks values) ∧
      askMissing orderForm.fields values = askEach (wanting orderForm values) values ∧
      (wanting orderForm values).map (·.name) = ["size", "title", "owner"] ∧
      (orderForm.validate values).missingNames = ["size", "title", "owner"] := by
  intro values
  have hnames : (orderForm.fields.map (·.name)).Nodup := by decide +kernel
  have hraw : ∀ f ∈ orderForm.fields, ∀ t, values.get? f.name ≠ some (.raw t) := by
    simp [orderForm, values, Attributes.get?, List.lookup_cons]
  have hblanks : ∀ f ∈ orderForm.fields, ¬ f.HoldsBlanks values := by
    simp [orderForm, values, Field.HoldsBlanks, Attributes.get?, List.lookup_cons]
  have hasked : (wanting orderForm values).map (·.name) = ["size", "title", "owner"] := by decide +kernel
  obtain ⟨hforms, hask, -, hsame⟩ := askMissing_asks Field.hasForm hnames hraw
  rw [hforms rfl] at hsame
  exact ⟨hnames, hraw, hblanks, hask, hasked, (hsame.2 hblanks).symm.trans hasked⟩

/-- A title of one blank: nothing is asked for, and the title is missing. -/
theorem askMissing_blanks :
    let values : Attributes := [("size", .str "10"), ("title", .str " "), ("owner", .str "me")]
    (∀ f ∈ orderForm.fields, ∀ t, values.get? f.name ≠ some (.raw t)) ∧
      askMissing orderForm.fields values = pure values ∧
      (orderForm.validate values).missingNames = ["title"] := by
  intro values
  refine ⟨by simp [orderForm, values, Attributes.get?, List.lookup_cons], ?_, by decide +kernel⟩
  rw [askMissing_eq_askEach (by decide +kernel)]
  rfl

end Command

end CloudScaffold
