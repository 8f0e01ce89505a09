import CloudScaffold.Proofs.Catalog.Accepted
/-!
# Choices

What a user chooses for a service is a value for each of its fields. A field of texts has one or
none, and any other field has one of a few values (`Field.choices`), as far as its default agrees with
what it allows.

Not every two mappings make different choices. A number may be spelled in several ways, a switch may
be left out or off, and a service account without a display name is displayed by its id. `SameChoice`
lists these and no others.
-/
namespace CloudScaffold

open Text Number

/-! ## Values that are chosen -/

/-- The value of a name; null if there is none. -/
def Attributes.chosen (v : Attributes) (n : String) : Value := (v.get? n).getD .null

/-- Whether a value is none or a text that is not empty. -/
def Value.NoneOrText (x : Value) : Prop := x = .null ∨ ∃ t, t ≠ "" ∧ x = .str t

theorem Value.truthy_of_text {x : Value} {t : String} (ht : t ≠ "") (hx : x = .str t) :
    x.truthy = true := by
  rw [hx]
  simpa [truthy] using ht

/-! ## What a build starts with -/

section
variable {provider : String} {s : Service} {v : Attributes} {n : String}

theorem Draft.start_given : (Draft.start provider s v).given n .null = v.chosen n := rfl

variable (provider s v n) in
/-- A field is used through a variable, if it is sensitive, or as it was chosen. -/
theorem Draft.start_usable :
    (Draft.start provider s v).usable n .null = .var n ∧ s.isSensitive n = true ∨
      (Draft.start provider s v).usable n .null = v.chosen n := by
  unfold usable
  dsimp only
  split
  · next hs => exact .inl ⟨rfl, (Bool.and_eq_true_iff.1 hs).1⟩
  · exact .inr rfl

theorem Draft.start_usable_of_open (hn : s.isSensitive n = false) :
    (Draft.start provider s v).usable n .null = v.chosen n := by
  refine (start_usable provider s v n).resolve_left fun ⟨_, hs⟩ => ?_
  rw [hn] at hs
  cases hs

/-- A text that is used is the one that was chosen, since a variable is no text. -/
theorem Draft.chosen_of_usable {t : String} (h : (Draft.start provider s v).usable n .null = .str t) :
    v.chosen n = .str t := by
  rcases start_usable provider s v n with ⟨hvar, _⟩ | heq
  · rw [hvar] at h
    cases h
  · exact heq.symm.trans h

theorem Draft.truthy_start_usable (h : (v.chosen n).truthy = true) :
    ((Draft.start provider s v).usable n .null).truthy = true := by
  rcases start_usable provider s v n with ⟨hvar, _⟩ | heq
  · rw [hvar]
    rfl
  · rw [heq, h]

theorem Draft.start_namingValue : (Draft.start provider s v).namingValue =
    (s.namingField?.bind fun f => v.get? f.name).getD .null := rfl

/-- The text of the naming field is the display name. -/
theorem Draft.start_displayName {t : String} (hn : s.namingField?.any (·.name == n) = true)
    (ht : t ≠ "") (hv : v.chosen n = .str t) : (Draft.start provider s v).displayName = t := by
  obtain ⟨f, hf, hfn⟩ := (Option.any_eq_true _ _).1 hn
  have hnaming : (Draft.start provider s v).namingValue = .str t := by
    rw [start_namingValue, hf, Option.bind_some, beq_iff_eq.1 hfn]
    exact hv
  rw [displayName, hnaming]
  simp [Value.isAbsent, Value.isText, ht, Value.text]

/-- A number that is read from a field with a text is the one that the text writes. -/
theorem Draft.readInt_of_start_number {t : String} {k m : Int} (ht : t ≠ "")
    (hv : v.chosen n = .str t) (h : (Draft.start provider s v).number n k = .ok m) :
    readInt t = .ok m := by
  have hnum : (if (v.chosen n).isAbsent then .ok k else numberOf (v.chosen n)) = .ok m := h
  rw [hv] at hnum
  simpa [Value.isAbsent, Value.isText, ht, numberOf, mapError_eq_ok] using hnum

end

/-! ## What a field can be set to -/

namespace Field

/-- Whether a field can be without a value. -/
def isOptional (f : Field) : Bool := f.default.isNull && !f.required

/-- The values of a field that has a few only; null stands for none. -/
def choices (f : Field) : List Value :=
  (if f.isOptional then [.null] else []) ++
    match f.kind with
    | .boolean => [.bool true, .bool false]
    | .enum => f.allowed.map .str
    | .string => []

/-- Whether what stands in for a value that is not given is no empty text. -/
def hasTexts (f : Field) : Bool := f.fallback.all fun v => v.isNull || (v.isStr && !v.isAbsent)

section
variable {f : Field} {w : Option Value}

theorem taken_ne_null (h : ∀ e, f.outcome w ≠ .rejected e) (ho : f.isOptional = false) :
    f.taken w ≠ .null := by
  intro hnull
  have hout : (f.outcome w).value? = none := by
    cases hv : (f.outcome w).value? with
    | none => rfl
    | some v =>
      have hv' : v = .null := by rw [← hnull, taken, hv]; rfl
      exact absurd (hv' ▸ hv) (f.outcome_ne_null w)
  rcases f.taken_cases h with hfb | ⟨v, rfl, hm, hc⟩
  · unfold fallback at hfb
    unfold isOptional at ho
    split at hfb
    · next hd => rw [← List.mem_singleton.1 hfb, hnull] at hd; cases hd
    · split at hfb
      · cases hfb
      · next hd hr => simp_all
  · simp [outcome, hm, hc, FieldOutcome.value?] at hout

theorem isBool_default (hc : f.check.isOk = true) (hk : f.kind = .boolean)
    (hd : f.default.isNull = false) : ∃ b, f.default = .bool b := by
  cases hv : f.default with
  | bool b => exact ⟨b, rfl⟩
  | null => rw [hv] at hd; cases hd
  | _ =>
    by_cases he : f.allowed = [] <;>
      simp [check, hk, hv, he, Value.isNull, isBool, Except.isOk, Except.toBool] at hc

theorem default_mem_allowed (hc : f.check.isOk = true) (hk : f.kind = .enum)
    (hd : f.default.isNull = false) : ∃ t ∈ f.allowed, f.default = .str t := by
  cases hv : f.default with
  | str t =>
    refine ⟨t, ?_, rfl⟩
    by_contra ht
    by_cases he : f.allowed = [] <;>
      simp [check, hk, hv, he, ht, Value.isNull, Except.isOk, Except.toBool] at hc
  | null => rw [hv] at hd; cases hd
  | _ =>
    by_cases he : f.allowed = [] <;>
      simp [check, hk, hv, he, Value.isNull, Except.isOk, Except.toBool] at hc

/-- A field with a few values has one of them. -/
theorem taken_mem_choices (h : ∀ e, f.outcome w ≠ .rejected e) (hk : f.kind ≠ .string)
    (hc : f.check.isOk = true) : f.taken w ∈ f.choices := by
  unfold choices
  rcases f.taken_cases h with hfb | ⟨v, rfl, -, hv⟩
  · unfold fallback at hfb
    split at hfb
    · next hd =>
      rw [List.mem_singleton.1 hfb]
      refine List.mem_append_right _ ?_
      cases hkind : f.kind with
      | string => exact absurd hkind hk
      | boolean =>
        obtain ⟨b, hb⟩ := isBool_default hc hkind (by simpa using hd)
        rw [hb]; cases b <;> simp
      | enum =>
        obtain ⟨t, ht, hdef⟩ := default_mem_allowed hc hkind (by simpa using hd)
        exact hdef ▸ List.mem_map.2 ⟨t, ht, rfl⟩
    · next hd =>
      split at hfb
      · cases hfb
      · next hr =>
        have ho : f.isOptional = true := by simp_all [isOptional]
        rw [List.mem_singleton.1 hfb, if_pos ho]
        exact List.mem_cons_self
  · refine List.mem_append_right _ ?_
    rcases checkGiven_cases hv with ⟨hk, b, hu⟩ | ⟨hk, t, ht, _, hu⟩ | ⟨hk', _⟩
    · rw [hu, hk]; cases b <;> simp
    · rw [hu, hk]; exact List.mem_map.2 ⟨t, ht, rfl⟩
    · exact absurd hk' hk

/-- A field of texts has none, or one that is not empty. -/
theorem taken_text (h : ∀ e, f.outcome w ≠ .rejected e) (hk : f.kind = .string)
    (ht : f.hasTexts = true) : (f.taken w).NoneOrText := by
  rcases f.taken_cases h with hfb | ⟨v, rfl, hm, hc⟩
  · have hv := List.all_eq_true.1 ht _ hfb
    cases hx : f.taken w with
    | null => exact .inl rfl
    | str t => exact .inr ⟨t, by simpa [hx, Value.isNull, Value.isStr, Value.isAbsent, Value.isText]
        using hv, rfl⟩
    | _ => simp [hx, Value.isNull, Value.isStr] at hv
  · rcases checkGiven_cases hc with ⟨hk', _⟩ | ⟨hk', _⟩ | ⟨_, t, rfl, hu, _⟩
    · rw [hk] at hk'; cases hk'
    · rw [hk] at hk'; cases hk'
    · refine .inr ⟨trim t, fun hempty => ?_, hu⟩
      rw [isMissing, allBlank_of_trim hempty] at hm
      cases hm

end

end Field

/-! ## Accepted mappings -/

/-- Whether a mapping is what validation makes of some values. -/
def Service.Accepts (s : Service) (v : Attributes) : Prop := ∃ given, s.validated given = .ok v

namespace Service.Accepts

section
variable {s : Service} {v : Attributes} {n : String} {f : Field}

/-- What an accepted mapping has for a name, from its value. -/
theorem get?_eq (h : s.Accepts v) (hr : s.isRegular = true) (n : String) :
    v.get? n = if (v.chosen n).isNull then none else some (v.chosen n) := by
  obtain ⟨_, hv⟩ := h
  have hne := validated_ne_null hv hr n
  unfold Attributes.chosen
  cases hget : v.get? n with
  | none => rfl
  | some x =>
    have hx : x.isNull = false := by
      rw [← Bool.not_eq_true, Value.isNull_iff]
      rintro rfl
      exact hne hget
    rw [Option.getD_some, hx]
    rfl

/-- The value of a field is what the field took for a value that it did not reject. -/
theorem exists_taken (h : s.Accepts v) (hr : s.isRegular = true) (hf : s.field? n = some f) :
    ∃ u, v.chosen n = f.taken u ∧ ∀ e, f.outcome u ≠ .rejected e := by
  obtain ⟨given, hv⟩ := h
  refine ⟨given.get? f.name, ?_, (validated_eq_ok hv).2 f (mem_of_field? hf).1⟩
  rw [Attributes.chosen, validated_value hv hr, hf]
  rfl

theorem ne_null (h : s.Accepts v) (hr : s.isRegular = true) (hf : s.field? n = some f)
    (ho : f.isOptional = false) : v.chosen n ≠ .null := by
  obtain ⟨u, hu, hok⟩ := h.exists_taken hr hf
  exact hu ▸ Field.taken_ne_null hok ho

theorem noneOrText (h : s.Accepts v) (hr : s.isRegular = true) (hf : s.field? n = some f)
    (hk : f.kind = .string) (ht : f.hasTexts = true) : (v.chosen n).NoneOrText := by
  obtain ⟨u, hu, hok⟩ := h.exists_taken hr hf
  exact hu ▸ Field.taken_text hok hk ht

theorem mem_choices (h : s.Accepts v) (hr : s.isRegular = true) (hf : s.field? n = some f)
    (hk : f.kind ≠ .string) (hc : f.check.isOk = true) : v.chosen n ∈ f.choices := by
  obtain ⟨u, hu, hok⟩ := h.exists_taken hr hf
  exact hu ▸ Field.taken_mem_choices hok hk hc

end

end Service.Accepts

/-! ## Choices that are the same -/

/-- The field whose value stands in for that of another which is left out. -/
def standIn? (provider service field : String) : Option String :=
  if provider = "gcp" ∧ service = "iam_service_account" ∧ field = "display_name" then
    some "account_id"
  else none

/-- Whether two accepted mappings make the same choice for a name. -/
inductive SameChoice (provider : String) (s : Service) (v w : Attributes) (n : String) : Prop
  | same (h : v.get? n = w.get? n)
  /-- Two texts of digits that write one number. -/
  | number {f : Field} {a b : String} {m : Int} (hf : s.field? n = some f)
      (hp : f.pattern = some .digits) (hv : v.get? n = some (.str a))
      (hw : w.get? n = some (.str b)) (ha : readInt a = .ok m) (hb : readInt b = .ok m)
  /-- An optional truth value that is left out, and one that is false. -/
  | off {f : Field} (hf : s.field? n = some f) (hk : f.kind = .boolean) (hr : f.required = false)
      (h : v.get? n = none ∧ w.get? n = some (.bool false) ∨
        v.get? n = some (.bool false) ∧ w.get? n = none)
  /-- A value that is left out, and the one that stands in for it. -/
  | standIn {m : String} (hm : standIn? provider s.id n = some m) (hsame : v.get? m = w.get? m)
      (h : v.get? n = none ∧ w.get? n = w.get? m ∨ v.get? n = v.get? m ∧ w.get? n = none)

/-- Whether a choice between two values is none: a switch that is left out or off. -/
def Field.merges (f : Field) (x y : Value) : Bool :=
  f.kind == .boolean && !f.required && !x.truthy && !y.truthy

/-- Of a field with few values, those that are no choice between each other. -/
theorem Field.merges_cases {f : Field} {x y : Value} (hx : x ∈ f.choices) (hy : y ∈ f.choices)
    (h : f.merges x y = true) : f.kind = .boolean ∧ f.required = false ∧
      (x = y ∨ x = .null ∧ y = .bool false ∨ x = .bool false ∧ y = .null) := by
  simp only [Field.merges, Bool.and_eq_true, beq_iff_eq, Bool.not_eq_true'] at h
  obtain ⟨⟨⟨hk, hr⟩, hfx⟩, hfy⟩ := h
  have hcases {z : Value} (hz : z ∈ f.choices) (hfz : z.truthy = false) :
      z = .null ∨ z = .bool false := by
    rw [Field.choices, hk] at hz
    rcases List.mem_append.1 hz with hz | hz
    · split at hz
      · exact .inl (List.mem_singleton.1 hz)
      · cases hz
    · simp only [List.mem_cons, List.not_mem_nil, or_false] at hz
      rcases hz with rfl | rfl
      · cases hfz
      · exact .inr rfl
  refine ⟨hk, hr, ?_⟩
  rcases hcases hx hfx with rfl | rfl <;> rcases hcases hy hfy with rfl | rfl <;> simp

end CloudScaffold
