import CloudScaffold.Catalog.Aws
import CloudScaffold.Graph.Build
import CloudScaffold.Proofs.Template.Usage
import CloudScaffold.Template.Aws
/-!
# Variables of sensitive fields

`Draft.value` hands out a variable in place of the value of a sensitive field, and declares it as a
sensitive variable with that value, unless a variable of its name is there. What was declared first
stays, so the value is kept as a secret only if nothing came first that is another variable of the name:
one declared by hand, or one for another value, taken with another default (`Forestalls`). No template
does either.

`value_kept_iff` is this for every list of uses of a draft.
-/
namespace CloudScaffold

/-- The variable is sensitive and has the value. -/
def Variable.KeepsSecret (x : Variable) (v : Value) : Prop := x.sensitive = true ∧ x.value = v

namespace Draft

/-- The use declares a variable of the name of a field that does not keep a value as a secret. -/
inductive Forestalls (d : Draft) (field : String) (v : Value) : Use → Prop
  | declare {x : Variable} (hname : x.name = field) (hother : ¬ x.KeepsSecret v) :
    Forestalls d field v (.declare x)
  /-- A field that is not given has the value of any default. -/
  | value {default : Value} (hnull : d.given field default ≠ .null) (hother : d.given field default ≠ v) :
    Forestalls d field v (.value field default)

/-- Some use forestalls a value while no variable has the name of its field. -/
def Forestalled (d : Draft) (field : String) (v : Value) (us : List Use) : Prop :=
  ∃ before u rest, us = before ++ u :: rest ∧ (d.after before).named field = [] ∧ d.Forestalls field v u

section
variable {d d₀ : Draft} {f : String} {default v : Value} {u : Use} {us : List Use}

/-! ## One use -/

theorem isSecret_iff (hs : d.service.isSensitive f = true) : d.isSecret f v = true ↔ v ≠ .null := by
  simp [isSecret, hs, Bool.eq_false_iff, Value.isNull_iff]

theorem given_congr (h : d.origin = d₀.origin) (f : String) (default : Value) :
    d.given f default = d₀.given f default := by
  show d.origin.given f default = d₀.origin.given f default
  rw [h]

theorem isSensitive_congr (h : d.origin = d₀.origin) (f : String) :
    d.service.isSensitive f = d₀.service.isSensitive f := by
  show d.origin.service.isSensitive f = d₀.origin.service.isSensitive f
  rw [h]

/-- A field that has a value without a default has it with any. -/
theorem given_eq_of_ne_null (h : d.given f .null ≠ .null) (default : Value) :
    d.given f default = d.given f .null := by
  unfold given at h ⊢
  cases hv : d.values.get? f with
  | none => simp [hv] at h
  | some w => rfl

theorem keepsSecret_secret : (d.secret f v).KeepsSecret default ↔ v = default := by
  simp [Variable.KeepsSecret, secret]

/-- What a use brings under the name of a field is the variable for the value, unless the use forestalls
the value. -/
theorem Brings.keepsSecret {x : Variable} (h : d.Brings f u x) (hs : d.service.isSensitive f = true)
    (hfree : ¬ d.Forestalls f (d.given f default) u) : x.KeepsSecret (d.given f default) := by
  cases h with
  | declare hname => exact not_not.1 fun hother => hfree (.declare hname hother)
  | value hsecret =>
    rw [isSecret_iff hs] at hsecret
    exact keepsSecret_secret.2 (not_not.1 fun hother => hfree (.value hsecret hother))
  | run hsecret =>
    rw [isSecret_iff hs] at hsecret
    exact keepsSecret_secret.2 (given_eq_of_ne_null hsecret default).symm

/-- A use that forestalls a value brings the other variable, if none of the name is there. -/
theorem Forestalls.named_use (h : d.Forestalls f v u) (hs : d.service.isSensitive f = true)
    (hnone : d.named f = []) : ∃ x, (d.use u).2.named f = [x] ∧ ¬ x.KeepsSecret v := by
  cases h with
  | @declare x hname hother =>
    refine ⟨x, ?_, hother⟩
    dsimp only [use]
    rw [named_declare, if_pos ⟨hname, hnone⟩]
  | @value default hnull hother =>
    refine ⟨d.secret f (d.given f default), ?_, fun h => hother (keepsSecret_secret.1 h)⟩
    dsimp only [use, Draft.value]
    rw [if_pos ((isSecret_iff hs).2 hnull), named_declare, if_pos ⟨rfl, hnone⟩]

theorem forestalls_congr (h : d.origin = d₀.origin) : d.Forestalls f v u ↔ d₀.Forestalls f v u := by
  constructor
  · intro hu
    cases hu with
    | declare hname hother => exact .declare hname hother
    | value hnull hother => exact .value (given_congr h f _ ▸ hnull) (given_congr h f _ ▸ hother)
  · intro hu
    cases hu with
    | declare hname hother => exact .declare hname hother
    | value hnull hother =>
      rw [← given_congr h] at hnull hother
      exact .value hnull hother

/-! ## All uses -/

/-- A value is forestalled exactly if there is another variable of the name in the end. -/
theorem forestalled_iff (hs : d.service.isSensitive f = true) (hnone : d.named f = []) :
    d.Forestalled f (d.given f default) us ↔
      ∃ x, (d.after us).named f = [x] ∧ ¬ x.KeepsSecret (d.given f default) := by
  constructor
  · rintro ⟨before, u, rest, rfl, hbefore, hu⟩
    have horigin := origin_after d before
    have hsens : (d.after before).service.isSensitive f = true := (isSensitive_congr horigin f).trans hs
    obtain ⟨x, hx, hother⟩ := ((forestalls_congr horigin).2 hu).named_use hsens hbefore
    have hstay := named_after_of_ne_nil (d := ((d.after before).use u).2) (n := f) (by simp [hx]) rest
    exact ⟨x, by rw [after_append]; exact hstay.trans hx, hother⟩
  · rintro ⟨x, hx, hother⟩
    rcases named_after us hnone with h | ⟨before, u, rest, y, hus, hbefore, hbrings, hy⟩
    · rw [h] at hx
      cases hx
    · obtain rfl : y = x := by simpa [hy] using hx
      exact ⟨before, u, rest, hus, hbefore, not_not.1 fun hfree => hother (hbrings.keepsSecret hs hfree)⟩

end

/-- **A sensitive value is handed out as a variable, and kept unless it was forestalled.** Take any uses of
the draft that a service starts with, templates and failures among them, and then the value of a sensitive
field that is not null. The answer is the variable of the field, and exactly one variable has that name.
It is sensitive and has the value exactly if the value was not forestalled. -/
theorem value_kept_iff (provider : String) {s : Service} {values : Attributes} {f : String}
    {default : Value} (hs : s.isSensitive f = true)
    (hv : (start provider s values).given f default ≠ .null) (us : List Use) :
    let d := (start provider s values).after us
    (d.use (.value f default)).1 = .ok (.value (.var f)) ∧
      ∃ x, (d.use (.value f default)).2.named f = [x] ∧
        (x.KeepsSecret ((start provider s values).given f default) ↔
          ¬ (start provider s values).Forestalled f ((start provider s values).given f default) us) := by
  intro d
  have horigin : d.origin = (start provider s values).origin := origin_after _ us
  have hgiven := given_congr horigin f default
  have hsens : d.service.isSensitive f = true := (isSensitive_congr horigin f).trans hs
  have hsecret : d.isSecret f (d.given f default) = true := (isSecret_iff hsens).2 (hgiven ▸ hv)
  rw [forestalled_iff hs rfl]
  refine ⟨by simp [use, Draft.value, usable, hsecret], ?_⟩
  have hnamed : (d.use (.value f default)).2.named f =
      if d.named f = [] then [d.secret f (d.given f default)] else d.named f := by
    dsimp only [use, Draft.value]
    rw [if_pos hsecret, named_declare]
    simp [secret]
  rcases named_after us (d := start provider s values) (n := f) rfl with hnone | ⟨-, -, -, x, -, -, -, hx⟩
  · refine ⟨d.secret f (d.given f default), by rw [hnamed, if_pos hnone], ?_⟩
    rw [keepsSecret_secret, hnone]
    simp [hgiven]
  · refine ⟨x, by rw [hnamed, hx, if_neg (List.cons_ne_nil x [])], ?_⟩
    rw [hx]
    simp

/-- A variable of another name, a template that fails half-way and the same value with a default come
before the password of a database. -/
theorem value_kept_iff_ordersDatabase :
    let values : Attributes := [("db_identifier", .str "orders"), ("password", .str "opensesame")]
    let us : List Use := [.declare { name := "zone", value := .str "a" }, .run Template.Aws.rds,
      .setPhase "primary", .value "password" (.str "none"), .output { name := "id", value := .null }]
    Catalog.Aws.rds.isSensitive "password" = true ∧
      (start "aws" Catalog.Aws.rds values).given "password" .null ≠ .null ∧
      ¬ (start "aws" Catalog.Aws.rds values).Forestalled "password" (.str "opensesame") us ∧
      ∃ x, (((start "aws" Catalog.Aws.rds values).after us).use (.value "password" .null)).2.named
          "password" = [x] ∧ x.KeepsSecret (.str "opensesame") := by
  intro values us
  have hs : Catalog.Aws.rds.isSensitive "password" = true := by decide +kernel
  have hgiven (default : Value) :
      (start "aws" Catalog.Aws.rds values).given "password" default = .str "opensesame" := rfl
  have hv : (start "aws" Catalog.Aws.rds values).given "password" .null ≠ .null := by simp [hgiven]
  have hfree :
      ¬ (start "aws" Catalog.Aws.rds values).Forestalled "password" (.str "opensesame") us := by
    rintro ⟨before, u, rest, hus, -, hu⟩
    have hmem : u ∈ us := hus ▸ by simp
    cases hu with
    | declare hname =>
      obtain rfl := by simpa [us] using hmem
      simp at hname
    | value hnull hother => exact hother (hgiven _)
  obtain ⟨-, x, hx, hkept⟩ := value_kept_iff "aws" hs hv us
  exact ⟨hs, hv, hfree, x, hx, hkept.2 hfree⟩

/-- A variable declared by hand under the name of a password: the password is not kept. -/
theorem value_forestalled :
    let values : Attributes := [("db_identifier", .str "orders"), ("password", .str "opensesame")]
    let d := (start "aws" Catalog.Aws.rds values).after [.declare { name := "password" }]
    d.service.isSensitive "password" = true ∧ d.given "password" .null = .str "opensesame" ∧
      (d.use (.value "password" .null)).2.named "password" = [{ name := "password" }] ∧
      ¬ ({ name := "password" } : Variable).KeepsSecret (.str "opensesame") :=
  ⟨by decide +kernel, rfl, rfl, fun h => by cases h.1⟩

end Draft

end CloudScaffold
