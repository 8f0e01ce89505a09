import CloudScaffold.Value.Json
import Mathlib.Data.Nat.Digits.Lemmas
/-!
# Texts in JSON

A text is written unit by unit, each by a letter, as itself or by its number (`escaped_escapeUnit`). The
reader gets the units back, whatever stands behind the closing quote (`stringPoints_quoted`), and makes the
text of them with each pair one code point (`readString_quoted`). So texts are written alike just if they are
the same with their pairs made one, and no text ends its string early or starts a line.
-/
namespace CloudScaffold.Json

open Text

/-- How a unit is written: by a letter, as itself, or by its number. -/
inductive Escaped (n : Nat) : List Char → Prop
  | short {e c : Char} (h : shortEscape? e = some c) (hc : c.toNat = n) : Escaped n ['\\', e]
  | plain {c : Char} (hc : c.toNat = n) (hquote : c ≠ '"') (hback : c ≠ '\\') (hlow : 32 ≤ n) : Escaped n [c]
  | number : Escaped n (unitEscape n)

section
variable {c : Char} {r : List Char} {n fuel : Nat} {ps : Points}

theorem toNat_ofNat_of_lt (h : n < 127) : (Char.ofNat n).toNat = n := by
  have hvalid : n.isValidChar := .inl (by omega)
  rw [Char.ofNat, dif_pos hvalid]
  rfl

theorem escaped_escapeUnit (n : Nat) : Escaped n (escapeUnit n) := by
  unfold escapeUnit
  split_ifs with hquote hback hline hreturn htab hbackspace hfeed hplain
  · exact .short rfl hquote.symm
  · exact .short rfl hback.symm
  · exact .short rfl hline.symm
  · exact .short rfl hreturn.symm
  · exact .short rfl htab.symm
  · exact .short rfl hbackspace.symm
  · exact .short rfl hfeed.symm
  · simp only [Bool.and_eq_true, decide_eq_true_eq] at hplain
    have hsame : (Char.ofNat n).toNat = n := toNat_ofNat_of_lt hplain.2
    exact .plain hsame (fun h => hquote (by rw [← hsame, h])) (fun h => hback (by rw [← hsame, h])) hplain.1
  · exact .number

/-! ## Units by number -/

theorem length_hexDigits (h : n < 0x10000) : (hexDigits 4 n).length = 4 := by
  have hlen : (Nat.toDigits 16 n).length ≤ 4 := (Nat.length_toDigits_le_iff (by decide) (by decide)).2 h
  rw [hexDigits, List.length_append, List.length_replicate]
  omega

theorem hexUnit?_hexDigits (h : n < 0x10000) : hexUnit? (hexDigits 4 n ++ r) = some (n, r) := by
  have hread := numberIn?_hexDigits 4 n
  have hlen := length_hexDigits h
  match hexDigits 4 n, hlen, hread with
  | [a, b, c, d], _, hread => simp [hexUnit?, hread]

theorem stringPoints_unitEscape (h : n < 0x10000) :
    stringPoints (fuel + 1) (unitEscape n ++ r) =
      (stringPoints fuel r).map fun p => (n :: p.1, p.2) := by
  rw [unitEscape, List.cons_append, List.cons_append, stringPoints, if_neg (by decide),
    if_neg (by decide), if_pos rfl]
  simp only [hexUnit?_hexDigits h, Option.bind_eq_bind, Option.bind_some]
  cases stringPoints fuel r <;> rfl

theorem stringPoints_shortEscape {e : Char} (h : shortEscape? e = some c) :
    stringPoints (fuel + 1) (['\\', e] ++ r) =
      (stringPoints fuel r).map fun p => (c.toNat :: p.1, p.2) := by
  rw [List.cons_append, List.singleton_append, stringPoints, if_neg (by decide), if_neg (by decide),
    if_pos rfl]
  · simp only [h, Option.bind_eq_bind, Option.bind_some]
    cases stringPoints fuel r <;> rfl
  · rintro rfl
    cases h

theorem stringPoints_plain (hquote : c ≠ '"') (hback : c ≠ '\\') (h : 32 ≤ c.toNat) :
    stringPoints (fuel + 1) ([c] ++ r) = (stringPoints fuel r).map fun p => (c.toNat :: p.1, p.2) := by
  rw [List.singleton_append, stringPoints.eq_def]
  simp only [hquote, hback, Nat.not_lt.2 h, if_false]

/-! ## Texts -/

/-- **A unit is read as itself.** -/
theorem stringPoints_escapeUnit (h : n < 0x10000) (r : List Char) (fuel : Nat) :
    stringPoints (fuel + 1) (escapeUnit n ++ r) = (stringPoints fuel r).map fun p => (n :: p.1, p.2) := by
  have hescaped := escaped_escapeUnit n
  generalize escapeUnit n = written at hescaped ⊢
  cases hescaped with
  | short hshort hc => rw [stringPoints_shortEscape hshort, hc]
  | plain hc hquote hback hlow => rw [stringPoints_plain hquote hback (hc ▸ hlow), hc]
  | number => exact stringPoints_unitEscape h

/-- Units are read up to the closing quote, and what stands behind it is left. -/
theorem stringPoints_quoted (r : List Char) (fuel : Nat) : ∀ {ps : Points}, (∀ n ∈ ps, n < 0x10000) →
    stringPoints (fuel + ps.length + 1) (ps.flatMap escapeUnit ++ '"' :: r) = some (ps, r)
  | [], _ => rfl
  | n :: ps, h => by
    obtain ⟨hn, hps⟩ := List.forall_mem_cons.1 h
    rw [List.flatMap_cons, List.length_cons, List.append_assoc, ← Nat.add_assoc, stringPoints_escapeUnit hn,
      stringPoints_quoted r fuel hps]
    rfl

theorem length_le_flatMap_escapeUnit (ps : Points) : ps.length ≤ (ps.flatMap escapeUnit).length := by
  have hone (n : Nat) : 1 ≤ (escapeUnit n).length := by
    have hescaped := escaped_escapeUnit n
    generalize escapeUnit n = written at hescaped ⊢
    cases hescaped with
    | short => simp
    | plain => simp
    | number => simp [unitEscape]
  induction ps with
  | nil => exact Nat.le_refl 0
  | cons n ps ih =>
    rw [List.flatMap_cons, List.length_append, List.length_cons, Nat.add_comm]
    exact Nat.add_le_add (hone n) ih

/-- **A written text is read with its pairs made one.** -/
theorem readString_quoted (h : ps.AreCodes) (r : List Char) :
    readString (ps.units.flatMap escapeUnit ++ '"' :: r) = .ok (ps.merged, r) := by
  have hle := length_le_flatMap_escapeUnit ps.units
  obtain ⟨fuel, hfuel⟩ : ∃ fuel, (ps.units.flatMap escapeUnit ++ '"' :: r).length =
      fuel + ps.units.length := by
    refine ⟨(ps.units.flatMap escapeUnit ++ '"' :: r).length - ps.units.length, ?_⟩
    rw [List.length_append]
    omega
  rw [readString, hfuel, stringPoints_quoted r fuel (Points.units_lt h)]
  exact congrArg (fun qs => Except.ok (qs, r)) (Points.merged_units h)

/-! ## Lines -/

/-- What is read as a number holds digits only. -/
theorem isSome_of_numberFrom? {base m : Nat} {cs : List Char} (h : numberFrom? base n cs = some m) :
    ∀ c ∈ cs, (digitIn? base c).isSome = true := by
  induction cs generalizing n with
  | nil => nofun
  | cons c cs ih =>
    obtain ⟨d, hd, hrest⟩ := Option.bind_eq_some_iff.1 h
    exact List.forall_mem_cons.2 ⟨by rw [hd]; rfl, ih hrest⟩

theorem not_mem_unitEscape : '\n' ∉ unitEscape n := by
  intro h
  simp only [unitEscape, List.mem_cons, Char.reduceEq, false_or] at h
  exact absurd (isSome_of_numberFrom? (numberIn?_hexDigits 4 n) _ h) (by decide)

/-- A written unit stands on one line. -/
theorem not_mem_escapeUnit (n : Nat) : '\n' ∉ escapeUnit n := by
  have hescaped := escaped_escapeUnit n
  generalize escapeUnit n = written at hescaped ⊢
  cases hescaped with
  | short h =>
    intro hmem
    obtain rfl := by simpa using hmem
    cases h
  | plain hc _ _ hlow =>
    intro hmem
    obtain rfl := List.mem_singleton.1 hmem
    exact absurd (hc ▸ hlow) (by decide)
  | number => exact not_mem_unitEscape

theorem not_mem_quote (ps : Points) : '\n' ∉ (Json.quote ps).toList := by
  simp [Json.quote, not_mem_escapeUnit]

end

end CloudScaffold.Json
