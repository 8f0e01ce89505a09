import CloudScaffold.Proofs.Number.Written
import CloudScaffold.Proofs.Yaml.Words
import CloudScaffold.Yaml.Document
/-!
# Texts that look like numbers

The forms of whole numbers and decimals differ in their signs, bases, exponents and parts of base sixty,
but they are made of a few characters (`isFormChar`), with colons only inside (`IsUnsigned`). So whatever
looks like a number is a word at the end of its line, and nothing in it is taken for a token of another
kind (`isWord_of_isNumber`).
-/
namespace CloudScaffold.Yaml

open Text

/-- The characters of numbers, but for the colons of base sixty. -/
def isFormChar (c : Char) : Bool := c.isAlphanum || ['_', '+', '-', '.'].contains c

theorem isAlphanum_iff {c : Char} : c.isAlphanum = true ↔
    ((65 ≤ c.toNat ∧ c.toNat ≤ 90) ∨ (97 ≤ c.toNat ∧ c.toNat ≤ 122)) ∨ (48 ≤ c.toNat ∧ c.toNat ≤ 57) := by
  show ((decide ('A'.val ≤ c.val ∧ c.val ≤ 'Z'.val) || (decide ('a'.val ≤ c.val) && decide (c.val ≤ 'z'.val))) ||
    (decide ('0'.val ≤ c.val) && decide (c.val ≤ '9'.val))) = true ↔ _
  simp only [Bool.or_eq_true, Bool.and_eq_true, decide_eq_true_eq, UInt32.le_iff_toNat_le]
  rfl

theorem isFormChar_lt {c : Char} (h : isFormChar c = true) : c.toNat < 128 := by
  simp only [isFormChar, Bool.or_eq_true, isAlphanum_iff, List.contains_eq_mem, decide_eq_true_eq, List.mem_cons,
    List.not_mem_nil, or_false] at h
  rcases h with h | h
  · omega
  · rcases h with rfl | rfl | rfl | rfl <;> decide

theorem isFormChar_spec {c : Char} (h : isFormChar c = true) :
    isPrintable c = true ∧ isGap c = false ∧ c ∉ firmIndicators :=
  Number.char_of_code
    (fun c => isFormChar c = true → isPrintable c = true ∧ isGap c = false ∧ c ∉ firmIndicators)
    (by decide) (isFormChar_lt h) h

theorem isFormChar_of_isDigit {c : Char} (h : c.isDigit = true) : isFormChar c = true := by
  simp [isFormChar, Char.isAlphanum, h]

theorem isFormChar_of_isDigitOrLow {c : Char} (h : isDigitOrLow c = true) : isFormChar c = true := by
  rcases Bool.or_eq_true_iff.1 h with h | h
  · exact isFormChar_of_isDigit h
  · rw [beq_iff_eq.1 h]
    decide

/-! ## Parts between colons -/

section
variable {α : Type} [DecidableEq α] {mark c : α} {cs : List α}

/-- What stands in a text is a mark, or stands in one of its parts. -/
theorem mem_partsAt (h : c ∈ cs) : c = mark ∨ ∃ p ∈ partsAt mark cs, c ∈ p := by
  obtain ⟨p, ps, hp⟩ := List.exists_cons_of_ne_nil (partsAt_ne_nil mark cs)
  rw [← intercalate_partsAt mark cs, hp, intercalate_cons, List.mem_append, List.mem_flatMap] at h
  rw [hp]
  rcases h with h | ⟨q, hq, h⟩
  · exact .inr ⟨p, List.mem_cons_self, h⟩
  · rcases List.mem_append.1 h with h | h
    · exact .inl (List.mem_singleton.1 h)
    · exact .inr ⟨q, List.mem_cons_of_mem p hq, h⟩

/-- Behind a mark at the end, the last part is empty. -/
theorem nil_mem_tail_partsAt : ∀ {cs : List α}, cs.getLast? = some mark → [] ∈ (partsAt mark cs).tail
  | [c], h => by
    obtain rfl : c = mark := by simpa using h
    simp [partsAt]
  | c :: d :: cs, h => by
    have hrest : [] ∈ (partsAt mark (d :: cs)).tail := nil_mem_tail_partsAt (by simpa using h)
    obtain ⟨p, ps, hp⟩ := List.exists_cons_of_ne_nil (partsAt_ne_nil mark (d :: cs))
    by_cases hc : c = mark
    · rw [partsAt, if_pos hc]
      exact List.mem_of_mem_tail hrest
    · rw [partsAt_cons_of_ne hc hp]
      rwa [hp] at hrest

end

/-! ## Forms -/

/-- What forms of numbers have in common, but for signs. -/
structure IsUnsigned (cs : List Char) : Prop where
  ne : cs ≠ []
  chars : ∀ c ∈ cs, c = ':' ∨ isFormChar c = true
  last : cs.getLast? ≠ some ':'

section
variable {cs : List Char} {first : Char → Bool}

theorem IsUnsigned.of_all (hne : cs ≠ []) (h : ∀ c ∈ cs, isFormChar c = true) : IsUnsigned cs where
  ne := hne
  chars c hc := .inr (h c hc)
  last hlast := absurd (h ':' (List.mem_of_getLast? hlast)) (by decide)

theorem ne_nil_of_startsThen {p q : Char → Bool} (h : startsThen p q cs = true) : cs ≠ [] := by
  rintro rfl
  cases h

theorem isDigitOrLow_of_startsThen (hfirst : ∀ c, first c = true → c.isDigit = true)
    (h : startsThen first isDigitOrLow cs = true) : ∀ c ∈ cs, isDigitOrLow c = true := by
  cases cs with
  | nil => cases h
  | cons d r =>
    obtain ⟨hd, hr⟩ := Bool.and_eq_true_iff.1 h
    rw [List.forall_mem_cons]
    exact ⟨by rw [isDigitOrLow, hfirst d hd, Bool.true_or], List.all_eq_true.1 hr⟩

theorem isDigit_of_isSixtieth {p : List Char} (h : isSixtieth p = true) : ∀ c ∈ p, c.isDigit = true := by
  match p, h with
  | [a], h => simpa [isSixtieth] using h
  | [a, b], h =>
    simp only [isSixtieth, Bool.and_eq_true, decide_eq_true_eq] at h
    obtain ⟨⟨hlow, hhigh⟩, hb⟩ := h
    have ha : a.isDigit = true := by
      simp only [Char.isDigit, Bool.and_eq_true, decide_eq_true_eq]
      exact ⟨hlow, UInt32.le_trans hhigh (by decide)⟩
    simp [ha, hb]

/-- A form in base sixty: a first part, and a last one that is not empty. -/
theorem IsUnsigned.of_isSixtieths (hfirst : ∀ c, first c = true → c.isDigit = true)
    (h : isSixtieths (startsThen first isDigitOrLow) cs = true) : IsUnsigned cs := by
  match hparts : partsAt ':' cs with
  | [] | [_] => simp [isSixtieths, hparts] at h
  | p :: q :: r =>
    simp only [isSixtieths, hparts, Bool.and_eq_true] at h
    obtain ⟨hp, hrest⟩ := h
    have hall : ∀ x ∈ partsAt ':' cs, ∀ c ∈ x, isDigitOrLow c = true := by
      rw [hparts, List.forall_mem_cons]
      refine ⟨isDigitOrLow_of_startsThen hfirst hp, fun x hx c hc => ?_⟩
      rw [isDigitOrLow, isDigit_of_isSixtieth (List.all_eq_true.1 hrest x hx) c hc, Bool.true_or]
    refine ⟨?_, fun c hc => ?_, fun hlast => ?_⟩
    · rintro rfl
      cases hparts
    · exact (mem_partsAt hc).imp_right fun ⟨x, hx, hcx⟩ => isFormChar_of_isDigitOrLow (hall x hx c hcx)
    · have hnil : [] ∈ (partsAt ':' cs).tail := nil_mem_tail_partsAt hlast
      rw [hparts] at hnil
      exact absurd (List.all_eq_true.1 hrest [] hnil) (by decide)

theorem isFormChar_of_digitIn? {c : Char} (h : (digitIn? 16 c).isSome = true) : isFormChar c = true := by
  have hrange : c.isAlphanum = true := by
    have hle {a b : Char} (h : (decide (a ≤ c) && decide (c ≤ b)) = true) :
        a.toNat ≤ c.toNat ∧ c.toNat ≤ b.toNat := by simpa [Char.le_def, UInt32.le_iff_toNat_le] using h
    simp only [digitIn?] at h
    rw [isAlphanum_iff]
    split at h
    · next hd => exact .inr (hle hd)
    · split at h
      · next hd =>
        obtain ⟨hlow, hhigh⟩ := hle hd
        exact .inl (.inr ⟨hlow, Nat.le_trans hhigh (by decide)⟩)
      · split at h
        · next hd =>
          obtain ⟨hlow, hhigh⟩ := hle hd
          exact .inl (.inl ⟨hlow, Nat.le_trans hhigh (by decide)⟩)
        · simp at h
  simp [isFormChar, hrange]

theorem isDigit_of_isNonZero {c : Char} (h : isNonZero c = true) : c.isDigit = true :=
  (Bool.and_eq_true_iff.1 h).1

/-- A whole number without its sign. -/
theorem IsUnsigned.of_isUnsignedInt (h : isUnsignedInt cs = true) : IsUnsigned cs := by
  have hprefix {r : List Char} {p : Char → Bool} (hr : r.all p = true)
      (hp : ∀ c, p c = true → isFormChar c = true) : ∀ c ∈ r, isFormChar c = true :=
    fun c hc => hp c (List.all_eq_true.1 hr c hc)
  unfold isUnsignedInt at h
  split at h
  · next r =>
    have hr := hprefix (Bool.and_eq_true_iff.1 h).2 fun c hc => by
      simp only [Bool.or_eq_true, beq_iff_eq] at hc
      rcases hc with (rfl | rfl) | rfl <;> decide
    exact .of_all (by simp) (by simpa using ⟨by decide, by decide, hr⟩)
  · next r =>
    have hr := hprefix (Bool.and_eq_true_iff.1 h).2 fun c hc => by
      simp only [Bool.or_eq_true, beq_iff_eq] at hc
      rcases hc with hc | rfl
      · exact isFormChar_of_digitIn? hc
      · decide
    exact .of_all (by simp) (by simpa using ⟨by decide, by decide, hr⟩)
  · next r _ _ =>
    have hr := hprefix h fun c hc => by
      simp only [Bool.or_eq_true, beq_iff_eq, Bool.and_eq_true, decide_eq_true_eq] at hc
      rcases hc with ⟨hlow, hhigh⟩ | rfl
      · refine isFormChar_of_isDigit ?_
        simp only [Char.isDigit, Bool.and_eq_true, decide_eq_true_eq]
        exact ⟨hlow, UInt32.le_trans hhigh (by decide)⟩
      · decide
    exact .of_all (by simp) (by simpa using ⟨by decide, hr⟩)
  · rcases Bool.or_eq_true_iff.1 h with h | h
    · exact .of_all (ne_nil_of_startsThen h) fun c hc =>
        isFormChar_of_isDigitOrLow (isDigitOrLow_of_startsThen (fun c => isDigit_of_isNonZero) h c hc)
    · exact .of_isSixtieths (fun c => isDigit_of_isNonZero) h

theorem isFormChar_of_isExponent {e : List Char} (h : isExponent e = true) : ∀ c ∈ e, isFormChar c = true := by
  match e, h with
  | [], _ => simp
  | a :: s :: d :: r, h =>
    simp only [isExponent, Bool.and_eq_true, Bool.or_eq_true, beq_iff_eq] at h
    obtain ⟨⟨ha, hs⟩, hr⟩ := h
    rw [List.forall_mem_cons, List.forall_mem_cons]
    refine ⟨?_, ?_, fun c hc => isFormChar_of_isDigit (List.all_eq_true.1 hr c hc)⟩
    · rcases ha with rfl | rfl <;> decide
    · rcases hs with rfl | rfl <;> decide

/-- What stands behind a point, up to its exponent. -/
theorem isFormChar_of_fraction {r : List Char} (h : isExponent (r.dropWhile isDigitOrLow) = true) :
    ∀ c ∈ r, isFormChar c = true := by
  intro c hc
  rw [← List.takeWhile_append_dropWhile (p := isDigitOrLow) (l := r), List.mem_append] at hc
  rcases hc with hc | hc
  · exact isFormChar_of_isDigitOrLow (List.all_eq_true.1 List.all_takeWhile c hc)
  · exact isFormChar_of_isExponent h c hc

/-- A text around a point. -/
theorem IsUnsigned.of_point {whole r : List Char} (hwhole : ∀ c ∈ whole, c = ':' ∨ isFormChar c = true)
    (hr : ∀ c ∈ r, isFormChar c = true) : IsUnsigned (whole ++ '.' :: r) := by
  have hrest : ∀ c ∈ '.' :: r, isFormChar c = true := List.forall_mem_cons.2 ⟨by decide, hr⟩
  refine ⟨by simp, fun c hc => ?_, fun hlast => ?_⟩
  · rcases List.mem_append.1 hc with hc | hc
    · exact hwhole c hc
    · exact .inr (hrest c hc)
  · cases hend : ('.' :: r).getLast? with
    | none => simp at hend
    | some d =>
      rw [List.getLast?_append, hend, Option.some_or] at hlast
      obtain rfl := Option.some.inj hlast
      exact absurd (hrest ':' (List.mem_of_getLast? hend)) (by decide)

theorem IsUnsigned.of_word {words : List String} (h : words.contains (String.ofList cs) = true)
    (hwords : ∀ w ∈ words, w.toList ≠ [] ∧ w.toList.all isFormChar = true) : IsUnsigned cs := by
  obtain ⟨hne, hchars⟩ := hwords _ (List.contains_iff_mem.1 h)
  rw [String.toList_ofList] at hne hchars
  exact .of_all hne (List.all_eq_true.1 hchars)

/-- A decimal without its sign. -/
theorem IsUnsigned.of_isFloat (h : isFloat cs = true) : IsUnsigned (dropSign cs) := by
  simp only [isFloat] at h
  split at h
  · next hinf => exact .of_word hinf (by decide)
  · split at h
    · next hnan =>
      have hsame : dropSign (String.ofList cs).toList = (String.ofList cs).toList := by
        have hwords : ∀ w ∈ [".nan", ".NaN", ".NAN"], dropSign w.toList = w.toList := by decide
        exact hwords _ (List.contains_iff_mem.1 hnan)
      rw [String.toList_ofList] at hsame
      rw [hsame]
      exact .of_word hnan (by decide)
    · split at h
      · cases h
      · next whole r hcut =>
        obtain ⟨-, hpoint⟩ := cutAt?_eq_some_iff.1 hcut
        rw [hpoint]
        split at h
        · next hwhole =>
          obtain rfl := List.isEmpty_iff.1 hwhole
          exact .of_point (by simp) (isFormChar_of_fraction (Bool.and_eq_true_iff.1 h).2)
        · split at h
          · next hdigits =>
            refine .of_point (fun c hc => .inr ?_) (isFormChar_of_fraction h)
            exact isFormChar_of_isDigitOrLow (isDigitOrLow_of_startsThen (fun c hc => hc) hdigits c hc)
          · obtain ⟨hsixtieths, hexp⟩ := Bool.and_eq_true_iff.1 h
            have hempty : r.dropWhile isDigitOrLow = [] := List.isEmpty_iff.1 hexp
            exact .of_point (IsUnsigned.of_isSixtieths (fun c hc => hc) hsixtieths).chars
              (isFormChar_of_fraction (hempty ▸ rfl))

/-- Whether a text has a form of numbers. -/
def isNumber (cs : List Char) : Bool := isInt cs || isFloat cs

theorem isUnsigned_of_isNumber (h : isNumber cs = true) : IsUnsigned (dropSign cs) :=
  (Bool.or_eq_true_iff.1 h).elim .of_isUnsignedInt .of_isFloat

theorem dropSign_cases (cs : List Char) : dropSign cs = cs ∨ ∃ s, (s = '+' ∨ s = '-') ∧ cs = s :: dropSign cs := by
  unfold dropSign
  split
  · exact .inr ⟨'+', .inl rfl, rfl⟩
  · exact .inr ⟨'-', .inr rfl, rfl⟩
  · exact .inl rfl

theorem isWord_char {c : Char} (h : c = ':' ∨ isFormChar c = true) :
    isPrintable c = true ∧ isGap c = false ∧ c ∉ firmIndicators := by
  rcases h with rfl | h
  · decide
  · exact isFormChar_spec h

/-- **A number is a word**, at the end of its line. -/
theorem isWord_of_isNumber (h : isNumber cs = true) :
    IsWord cs [] ∧ ∀ c ∈ cs, c = ':' ∨ isFormChar c = true := by
  obtain ⟨hne, hchars, hlast⟩ := isUnsigned_of_isNumber h
  have hall : ∀ c ∈ cs, c = ':' ∨ isFormChar c = true := by
    rcases dropSign_cases cs with hcs | ⟨s, hs, hcs⟩
    · rwa [hcs] at hchars
    · rw [hcs, List.forall_mem_cons]
      refine ⟨.inr ?_, hchars⟩
      rcases hs with rfl | rfl <;> decide
  have hlast' : cs.getLast? = (dropSign cs).getLast? := by
    rcases dropSign_cases cs with hcs | ⟨s, -, hcs⟩
    · rw [hcs]
    · obtain ⟨d, r, hd⟩ := List.exists_cons_of_ne_nil hne
      refine (congrArg List.getLast? hcs).trans ?_
      rw [hd]
      simp
  refine ⟨⟨?_, fun c hc => (isWord_char (hall c hc)).2.1, fun c hc => ?_, .nil, fun _ => ⟨?_, ?_, ?_⟩⟩, hall⟩
  · rintro rfl
    exact hne rfl
  · exact (isWord_char (hall c (List.mem_of_head? hc))).2.2
  · rwa [hlast']
  · rintro rfl
    exact hne rfl
  · rintro rfl
    exact absurd (hall '?' (by simp)) (by decide)

end

end CloudScaffold.Yaml
