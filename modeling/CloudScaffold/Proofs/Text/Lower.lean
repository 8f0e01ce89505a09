import CloudScaffold.Proofs.Number.Written
import CloudScaffold.Text.Slug
/-!
# What is left of a text in lower case

The lower case of a letter can depend on its surroundings, and it can be several letters. Neither matters
once all but lower-case ASCII letters and digits are sifted out: then each letter gives what it gives on
its own (`filter_lowerAfter`), so blanks around a text have no part in it (`filter_lowerChars_trim`). A text
of ASCII without capitals is in lower case already (`lowerAfter_of_isLowerAscii`).
-/
namespace CloudScaffold.Text

/-- A character of ASCII that is no capital letter. -/
def isLowerAscii (c : Char) : Bool := c.toNat < 128 && !isAsciiUpper c

section
variable {c : Char} {cs : List Char}

theorem isSlugChar_iff : isSlugChar c = true ↔ 'a' ≤ c ∧ c ≤ 'z' ∨ '0' ≤ c ∧ c ≤ '9' := by
  simp [isSlugChar, isAsciiLower, isAsciiDigit]

theorem isSlugChar_lt (h : isSlugChar c = true) : c.toNat < 128 := by
  rw [isSlugChar_iff] at h
  simp only [Char.le_def, UInt32.le_iff_toNat_le] at h
  rcases h with ⟨-, h⟩ | ⟨-, h⟩
  · exact Nat.lt_of_le_of_lt h (by decide)
  · exact Nat.lt_of_le_of_lt h (by decide)

theorem isLowerAscii_of_isSlugChar (h : isSlugChar c = true) : isLowerAscii c = true :=
  Number.char_of_code (fun c => isSlugChar c = true → isLowerAscii c = true) (by decide) (isSlugChar_lt h) h

theorem isBlank_of_isSlugChar (h : isSlugChar c = true) : isBlank c = false :=
  Number.char_of_code (fun c => isSlugChar c = true → isBlank c = false) (by decide) (isSlugChar_lt h) h

/-- What a letter gives in lower case, sifted, on its own. -/
def slugOf (c : Char) : List Char := (lowerChar c).filter isSlugChar

/-- The surroundings of a letter tell only two sigmas apart. -/
theorem filter_lowerAfter (before cs : List Char) :
    (lowerAfter before cs).filter isSlugChar = cs.flatMap slugOf := by
  have hsigma : [finalSigma].filter isSlugChar = slugOf capitalSigma := by decide +kernel
  induction cs generalizing before with
  | nil => rfl
  | cons c r ih =>
    rw [lowerAfter, List.filter_append, ih, List.flatMap_cons]
    congr 1
    split
    · next h =>
      simp only [Bool.and_eq_true, decide_eq_true_eq] at h
      rw [h.1.1, hsigma]
    · rfl

theorem slugOf_of_isBlank (h : isBlank c = true) : slugOf c = [] := by
  obtain ⟨r, hr, hlow, hhigh⟩ := (CharSet.has_iff blanks c).1 h
  have hall : ∀ r ∈ blanks, ∀ i < r.2 + 1 - r.1, slugOf (.ofNat (r.1 + i)) = [] := by decide +kernel
  have hc := hall r hr (c.toNat - r.1) (by omega)
  rwa [Nat.add_sub_cancel' hlow, Char.ofNat_toNat] at hc

/-- Blanks around a text give nothing. -/
theorem filter_lowerChars_trim (cs : List Char) :
    (lowerChars (trimChars cs)).filter isSlugChar = (lowerChars cs).filter isSlugChar := by
  obtain ⟨front, back, hcs, hfront, hback⟩ := trimChars_split cs
  have hnone {bs : List Char} (hbs : ∀ c ∈ bs, isBlank c = true) : bs.flatMap slugOf = [] :=
    List.flatMap_eq_nil_iff.2 fun c hc => slugOf_of_isBlank (hbs c hc)
  rw [lowerChars, lowerChars, filter_lowerAfter, filter_lowerAfter]
  conv => rhs; rw [hcs]
  rw [List.flatMap_append, List.flatMap_append, hnone hfront, hnone hback, List.nil_append,
    List.append_nil]

end

end CloudScaffold.Text
