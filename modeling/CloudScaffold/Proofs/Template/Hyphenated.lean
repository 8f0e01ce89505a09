import CloudScaffold.Proofs.Text.Lower
import CloudScaffold.Template.Run
import Mathlib.Data.Bool.AllAny
/-!
# Names in lower case with hyphens

A text is put into lower case, and its low lines and spaces become hyphens. Whatever else the text holds
stays in the name. So the name is made of lower-case ASCII letters, digits and hyphens just if the text is
made of characters that come to these (`IsNameable`): `isHyphenated_apply_iff`.

Beyond ASCII there is one such character, the Kelvin sign. The lower case of any other has a character
beyond ASCII in it, which no name may hold (`exists_not_isNameChar`).
-/
namespace CloudScaffold

open Text

/-- A lower-case ASCII letter, a digit or a hyphen. -/
def IsNameChar (c : Char) : Prop := 'a' ≤ c ∧ c ≤ 'z' ∨ '0' ≤ c ∧ c ≤ '9' ∨ c = '-'

instance : DecidablePred IsNameChar := fun _ => inferInstanceAs (Decidable (_ ∨ _))

/-- A text of lower-case ASCII letters, digits and hyphens. -/
def IsHyphenated (s : String) : Prop := ∀ c ∈ s.toList, IsNameChar c

instance : DecidablePred IsHyphenated := fun s => List.decidableBAll _ s.toList

/-- The one character beyond ASCII whose lower case is an ASCII letter. -/
def kelvinSign : Char := .ofNat 0x212a

/-- A character that comes to a lower-case ASCII letter, a digit or a hyphen. -/
def IsNameable (c : Char) : Prop :=
  'a' ≤ c ∧ c ≤ 'z' ∨ 'A' ≤ c ∧ c ≤ 'Z' ∨ '0' ≤ c ∧ c ≤ '9' ∨ c ∈ ['-', '_', ' ', kelvinSign]

instance : DecidablePred IsNameable := fun _ => inferInstanceAs (Decidable (_ ∨ _))

/-- What becomes of a character in lower case. -/
def hyphenOf (c : Char) : Char := if c == '_' || c == ' ' then '-' else c

section
variable {c : Char} {n : Nat} {before cs : List Char}

theorem toList_apply_hyphenated (s : String) :
    (NameStyle.hyphenated.apply s).toList = (lowerChars s.toList).map hyphenOf := by
  simp [NameStyle.apply, lower, hyphenOf]

/-! ## Characters -/

theorem IsNameChar.lt (h : IsNameChar c) : c.toNat < 128 := by
  rcases or_assoc.2 h with h | rfl
  · exact isSlugChar_lt (isSlugChar_iff.2 h)
  · decide

/-- A code beyond ASCII is not that of a character of a name; if it is no code at all it stands for zero. -/
theorem not_isNameChar_ofNat (h : 128 ≤ n) : ¬ IsNameChar (hyphenOf (.ofNat n)) := by
  by_cases hn : n.isValidChar
  · have hcode : (Char.ofNat n).toNat = n := by
      rw [Char.ofNat, dif_pos hn]
      rfl
    intro hname
    unfold hyphenOf at hname
    split at hname
    · next hc =>
      simp only [Bool.or_eq_true, beq_iff_eq] at hc
      rcases hc with hc | hc <;> rw [hc] at hcode <;> simp at hcode <;> omega
    · have hlt := hname.lt
      omega
  · have hzero : Char.ofNat n = .ofNat 0 := by
      rw [Char.ofNat, dif_neg hn]
      rfl
    rw [hzero]
    decide

/-- A shift leads beyond ASCII from there, but for that of the Kelvin sign. -/
theorem le_of_image? {s : Shift} (hs : s ∈ lowerShifts) (hc : 128 ≤ c.toNat) (hk : c ≠ kelvinSign)
    (h : s.image? c.toNat = some n) : 128 ≤ n := by
  have hall : ∀ s ∈ lowerShifts, s.last < 128 ∨ (s.first = 0x212a ∧ s.last = 0x212a) ∨
      128 ≤ (s.first : Int) + s.distance := by decide +kernel
  have hcode : c.toNat ≠ 0x212a := by
    intro hcode
    rw [← Char.ofNat_toNat c, hcode] at hk
    exact hk rfl
  simp only [Shift.image?, Option.ite_none_right_eq_some, Option.some.injEq, Bool.and_eq_true,
    decide_eq_true_eq] at h
  obtain ⟨⟨⟨hfirst, hlast⟩, -⟩, rfl⟩ := h
  rcases hall s hs with hascii | ⟨hf, hl⟩ | hfar
  · omega
  · omega
  · omega

/-- **Beyond ASCII**, the lower case of a character holds one that no name may hold. -/
theorem exists_not_isNameChar (hc : 128 ≤ c.toNat) (hk : c ≠ kelvinSign) :
    ∃ d ∈ lowerChar c, ¬ IsNameChar (hyphenOf d) := by
  have hlower : lowerChar c = mapCase lowerTexts lowerShifts c := by
    have hcapital : ¬ ('A' ≤ c ∧ c ≤ 'Z') := by
      rintro ⟨-, hz⟩
      exact Nat.not_lt.2 hc (Nat.lt_of_le_of_lt hz (by decide))
    rw [lowerChar, if_neg (by simpa using hcapital), if_neg (by omega)]
  rw [hlower, mapCase]
  split
  · next t ht =>
    -- the one letter with a text of its own has a dot above in it
    simp only [lowerTexts, List.lookup_cons, List.lookup_nil] at ht
    split at ht
    · obtain rfl := Option.some.inj ht
      exact ⟨.ofNat 0x307, by decide, by decide⟩
    · cases ht
  · split
    · next m hm =>
      obtain ⟨s, hs, himage⟩ := List.exists_of_findSome?_eq_some hm
      exact ⟨_, List.mem_singleton_self _, not_isNameChar_ofNat (le_of_image? hs hc hk himage)⟩
    · refine ⟨c, List.mem_singleton_self c, ?_⟩
      have hself := not_isNameChar_ofNat hc
      rwa [Char.ofNat_toNat] at hself

theorem IsNameable.lt (h : IsNameable c) (hk : c ≠ kelvinSign) : c.toNat < 128 := by
  have hlt {last : Char} (hlast : last.toNat < 128) (hc : c ≤ last) : c.toNat < 128 :=
    Nat.lt_of_le_of_lt hc hlast
  rcases h with ⟨-, h⟩ | ⟨-, h⟩ | ⟨-, h⟩ | h
  · exact hlt (by decide) h
  · exact hlt (by decide) h
  · exact hlt (by decide) h
  · simp only [List.mem_cons, List.not_mem_nil, or_false] at h
    rcases h with rfl | rfl | rfl | h
    · decide
    · decide
    · decide
    · exact absurd h hk

/-- A character comes to characters of a name just if it is one of the list. -/
theorem forall_lowerChar_iff : (∀ d ∈ lowerChar c, IsNameChar (hyphenOf d)) ↔ IsNameable c := by
  by_cases hc : c.toNat < 128
  · rw [← List.all_iff_forall_prop]
    exact Number.char_of_code
      (fun c => (lowerChar c).all (decide <| IsNameChar <| hyphenOf ·) = true ↔ IsNameable c)
      (by decide +kernel) hc
  by_cases hk : c = kelvinSign
  · rw [hk, ← List.all_iff_forall_prop]
    decide +kernel
  · obtain ⟨d, hd, hnot⟩ := exists_not_isNameChar (Nat.not_lt.1 hc) hk
    exact iff_of_false (fun h => hnot (h d hd)) fun h => hc (h.lt hk)

/-! ## Texts -/

/-- The surroundings of a letter tell only two sigmas apart, and no name may hold either. -/
theorem forall_lowerAfter_iff : (∀ d ∈ lowerAfter before cs, IsNameChar (hyphenOf d)) ↔
    ∀ c ∈ cs, IsNameable c := by
  induction cs generalizing before with
  | nil => simp [lowerAfter]
  | cons c r ih =>
    rw [lowerAfter, List.forall_mem_append, ih, List.forall_mem_cons]
    refine and_congr_left fun _ => ?_
    split
    · next h =>
      simp only [Bool.and_eq_true, decide_eq_true_eq] at h
      rw [h.1.1, List.forall_mem_singleton]
      decide +kernel
    · exact forall_lowerChar_iff

/-- **A text makes a name in lower case with hyphens** just if all its characters come to those of a name. -/
theorem isHyphenated_apply_iff (s : String) :
    IsHyphenated (NameStyle.hyphenated.apply s) ↔ ∀ c ∈ s.toList, IsNameable c := by
  rw [IsHyphenated, toList_apply_hyphenated, List.forall_mem_map, lowerChars, forall_lowerAfter_iff]

end

namespace Draft

/-- A label with a suffix that fits makes a name just if the display name does. -/
theorem forall_label_iff (d : Draft) {suffix : String} (h : ∀ c ∈ suffix.toList, IsNameable c) :
    (∀ c ∈ (d.label suffix).toList, IsNameable c) ↔ ∀ c ∈ d.displayName.toList, IsNameable c := by
  unfold label
  split
  · rfl
  · have hrest : ∀ c ∈ "-".toList ++ suffix.toList, IsNameable c := by
      rw [List.forall_mem_append]
      exact ⟨List.all_iff_forall_prop.1 (by decide), h⟩
    rw [String.toList_append, String.toList_append, List.append_assoc, List.forall_mem_append]
    exact and_iff_left hrest

end Draft

end CloudScaffold
