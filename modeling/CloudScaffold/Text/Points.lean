import CloudScaffold.Text.Case
import CloudScaffold.Text.Literal
/-!
# Texts of code points

Escapes by number can write code points that are no characters: the halves of pairs of 16-bit units.
`Points` is a text that may hold them. Two halves that make a pair stay apart in such a text, though they
are the units of one character (`units`); `merged` puts that character in their place, which changes no unit
(`merged_units`, `units_merged`).

A text leaves as characters: `joined` shows each half that is left as the replacement character, and
`chars?` refuses a text with such a half. A text of characters alone comes back as it went in
(`chars_ofChars`, `joined_ofChars`, `toString_ofString`).
-/
namespace CloudScaffold.Text

/-- A text as the numbers of its code points. -/
abbrev Points := List Nat

/-- Whether a code point is the first half of a pair. -/
def isHighHalf (n : Nat) : Bool := 0xd800 ≤ n && n < 0xdc00

/-- Whether a code point is the second half of a pair. -/
def isLowHalf (n : Nat) : Bool := 0xdc00 ≤ n && n < 0xe000

def isHalf (n : Nat) : Bool := isHighHalf n || isLowHalf n

/-- The code point of the pair that two halves make. -/
def pairPoint (high low : Nat) : Nat := 0x10000 + (high - 0xd800) * 0x400 + (low - 0xdc00)

/-- The 16-bit units of a code point: itself, or the halves of a pair. -/
def unitsOf (p : Nat) : List Nat :=
  if p < 0x10000 then [p]
  else [0xd800 + (p - 0x10000) / 0x400, 0xdc00 + (p - 0x10000) % 0x400]

namespace Points

def ofChars (cs : List Char) : Points := cs.map Char.toNat

def ofString (s : String) : Points := ofChars s.toList

/-- Whether all numbers are those of code points. -/
def AreCodes (ps : Points) : Prop := ∀ p ∈ ps, p < 0x110000

instance : DecidablePred AreCodes := fun ps => List.decidableBAll _ ps

def units (ps : Points) : Points := ps.flatMap unitsOf

/-- A code point in front of a text, one with the half that begins the text if the two make a pair. -/
def merge (p : Nat) : Points → Points
  | [] => [p]
  | q :: r => if isHighHalf p && isLowHalf q then pairPoint p q :: r else p :: q :: r

/-- The text with one code point for each two halves that stand next to each other and make a pair. -/
def merged (ps : Points) : Points := ps.foldr merge []

/-- The characters of a text; in place of each half stands NUL, which no form allows. -/
def chars (ps : Points) : List Char := ps.map Char.ofNat

/-- The characters of a text; none if there is a half in it. -/
def chars? (ps : Points) : Option (List Char) := if ps.any isHalf then none else some ps.chars

/-- The characters of a text with its pairs made one. A half that is left becomes the replacement
character. -/
def joined (ps : Points) : List Char := ps.merged.map fun p => if isHalf p then '\ufffd' else .ofNat p

def toString (ps : Points) : String := .ofList ps.joined

/-- A text in lower case. A half ends a word, as the end of a text does. -/
def lower (ps : Points) : Points :=
  let (word, rest) := ps.foldr (fun p (word, rest) =>
    if isHalf p then ([], p :: (ofChars (lowerChars word) ++ rest))
    else (Char.ofNat p :: word, rest)) (([], []) : List Char × Points)
  ofChars (lowerChars word) ++ rest

/-- One code point of a literal in the given quotes; a half is shown by its number. -/
def literalPoint (quote : Char) (p : Nat) : List Char :=
  if isHalf p then '\\' :: 'u' :: hexDigits 4 p else literalChar quote (.ofNat p)

/-- A text as a message shows it. -/
def literal (ps : Points) : String :=
  let q := literalQuote ps.chars
  .ofList (q :: ps.flatMap (literalPoint q) ++ [q])

theorem not_isHalf_toNat (c : Char) : isHalf c.toNat = false := by
  have valid := c.valid
  have same : c.val.toNat = c.toNat := rfl
  simp only [UInt32.isValidChar, Nat.isValidChar, same] at valid
  simp only [isHalf, isHighHalf, isLowHalf, Bool.or_eq_false_iff, Bool.and_eq_false_iff,
    decide_eq_false_iff_not]
  omega

theorem not_isHighHalf_toNat (c : Char) : isHighHalf c.toNat = false :=
  (Bool.or_eq_false_iff.1 (not_isHalf_toNat c)).1

theorem chars_ofChars (cs : List Char) : chars (ofChars cs) = cs := by
  simp [chars, ofChars, Function.comp_def]

theorem ofChars_inj {cs ds : List Char} : ofChars cs = ofChars ds ↔ cs = ds :=
  ⟨fun h => by rw [← chars_ofChars cs, h, chars_ofChars], fun h => congrArg _ h⟩

/-! ## Pairs -/

section
variable {p q : Nat} {ps qs : Points}

theorem merge_of_not (h : isHighHalf p = false) (ps : Points) : merge p ps = p :: ps := by
  cases ps with
  | nil => rfl
  | cons q r => simp [merge, h]

theorem unitsOf_of_isHalf (h : isHalf p = true) : unitsOf p = [p] := by
  simp only [isHalf, isHighHalf, isLowHalf, Bool.or_eq_true, Bool.and_eq_true, decide_eq_true_eq] at h
  exact if_pos (by omega)

/-- The units of a text are 16-bit units. -/
theorem units_lt (h : ps.AreCodes) : ∀ n ∈ ps.units, n < 0x10000 := by
  intro n hn
  obtain ⟨p, hp, hmem⟩ := List.mem_flatMap.1 hn
  have hlt : p < 0x110000 := h p hp
  unfold unitsOf at hmem
  split at hmem
  · next hbasic => exact List.mem_singleton.1 hmem ▸ hbasic
  · simp only [List.mem_cons, List.not_mem_nil, or_false] at hmem
    omega

/-- Two halves are the units of the code point that they make. -/
theorem unitsOf_pairPoint (hp : isHighHalf p = true) (hq : isLowHalf q = true) :
    unitsOf (pairPoint p q) = [p, q] := by
  simp only [isHighHalf, isLowHalf, Bool.and_eq_true, decide_eq_true_eq] at hp hq
  have hhigh : 0xd800 + (pairPoint p q - 0x10000) / 0x400 = p := by
    unfold pairPoint
    omega
  have hlow : 0xdc00 + (pairPoint p q - 0x10000) % 0x400 = q := by
    unfold pairPoint
    omega
  have hbeyond : ¬ pairPoint p q < 0x10000 := by
    unfold pairPoint
    omega
  rw [unitsOf, if_neg hbeyond, hhigh, hlow]

/-- The units of a code point make it again. -/
theorem foldr_merge_unitsOf (h : p < 0x110000) (ps : Points) : (unitsOf p).foldr merge ps = merge p ps := by
  unfold unitsOf
  split
  · rfl
  · have hhigh : isHighHalf (0xd800 + (p - 0x10000) / 0x400) = true := by
      simp only [isHighHalf, Bool.and_eq_true, decide_eq_true_eq]
      omega
    have hlow : isLowHalf (0xdc00 + (p - 0x10000) % 0x400) = true := by
      simp only [isLowHalf, Bool.and_eq_true, decide_eq_true_eq]
      omega
    have hlow' : isHighHalf (0xdc00 + (p - 0x10000) % 0x400) = false := by
      simp only [isHighHalf, Bool.and_eq_false_iff, decide_eq_false_iff_not]
      omega
    have hself : isHighHalf p = false := by
      simp only [isHighHalf, Bool.and_eq_false_iff, decide_eq_false_iff_not]
      omega
    have hpair : pairPoint (0xd800 + (p - 0x10000) / 0x400) (0xdc00 + (p - 0x10000) % 0x400) = p := by
      unfold pairPoint
      omega
    rw [List.foldr_cons, List.foldr_cons, List.foldr_nil, merge_of_not hlow', merge, hhigh, hlow, hpair,
      merge_of_not hself]
    rfl

/-- **Units make the same text as the code points that they came from.** -/
theorem merged_units (h : ps.AreCodes) : ps.units.merged = ps.merged := by
  induction ps with
  | nil => rfl
  | cons p ps ih =>
    obtain ⟨hp, hps⟩ := List.forall_mem_cons.1 h
    have hrest : (ps.flatMap unitsOf).foldr merge [] = ps.foldr merge [] := ih hps
    rw [units, merged, List.flatMap_cons, List.foldr_append, hrest, foldr_merge_unitsOf hp]
    rfl

theorem units_merge (p : Nat) (ps : Points) : (merge p ps).units = unitsOf p ++ ps.units := by
  cases ps with
  | nil => rfl
  | cons q r =>
    rw [merge]
    split
    · next h =>
      obtain ⟨hp, hq⟩ := Bool.and_eq_true_iff.1 h
      have hhigh : unitsOf p = [p] := unitsOf_of_isHalf (by rw [isHalf, hp, Bool.true_or])
      have hlow : unitsOf q = [q] := unitsOf_of_isHalf (by rw [isHalf, hq, Bool.or_true])
      rw [units, units, List.flatMap_cons, List.flatMap_cons, unitsOf_pairPoint hp hq, hhigh, hlow]
      rfl
    · rfl

/-- To make pairs one changes no unit. -/
theorem units_merged (ps : Points) : ps.merged.units = ps.units := by
  induction ps with
  | nil => rfl
  | cons p ps ih =>
    have hcons : merged (p :: ps) = merge p (merged ps) := rfl
    rw [hcons, units_merge, ih]
    rfl

end

/-! ## Characters -/

theorem merged_ofChars (cs : List Char) : merged (ofChars cs) = ofChars cs := by
  induction cs with
  | nil => rfl
  | cons c cs ih =>
    have hcons : merged (ofChars (c :: cs)) = merge c.toNat (merged (ofChars cs)) := rfl
    rw [hcons, ih, merge_of_not (not_isHighHalf_toNat c)]
    rfl

theorem joined_ofChars (cs : List Char) : joined (ofChars cs) = cs := by
  rw [joined, merged_ofChars, ofChars, List.map_map]
  simp [Function.comp_def, not_isHalf_toNat]

theorem toString_ofString (s : String) : toString (ofString s) = s := by
  rw [toString, ofString, joined_ofChars, String.ofList_toList]

theorem ofString_append (s t : String) : ofString (s ++ t) = ofString s ++ ofString t := by
  rw [ofString, String.toList_append, ofChars, List.map_append]
  rfl

theorem areCodes_ofChars (cs : List Char) : (ofChars cs).AreCodes := by
  intro p hp
  obtain ⟨c, -, rfl⟩ := List.mem_map.1 hp
  have valid := c.valid
  have same : c.val.toNat = c.toNat := rfl
  simp only [UInt32.isValidChar, Nat.isValidChar, same] at valid
  omega

end Points

end CloudScaffold.Text
