import CloudScaffold.Text.CharSet
/-!
# Blanks

Blanks are the white space of Unicode together with the four information separators U+001C to
U+001F. `trim` drops the blanks at both ends; a text with no blank at either end stays as it is
(`trimChars_of_ends`), and trimming twice is trimming once (`trimChars_trimChars`).
-/
namespace CloudScaffold.Text

/-- The blank characters. -/
def blanks : CharSet :=
  [(0x9, 0xd), (0x1c, 0x20), (0x85, 0x85), (0xa0, 0xa0), (0x1680, 0x1680), (0x2000, 0x200a),
   (0x2028, 0x2029), (0x202f, 0x202f), (0x205f, 0x205f), (0x3000, 0x3000)]

def isBlank (c : Char) : Bool := blanks.has c

/-- A list without the blanks at its start. -/
def trimStart (cs : List Char) : List Char := cs.dropWhile isBlank

/-- A list without the blanks at its end. -/
def trimEnd (cs : List Char) : List Char := (cs.reverse.dropWhile isBlank).reverse

/-- A list without the blanks at its two ends. -/
def trimChars (cs : List Char) : List Char := trimEnd (trimStart cs)

/-- A text without the blanks at its two ends. -/
def trim (s : String) : String := .ofList (trimChars s.toList)

/-- A text of blanks only, the empty one included. -/
def allBlank (s : String) : Bool := s.toList.all isBlank

theorem allBlank_iff (s : String) : allBlank s = true ↔ ∀ c ∈ s.toList, isBlank c = true := by
  simp [allBlank]

theorem dropWhile_of_head {p : Char → Bool} {cs : List Char}
    (h : ∀ c ∈ cs.head?, p c = false) : cs.dropWhile p = cs := by
  cases cs with
  | nil => rfl
  | cons c r => simp [h c (by simp)]

theorem head_dropWhile {p : Char → Bool} (cs : List Char) :
    ∀ c ∈ (cs.dropWhile p).head?, p c = false := by
  induction cs with
  | nil => simp
  | cons c r ih => by_cases h : p c <;> simp_all

/-- A text that starts and ends with no blank is trimmed already. -/
theorem trimChars_of_ends {cs : List Char} (hs : ∀ c ∈ cs.head?, isBlank c = false)
    (he : ∀ c ∈ cs.getLast?, isBlank c = false) : trimChars cs = cs := by
  have hr : ∀ c ∈ cs.reverse.head?, isBlank c = false := by simpa using he
  rw [trimChars, trimStart, dropWhile_of_head hs, trimEnd, dropWhile_of_head hr,
    List.reverse_reverse]

/-- What `trimEnd` drops stands at the end. -/
theorem trimEnd_append (cs : List Char) :
    trimEnd cs ++ (cs.reverse.takeWhile isBlank).reverse = cs := by
  rw [trimEnd, ← List.reverse_append, List.takeWhile_append_dropWhile, List.reverse_reverse]

theorem getLast_trimEnd (cs : List Char) : ∀ c ∈ (trimEnd cs).getLast?, isBlank c = false := by
  have h := head_dropWhile (p := isBlank) cs.reverse
  simpa [trimEnd] using h

theorem head_trimChars (cs : List Char) : ∀ c ∈ (trimChars cs).head?, isBlank c = false := by
  intro c hc
  have h : c ∈ (trimStart cs).head? := by
    rw [← trimEnd_append (trimStart cs)]
    rw [trimChars] at hc
    cases ht : trimEnd (trimStart cs) with
    | nil => simp [ht] at hc
    | cons d r => simpa [ht] using hc
  exact head_dropWhile cs c h

/-- What is trimmed is blanks at the ends. -/
theorem trimChars_split (cs : List Char) : ∃ front back, cs = front ++ (trimChars cs ++ back) ∧
    (∀ c ∈ front, isBlank c = true) ∧ ∀ c ∈ back, isBlank c = true := by
  refine ⟨cs.takeWhile isBlank, ((trimStart cs).reverse.takeWhile isBlank).reverse, ?_,
    List.all_eq_true.1 List.all_takeWhile, fun c hc => ?_⟩
  · rw [trimChars, trimEnd_append, trimStart, List.takeWhile_append_dropWhile]
  · exact List.all_eq_true.1 List.all_takeWhile c (List.mem_reverse.1 hc)

/-- Nothing is left of blanks only. -/
theorem trimChars_eq_nil_iff {cs : List Char} : trimChars cs = [] ↔ ∀ c ∈ cs, isBlank c = true := by
  constructor
  · intro h
    obtain ⟨front, back, hcs, hfront, hback⟩ := trimChars_split cs
    rw [h, List.nil_append] at hcs
    rw [hcs]
    exact fun c hc => (List.mem_append.1 hc).elim (hfront c) (hback c)
  · intro h
    have hstart : trimStart cs = [] := by
      rw [trimStart, ← List.append_nil cs, List.dropWhile_append_of_pos h]
      rfl
    rw [trimChars, hstart]
    rfl

/-- Blanks around a text have no part in what is sifted out without blanks. -/
theorem filter_between {p : Char → Bool} (hp : ∀ c, isBlank c = true → p c = false)
    {front back : List Char} (hfront : ∀ c ∈ front, isBlank c = true)
    (hback : ∀ c ∈ back, isBlank c = true) (cs : List Char) :
    (front ++ (cs ++ back)).filter p = cs.filter p := by
  have hnone {bs : List Char} (hbs : ∀ c ∈ bs, isBlank c = true) : bs.filter p = [] :=
    List.filter_eq_nil_iff.2 fun c hc => by simp [hp c (hbs c hc)]
  rw [List.filter_append, List.filter_append, hnone hfront, hnone hback, List.nil_append,
    List.append_nil]

/-- No characters but blanks are lost. -/
theorem filter_trimChars {p : Char → Bool} (hp : ∀ c, isBlank c = true → p c = false)
    (cs : List Char) : (trimChars cs).filter p = cs.filter p := by
  obtain ⟨front, back, hcs, hfront, hback⟩ := trimChars_split cs
  conv => rhs; rw [hcs]
  exact (filter_between hp hfront hback _).symm

theorem trimChars_trimChars (cs : List Char) : trimChars (trimChars cs) = trimChars cs :=
  trimChars_of_ends (head_trimChars cs) (getLast_trimEnd _)

end CloudScaffold.Text
