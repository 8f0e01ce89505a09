import CloudScaffold.Proofs.Number.Numeral
/-!
# Digit signs

Superscripts, circled digits and their like are digit signs without a decimal value. A text of digit signs
is a numeral only if all of them are decimal digits: any other sign is brought down to a character that no
numeral holds, and there the digits end (`readInt_of_undecimal`).
-/
namespace CloudScaffold.Number

open CloudScaffold.Text

section
variable {c : Char} {cs : List Char} {s : String}

theorem le_toNat_of_undecimal (h : undecimalDigits.has c = true) : 128 ≤ c.toNat := by
  have beyond : ∀ r ∈ undecimalDigits, 128 ≤ r.1 := by decide
  obtain ⟨r, hr, hlo, -⟩ := (CharSet.has_iff _ _).1 h
  exact Nat.le_trans (beyond r hr) hlo

theorem isBlank_of_undecimal (h : undecimalDigits.has c = true) : isBlank c = false := by
  have apart : ∀ r ∈ undecimalDigits, ∀ b ∈ blanks, r.2 < b.1 ∨ b.2 < r.1 := by decide
  obtain ⟨r, hr, hlo, hhi⟩ := (CharSet.has_iff _ _).1 h
  rw [← Bool.not_eq_true, isBlank, CharSet.has_iff]
  rintro ⟨b, hb, h1, h2⟩
  have := apart r hr b hb
  omega

/-- A digit sign without a decimal value is brought down to what no numeral holds. -/
theorem plainChar_of_undecimal (h : isDigitSign c = true) (hc : isDigit c = false) :
    plainChar c = '?' := by
  have hset : undecimalDigits.has c = true := by simpa [isDigitSign, hc] using h
  have hnone : digitValue? c = none := by simpa [isDigit] using hc
  have hbeyond := le_toNat_of_undecimal hset
  rw [plainChar, if_neg (by omega), isBlank_of_undecimal hset, hnone]
  rfl

theorem plainChars_of_isDigitSign (h : ∀ c ∈ cs, isDigitSign c = true) :
    plainChars cs = cs.map fun c => if isDigit c then digitChar (digitOf c) else '?' := by
  by_cases hall : ∀ c ∈ cs, isDigit c = true
  · rw [plainChars_of_isDigit hall]
    exact List.map_congr_left fun c hc => by rw [if_pos (hall c hc)]
  · push Not at hall
    obtain ⟨d, hd, hdigit⟩ := hall
    have hdigit : isDigit d = false := by simpa using hdigit
    have hset : undecimalDigits.has d = true := by simpa [isDigitSign, hdigit] using h d hd
    have hascii : cs.all (·.toNat < 128) = false :=
      List.all_eq_false.2 ⟨d, hd, by simpa using le_toNat_of_undecimal hset⟩
    rw [plainChars, hascii, if_neg (by decide)]
    refine List.map_congr_left fun c hc => ?_
    by_cases hc' : isDigit c = true
    · rw [if_pos hc', plainChar_of_isDigit hc']
    · rw [if_neg hc', plainChar_of_undecimal (h c hc) (by simpa using hc')]

/-- Digits end at the first sign that is none. -/
theorem scanDigits_stops (hc : c ∈ cs) (hdigit : isDigit c = false) (after : Bool) :
    ∃ ds rest, scanDigits 10 after (cs.map fun c => if isDigit c then digitChar (digitOf c) else '?') =
      some (ds, '?' :: rest) := by
  induction cs generalizing after with
  | nil => cases hc
  | cons x xs ih =>
    by_cases hx : isDigit x = true
    · have hmem : c ∈ xs := (List.mem_cons.1 hc).resolve_left fun h => by simp [h, hx] at hdigit
      obtain ⟨ds, rest, hscan⟩ := ih hmem true
      refine ⟨digitOf x :: ds, rest, ?_⟩
      simp [scanDigits, hx, digitIn?_ten (digitOf_lt x), hscan]
    · have hmark : digitIn? 10 '?' = none := by decide
      refine ⟨[], xs.map fun c => if isDigit c then digitChar (digitOf c) else '?', ?_⟩
      simp [scanDigits, hx, hmark]

/-- **Digit signs are no numeral unless all of them are decimal digits.** -/
theorem readInt_of_undecimal (h : ∀ c ∈ s.toList, isDigitSign c = true) (hc : c ∈ s.toList)
    (hdigit : isDigit c = false) : ∃ e, readInt s = .error e := by
  obtain ⟨ds, rest, hscan⟩ := scanDigits_stops hc hdigit false
  have hsigns : (s.toList.map fun c => if isDigit c then digitChar (digitOf c) else '?') ≠ [] := by
    simpa using List.ne_nil_of_mem hc
  unfold readInt readIntIn
  rw [plainChars_of_isDigitSign h]
  obtain ⟨x, xs, hx⟩ := List.exists_cons_of_ne_nil hsigns
  have hfirst : isAsciiBlank x = false ∧ splitSign (x :: xs) = (false, x :: xs) := by
    obtain ⟨y, -, rfl⟩ := List.mem_map.1 (hx ▸ List.mem_cons_self : x ∈ s.toList.map _)
    split
    · exact ⟨isAsciiBlank_digitChar (digitOf_lt y), splitSign_digitChar (digitOf_lt y) xs⟩
    · exact ⟨by decide, rfl⟩
  rw [hx] at hscan ⊢
  rw [List.dropWhile_cons_of_neg (by simp [hfirst.1]), hfirst.2]
  have hmark : isAsciiBlank '?' = false := by decide
  simp only [dropBaseMark_ten, hscan, List.all_cons, hmark, Bool.false_and, Bool.not_false, Bool.or_true,
    if_true]
  split
  · exact ⟨_, rfl⟩
  · exact ⟨_, rfl⟩

end

end CloudScaffold.Number
