import CloudScaffold.Proofs.Number.Numeral
/-!
# Reading what was written

A written whole number is read back as it was (`readInt_toDigits`), up to the limit of digits. Its first
digit is no zero, unless it is the only one (`toDigits_first`).
-/
namespace CloudScaffold.Number

open CloudScaffold.Text

/-- What holds of the codes below a limit holds of their characters. -/
theorem char_of_code (P : Char → Prop) {limit : Nat} (h : ∀ n < limit, P (.ofNat n)) {c : Char}
    (hc : c.toNat < limit) : P c := by
  have hcode := h c.toNat hc
  rwa [Char.ofNat_toNat] at hcode

/-- The digits of ASCII are digits of their own values. -/
theorem isDigit_of_ascii {c : Char} (h : c.isDigit = true) : isDigit c = true ∧ digitOf c = c.toNat - 48 := by
  have hlt : c.toNat < 58 := by
    simp only [Char.isDigit, Bool.and_eq_true, decide_eq_true_eq, UInt32.le_iff_toNat_le] at h
    exact Nat.lt_succ_of_le h.2
  exact char_of_code (fun c => c.isDigit = true → isDigit c = true ∧ digitOf c = c.toNat - 48) (by decide) hlt h

theorem ofDigits_ofDigitChars {cs : List Char} (h : ∀ c ∈ cs, c.isDigit = true) :
    ofDigits 10 (cs.map digitOf) = Nat.ofDigitChars 10 cs 0 := by
  have hfold : ∀ n, (cs.map digitOf).foldl (fun n d => 10 * n + d) n = Nat.ofDigitChars 10 cs n := by
    induction cs with
    | nil => intro n; rfl
    | cons c cs ih =>
      intro n
      rw [List.map_cons, List.foldl_cons, Nat.ofDigitChars_cons, ih fun d hd => h d (List.mem_cons_of_mem c hd),
        (isDigit_of_ascii (h c List.mem_cons_self)).2]
      rfl
  exact hfold 0

theorem length_toDigits_le {n k : Nat} (hk : 0 < k) (h : n < pow10 k) : (Nat.toDigits 10 n).length ≤ k :=
  (Nat.length_toDigits_le_iff (by decide) hk).2 h

/-- A written number without a sign is read back. -/
theorem readInt_toDigits {n : Nat} (h : n < pow10 digitLimit) :
    readInt (.ofList (Nat.toDigits 10 n)) = .ok n := by
  have hlen : (Nat.toDigits 10 n).length ≤ digitLimit := length_toDigits_le (by decide) h
  have hdigits : ∀ c ∈ Nat.toDigits 10 n, c.isDigit = true := fun c => isDigit_of_mem_toDigits
  rw [readInt_of_isDigit (by simp)
    (fun c hc => (isDigit_of_ascii (hdigits c (by simpa using hc))).1) (by simpa using hlen),
    String.toList_ofList, ofDigits_ofDigitChars hdigits, Nat.ofDigitChars_ten_toDigits]

theorem writeInt_eq {n : Int} (h : n.natAbs < pow10 digitLimit) : writeInt n = .ok (showInt n) := by
  rw [writeInt, if_neg (Nat.not_le.2 h)]

/-- The first digit of a number is no zero, but for zero itself. -/
theorem toDigits_first {n : Nat} (h : n ≠ 0) :
    ∃ d r, Nat.toDigits 10 n = d :: r ∧ d.isDigit = true ∧ d ≠ '0' := by
  induction n using Nat.strongRecOn with
  | ind n ih =>
    by_cases hn : n < 10
    · refine ⟨n.digitChar, [], Nat.toDigits_of_lt_base hn, ?_, by simpa using h⟩
      simp [Nat.isDigit_digitChar, hn]
    · obtain ⟨d, r, hd, hdigit, hne⟩ := ih (n / 10) (by omega) (by omega)
      refine ⟨d, r ++ [(n % 10).digitChar], ?_, hdigit, hne⟩
      rw [Nat.toDigits_of_base_le (by decide) (by omega), hd, List.cons_append]

end CloudScaffold.Number
