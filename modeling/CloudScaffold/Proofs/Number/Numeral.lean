import CloudScaffold.Number.Shortest
import CloudScaffold.Proofs.Lists
import Mathlib.Data.List.Induction
import Mathlib.Tactic.Ring
/-!
# Texts of digits are numerals

A text of digits of any script, up to the limit, is read as the number that its digits write
(`readInt_of_isDigit`). Beyond ASCII the reader first brings the text down to ASCII; what makes that
harmless is that no digit is a blank. A number that was read can be written again, since one limit
holds for both (`writeInt_of_readInt`), and a text of more digits is not read
(`readInt_of_tooManyDigits`). A written number can be told from what stands behind it, unless that is
a digit (`showInt_cancel`), and is made of a few characters only (`isNumberChar`).
-/
namespace CloudScaffold.Number

open CloudScaffold.Text

/-- The value of a digit; zero for any other character. -/
def digitOf (c : Char) : Nat := (digitValue? c).getD 0

theorem digitValue?_of_isDigit {c : Char} (h : isDigit c = true) :
    digitValue? c = some (digitOf c) := by
  obtain ⟨d, hd⟩ := Option.isSome_iff_exists.1 h
  rw [digitOf, hd]; rfl

theorem digitOf_lt (c : Char) : digitOf c < 10 := by
  cases h : digitValue? c with
  | none => simp [digitOf, h]
  | some d => simpa [digitOf, h] using digitValue?_lt h

theorem exists_zero_of_isDigit {c : Char} (h : isDigit c = true) :
    ∃ z ∈ zeros, z ≤ c.toNat ∧ c.toNat < z + 10 ∧ c.toNat = z + digitOf c := by
  have hv := digitValue?_of_isDigit h
  obtain ⟨z, hz, hd⟩ := Option.map_eq_some_iff.1 hv
  have hin := List.find?_some hz
  simp only [Bool.and_eq_true, decide_eq_true_eq] at hin
  exact ⟨z, List.mem_of_find?_eq_some hz, hin.1, hin.2, by omega⟩

theorem isBlank_of_isDigit {c : Char} (h : isDigit c = true) : isBlank c = false := by
  have apart : ∀ z ∈ zeros, ∀ r ∈ blanks, r.2 < z ∨ z + 10 ≤ r.1 := by decide
  obtain ⟨z, hz, hlo, hhi, _⟩ := exists_zero_of_isDigit h
  rw [← Bool.not_eq_true, isBlank, CharSet.has_iff]
  rintro ⟨r, hr, h1, h2⟩
  have := apart z hz r hr
  omega

/-- An ASCII digit is the digit of its value. -/
theorem eq_digitChar_of_isDigit {c : Char} (h : isDigit c = true) (hc : c.toNat < 128) :
    c = digitChar (digitOf c) := by
  have first : ∀ z ∈ zeros, z < 128 → z = 48 := by decide
  obtain ⟨z, hz, hlo, _, heq⟩ := exists_zero_of_isDigit h
  have := first z hz (by omega)
  rw [digitChar, ← this, ← heq, Char.ofNat_toNat]

theorem plainChar_of_isDigit {c : Char} (h : isDigit c = true) :
    plainChar c = digitChar (digitOf c) := by
  unfold plainChar
  by_cases hc : c.toNat < 127
  · rw [if_pos hc]; exact eq_digitChar_of_isDigit h (by omega)
  · simp [hc, isBlank_of_isDigit h, digitValue?_of_isDigit h]

theorem plainChars_of_isDigit {cs : List Char} (h : ∀ c ∈ cs, isDigit c = true) :
    plainChars cs = cs.map fun c => digitChar (digitOf c) := by
  unfold plainChars
  split
  · rename_i hall
    simp only [List.all_eq_true, decide_eq_true_eq] at hall
    symm
    calc cs.map (fun c => digitChar (digitOf c)) = cs.map id :=
          List.map_congr_left fun c hc => (eq_digitChar_of_isDigit (h c hc) (hall c hc)).symm
      _ = cs := List.map_id cs
  · exact List.map_congr_left fun c hc => plainChar_of_isDigit (h c hc)

section
variable {d : Nat} (hd : d < 10)
include hd

theorem digitIn?_ten : digitIn? 10 (digitChar d) = some d := by
  have all : ∀ d < 10, digitIn? 10 (digitChar d) = some d := by decide
  exact all d hd

theorem isAsciiBlank_digitChar : isAsciiBlank (digitChar d) = false := by
  have all : ∀ d < 10, isAsciiBlank (digitChar d) = false := by decide
  exact all d hd

theorem splitSign_digitChar (cs : List Char) :
    splitSign (digitChar d :: cs) = (false, digitChar d :: cs) := by
  have all : ∀ d < 10, digitChar d ≠ '-' ∧ digitChar d ≠ '+' := by decide
  obtain ⟨h1, h2⟩ := all d hd
  unfold splitSign
  split <;> simp_all

end

theorem dropBaseMark_ten (cs : List Char) : dropBaseMark 10 cs = cs := by
  unfold dropBaseMark
  split <;> simp [isBaseMark]

theorem scanDigits_digitChars : ∀ (ds : List Nat) (after : Bool), (∀ d ∈ ds, d < 10) →
    scanDigits 10 after (ds.map digitChar) = some (ds, [])
  | [], _, _ => rfl
  | d :: ds, after, h => by
    have ih := scanDigits_digitChars ds true fun x hx => h x (by simp [hx])
    simp [scanDigits, digitIn?_ten (h d (by simp)), ih]

/-- A text of digits is read or refused by the number of its digits. -/
theorem readInt_digits {s : String} (hne : s.toList ≠ []) (h : ∀ c ∈ s.toList, isDigit c = true) :
    readInt s = if digitLimit < s.toList.length then .error (.tooManyDigits s.toList.length)
      else .ok (ofDigits 10 (s.toList.map digitOf)) := by
  have hplain : plainChars s.toList = (s.toList.map digitOf).map digitChar := by
    rw [plainChars_of_isDigit h, List.map_map]; rfl
  have hlt : ∀ d ∈ s.toList.map digitOf, d < 10 := by
    intro d hd
    obtain ⟨c, _, rfl⟩ := List.mem_map.1 hd
    exact digitOf_lt c
  have hlen : s.toList.length = (s.toList.map digitOf).length := by simp
  have hne' : s.toList.map digitOf ≠ [] := by simpa using hne
  unfold readInt readIntIn
  rw [hplain, hlen]
  generalize s.toList.map digitOf = ds at hlt hne'
  obtain ⟨d, ds, rfl⟩ := List.exists_cons_of_ne_nil hne'
  have hd : d < 10 := hlt d (by simp)
  have hscan := scanDigits_digitChars (d :: ds) false hlt
  simp only [List.map_cons] at hscan ⊢
  rw [List.dropWhile_cons_of_neg (by simp [isAsciiBlank_digitChar hd]), splitSign_digitChar hd]
  simp [dropBaseMark_ten, hscan]

/-- **Digits are read as they are meant**: a text of digits of any script is a numeral. -/
theorem readInt_of_isDigit {s : String} (hne : s.toList ≠ []) (h : ∀ c ∈ s.toList, isDigit c = true)
    (hlen : s.toList.length ≤ digitLimit) :
    readInt s = .ok (ofDigits 10 (s.toList.map digitOf)) := by
  rw [readInt_digits hne h, if_neg (Nat.not_lt.2 hlen)]

/-- A text of digits above the limit is not read. -/
theorem readInt_of_tooManyDigits {s : String} (h : ∀ c ∈ s.toList, isDigit c = true)
    (hlen : digitLimit < s.toList.length) :
    readInt s = .error (.tooManyDigits s.toList.length) := by
  have hne : s.toList ≠ [] := List.ne_nil_of_length_pos (Nat.lt_of_le_of_lt (Nat.zero_le _) hlen)
  rw [readInt_digits hne h, if_pos hlen]

example : (readInt "१२").toOption = some 12 := by decide +kernel

/-! ## Writing what was read -/

theorem ofDigits_append (base : Nat) (ds : List Nat) (d : Nat) :
    ofDigits base (ds ++ [d]) = base * ofDigits base ds + d := by
  simp [ofDigits]

theorem ofDigits_lt {base : Nat} {ds : List Nat} (h : ∀ d ∈ ds, d < base) :
    ofDigits base ds < base ^ ds.length := by
  induction ds using List.reverseRecOn with
  | nil => exact Nat.one_pos
  | append_singleton ds d ih =>
    have hds := ih fun x hx => h x (List.mem_append_left _ hx)
    have hd : d < base := h d (by simp)
    calc ofDigits base (ds ++ [d]) = base * ofDigits base ds + d := ofDigits_append base ds d
      _ < base * ofDigits base ds + base := by omega
      _ = base * (ofDigits base ds + 1) := by ring
      _ ≤ base * base ^ ds.length := Nat.mul_le_mul_left base hds
      _ = base ^ (ds ++ [d]).length := by rw [List.length_append, List.length_singleton, pow_succ']

theorem lt_of_mem_scanDigits {base : Nat} : ∀ {cs : List Char} {after : Bool} {ds : List Nat}
    {rest : List Char}, scanDigits base after cs = some (ds, rest) → ∀ d ∈ ds, d < base
  | [], _, _, _, h => by cases h; simp
  | c :: r, after, ds, rest, h => by
    unfold scanDigits at h
    split at h
    · rename_i d hd
      obtain ⟨⟨ds', rest'⟩, hr, heq⟩ := Option.map_eq_some_iff.1 h
      cases heq
      exact List.forall_mem_cons.2 ⟨digitIn?_lt hd, lt_of_mem_scanDigits hr⟩
    · split at h
      · split at h
        · exact lt_of_mem_scanDigits h
        · cases h
      · cases h
        simp

theorem pow_le_pow10 {m n : Nat} (h : m ≤ n) : 10 ^ m ≤ pow10 n :=
  Nat.pow_le_pow_right (by decide) h

theorem natAbs_lt_of_readInt {s : String} {n : Int} (h : readInt s = .ok n) :
    n.natAbs < pow10 digitLimit := by
  unfold readInt readIntIn at h
  dsimp only at h
  split at h
  · cases h
  · rename_i ds rest hscan
    split at h
    · cases h
    · rename_i hlen
      split at h
      · cases h
      · have hlt := ofDigits_lt (lt_of_mem_scanDigits hscan)
        have hle := pow_le_pow10 (n := digitLimit) (m := ds.length) (by simpa using hlen)
        have habs : n.natAbs = ofDigits 10 ds := by
          cases h
          split <;> simp
        exact habs ▸ Nat.lt_of_lt_of_le hlt hle

theorem writeInt_isOk {n : Int} (h : n.natAbs < pow10 digitLimit) : (writeInt n).isOk = true := by
  unfold writeInt
  rw [if_neg (Nat.not_le.2 h)]
  rfl

/-- A number that was read can be written. -/
theorem writeInt_of_readInt {s : String} {n : Int} (h : readInt s = .ok n) :
    (writeInt n).isOk = true :=
  writeInt_isOk (natAbs_lt_of_readInt h)

/-- A number of a few digits can be written. -/
theorem writeInt_of_lt {n : Int} (h : n.natAbs < 10 ^ 6) : (writeInt n).isOk = true :=
  writeInt_isOk (Nat.lt_of_lt_of_le h (pow_le_pow10 (by decide)))

/-! ## Telling a written number from what follows -/

/-- What may stand behind a written number. -/
def EndsNumber (cs : List Char) : Prop := ∀ c ∈ cs.head?, c.isDigit = false

theorem isDigit_of_mem_toDigits {n : Nat} {c : Char} (h : c ∈ Nat.toDigits 10 n) : c.isDigit = true :=
  Nat.isDigit_of_mem_toDigits (by decide) (by decide) h

theorem toDigits_cancel {m n : Nat} {a b : List Char} (ha : EndsNumber a) (hb : EndsNumber b)
    (h : Nat.toDigits 10 m ++ a = Nat.toDigits 10 n ++ b) : m = n ∧ a = b := by
  obtain ⟨hdigits, hrest⟩ := append_cancel_of_span (fun _ => isDigit_of_mem_toDigits)
    (fun _ => isDigit_of_mem_toDigits) ha hb h
  refine ⟨?_, hrest⟩
  rw [← Nat.ofDigitChars_ten_toDigits (n := m), hdigits, Nat.ofDigitChars_ten_toDigits]

/-- Digits have no sign. -/
theorem toDigits_append_ne_minus {n : Nat} {a r : List Char} : Nat.toDigits 10 n ++ a ≠ '-' :: r := by
  intro h
  obtain ⟨d, ds, hds⟩ := List.exists_cons_of_ne_nil (Nat.toDigits_ne_nil (n := n) (b := 10))
  have hd : d.isDigit = true := isDigit_of_mem_toDigits (n := n) (hds ▸ List.mem_cons_self)
  rw [hds, List.cons_append] at h
  cases h
  cases hd

theorem toList_showInt (n : Int) : (showInt n).toList =
    if n < 0 then '-' :: Nat.toDigits 10 n.natAbs else Nat.toDigits 10 n.natAbs := by
  unfold showInt
  split <;> simp

/-- A written number tells itself from what stands behind it. -/
theorem showInt_cancel {m n : Int} {a b : List Char} (ha : EndsNumber a) (hb : EndsNumber b)
    (h : (showInt m).toList ++ a = (showInt n).toList ++ b) : m = n ∧ a = b := by
  rw [toList_showInt, toList_showInt] at h
  by_cases hm : m < 0 <;> by_cases hn : n < 0
  · rw [if_pos hm, if_pos hn, List.cons_append, List.cons_append] at h
    obtain ⟨habs, hrest⟩ := toDigits_cancel ha hb (List.cons.inj h).2
    exact ⟨by omega, hrest⟩
  · rw [if_pos hm, if_neg hn, List.cons_append] at h
    exact absurd h.symm toDigits_append_ne_minus
  · rw [if_neg hm, if_pos hn, List.cons_append] at h
    exact absurd h toDigits_append_ne_minus
  · rw [if_neg hm, if_neg hn] at h
    obtain ⟨habs, hrest⟩ := toDigits_cancel ha hb h
    exact ⟨by omega, hrest⟩

/-! ## The characters of written numbers -/

/-- Digits, signs, the point, and the letters of exponents and of the words for what is no number. -/
def isNumberChar (c : Char) : Bool := c.isDigit || c ∈ ['.', 'e', '-', '+', 'n', 'a', 'i', 'f']

theorem isNumberChar_of_toDigits {n : Nat} {c : Char} (h : c ∈ Nat.toDigits 10 n) :
    isNumberChar c = true := by
  simp [isNumberChar, isDigit_of_mem_toDigits h]

theorem isNumberChar_showInt (n : Int) : ∀ c ∈ (showInt n).toList, isNumberChar c = true := by
  rw [toList_showInt]
  split
  · rw [List.forall_mem_cons]
    exact ⟨by decide, fun _ => isNumberChar_of_toDigits⟩
  · exact fun _ => isNumberChar_of_toDigits

namespace Binary64

theorem isNumberChar_significant {d : Decimal} {c : Char} (h : c ∈ (significant d).1) :
    isNumberChar c = true := by
  have hdigits : c ∈ Nat.toDigits 10 d.digits := by
    have hdrop := (List.dropWhile_sublist _).mem (List.mem_reverse.1 h)
    exact List.mem_reverse.1 hdrop
  exact isNumberChar_of_toDigits hdigits

section
variable {ds : List Char} (hds : ∀ c ∈ ds, isNumberChar c = true)
include hds

theorem isNumberChar_of_mem {c : Char} (h : c ∈ ds ∨ c = '0' ∨ c = '.') :
    isNumberChar c = true := by
  rcases h with hc | rfl | rfl
  · exact hds c hc
  · decide
  · decide

theorem isNumberChar_positional (place : Int) : ∀ c ∈ positional ds place, isNumberChar c = true := by
  intro c hc
  have hall : c ∈ ds ∨ c = '0' ∨ c = '.' := by
    unfold positional at hc
    split at hc
    · simp only [List.cons_append, List.mem_cons, List.mem_append, List.mem_replicate] at hc
      tauto
    · simp only [List.mem_append, List.mem_cons, List.mem_replicate] at hc
      rcases hc with (hc | ⟨_, rfl⟩) | rfl | hc
      · exact .inl (List.mem_of_mem_take hc)
      · exact .inr (.inl rfl)
      · exact .inr (.inr rfl)
      · split at hc
        · exact .inr (.inl (List.mem_singleton.1 hc))
        · exact .inl (List.mem_of_mem_drop hc)
  exact isNumberChar_of_mem hds hall

theorem isNumberChar_exponential (place : Int) :
    ∀ c ∈ exponential ds place, isNumberChar c = true := by
  have hsign : isNumberChar (if place - 1 < 0 then '-' else '+') = true := by
    split <;> decide
  intro c hc
  simp only [exponential, List.mem_append, List.mem_cons, List.mem_replicate] at hc
  rcases hc with (hc | rfl | rfl | ⟨_, rfl⟩) | hc
  · have hall : c ∈ ds ∨ c = '0' ∨ c = '.' := by
      split at hc
      · exact .inr (.inl (List.mem_singleton.1 hc))
      · exact .inl hc
      · simp only [List.mem_cons] at hc ⊢
        tauto
    exact isNumberChar_of_mem hds hall
  · decide
  · exact hsign
  · decide
  · exact isNumberChar_of_toDigits hc

end

theorem isNumberChar_text (x : Binary64) : ∀ c ∈ x.text.toList, isNumberChar c = true := by
  match x with
  | .nan => exact List.all_eq_true.1 (by decide)
  | .infinite false => exact List.all_eq_true.1 (by decide)
  | .infinite true => exact List.all_eq_true.1 (by decide)
  | .finite s m e =>
    have hsign : ∀ c ∈ (if s then ['-'] else []), isNumberChar c = true :=
      List.all_eq_true.1 (by cases s <;> decide)
    rw [text]
    by_cases hm : m = 0
    · simp only [if_pos hm, String.toList_ofList, List.forall_mem_append]
      exact ⟨hsign, List.all_eq_true.1 (by decide)⟩
    · simp only [if_neg hm, String.toList_ofList, List.forall_mem_append]
      refine ⟨hsign, ?_⟩
      split
      · exact isNumberChar_positional (fun _ => isNumberChar_significant) _
      · exact isNumberChar_exponential (fun _ => isNumberChar_significant) _
end Binary64

end CloudScaffold.Number
