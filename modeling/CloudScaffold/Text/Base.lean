/-!
# Numbers in a base

Whole numbers in a base of at most sixteen. Letters stand for the digits from ten on, in either case
when they are read and in lower case when they are written. What is written reads back
(`numberIn?_toDigits`, `numberIn?_hexDigits`).
-/
namespace CloudScaffold.Text

/-- The value of a character as a digit of a base. -/
def digitIn? (base : Nat) (c : Char) : Option Nat :=
  let n :=
    if '0' ≤ c && c ≤ '9' then c.toNat - 48
    else if 'a' ≤ c && c ≤ 'f' then c.toNat - 87
    else if 'A' ≤ c && c ≤ 'F' then c.toNat - 55
    else base
  if n < base then some n else none

/-- Goes on with a number by the digits that follow. -/
def numberFrom? (base n : Nat) : List Char → Option Nat
  | [] => some n
  | c :: r => (digitIn? base c).bind fun d => numberFrom? base (base * n + d) r

/-- The number that digits of a base write; no digits write zero. -/
def numberIn? (base : Nat) (cs : List Char) : Option Nat := numberFrom? base 0 cs

/-- The hexadecimal digits of a number, at least `width` of them. -/
def hexDigits (width n : Nat) : List Char :=
  let ds := Nat.toDigits 16 n
  List.replicate (width - ds.length) '0' ++ ds

theorem digitIn?_lt {base d : Nat} {c : Char} (h : digitIn? base c = some d) : d < base := by
  simp only [digitIn?, Option.ite_none_right_eq_some, Option.some.injEq] at h
  obtain ⟨h, rfl⟩ := h
  exact h

theorem digitIn?_digitChar {base d : Nat} (hb : base ≤ 16) (h : d < base) :
    digitIn? base d.digitChar = some d := by
  have all : ∀ b ≤ 16, ∀ d < b, digitIn? b d.digitChar = some d := by decide
  exact all base hb d h

theorem numberFrom?_append (base n : Nat) (cs ds : List Char) :
    numberFrom? base n (cs ++ ds)
      = (numberFrom? base n cs).bind fun m => numberFrom? base m ds := by
  induction cs generalizing n with
  | nil => rfl
  | cons c r ih =>
    simp only [List.cons_append, numberFrom?, Option.bind_assoc]
    congr 1
    funext d
    exact ih _

theorem numberIn?_toDigits {base : Nat} (h : 1 < base) (hb : base ≤ 16) (n : Nat) :
    numberIn? base (Nat.toDigits base n) = some n := by
  induction n using Nat.strongRecOn with
  | ind n ih =>
    by_cases hn : n < base
    · rw [Nat.toDigits_of_lt_base hn]
      simp [numberIn?, numberFrom?, digitIn?_digitChar hb hn]
    · have small : n % base < base := Nat.mod_lt _ (by omega)
      have fewer := ih (n / base) (Nat.div_lt_self (by omega) h)
      rw [numberIn?] at fewer ⊢
      rw [Nat.toDigits_of_base_le h (by omega), numberFrom?_append, fewer]
      simp [numberFrom?, digitIn?_digitChar hb small, Nat.div_add_mod]

theorem numberFrom?_zeros {base : Nat} (h : 0 < base) (k : Nat) (cs : List Char) :
    numberFrom? base 0 (List.replicate k '0' ++ cs) = numberFrom? base 0 cs := by
  induction k with
  | zero => rfl
  | succ k ih =>
    simp [List.replicate_succ, numberFrom?, digitIn?, h, ih]

theorem numberIn?_hexDigits (width n : Nat) : numberIn? 16 (hexDigits width n) = some n := by
  rw [numberIn?, hexDigits, numberFrom?_zeros (by decide)]
  exact numberIn?_toDigits (by decide) (by decide) n

end CloudScaffold.Text
