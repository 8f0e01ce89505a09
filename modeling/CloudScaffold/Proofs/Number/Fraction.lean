import CloudScaffold.Proofs.Number.Written
import CloudScaffold.Text.Parts
import Mathlib.Data.List.TakeWhile
/-!
# Fractions of written decimals

A decimal is written with the fewest digits that read as the same number, and the zeros at the end of
its digits are dropped; only where nothing else would stand behind the point, a zero is written there
(`fraction_text`). The digits are never all dropped, since no number but zero is read from zeros.
-/
namespace CloudScaffold.Number

open CloudScaffold.Text

namespace Binary64

section
variable {s : Bool} {m : Nat} {e p : Int} {n : Nat} {d : Decimal}

theorem ofDecimal_zero (s : Bool) (p : Int) : ofDecimal s 0 p = zero s := by
  simp [ofDecimal]

/-- No number but zero is read from no digits. -/
theorem digits_ne_zero_of_onGrid? (hm : m ≠ 0) (h : onGrid? (.finite s m e) m e n = some d) : d.digits ≠ 0 := by
  have hreads (p : Int) : (ofDecimal s 0 p == .finite s m e) = false := by
    rw [ofDecimal_zero, zero]
    simpa using fun h => absurd h.symm hm
  unfold onGrid? at h
  generalize place m e - n = p at h
  dsimp only at h
  generalize decimalGrid m e p = g at h
  split at h
  · next hq =>
    obtain rfl := Option.some.inj h
    rintro (hzero : g.1 = 0)
    rw [hzero, hreads] at hq
    cases hq
  · obtain rfl := Option.some.inj h
    exact Nat.succ_ne_zero _
  · obtain rfl := Option.some.inj h
    exact Nat.succ_ne_zero _
  · next hq _ =>
    obtain rfl := Option.some.inj h
    rintro (hzero : g.1 = 0)
    rw [hzero, hreads] at hq
    cases hq
  · cases h

theorem digits_shortestFrom (hm : m ≠ 0) (tries : Nat) :
    (shortestFrom (.finite s m e) m e n tries).digits ≠ 0 := by
  induction tries generalizing n with
  | zero => exact hm
  | succ tries ih =>
    rw [shortestFrom]
    cases h : onGrid? (.finite s m e) m e n with
    | none => exact ih
    | some d => exact digits_ne_zero_of_onGrid? hm h

/-- The last significant digit is no zero. -/
theorem getLast?_significant (d : Decimal) : (significant d).1.getLast? ≠ some '0' := by
  intro h
  simp only [significant, List.getLast?_reverse] at h
  exact absurd (head_dropWhile _ '0' h) (by decide)

theorem significant_ne_nil (h : d.digits ≠ 0) : (significant d).1 ≠ [] := by
  obtain ⟨c, r, hc, -, hne⟩ := toDigits_first h
  intro hnil
  have hzero : ∀ c ∈ (Nat.toDigits 10 d.digits).reverse, (c == '0') = true :=
    List.dropWhile_eq_nil_iff.1 (List.reverse_eq_nil_iff.1 hnil)
  have hmem : c ∈ (Nat.toDigits 10 d.digits).reverse := by simp [hc]
  exact hne (by simpa using hzero c hmem)

theorem isDigit_of_mem_significant {c : Char} (h : c ∈ (significant d).1) : c.isDigit = true := by
  have hdigits : c ∈ Nat.toDigits 10 d.digits :=
    List.mem_reverse.1 ((List.dropWhile_sublist _).mem (List.mem_reverse.1 h))
  exact isDigit_of_mem_toDigits hdigits

/-- What stands behind the point of a decimal without an exponent ends with a zero only if it is one. -/
theorem fraction_positional {ds a r : List Char} {place : Int} (hdigits : ∀ c ∈ ds, c.isDigit = true)
    (hne : ds ≠ []) (hlast : ds.getLast? ≠ some '0') (h : cutAt? '.' (positional ds place) = some (a, r)) :
    r = ['0'] ∨ r.getLast? ≠ some '0' := by
  have hpoint : '.' ∉ ds := fun hmem => absurd (hdigits '.' hmem) (by decide)
  unfold positional at h
  split at h
  · have hcut : cutAt? '.' (['0'] ++ '.' :: (List.replicate (-place).toNat '0' ++ ds)) =
        some (['0'], List.replicate (-place).toNat '0' ++ ds) :=
      cutAt?_eq_some_iff.2 ⟨by decide, rfl⟩
    obtain ⟨-, rfl⟩ := Prod.mk.inj (Option.some.inj (hcut.symm.trans h))
    rw [List.getLast?_append_of_ne_nil _ hne]
    exact .inr hlast
  · have hwhole : '.' ∉ ds.take place.toNat ++ List.replicate (place.toNat - ds.length) '0' := by
      simp only [List.mem_append, List.mem_replicate, not_or]
      exact ⟨fun hmem => hpoint (List.mem_of_mem_take hmem), fun hmem => absurd hmem.2 (by decide)⟩
    obtain ⟨-, rfl⟩ := Prod.mk.inj (Option.some.inj ((cutAt?_eq_some_iff.2 ⟨hwhole, rfl⟩).symm.trans h))
    split
    · exact .inl rfl
    · next hrest =>
      refine .inr ?_
      have hend : ds.drop place.toNat ≠ [] := by simpa using hrest
      rw [← List.take_append_drop place.toNat ds, List.getLast?_append_of_ne_nil _ hend] at hlast
      exact hlast

/-- Behind a sign the point comes as it comes without. -/
theorem cutAt?_signed {cs a r : List Char} (h : cutAt? '.' ((if s then ['-'] else []) ++ cs) = some (a, r)) :
    ∃ b, cutAt? '.' cs = some (b, r) := by
  obtain ⟨hpoint, hcs⟩ := cutAt?_eq_some_iff.1 h
  cases s with
  | false => exact ⟨a, h⟩
  | true =>
    cases a with
    | nil => cases hcs
    | cons c a =>
      exact ⟨a, cutAt?_eq_some_iff.2 ⟨fun hmem => hpoint (List.mem_cons_of_mem c hmem), (List.cons.inj hcs).2⟩⟩

/-- **The fraction of a written decimal has no unneeded zero at its end**, unless an exponent follows. -/
theorem fraction_text {x : Binary64} {a r : List Char} (h : cutAt? '.' x.text.toList = some (a, r))
    (he : 'e' ∉ x.text.toList) : r = ['0'] ∨ r.getLast? ≠ some '0' := by
  match x with
  | .nan => cases (by decide : cutAt? '.' nan.text.toList = none).symm.trans h
  | .infinite false => cases (by decide : cutAt? '.' (infinite false).text.toList = none).symm.trans h
  | .infinite true => cases (by decide : cutAt? '.' (infinite true).text.toList = none).symm.trans h
  | .finite s m e =>
    rw [text] at h he
    by_cases hm : m = 0
    · simp only [if_pos hm, String.toList_ofList] at h
      obtain ⟨b, hb⟩ := cutAt?_signed h
      have hzero : cutAt? '.' ['0', '.', '0'] = some (['0'], ['0']) := by decide
      obtain ⟨-, rfl⟩ := Prod.mk.inj (Option.some.inj (hzero.symm.trans hb))
      exact .inl rfl
    · simp only [if_neg hm, String.toList_ofList, List.mem_append, not_or] at h he
      obtain ⟨b, hb⟩ := cutAt?_signed h
      have hnonzero := digits_shortestFrom (s := s) (e := e) (n := 1) hm 17
      have hplace := he.2
      split at hb
      · exact fraction_positional (fun c => isDigit_of_mem_significant) (significant_ne_nil hnonzero)
          (getLast?_significant _) hb
      · next hfar =>
        rw [if_neg hfar] at hplace
        exact absurd (by simp [exponential]) hplace

end

end Binary64
end CloudScaffold.Number
