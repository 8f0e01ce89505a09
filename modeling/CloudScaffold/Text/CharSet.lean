/-!
# Sets of characters

A set of characters is a list of ranges of code points; `CharSet.has` is membership.
-/
namespace CloudScaffold.Text

/-- Ranges of code points, both ends included. -/
abbrev CharSet := List (Nat × Nat)

/-- Whether a character lies in one of the ranges. -/
def CharSet.has (s : CharSet) (c : Char) : Bool :=
  s.any fun r => r.1 ≤ c.toNat && c.toNat ≤ r.2

theorem CharSet.has_iff (s : CharSet) (c : Char) :
    s.has c = true ↔ ∃ r ∈ s, r.1 ≤ c.toNat ∧ c.toNat ≤ r.2 := by
  simp [CharSet.has]

end CloudScaffold.Text
