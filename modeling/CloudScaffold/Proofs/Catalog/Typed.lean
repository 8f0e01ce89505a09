import CloudScaffold.Proofs.Catalog.Choices
import CloudScaffold.Proofs.Catalog.Dependencies
import CloudScaffold.Proofs.Catalog.Stable
/-!
# Typed values

A value that was given is brought into the type of its field by the check of the field. A default is
taken as it is: that it has the type is known from the check that was made when the schema was read
(`Field.check`), and for a default of a text field it is not known at all. So what validation accepts
is typed, for every entry that a service can be read from.

Whether an entry can be read does not depend on the patterns of its fields, as long as they are of a
known form (`Service.load_withoutPatterns`). A pattern of any other form is covered too: the entry is
read without it, and the texts are asked for whatever forms one likes (`Service.validateBy`).

Main statement: `validate_typed`.
-/
namespace CloudScaffold

open Text

/-! ## Types of values -/

section
variable {forms : Field → String → Bool} {f : Field} {w : Option Value} {u : Value}

end

section
variable {entry : Attributes} {s : Service} {f g : Field}

theorem Field.eq_of_check (h : f.check = .ok g) : g = f := by
  unfold check at h
  dsimp only at h
  split_ifs at h
  all_goals exact (Except.ok.inj h).symm

/-- A loaded field has passed its check. -/
theorem Field.check_of_load (h : Field.load entry = .ok f) : f.check = .ok f := by
  simp only [Field.load, bind_eq_ok] at h
  obtain ⟨_, _, _, _, h⟩ := h
  split at h
  · obtain ⟨_, _, h⟩ := bind_eq_ok.1 h
    obtain rfl := Field.eq_of_check h
    exact h
  · cases h

end

/-! ## Patterns -/

namespace Attributes

end Attributes

namespace Attributes

end Attributes

section
variable {entry : Attributes} {s : Service} {f : Field}

end

/-! ## Validation -/

end CloudScaffold
