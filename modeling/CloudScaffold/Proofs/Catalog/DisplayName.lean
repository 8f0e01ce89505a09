import CloudScaffold.Proofs.Catalog.Choices
import CloudScaffold.Proofs.Catalog.Discreet
import CloudScaffold.Proofs.Catalog.Stable
/-!
# Display names of accepted values

A service is named freely if its naming field takes any text and stands in for none. Accepted values then
have a display name that the user gave: the text of the naming field without the blanks at its ends
(`Service.displayName_validated`). Nothing else is known of it, so what is made of a display name must be
shown for all texts.
-/
namespace CloudScaffold

open Text

namespace Service

/-- Whether the naming field takes any text that is not blank, and must be given one. -/
def isNamedFreely (s : Service) : Bool :=
  s.namingField?.any fun f => f.takesAnyText && f.default.isNull

section
variable {s : Service} {given values : Attributes}

/-- **The display name is the text that was given** for the naming field, without blanks at its ends. -/
theorem displayName_validated (provider : String) (hv : s.validated given = .ok values)
    (hr : s.isRegular = true) (hn : s.isNamedFreely = true) : ∃ f text, s.namingField? = some f ∧
      given.get? f.name = some (.str text) ∧
        (Draft.start provider s values).displayName = trim text := by
  obtain ⟨f, hf, hfree⟩ := (Option.any_eq_true _ _).1 hn
  simp only [Field.takesAnyText, Bool.and_eq_true, beq_iff_eq] at hfree
  obtain ⟨⟨hkind, -⟩, hdefault⟩ := hfree
  have hmem : f ∈ s.fields := List.mem_of_find?_eq_some hf
  have hrequired : f.required = true := List.find?_some hf
  have hfound : s.field? f.name = some f :=
    field?_of_mem (of_decide_eq_true (Bool.and_eq_true_iff.1 hr).1) hmem
  have hchosen : values.chosen f.name = f.taken (given.get? f.name) := by
    rw [Attributes.chosen, validated_value hv hr, hfound]
    rfl
  rcases f.taken_cases ((validated_eq_ok hv).2 f hmem) with hnone | ⟨v, hgiven, hpresent, hcheck⟩
  · simp [Field.fallback, hdefault, hrequired] at hnone
  · rcases Field.checkGiven_cases hcheck with ⟨hk, -⟩ | ⟨hk, -⟩ | ⟨-, text, rfl, htaken, -⟩
    · cases hkind.symm.trans hk
    · cases hkind.symm.trans hk
    · have hne : trim text ≠ "" := by
        intro hempty
        rw [isMissing, allBlank_of_trim hempty] at hpresent
        cases hpresent
      refine ⟨f, text, hf, hgiven, Draft.start_displayName (n := f.name) ?_ hne (hchosen.trans htaken)⟩
      simp [hf]

end

end Service

end CloudScaffold
