import CloudScaffold.Hcl.Files
import CloudScaffold.Proofs.Lists
import CloudScaffold.Proofs.Template.Masked
import CloudScaffold.Proofs.Template.Sketch
import CloudScaffold.Proofs.Value.Attributes
/-!
# Files without the values of variables

The values of variables are written to one file. `redactFile` takes its contents out, and what is
left of the files of a graph is what is left of those of the masked graph (`projectFiles_masked`).
The values must be ones that can be written, as plain ones are.
-/
namespace CloudScaffold.Hcl

/-- A file, without its contents if it is that of the variable values. -/
def redactFile (f : String × String) : String × String :=
  if f.1 = "terraform.tfvars" then (f.1, "") else f

section
variable {vs : List Variable}

theorem renderVariables_masked : renderVariables (vs.map (·.masked)) = renderVariables vs := by
  rw [renderVariables, List.mapM_map]
  rfl

/-! ## The values that are written -/

/-- Whether any variable has a value shows through the mask. -/
theorem isEmpty_assignments_masked :
    (assignments (vs.map (·.masked))).isEmpty = (assignments vs).isEmpty := by
  have hfilter : (vs.map (·.masked)).filter (fun v => !v.value.isNull) =
      (vs.filter fun v => !v.value.isNull).map (·.masked) := by
    rw [List.filter_map]
    simp [Function.comp_def, Variable.masked]
  rw [assignments, Attributes.isEmpty_ofEntries, assignments, Attributes.isEmpty_ofEntries, hfilter]
  simp

theorem renderPieces_of_isPlain (depth : Nat) : ∀ {kvs : Attributes},
    (∀ kv ∈ kvs, kv.2.isPlain = true) → ∃ ps, renderPieces depth kvs = .ok ps
  | [], _ => ⟨_, rfl⟩
  | (k, v) :: kvs, h => by
    rw [List.forall_mem_cons] at h
    obtain ⟨ps, hps⟩ := renderPieces_of_isPlain depth h.2
    cases v with
    | null | bool b | str s => exact ⟨_, by simp only [renderPieces, hps]; rfl⟩
    | _ => cases h.1

theorem isPlain_masked (v : Value) : v.masked.isPlain = true := by
  cases v <;> rfl

theorem renderAssignments_of_isPlain (h : ∀ v ∈ vs, v.value.isPlain = true) :
    ∃ t, renderAssignments vs = .ok t := by
  have hall : ∀ kv ∈ assignments vs, kv.2.isPlain = true := by
    refine Attributes.forall_ofEntries (P := fun v => v.isPlain = true) fun kv hkv => ?_
    obtain ⟨v, hv, rfl⟩ := List.mem_map.1 hkv
    exact h v (List.mem_filter.1 hv |>.1)
  obtain ⟨ps, hps⟩ := renderPieces_of_isPlain 0 hall
  exact ⟨_, by rw [renderAssignments, renderBody, hps]; rfl⟩

/-! ## The files -/

/-- **What is left of the files** is the same for a graph and for the masked one. -/
theorem projectFiles_masked {g : Graph} (h : ∀ v ∈ g.inputs, v.value.isPlain = true) :
    (projectFiles g.masked).map (·.map redactFile) = (projectFiles g).map (·.map redactFile) := by
  have hvars : renderVariables g.masked.inputs = renderVariables g.inputs := renderVariables_masked
  have hempty : (assignments g.masked.inputs).isEmpty = (assignments g.inputs).isEmpty :=
    isEmpty_assignments_masked
  have hmain : renderMain g.masked = renderMain g := rfl
  have hprov : g.masked.provider = g.provider := rfl
  have hout : g.masked.outputs = g.outputs := rfl
  obtain ⟨t, ht⟩ := renderAssignments_of_isPlain h
  obtain ⟨t', ht'⟩ : ∃ t', renderAssignments g.masked.inputs = .ok t' := by
    refine renderAssignments_of_isPlain fun v hv => ?_
    obtain ⟨u, _, rfl⟩ := List.mem_map.1 hv
    exact isPlain_masked u.value
  have hlast (before : List (String × String)) :
      (before ++ [("terraform.tfvars", t')]).map redactFile =
        (before ++ [("terraform.tfvars", t)]).map redactFile := by simp [redactFile]
  simp only [projectFiles, hvars, hempty, hmain, hprov, hout, ht, ht']
  cases Contract.find? g.provider with
  | none => rfl
  | some c =>
    refine map_bind_congr fun versions => map_bind_congr fun providers =>
      map_bind_congr fun declarations => map_bind_congr fun main => ?_
    by_cases hassigned : (assignments g.inputs).isEmpty = true
    · simp only [hassigned, if_true]
    · simp only [hassigned, Bool.false_eq_true, if_false]
      split
      · exact congrArg Except.ok (hlast _)
      · exact map_bind_congr fun outputs => congrArg Except.ok (hlast _)

end

end CloudScaffold.Hcl
