import CloudScaffold.Proofs.Provision.Perform
/-!
# Files in a directory

Files that are written into a directory are kept in order of their names, so a directory holds what it
held and what was written, in some order, as long as no name occurs twice (`Directory.write_perm`). Of
a plain name nothing but its length can be wrong (`IsPlainName.nameFault?_eq`).
-/
namespace CloudScaffold.Provision

/-- A name that stands for a file in the directory itself. -/
structure IsPlainName (name : String) : Prop where
  ne_empty : name ≠ ""
  no_separator : '/' ∉ name.toList ∧ '\\' ∉ name.toList
  no_nul : '\x00' ∉ name.toList
  ne_dots : name ≠ "." ∧ name ≠ ".."

instance (name : String) : Decidable (IsPlainName name) :=
  decidable_of_iff (name ≠ "" ∧ ('/' ∉ name.toList ∧ '\\' ∉ name.toList) ∧ '\x00' ∉ name.toList ∧
      name ≠ "." ∧ name ≠ "..")
    ⟨fun ⟨h1, h2, h3, h4⟩ => ⟨h1, h2, h3, h4⟩, fun ⟨h1, h2, h3, h4⟩ => ⟨h1, h2, h3, h4⟩⟩

theorem IsPlainName.nameFault?_eq {name : String} (h : IsPlainName name) :
    nameFault? name = if nameLimit < name.utf8ByteSize then some .nameTooLong else none := by
  unfold nameFault?
  rw [if_neg (by simpa using ⟨h.ne_empty, h.no_separator.1⟩), if_neg (by simpa using h.no_nul),
    if_neg (by simpa using h.ne_dots)]

namespace Directory

variable {d content : Directory} {files : FileList} {name text : String}

/-- A file of a new name is added. -/
theorem put_perm (h : name ∉ d.map (·.1)) : (d.put name text).Perm ((name, text) :: d) := by
  induction d with
  | nil => exact .refl _
  | cons f d ih =>
    obtain ⟨n, c⟩ := f
    rw [List.map_cons, List.mem_cons, not_or] at h
    unfold put
    rw [if_neg (Ne.symm h.1)]
    split
    · exact .refl _
    · exact ((ih h.2).cons (n, c)).trans (.swap _ _ d)

/-- A directory with files of different names holds the files that it held and those that were
written. -/
theorem write_perm (hnodup : (files ++ d).map (·.1) |>.Nodup) (h : d.write files = .ok content) :
    content.Perm (files ++ d) := by
  induction files generalizing d with
  | nil => cases h; exact .refl _
  | cons f files ih =>
    obtain ⟨name, text⟩ := f
    have hput : (d.put name text).Perm ((name, text) :: d) := by
      refine put_perm fun hmem => ?_
      rw [List.cons_append, List.map_cons, List.nodup_cons, List.map_append, List.mem_append] at hnodup
      exact hnodup.1 (.inr hmem)
    have hmoved : (files ++ d.put name text).Perm ((name, text) :: files ++ d) :=
      (hput.append_left files).trans List.perm_middle
    unfold write at h
    split at h
    · cases h
    · exact (ih ((hmoved.map _).nodup_iff.2 hnodup) h).trans hmoved

/-- An empty directory in which files of different names were written holds them and nothing else. -/
theorem write_nil_perm (hnodup : (files.map (·.1)).Nodup) (h : write [] files = .ok content) :
    content.Perm files := by
  have hperm := write_perm (d := []) (by rwa [List.append_nil]) h
  rwa [List.append_nil] at hperm

end Directory

end CloudScaffold.Provision
