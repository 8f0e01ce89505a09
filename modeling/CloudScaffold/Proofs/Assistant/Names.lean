import CloudScaffold.Proofs.Assistant.Format
import CloudScaffold.Proofs.Lists
/-!
# The names of files in replies

Whatever a reply says, the names of its files are names that a marker may give, and no name occurs
twice. Main statement: `parseFiles_names`.
-/
namespace CloudScaffold.Assistant

open Text

theorem filesOf_cons (seen : List String) (name text : List Char)
    (rest : List (List Char × List Char)) : filesOf seen ((name, text) :: rest) =
      if String.ofList name ∈ seen then .error (.repeatedFile (.ofList name))
      else if trimChars text = [] then .error (.emptyFile (.ofList name))
      else (filesOf (.ofList name :: seen) rest).map
        ((.ofList name, .ofList (trimChars text ++ ['\n'])) :: ·) := by
  rw [filesOf]
  by_cases hseen : String.ofList name ∈ seen
  · simp [hseen, throw, throwThe, MonadExceptOf.throw, bind, Except.bind]
  · by_cases hblank : trimChars text = []
    · simp [hseen, hblank, throw, throwThe, MonadExceptOf.throw, bind, Except.bind]
    · simp only [List.contains_iff_mem, hseen, List.isEmpty_iff, hblank, if_false]
      cases filesOf (.ofList name :: seen) rest <;> rfl

/-- A section is read as a file if its name is new and it is not blank. -/
theorem filesOf_cons_eq_ok {seen : List String} {name text : List Char}
    {rest : List (List Char × List Char)} {files : List (String × String)} :
    filesOf seen ((name, text) :: rest) = .ok files ↔
      String.ofList name ∉ seen ∧ trimChars text ≠ [] ∧
        ∃ more, filesOf (.ofList name :: seen) rest = .ok more ∧
          files = (.ofList name, .ofList (trimChars text ++ ['\n'])) :: more := by
  rw [filesOf_cons]
  split_ifs with hseen hblank
  · simp [hseen]
  · simp [hblank]
  · rw [map_eq_ok]
    exact ⟨fun ⟨more, hmore, hfiles⟩ => ⟨hseen, hblank, more, hmore, hfiles.symm⟩,
      fun ⟨_, _, more, hmore, hfiles⟩ => ⟨more, hmore, hfiles.symm⟩⟩

/-- The names of the files are those of the sections, each of them new. -/
theorem filesOf_names {ss : List (List Char × List Char)} : ∀ {seen : List String}
    {files : List (String × String)}, filesOf seen ss = .ok files →
      files.map (·.1) = ss.map (fun s => .ofList s.1) ∧ (files.map (·.1)).Nodup ∧
        ∀ f ∈ files, f.1 ∉ seen := by
  induction ss with
  | nil =>
    intro seen files h
    cases h
    exact ⟨rfl, List.nodup_nil, nofun⟩
  | cons s ss ih =>
    intro seen files h
    obtain ⟨hnew, _, more, hmore, rfl⟩ := filesOf_cons_eq_ok.1 h
    obtain ⟨hnames, hnodup, hseen⟩ := ih hmore
    refine ⟨by rw [List.map_cons, List.map_cons, hnames], ?_, ?_⟩
    · rw [List.map_cons, List.nodup_cons]
      refine ⟨fun hmem => ?_, hnodup⟩
      obtain ⟨f, hf, hname⟩ := List.mem_map.1 hmem
      exact hseen f hf (hname ▸ List.mem_cons_self)
    · exact List.forall_mem_cons.2 ⟨hnew, fun f hf hmem => hseen f hf (List.mem_cons_of_mem _ hmem)⟩

/-- The files of a reply are those of its sections. -/
theorem filesOf_of_parseFiles {text : String} {files : List (String × String)}
    (h : parseFiles text = .ok files) : filesOf [] (replySections text) = .ok files := by
  unfold parseFiles at h
  split at h
  · cases h
  · exact h

end CloudScaffold.Assistant
