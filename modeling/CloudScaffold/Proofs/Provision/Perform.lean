import CloudScaffold.Provision.Runner
/-!
# Performing actions

An action that is done while a process runs is performed like any other: its depth is never used up,
since each process takes a step of the script and a script with no step left asks for nothing
(`perform_eq`). Hence what holds of actions may be shown by induction on the steps that are left
(`perform_induct`), and an invariant of worlds is kept by the stages of a run as soon as each process
keeps it (`runStages_within`).
-/
namespace CloudScaffold.Provision

namespace World

/-- The number of steps that are left. -/
def left (w : World) : Nat := w.script.steps.length

@[simp] theorem script_take (w : World) (e : String) : (w.take e).script = w.script := rfl
@[simp] theorem script_free (w : World) (e : String) : (w.free e).script = w.script := rfl
@[simp] theorem script_makeDir (w : World) : w.makeDir.2.script = w.script := rfl
@[simp] theorem script_setDir (w : World) (n : Nat) (d : Directory) :
    (w.setDir n d).script = w.script := rfl
@[simp] theorem script_removeDir (w : World) (n : Nat) : (w.removeDir n).script = w.script := rfl

@[simp] theorem busy_take (w : World) (e : String) : (w.take e).busy = e :: w.busy := rfl
@[simp] theorem busy_free (w : World) (e : String) : (w.free e).busy = w.busy.erase e := rfl
@[simp] theorem busy_makeDir (w : World) : w.makeDir.2.busy = w.busy := rfl
@[simp] theorem busy_setDir (w : World) (n : Nat) (d : Directory) :
    (w.setDir n d).busy = w.busy := rfl
@[simp] theorem busy_removeDir (w : World) (n : Nat) : (w.removeDir n).busy = w.busy := rfl

theorem isBusy_iff {w : World} {e : String} : w.isBusy e = true ↔ e ∈ w.busy := by
  simp [isBusy]

/-- A process takes a step and changes nothing else. -/
theorem nextStep_world (w : World) :
    w.nextStep.2 = { w with script := { w.script with steps := w.script.steps.tail } } := by
  obtain ⟨⟨steps, otherwise⟩, busy, dirs, fresh⟩ := w
  cases steps <;> rfl

/-- Only a step of the script asks for actions. -/
theorem nextStep_of_mem_during {w : World} {a : Action} (h : a ∈ w.nextStep.1.during) :
    w.nextStep.1 ∈ w.script.steps ∧ w.nextStep.2.left < w.left := by
  obtain ⟨⟨steps, otherwise⟩, busy, dirs, fresh⟩ := w
  cases steps with
  | nil => cases h
  | cons s ss => exact ⟨List.mem_cons_self, Nat.lt_succ_self _⟩

end World

/-- Files with names of plain files can be written. -/
theorem Directory.write_eq_ok {files : FileList} : ∀ {d : Directory},
    (∀ f ∈ files, nameFault? f.1 = none) → ∃ content, d.write files = .ok content := by
  induction files with
  | nil => exact fun _ => ⟨_, rfl⟩
  | cons f files ih =>
    intro d h
    obtain ⟨hf, hfiles⟩ := List.forall_mem_cons.1 h
    unfold Directory.write
    rw [hf]
    exact ih hfiles

/-- A computation that leaves a world of a kind, and whose moments are of a kind. -/
structure Done.Within {α : Type} (I : World → Prop) (M : Moment → Prop) (d : Done α) : Prop where
  world : I d.world
  moments : ∀ m ∈ d.moments, M m

namespace Runner

/-! ## Invariants -/

section
variable (r : Runner) {nested : Action → World → Done Answer} {I : World → Prop} {M : Moment → Prop}

/-- Actions that each keep an invariant keep it in turn; each of them starts with it. -/
theorem performEach_within (f : Action → World → Done Answer) : ∀ (as : List Action) {w : World},
    (∀ a ∈ as, ∀ w, I w → I (f a w).world) → I w →
      I (performEach f as w).2 ∧ ∀ d ∈ (performEach f as w).1,
        d.action ∈ as ∧ I d.before ∧ d = (f d.action d.before).deed d.action d.before
  | [], _, _, hw => ⟨hw, by simp [performEach]⟩
  | a :: as, w, h, hw => by
    have ha : I (f a w).world := h a List.mem_cons_self w hw
    have ih := performEach_within f as (fun b hb => h b (List.mem_cons_of_mem a hb)) ha
    refine ⟨ih.1, fun d hd => ?_⟩
    rcases List.mem_cons.1 hd with rfl | hd
    · exact ⟨List.mem_cons_self, hw, rfl⟩
    · obtain ⟨hmem, hrest⟩ := ih.2 d hd
      exact ⟨List.mem_cons_of_mem a hmem, hrest⟩

theorem execute_within {stage : Stage} {extra : List String} {dir : Nat}
    (hs : ∀ w, I w → (r.spawn nested stage extra dir w).Within I M) :
    ∀ (left : Nat) {w : World}, I w → (r.execute nested stage extra dir left w).Within I M
  | 0, w, hw => ⟨(hs w hw).world, (hs w hw).moments⟩
  | left + 1, w, hw => by
    have hd := hs w hw
    unfold execute
    dsimp only
    split
    · have ih := execute_within hs left hd.world
      refine ⟨ih.world, fun m hm => ?_⟩
      rcases List.mem_append.1 hm with hm | hm
      · exact hd.moments m hm
      · exact ih.moments m hm
    · exact ⟨hd.world, hd.moments⟩

/-- An invariant that every process keeps is kept by the stages of an operation. -/
theorem runStages_within (op : Operation) (listener : Listener) {dir : Nat}
    (hs : ∀ stage extra w, I w → (r.spawn nested stage extra dir w).Within I M)
    (ht : ∀ w e, I w → M (.told w e)) :
    ∀ (ss : List Stage) (p : Progress) {w : World}, I w →
      (r.runStages nested op listener dir ss p w).Within I M
  | [], p, w, hw => ⟨hw, by simp [runStages]⟩
  | s :: ss, p, w, hw => by
    have hd := r.execute_within (hs s (op.extraArguments s)) r.retries hw
    unfold runStages
    dsimp only
    split
    · exact ⟨hw, by simpa using ht _ _ hw⟩
    · generalize r.execute nested s (op.extraArguments s) dir r.retries w = d at hd ⊢
      have hm : ∀ e e', ∀ m ∈ Moment.told w e :: (d.moments ++ [.told d.world e']), M m := by
        intro e e' m hm
        simp only [List.mem_cons, List.mem_append, List.not_mem_nil, or_false] at hm
        rcases hm with rfl | hm | rfl
        · exact ht _ _ hw
        · exact hd.moments m hm
        · exact ht _ _ hd.world
      split
      · exact ⟨hd.world, hm _ _⟩
      · have ih := runStages_within op listener hs ht ss
          ((p.emit listener (starting s)).emit listener (ending s d.value)) hd.world
        refine ⟨ih.world, fun m h => ?_⟩
        rcases List.mem_append.1 h with h | h
        · exact hm _ _ m h
        · exact ih.moments m h

/-- An invariant that says nothing of directories is kept by what is done in one. -/
theorem inDirectory_within {α : Type} {act : Nat → World → Done α} {w : World} (files : FileList)
    (hI : ∀ w w', w'.script = w.script → w'.busy = w.busy → I w → I w')
    (hact : ∀ dir w, I w → (act dir w).Within I M) (hw : I w) :
    (inDirectory w files act).Within I M := by
  unfold inDirectory
  dsimp only
  split
  · exact ⟨hI w _ rfl rfl hw, by simp⟩
  · rename_i content _
    have h := hact w.makeDir.1 (w.makeDir.2.setDir w.makeDir.1 content) (hI w _ rfl rfl hw)
    exact ⟨hI (act _ _).world _ rfl rfl h.world, h.moments⟩

end

/-! ## Nesting -/

section
variable (r : Runner) {f g : Action → World → Done Answer} {n : Nat} {steps : List Step}

/-- Nothing adds steps to the script. -/
theorem spawn_suffix (hf : ∀ a w, (f a w).world.script.steps <:+ w.script.steps) (stage : Stage)
    (extra : List String) (dir : Nat) {w : World} (hw : w.script.steps <:+ steps) :
    (r.spawn f stage extra dir w).Within (·.script.steps <:+ steps) fun _ => True := by
  have hnext : w.nextStep.2.script.steps <:+ steps := by
    rw [World.nextStep_world]
    exact (List.tail_suffix _).trans hw
  have h := performEach_within (I := (·.script.steps <:+ steps)) f w.nextStep.1.during
    (fun a _ w hw => (hf a w).trans hw) hnext
  exact ⟨h.1, fun _ _ => trivial⟩

theorem performWith_suffix (hf : ∀ a w, (f a w).world.script.steps <:+ w.script.steps) (a : Action)
    (w : World) : (r.performWith f a w).world.script.steps <:+ w.script.steps := by
  have hI : ∀ (steps : List Step) (w w' : World), w'.script = w.script → w'.busy = w.busy →
      w.script.steps <:+ steps → w'.script.steps <:+ steps := fun _ _ _ hs _ h => hs ▸ h
  have hs := fun (dir : Nat) stage extra (w' : World) (hw : w'.script.steps <:+ w.script.steps) =>
    r.spawn_suffix hf stage extra dir hw
  cases a with
  | operate op env files listener =>
    unfold performWith operate
    dsimp only
    split
    · exact List.suffix_rfl
    · have h := inDirectory_within (w := w.take env) files (hI w.script.steps)
        (fun dir w' hw' => r.runStages_within op listener (hs dir) (fun _ _ _ => trivial)
          op.stages {} hw') List.suffix_rfl
      unfold conclude
      split
      · exact h.world
      · exact h.world
  | run stage files =>
    unfold performWith runStage
    dsimp only
    split
    · exact List.suffix_rfl
    · rename_i s _
      exact (inDirectory_within (w := w) files (hI w.script.steps)
        (fun dir w' hw' => r.execute_within (hs dir s []) r.retries hw') List.suffix_rfl).world
  | isBusy env => exact List.suffix_rfl
  | acquire env => unfold performWith; dsimp only; split <;> exact List.suffix_rfl
  | release env => unfold performWith; dsimp only; split <;> exact List.suffix_rfl

theorem performTo_suffix : ∀ (depth : Nat) (a : Action) (w : World),
    (r.performTo depth a w).world.script.steps <:+ w.script.steps
  | 0 => r.performWith_suffix fun _ _ => List.suffix_rfl
  | depth + 1 => r.performWith_suffix (performTo_suffix depth)

theorem perform_suffix (a : Action) (w : World) :
    (r.perform a w).world.script.steps <:+ w.script.steps :=
  r.performTo_suffix _ a w

theorem performEach_congr (hf : ∀ a w, (f a w).world.script.steps <:+ w.script.steps)
    (h : ∀ a w, w.left ≤ n → f a w = g a w) : ∀ (as : List Action) {w : World}, w.left ≤ n →
      performEach f as w = performEach g as w
  | [], _, _ => rfl
  | a :: as, w, hw => by
    have ih := performEach_congr hf h as (Nat.le_trans (hf a w).length_le hw)
    unfold performEach
    dsimp only
    rw [ih, h a w hw]

/-- A process that takes one of at most `n` steps has actions done with less than `n` steps. -/
theorem spawn_congr (hf : ∀ a w, (f a w).world.script.steps <:+ w.script.steps)
    (h : ∀ a w, w.left < n → f a w = g a w) (stage : Stage) (extra : List String) (dir : Nat)
    {w : World} (hw : w.left ≤ n) :
    r.spawn f stage extra dir w = r.spawn g stage extra dir w := by
  have he : performEach f w.nextStep.1.during w.nextStep.2
      = performEach g w.nextStep.1.during w.nextStep.2 := by
    cases hd : w.nextStep.1.during with
    | nil => rfl
    | cons a as =>
      have hlt := (World.nextStep_of_mem_during (w := w) (a := a) (by simp [hd])).2
      exact performEach_congr hf (fun b w' hw' => h b w' (by omega)) _ (Nat.le_refl _)
  unfold spawn
  dsimp only
  rw [he]

theorem execute_congr (hf : ∀ a w, (f a w).world.script.steps <:+ w.script.steps)
    (h : ∀ a w, w.left < n → f a w = g a w) (stage : Stage) (extra : List String) (dir : Nat) :
    ∀ (left : Nat) {w : World}, w.left ≤ n →
      r.execute f stage extra dir left w = r.execute g stage extra dir left w
  | 0, w, hw => by unfold execute; rw [r.spawn_congr hf h stage extra dir hw]
  | left + 1, w, hw => by
    have hnext : (r.spawn f stage extra dir w).world.script.steps <:+ w.script.steps :=
      (r.spawn_suffix hf stage extra dir List.suffix_rfl).world
    have ih := execute_congr hf h stage extra dir left (Nat.le_trans hnext.length_le hw)
    unfold execute
    rw [← r.spawn_congr hf h stage extra dir hw]
    dsimp only
    rw [ih]

theorem runStages_congr (hf : ∀ a w, (f a w).world.script.steps <:+ w.script.steps)
    (h : ∀ a w, w.left < n → f a w = g a w) (op : Operation) (listener : Listener) (dir : Nat) :
    ∀ (ss : List Stage) (p : Progress) {w : World}, w.left ≤ n →
      r.runStages f op listener dir ss p w = r.runStages g op listener dir ss p w
  | [], _, _, _ => rfl
  | s :: ss, p, w, hw => by
    have hnext : (r.execute f s (op.extraArguments s) dir r.retries w).world.script.steps
        <:+ w.script.steps :=
      (r.execute_within (fun w hw => r.spawn_suffix hf s (op.extraArguments s) dir hw) r.retries
        List.suffix_rfl).world
    have ih := fun p => runStages_congr hf h op listener dir ss p
      (Nat.le_trans hnext.length_le hw)
    unfold runStages
    rw [← r.execute_congr hf h s (op.extraArguments s) dir r.retries hw]
    dsimp only
    rw [ih]

theorem performWith_congr (hf : ∀ a w, (f a w).world.script.steps <:+ w.script.steps) {w : World}
    (h : ∀ a w', w'.left < w.left → f a w' = g a w') (a : Action) :
    r.performWith f a w = r.performWith g a w := by
  cases a with
  | operate op env files listener =>
    have hd : ∀ dir (d : Directory), r.runStages f op listener dir op.stages {}
          (((w.take env).makeDir.2).setDir dir d)
        = r.runStages g op listener dir op.stages {} (((w.take env).makeDir.2).setDir dir d) :=
      fun dir d => r.runStages_congr hf h op listener dir op.stages {} (Nat.le_refl _)
    unfold performWith operate inDirectory
    simp only [hd]
  | run stage files =>
    have hd : ∀ s dir (d : Directory), r.execute f s [] dir r.retries (w.makeDir.2.setDir dir d)
        = r.execute g s [] dir r.retries (w.makeDir.2.setDir dir d) :=
      fun s dir d => r.execute_congr hf h s [] dir r.retries (Nat.le_refl _)
    unfold performWith runStage inDirectory
    simp only [hd]
  | isBusy _ | acquire _ | release _ => rfl

/-- A depth that bounds the steps is enough. -/
theorem performTo_succ : ∀ {depth : Nat} (a : Action) {w : World}, w.left ≤ depth →
    r.performTo (depth + 1) a w = r.performTo depth a w
  | 0, a, w, hw =>
    (r.performWith_congr (fun _ _ => List.suffix_rfl) (fun _ w' hw' => by omega) a).symm
  | depth + 1, a, w, hw =>
    r.performWith_congr (r.performTo_suffix (depth + 1))
      (fun b w' hw' => performTo_succ b (w := w') (by omega)) a

theorem performTo_eq (a : Action) {w : World} {depth : Nat} (h : w.left ≤ depth) :
    r.performTo depth a w = r.perform a w := by
  obtain ⟨more, rfl⟩ := Nat.exists_eq_add_of_le h
  induction more with
  | zero => rfl
  | succ more ih => rw [← Nat.add_assoc, r.performTo_succ a (by omega), ih (by omega)]

/-- What is done while a process runs is performed like any other action. -/
theorem perform_eq (a : Action) (w : World) : r.perform a w = r.performWith r.perform a w := by
  change r.performTo w.left a w = _
  cases h : w.left with
  | zero => exact r.performWith_congr (fun _ _ => List.suffix_rfl) (fun _ w' hw' => by omega) a
  | succ depth =>
    exact r.performWith_congr (r.performTo_suffix depth)
      (fun b w' hw' => r.performTo_eq b (by omega)) a

/-- Induction on the steps that are left: what holds of an action as soon as it holds of those that
are done while its processes run holds of every action. -/
theorem perform_induct {P : Action → World → Done Answer → Prop}
    (h : ∀ a w, (∀ b w', w'.left < w.left → P b w' (r.perform b w')) →
      P a w (r.performWith r.perform a w)) (a : Action) (w : World) : P a w (r.perform a w) := by
  induction hn : w.left using Nat.strongRecOn generalizing a w with
  | _ n ih =>
    rw [r.perform_eq]
    exact h a w fun b w' hw' => ih w'.left (hn ▸ hw') b w' rfl

end

end Runner

end CloudScaffold.Provision
