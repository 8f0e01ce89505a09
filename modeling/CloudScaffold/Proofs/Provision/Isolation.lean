import CloudScaffold.Proofs.Provision.Directory
import CloudScaffold.Proofs.Provision.Exclusion
/-!
# Isolated runs

While calls are made one inside the other, the directories that exist are those of the calls in
progress, the innermost first, and those that were there before: a call that runs anything makes a
directory of its own before its first process, and removes it after its last, whatever ends it. Nothing
is done to the others, since the number of a new directory is greater than theirs (`Tidies`). The
numbers that calls give to their directories, in the order of the calls, are just the numbers that are
used up (`Tidy.numbers`), so no directory serves two calls.

Main statement: `isolated_of_performAll`.
-/
namespace CloudScaffold.Provision

/-! ## The calls of a history -/

mutual

def Job.calls (amid : List Deed) : Job → List (List Deed × Deed)
  | ⟨_, _, _, _, _, _, during⟩ => callsOf amid during
termination_by structural job => job

def Moment.calls (amid : List Deed) : Moment → List (List Deed × Deed)
  | .told _ _ => []
  | .ran _ job => job.calls amid
termination_by structural m => m

def Deed.calls (amid : List Deed) : Deed → List (List Deed × Deed)
  | ⟨action, before, answer, moments, after⟩ =>
    (amid, ⟨action, before, answer, moments, after⟩) ::
      callsIn (⟨action, before, answer, moments, after⟩ :: amid) moments
termination_by structural d => d

def callsIn (amid : List Deed) : List Moment → List (List Deed × Deed)
  | [] => []
  | m :: ms => m.calls amid ++ callsIn amid ms
termination_by structural ms => ms

/-- All calls of a history, in the order in which they were made, each with the calls that were in
progress, the innermost first. -/
def callsOf (amid : List Deed) : List Deed → List (List Deed × Deed)
  | [] => []
  | d :: ds => d.calls amid ++ callsOf amid ds
termination_by structural ds => ds

end

theorem Deed.calls_eq (amid : List Deed) (d : Deed) :
    d.calls amid = (amid, d) :: callsIn (d :: amid) d.moments := by
  cases d
  rfl

theorem callsIn_append (amid : List Deed) (ms ms' : List Moment) :
    callsIn amid (ms ++ ms') = callsIn amid ms ++ callsIn amid ms' := by
  induction ms with
  | nil => rfl
  | cons m ms ih => rw [List.cons_append, callsIn, ih, callsIn, List.append_assoc]

/-- A process that a call started itself. -/
def Deed.Starts (d : Deed) (job : Job) : Prop := ∃ w, .ran w job ∈ d.moments

mutual

theorem Job.starts_of_mem {job : Job} (amid : List Deed) : ∀ {outer : Job}, job ∈ outer.all →
    job = outer ∨ ∃ c ∈ outer.calls amid, c.2.Starts job
  | ⟨_, _, _, _, _, _, during⟩, h => by
    rcases List.mem_cons.1 h with rfl | h
    · exact .inl rfl
    · exact .inr (starts_of_mem_jobsOf amid h)

theorem Moment.starts_of_mem {job : Job} (amid : List Deed) : ∀ {m : Moment}, job ∈ m.jobs →
    (∃ w, m = .ran w job) ∨ ∃ c ∈ m.calls amid, c.2.Starts job
  | .told _ _, h => by cases h
  | .ran w outer, h => by
    rcases Job.starts_of_mem amid h with rfl | h
    · exact .inl ⟨w, rfl⟩
    · exact .inr h

theorem Deed.starts_of_mem {job : Job} (amid : List Deed) : ∀ {d : Deed}, job ∈ d.jobs →
    ∃ c ∈ d.calls amid, c.2.Starts job
  | ⟨action, before, answer, moments, after⟩, h => by
    rcases starts_of_mem_jobs (⟨action, before, answer, moments, after⟩ :: amid) h with h | ⟨c, hc, h⟩
    · exact ⟨_, List.mem_cons_self, h⟩
    · exact ⟨c, List.mem_cons_of_mem _ hc, h⟩

theorem starts_of_mem_jobs {job : Job} (amid : List Deed) : ∀ {ms : List Moment}, job ∈ jobs ms →
    (∃ w, .ran w job ∈ ms) ∨ ∃ c ∈ callsIn amid ms, c.2.Starts job
  | [], h => by cases h
  | m :: ms, h => by
    rcases List.mem_append.1 h with h | h
    · rcases Moment.starts_of_mem amid h with ⟨w, rfl⟩ | ⟨c, hc, h⟩
      · exact .inl ⟨w, List.mem_cons_self⟩
      · exact .inr ⟨c, List.mem_append_left _ hc, h⟩
    · rcases starts_of_mem_jobs amid h with ⟨w, h⟩ | ⟨c, hc, h⟩
      · exact .inl ⟨w, List.mem_cons_of_mem m h⟩
      · exact .inr ⟨c, List.mem_append_right _ hc, h⟩

/-- Every process of a history was started by one of its calls. -/
theorem starts_of_mem_jobsOf {job : Job} (amid : List Deed) : ∀ {ds : List Deed}, job ∈ jobsOf ds →
    ∃ c ∈ callsOf amid ds, c.2.Starts job
  | [], h => by cases h
  | d :: ds, h => by
    rcases List.mem_append.1 h with h | h
    · obtain ⟨c, hc, h⟩ := Deed.starts_of_mem amid h
      exact ⟨c, List.mem_append_left _ hc, h⟩
    · obtain ⟨c, hc, h⟩ := starts_of_mem_jobsOf amid h
      exact ⟨c, List.mem_append_right _ hc, h⟩

end

/-! ## Directories of calls -/

/-- The files that are passed to an action. -/
def Action.files : Action → FileList
  | operate _ _ files _ | run _ files => files
  | isBusy _ | acquire _ | release _ => []

namespace Deed

/-- The directory that a call makes: none, if it is refused at once or asks for no process. -/
def dir? (d : Deed) : Option Nat :=
  match d.action with
  | .operate _ env _ _ => if d.before.isBusy env then none else some d.before.fresh
  | .run stage _ => (Stage.ofName? stage).map fun _ => d.before.fresh
  | .isBusy _ | .acquire _ | .release _ => none

/-- The directory of a call in progress, with the files that were passed to the call. -/
def place (d : Deed) : Nat × Directory :=
  (d.before.fresh, (Directory.write [] d.action.files).toOption.getD [])

end Deed

/-- What holds of a call that is made amid others, where some directories were there before. -/
structure Isolated (base : List (Nat × Directory)) (amid : List Deed) (d : Deed) : Prop where
  /-- Its processes run in its directory and find there the files that were passed to it. -/
  started : ∀ job, d.Starts job → d.dir? = some job.dir ∧
    Directory.write [] d.action.files = .ok job.files ∧
    ((d.action.files.map (·.1)).Nodup → job.files.Perm d.action.files)
  before : d.before.dirs = amid.map Deed.place ++ base
  /-- As long as it runs, its directory and those of the calls around it hold the files of each. -/
  during : ∀ m ∈ d.moments, m.world.dirs = (d :: amid).map Deed.place ++ base
  /-- However it ends, the directories are those that were there before. -/
  after : d.after.dirs = d.before.dirs
  gone : ∀ dir, d.dir? = some dir → dir ∉ d.after.dirs.map (·.1)

/-! ## Worlds -/

namespace World

variable {w : World} {n : Nat} {content : Directory} {dirs : List (Nat × Directory)}

@[simp] theorem dirs_nextStep (w : World) : w.nextStep.2.dirs = w.dirs := by rw [nextStep_world]

@[simp] theorem fresh_nextStep (w : World) : w.nextStep.2.fresh = w.fresh := by rw [nextStep_world]

/-- A directory that is filled when it was made stands beside those that were there. -/
theorem dirs_setDir_makeDir (h : ∀ d ∈ w.dirs, d.1 < w.fresh) :
    (w.makeDir.2.setDir w.fresh content).dirs = (w.fresh, content) :: w.dirs := by
  have hkeep : w.dirs.map (fun d => if d.1 = w.fresh then (w.fresh, content) else d) = w.dirs := by
    rw [List.map_congr_left fun d hd => if_neg (Nat.ne_of_lt (h d hd)), List.map_id']
  simp only [setDir, makeDir, List.map_cons, if_true, hkeep]

theorem dirs_removeDir (hw : w.dirs = (n, content) :: dirs) (h : ∀ d ∈ dirs, d.1 < n) :
    (w.removeDir n).dirs = dirs := by
  have hkeep : dirs.filter (fun d => d.1 ≠ n) = dirs :=
    List.filter_eq_self.2 fun d hd => by simpa using Nat.ne_of_lt (h d hd)
  simp only [removeDir, hw, List.filter_cons, hkeep, ne_eq, not_true_eq_false, decide_false,
    Bool.false_eq_true, if_false]

end World

/-- A world in which the directories are those of the calls in progress and some that were there
before. -/
structure Amid (base : List (Nat × Directory)) (amid : List Deed) (w : World) : Prop where
  dirs : w.dirs = amid.map Deed.place ++ base
  fresh : ∀ d ∈ w.dirs, d.1 < w.fresh

/-- Calls that lead from one world to another: each of them is isolated, and they leave nothing. -/
structure Tidy (base : List (Nat × Directory)) (calls : List (List Deed × Deed)) (w w' : World) :
    Prop where
  isolated : ∀ c ∈ calls, Isolated base c.1 c.2
  /-- The directories of the calls, in the order of the calls, have the numbers that are used up. -/
  numbers : calls.filterMap (·.2.dir?) = List.range' w.fresh (w'.fresh - w.fresh)
  fresh : w.fresh ≤ w'.fresh
  dirs : w'.dirs = w.dirs

section
variable {base : List (Nat × Directory)} {amid : List Deed} {calls calls' : List (List Deed × Deed)}
  {w w' w'' : World}

theorem Tidy.nil (hdirs : w'.dirs = w.dirs) (hfresh : w'.fresh = w.fresh) : Tidy base [] w w' where
  isolated := nofun
  numbers := by rw [hfresh, Nat.sub_self]; rfl
  fresh := Nat.le_of_eq hfresh.symm
  dirs := hdirs

theorem Tidy.append (h : Tidy base calls w w') (h' : Tidy base calls' w' w'') :
    Tidy base (calls ++ calls') w w'' where
  isolated c hc := (List.mem_append.1 hc).elim (h.isolated c) (h'.isolated c)
  numbers := by
    have hle := h.fresh
    have hle' := h'.fresh
    have hlen : w''.fresh - w.fresh = (w'.fresh - w.fresh) + (w''.fresh - w'.fresh) := by omega
    have hstart : w.fresh + (w'.fresh - w.fresh) = w'.fresh := by omega
    rw [List.filterMap_append, h.numbers, h'.numbers, hlen, ← List.range'_append_1, hstart]
  fresh := Nat.le_trans h.fresh h'.fresh
  dirs := h'.dirs.trans h.dirs

theorem Tidy.keeps_amid (h : Tidy base calls w w') (hw : Amid base amid w) : Amid base amid w' where
  dirs := h.dirs.trans hw.dirs
  fresh d hd := Nat.lt_of_lt_of_le (hw.fresh d (h.dirs ▸ hd)) h.fresh

theorem Amid.not_mem (hw : Amid base amid w) {dir : Nat} (h : w.fresh ≤ dir) :
    dir ∉ w.dirs.map (·.1) := by
  intro hmem
  obtain ⟨d, hd, rfl⟩ := List.mem_map.1 hmem
  exact Nat.not_lt.2 h (hw.fresh d hd)

theorem Amid.of_eq (hw : Amid base amid w) (hdirs : w'.dirs = w.dirs) (hfresh : w'.fresh = w.fresh) :
    Amid base amid w' where
  dirs := hdirs.trans hw.dirs
  fresh := by rw [hdirs, hfresh]; exact hw.fresh

/-- When its directory is filled, a call is one of those in progress. -/
theorem Amid.enter {d : Deed} {content : Directory} (hw : Amid base amid d.before)
    (hdirs : w.dirs = d.before.dirs) (hfresh : w.fresh = d.before.fresh)
    (hwrite : Directory.write [] d.action.files = .ok content) :
    Amid base (d :: amid) (w.makeDir.2.setDir w.makeDir.1 content) := by
  have hbound : ∀ e ∈ w.dirs, e.1 < w.fresh := (hw.of_eq hdirs hfresh).fresh
  have hmade : (w.makeDir.2.setDir w.makeDir.1 content).dirs = (w.fresh, content) :: w.dirs :=
    World.dirs_setDir_makeDir hbound
  have hplace : d.place = (w.fresh, content) := by
    rw [Deed.place, hwrite, hfresh]
    rfl
  refine ⟨?_, ?_⟩
  · rw [hmade, List.map_cons, List.cons_append, hplace, hdirs, hw.dirs]
  · rw [hmade]
    exact List.forall_mem_cons.2
      ⟨Nat.lt_succ_self _, fun e he => Nat.lt_succ_of_lt (hbound e he)⟩

end

namespace Runner

/-! ## Runs in a directory -/

/-- Moments that lead from one world to another: events that are told, and processes that are started
in a directory. -/
inductive Chained (r : Runner) (nested : Action → World → Done Answer) (dir : Nat) :
    World → List Moment → World → Prop
  | nil {w : World} : Chained r nested dir w [] w
  | told {w w' : World} {ms : List Moment} (e : Event) (h : Chained r nested dir w ms w') :
      Chained r nested dir w (.told w e :: ms) w'
  | ran {w w' : World} {ms : List Moment} (stage : Stage) (extra : List String)
      (h : Chained r nested dir (r.spawn nested stage extra dir w).world ms w') :
      Chained r nested dir w ((r.spawn nested stage extra dir w).moments ++ ms) w'

section
variable {r : Runner} {nested : Action → World → Done Answer} {dir : Nat} {w w' w'' : World}
  {ms ms' : List Moment}

theorem Chained.append (h : Chained r nested dir w ms w') (h' : Chained r nested dir w' ms' w'') :
    Chained r nested dir w (ms ++ ms') w'' := by
  induction h with
  | nil => exact h'
  | told e _ ih => exact .told e (ih h')
  | ran stage extra _ ih =>
    rw [List.append_assoc]
    exact .ran stage extra (ih h')

theorem spawn_chained (stage : Stage) (extra : List String) :
    Chained r nested dir w (r.spawn nested stage extra dir w).moments
      (r.spawn nested stage extra dir w).world := by
  rw [← List.append_nil (r.spawn nested stage extra dir w).moments]
  exact .ran stage extra .nil

theorem execute_chained (stage : Stage) (extra : List String) : ∀ (left : Nat) {w : World},
    Chained r nested dir w (r.execute nested stage extra dir left w).moments
      (r.execute nested stage extra dir left w).world
  | 0, _ => spawn_chained stage extra
  | left + 1, _ => by
    unfold execute
    dsimp only
    split
    · exact (spawn_chained stage extra).append (execute_chained stage extra left)
    · exact spawn_chained stage extra

theorem runStages_chained (op : Operation) (listener : Listener) : ∀ (ss : List Stage) (p : Progress)
    {w : World}, Chained r nested dir w (r.runStages nested op listener dir ss p w).moments
      (r.runStages nested op listener dir ss p w).world
  | [], _, _ => .nil
  | s :: ss, p, w => by
    have hround (e e' : Event) : Chained r nested dir w
        (.told w e :: ((r.execute nested s (op.extraArguments s) dir r.retries w).moments ++
          [.told (r.execute nested s (op.extraArguments s) dir r.retries w).world e']))
        (r.execute nested s (op.extraArguments s) dir r.retries w).world :=
      .told e ((execute_chained s (op.extraArguments s) r.retries).append (.told e' .nil))
    unfold runStages
    dsimp only
    split
    · exact .told _ .nil
    · split
      · exact hround _ _
      · exact (hround _ _).append (runStages_chained op listener ss _)

end

/-! ## Calls -/

section
variable {r : Runner} {base : List (Nat × Directory)} {amid : List Deed} {n : Nat} {w w' : World}

/-- With less than some number of steps left, every call is tidy. -/
def Tidies (r : Runner) (base : List (Nat × Directory)) (n : Nat) : Prop :=
  ∀ (a : Action) (w : World) (amid : List Deed), w.left < n → Amid base amid w →
    Tidy base (((r.perform a w).deed a w).calls amid) w (r.perform a w).world

theorem performEach_tidy (ih : r.Tidies base n) : ∀ (as : List Action) {w : World},
    (as ≠ [] → w.left < n) → Amid base amid w →
      Tidy base (callsOf amid (performEach r.perform as w).1) w (performEach r.perform as w).2
  | [], _, _, _ => .nil rfl rfl
  | a :: as, w, hn, hw => by
    have hcall := ih a w amid (hn (List.cons_ne_nil a as)) hw
    have hleft : (r.perform a w).world.left < n :=
      Nat.lt_of_le_of_lt (r.perform_suffix a w).length_le (hn (List.cons_ne_nil a as))
    exact hcall.append (performEach_tidy ih as (fun _ => hleft) (hcall.keeps_amid hw))

/-- The calls that are made while a process runs. -/
theorem spawn_tidy (ih : r.Tidies base n) (stage : Stage) (extra : List String) (dir : Nat)
    (hn : w.left ≤ n) (hw : Amid base amid w) :
    Tidy base (callsIn amid (r.spawn r.perform stage extra dir w).moments) w
      (r.spawn r.perform stage extra dir w).world := by
  have hleft : w.nextStep.1.during ≠ [] → w.nextStep.2.left < n := by
    intro hne
    obtain ⟨a, as, hd⟩ := List.exists_cons_of_ne_nil hne
    exact Nat.lt_of_lt_of_le
      (World.nextStep_of_mem_during (w := w) (a := a) (hd ▸ List.mem_cons_self)).2 hn
  have hnext : Amid base amid w.nextStep.2 := hw.of_eq w.dirs_nextStep w.fresh_nextStep
  have htaken : Tidy base [] w w.nextStep.2 := .nil w.dirs_nextStep w.fresh_nextStep
  have hcalls := htaken.append (performEach_tidy ih w.nextStep.1.during hleft hnext)
  have hlist : callsIn amid (r.spawn r.perform stage extra dir w).moments =
      callsOf amid (performEach r.perform w.nextStep.1.during w.nextStep.2).1 := List.append_nil _
  rw [hlist]
  exact hcalls

/-- The moments of a run: the calls that are made in them are tidy, and at each of them the
directories are those that the run started with. -/
theorem Chained.tidy {dir : Nat} {ms : List Moment} (h : Chained r r.perform dir w ms w')
    (ih : r.Tidies base n) (hn : w.left ≤ n) (hw : Amid base amid w) :
    Tidy base (callsIn amid ms) w w' ∧ (∀ m ∈ ms, m.world.dirs = w.dirs) ∧
      ∀ w₀ job, .ran w₀ job ∈ ms → job.dir = dir ∧ job.files = w.filesIn dir := by
  induction h with
  | nil => exact ⟨.nil rfl rfl, nofun, nofun⟩
  | told e _ ihms =>
    obtain ⟨hcalls, hworlds, hjobs⟩ := ihms hn hw
    refine ⟨hcalls, List.forall_mem_cons.2 ⟨rfl, hworlds⟩, fun w₀ job hmem => ?_⟩
    rcases List.mem_cons.1 hmem with heq | hmem
    · cases heq
    · exact hjobs w₀ job hmem
  | @ran w w' ms stage extra _ ihms =>
    have hspawn := spawn_tidy ih stage extra dir hn hw
    have hleft : (r.spawn r.perform stage extra dir w).world.left ≤ n :=
      Nat.le_trans (r.spawn_suffix r.perform_suffix stage extra dir
        List.suffix_rfl).world.length_le hn
    obtain ⟨hcalls, hworlds, hjobs⟩ := ihms hleft (hspawn.keeps_amid hw)
    rw [callsIn_append]
    refine ⟨hspawn.append hcalls, fun m hm => ?_, fun w₀ job hmem => ?_⟩
    · rcases List.mem_append.1 hm with hm | hm
      · rw [List.mem_singleton.1 hm]
        exact w.dirs_nextStep
      · exact (hworlds m hm).trans hspawn.dirs
    · rcases List.mem_append.1 hmem with hmem | hmem
      · cases List.mem_singleton.1 hmem
        have hfiles : w.nextStep.2.filesIn dir = w.filesIn dir := by
          rw [World.filesIn, World.filesIn, World.dirs_nextStep]
        exact ⟨rfl, hfiles⟩
      · obtain ⟨hdir, hfiles⟩ := hjobs w₀ job hmem
        exact ⟨hdir, by rw [hfiles, World.filesIn, World.filesIn, hspawn.dirs]⟩

/-- A call in which nothing happens. -/
theorem isolated_of_idle {d : Deed} (hw : Amid base amid d.before) (hmoments : d.moments = [])
    (hdirs : d.after.dirs = d.before.dirs) (hgone : ∀ dir, d.dir? = some dir → d.before.fresh ≤ dir) :
    Isolated base amid d where
  started job h := by
    obtain ⟨w, h⟩ := h
    rw [hmoments] at h
    cases h
  before := hw.dirs
  during m hm := by rw [hmoments] at hm; cases hm
  after := hdirs
  gone dir h := by
    rw [hdirs]
    exact hw.not_mem (hgone dir h)

/-- A call that makes no directory. -/
theorem tidy_of_idle {d : Deed} (hw : Amid base amid d.before) (hdir : d.dir? = none)
    (hmoments : d.moments = []) (hdirs : d.after.dirs = d.before.dirs)
    (hfresh : d.after.fresh = d.before.fresh) : Tidy base (d.calls amid) d.before d.after := by
  have hisolated := isolated_of_idle hw hmoments hdirs fun dir h => by rw [hdir] at h; cases h
  rw [d.calls_eq, hmoments, callsIn]
  refine ⟨fun c hc => List.mem_singleton.1 hc ▸ hisolated, ?_, Nat.le_of_eq hfresh.symm, hdirs⟩
  rw [hfresh, Nat.sub_self]
  simp [hdir]

/-- A call that makes a directory, with the calls that are made inside it. -/
theorem tidy_of_isolated {d : Deed} (h : Isolated base amid d) (hdir : d.dir? = some d.before.fresh)
    (hcalls : Tidy base (callsIn (d :: amid) d.moments) w w')
    (hfresh : w.fresh = d.before.fresh + 1) (hfresh' : d.after.fresh = w'.fresh) :
    Tidy base (d.calls amid) d.before d.after := by
  have hle := hcalls.fresh
  have hlen : d.after.fresh - d.before.fresh = (w'.fresh - w.fresh) + 1 := by omega
  rw [d.calls_eq]
  refine ⟨List.forall_mem_cons.2 ⟨h, hcalls.isolated⟩, ?_, by omega, h.after⟩
  rw [List.filterMap_cons_some (f := fun c : List Deed × Deed => c.2.dir?) hdir, hcalls.numbers, hlen,
    hfresh, List.range'_succ]

/-- A call that does all that it does in a directory of its own. -/
theorem tidy_of_inDirectory {α : Type} {act : Nat → World → Done α} {d : Deed}
    (ih : r.Tidies base w.left) (hw : Amid base amid d.before)
    (hact : ∀ dir w, Chained r r.perform dir w (act dir w).moments (act dir w).world)
    (hdir : d.dir? = some d.before.fresh) (hdirs : w.dirs = d.before.dirs)
    (hfresh : w.fresh = d.before.fresh)
    (hmoments : d.moments = (inDirectory w d.action.files act).moments)
    (hdirs' : d.after.dirs = (inDirectory w d.action.files act).world.dirs)
    (hfresh' : d.after.fresh = (inDirectory w d.action.files act).world.fresh) :
    Tidy base (d.calls amid) d.before d.after := by
  have hbound : ∀ e ∈ w.dirs, e.1 < w.fresh := (hw.of_eq hdirs hfresh).fresh
  have hgone : ∀ dir, d.dir? = some dir → d.before.fresh ≤ dir := fun dir h => by
    cases hdir.symm.trans h
    exact Nat.le_refl _
  unfold inDirectory at hmoments hdirs' hfresh'
  dsimp only at hmoments hdirs' hfresh'
  cases hwrite : Directory.write [] d.action.files with
  | error e =>
    -- the files cannot be written, and the directory is removed at once
    rw [hwrite] at hmoments hdirs' hfresh'
    have hremoved : d.after.dirs = d.before.dirs :=
      (hdirs'.trans (World.dirs_removeDir (n := w.fresh) rfl hbound)).trans hdirs
    have hcalls : Tidy base (callsIn (d :: amid) d.moments) d.after d.after := by
      rw [hmoments]
      exact .nil rfl rfl
    exact tidy_of_isolated (isolated_of_idle hw hmoments hremoved hgone) hdir hcalls
      (hfresh'.trans (congrArg (· + 1) hfresh)) rfl
  | ok content =>
    rw [hwrite] at hmoments hdirs' hfresh'
    dsimp only at hmoments hdirs' hfresh'
    have hchain := hact w.makeDir.1 (w.makeDir.2.setDir w.makeDir.1 content)
    generalize act _ _ = done at hmoments hdirs' hfresh' hchain
    have hamid : Amid base (d :: amid) (w.makeDir.2.setDir w.makeDir.1 content) :=
      hw.enter hdirs hfresh hwrite
    have hmade : (w.makeDir.2.setDir w.makeDir.1 content).dirs = (w.fresh, content) :: w.dirs :=
      World.dirs_setDir_makeDir hbound
    obtain ⟨hcalls, hworlds, hjobs⟩ := hchain.tidy ih (Nat.le_refl _) hamid
    have hremoved : d.after.dirs = d.before.dirs :=
      (hdirs'.trans (World.dirs_removeDir (hcalls.dirs.trans hmade) hbound)).trans hdirs
    have hisolated : Isolated base amid d :=
      { started := fun job h => by
          obtain ⟨w₀, h⟩ := h
          rw [hmoments] at h
          obtain ⟨hjob, hfiles⟩ := hjobs w₀ job h
          have hcontent : job.files = content := by
            rw [hfiles, World.filesIn, hmade, World.makeDir, List.lookup_cons_self]
            rfl
          rw [hjob, hcontent]
          exact ⟨hdir.trans (congrArg some hfresh.symm), hwrite,
            fun hnodup => Directory.write_nil_perm hnodup hwrite⟩
        before := hw.dirs
        during := fun m hm => (hworlds m (hmoments ▸ hm)).trans hamid.dirs
        after := hremoved
        gone := fun dir h => hremoved ▸ hw.not_mem (hgone dir h) }
    rw [← hmoments] at hcalls
    exact tidy_of_isolated hisolated hdir hcalls (congrArg (· + 1) hfresh) hfresh'

theorem operate_tidy (ih : r.Tidies base w.left) (hw : Amid base amid w) (op : Operation)
    (env : String) (files : FileList) (listener : Listener) :
    Tidy base (((r.operate r.perform op env files listener w).deed
        (.operate op env files listener) w).calls amid) w
      (r.operate r.perform op env files listener w).world := by
  unfold operate
  dsimp only
  by_cases hbusy : w.isBusy env = true
  · rw [if_pos hbusy]
    exact tidy_of_idle hw (by simp [Done.deed, Deed.dir?, hbusy]) rfl rfl rfl
  · rw [if_neg hbusy]
    have hdir : ∀ d : Done Answer, (d.deed (.operate op env files listener) w).dir? = some w.fresh :=
      fun d => by simp [Done.deed, Deed.dir?, hbusy]
    unfold conclude
    split
    all_goals
      exact tidy_of_inDirectory (d := Done.deed _ (.operate op env files listener) w)
        (w := w.take env) ih hw (fun dir w => runStages_chained op listener op.stages {}) (hdir _)
        rfl rfl rfl rfl rfl

theorem runStage_tidy (ih : r.Tidies base w.left) (hw : Amid base amid w) (stage : String)
    (files : FileList) :
    Tidy base (((r.runStage r.perform stage files w).deed (.run stage files) w).calls amid) w
      (r.runStage r.perform stage files w).world := by
  unfold runStage
  dsimp only
  split
  · next hs => exact tidy_of_idle hw (by simp [Done.deed, Deed.dir?, hs]) rfl rfl rfl
  · next s hs =>
    have hdir : ∀ d : Done Answer, (d.deed (.run stage files) w).dir? = some w.fresh := fun d => by
      simp [Done.deed, Deed.dir?, hs]
    exact tidy_of_inDirectory (d := Done.deed _ (.run stage files) w) ih hw
      (fun dir w => execute_chained s [] r.retries) (hdir _) rfl rfl rfl rfl rfl

/-- Whatever a call does, it is tidy, and so are the calls that are made while its processes run. -/
theorem perform_tidy (a : Action) (w : World) (hw : Amid base amid w) :
    Tidy base (((r.perform a w).deed a w).calls amid) w (r.perform a w).world := by
  revert amid
  refine r.perform_induct (P := fun a w d => ∀ {amid}, Amid base amid w →
    Tidy base ((d.deed a w).calls amid) w d.world) (fun a w ih amid hw => ?_) a w
  have ih : r.Tidies base w.left := fun b w' amid hleft hw' => ih b w' hleft hw'
  cases a with
  | operate op env files listener => exact operate_tidy ih hw op env files listener
  | run stage files => exact runStage_tidy ih hw stage files
  | isBusy env => exact tidy_of_idle hw rfl rfl rfl rfl
  | acquire env | release env =>
    unfold performWith
    dsimp only
    split <;> exact tidy_of_idle hw rfl rfl rfl rfl

end

end Runner

/-- **Runs are isolated**: whatever calls are made, one after the other and one inside the other,
processes run in the directory of their own call and find the files that were passed to it, no
directory is of two calls, and a call leaves no directory and touches no other. -/
theorem isolated_of_performAll (r : Runner) (actions : List Action) {w : World}
    (hfresh : ∀ d ∈ w.dirs, d.1 < w.fresh) :
    let history := (r.performAll actions w).1
    (∀ c ∈ callsOf [] history, Isolated w.dirs c.1 c.2) ∧
    ((callsOf [] history).filterMap (·.2.dir?)).Nodup ∧
    (∀ job ∈ jobsOf history, ∃ c ∈ callsOf [] history, c.2.Starts job) ∧
    (r.performAll actions w).2.dirs = w.dirs := by
  intro history
  have htidy : Tidy w.dirs (callsOf [] history) w (r.performAll actions w).2 :=
    Runner.performEach_tidy (fun a w _ _ => r.perform_tidy a w) actions (fun _ => Nat.lt_succ_self _)
      ⟨rfl, hfresh⟩
  refine ⟨htidy.isolated, ?_, fun job h => starts_of_mem_jobsOf [] h, htidy.dirs⟩
  rw [htidy.numbers]
  exact List.nodup_range'

/-- A run for "prod" in the midst of one for "dev", beside a directory that was there before. -/
theorem isolated_of_performAll_overlapping :
    let r : Runner := { binary := "terraform", timeout := 900, retries := 1 }
    let w : World := { World.overlapping with dirs := [(0, [("main.tf", "prod")])], fresh := 1 }
    let history := (r.performAll [.operate .deploy "dev" [("main.tf", "dev")] .patient] w).1
    (callsOf [] history).map (fun c => (c.1.length, c.2.dir?)) = [(0, some 1), (1, none), (1, some 2)] ∧
      ∀ c ∈ callsOf [] history, Isolated w.dirs c.1 c.2 := by
  intro r w history
  exact ⟨by decide +kernel, (isolated_of_performAll r _ (by decide)).1⟩

end CloudScaffold.Provision
