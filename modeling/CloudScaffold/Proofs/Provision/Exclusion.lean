import CloudScaffold.Proofs.Provision.Perform
/-!
# One run for an environment

While calls are made one inside the other, the environments that are taken are those of the runs in
progress, the innermost first: a run takes its environment before its first moment and frees it after
its last, whatever ends it, and what is done while its processes run leaves things as they were
(`perform_keeps`). So an operation for an environment with a run in progress is refused before it does
anything, and an operation for another environment does what it would do if the first were free
(`perform_without`).

Main statement: `exclusive_of_happens`.
-/
namespace CloudScaffold.Provision

/-! ## Calls -/

namespace Action

/-- Whether an action neither takes nor frees an environment by hand. -/
def isCall : Action → Bool
  | acquire _ | release _ => false
  | _ => true

/-- The environment that an operation runs for. -/
def runsFor : Action → List String
  | operate _ env _ _ => [env]
  | _ => []

theorem nodup_runsFor {a : Action} {running : List String} (h : running.Nodup)
    (ha : ∀ env ∈ a.runsFor, env ∉ running) : (a.runsFor ++ running).Nodup := by
  cases a with
  | operate _ env _ _ => exact List.nodup_cons.2 ⟨ha env (List.mem_singleton.2 rfl), h⟩
  | run _ _ | isBusy _ | acquire _ | release _ => exact h

end Action

/-- While processes run, nothing is done but calls. -/
def Script.OnlyCalls (s : Script) : Prop := ∀ step ∈ s.steps, ∀ a ∈ step.during, a.isCall = true

theorem Script.OnlyCalls.of_suffix {s s' : Script} (h : s.OnlyCalls) (hs : s'.steps <:+ s.steps) :
    s'.OnlyCalls :=
  fun step hstep => h step (hs.subset hstep)

namespace Moment

def world : Moment → World
  | told w _ | ran w _ => w

/-- What was done while a process ran. -/
def during : Moment → List Deed
  | told _ _ => []
  | ran _ job => job.during

/-- A moment at which exactly the given environments are taken, and so they are before every call
that is made in it. -/
structure Held (r : Runner) (busy : List String) (m : Moment) : Prop where
  world : m.world.busy = busy
  performed : ∀ d ∈ m.during, d = (r.perform d.action d.before).deed d.action d.before
  calls : ∀ d ∈ m.during, d.action.isCall = true ∧ d.before.script.OnlyCalls
  before : ∀ d ∈ m.during, d.before.busy = busy

theorem Held.told {r : Runner} {busy : List String} {w : World} {e : Event} (h : w.busy = busy) :
    (Moment.told w e).Held r busy :=
  ⟨h, by simp [during], by simp [during], by simp [during]⟩

end Moment

namespace Runner

/-! ## One call -/

section
variable (r : Runner)

/-- What a call does to the environments that are taken. -/
structure Keeps (a : Action) (w : World) (d : Done Answer) : Prop where
  busy : d.world.busy = w.busy
  /-- An operation that does anything found its environment free. -/
  free : d.moments ≠ [] → ∀ env ∈ a.runsFor, env ∉ w.busy
  held : ∀ m ∈ d.moments, m.Held r (a.runsFor ++ w.busy)

/-- The worlds between which the processes of a run are started. -/
structure Between (busy : List String) (steps : Nat) (w : World) : Prop where
  busy : w.busy = busy
  calls : w.script.OnlyCalls
  left : w.left ≤ steps

theorem Between.congr {busy : List String} {n : Nat} (w w' : World) (hs : w'.script = w.script)
    (hb : w'.busy = w.busy) (h : Between busy n w) : Between busy n w' :=
  ⟨hb.trans h.busy, hs ▸ h.calls, by simpa only [World.left, hs] using h.left⟩

/-- A process leaves the environments that are taken as they are, if the calls that are made while
it runs do. -/
theorem spawn_held {busy : List String} {n : Nat}
    (ih : ∀ a w, w.left < n → w.script.OnlyCalls → a.isCall = true →
      r.Keeps a w (r.perform a w))
    (stage : Stage) (extra : List String) (dir : Nat) {w : World} (hw : Between busy n w) :
    (r.spawn r.perform stage extra dir w).Within (Between busy n) (·.Held r busy) := by
  have hnext : Between busy w.nextStep.2.left w.nextStep.2 := by
    rw [World.nextStep_world]
    exact ⟨hw.busy, hw.calls.of_suffix (List.tail_suffix _), Nat.le_refl _⟩
  have hsteps : w.nextStep.2.left ≤ n := by
    rw [World.nextStep_world]
    have := hw.left
    simp only [World.left, List.length_tail] at this ⊢
    omega
  have hcall : ∀ a ∈ w.nextStep.1.during, a.isCall = true := fun a ha =>
    hw.calls _ (World.nextStep_of_mem_during ha).1 a ha
  -- the calls that are made while the process runs have a step less at their disposal
  have heach := performEach_within (I := Between busy w.nextStep.2.left) r.perform
    w.nextStep.1.during (fun a ha w' hw' => by
      have hlt := (World.nextStep_of_mem_during ha).2
      have hleft := hw.left
      have hkeep := ih a w' (by have := hw'.left; omega) hw'.calls (hcall a ha)
      have hsuffix := r.perform_suffix a w'
      exact ⟨hkeep.busy.trans hw'.busy, hw'.calls.of_suffix hsuffix,
        Nat.le_trans hsuffix.length_le hw'.left⟩) hnext
  refine ⟨⟨heach.1.busy, heach.1.calls, Nat.le_trans heach.1.left hsteps⟩, fun m hm => ?_⟩
  rw [List.mem_singleton.1 hm]
  exact ⟨hnext.busy, fun d hd => (heach.2 d hd).2.2,
    fun d hd => ⟨hcall _ (heach.2 d hd).1, (heach.2 d hd).2.1.calls⟩,
    fun d hd => (heach.2 d hd).2.1.busy⟩

/-- From its first process to its last, the stages of a run keep its environment taken. -/
theorem stages_held {w : World}
    (ih : ∀ a w', w'.left < w.left → w'.script.OnlyCalls → a.isCall = true →
      r.Keeps a w' (r.perform a w'))
    (hw : w.script.OnlyCalls) (op : Operation) (env : String) (files : FileList)
    (listener : Listener) :
    (inDirectory (w.take env) files fun dir w =>
      r.runStages r.perform op listener dir op.stages {} w).Within
        (Between (env :: w.busy) w.left) (·.Held r (env :: w.busy)) :=
  inDirectory_within files Between.congr
    (fun dir _ hw' => r.runStages_within op listener
      (fun stage extra _ hw' => r.spawn_held ih stage extra dir hw')
      (fun _ _ hw' => .told hw'.busy) op.stages {} hw')
    ⟨rfl, hw, Nat.le_refl _⟩

/-- However a call ends, the environments that are taken are those that were taken before it. -/
theorem perform_keeps {a : Action} {w : World} (hw : w.script.OnlyCalls) (ha : a.isCall = true) :
    r.Keeps a w (r.perform a w) := by
  revert hw ha
  refine r.perform_induct (P := fun a w d => w.script.OnlyCalls → a.isCall = true → r.Keeps a w d)
    (fun a w ih hw ha => ?_) a w
  cases a with
  | operate op env files listener =>
    unfold performWith operate
    dsimp only
    split
    · exact ⟨rfl, fun h => absurd rfl h, by simp⟩
    · rename_i hfree
      have hfree : env ∉ w.busy := fun h => hfree (World.isBusy_iff.2 h)
      have hd := r.stages_held ih hw op env files listener
      generalize inDirectory (w.take env) files _ = d at hd ⊢
      have hbusy : d.world.isBusy env = true := by
        rw [World.isBusy_iff, hd.world.busy]
        exact List.mem_cons_self
      unfold conclude
      rw [if_pos hbusy]
      refine ⟨?_, fun _ e he => ?_, hd.moments⟩
      · rw [World.busy_free, hd.world.busy]
        exact List.erase_cons_head ..
      · rw [List.mem_singleton.1 he]
        exact hfree
  | run stage files =>
    unfold performWith runStage
    dsimp only
    split
    · exact ⟨rfl, fun h => absurd rfl h, by simp⟩
    · rename_i s _
      have hd := inDirectory_within (w := w) files Between.congr
        (fun dir w' hw' => r.execute_within
          (fun w' hw' => r.spawn_held ih s [] dir hw') r.retries hw')
        ⟨rfl, hw, Nat.le_refl _⟩
      exact ⟨hd.world.busy, by simp [Action.runsFor], hd.moments⟩
  | isBusy env => exact ⟨rfl, fun h => absurd rfl h, by simp [performWith]⟩
  | acquire env | release env => cases ha

end

end Runner

/-! ## Other environments -/

/-- Whether what an action does may depend on an environment. -/
def Action.asksAbout (a : Action) (env : String) : Bool :=
  match a with
  | operate _ e _ _ | isBusy e | acquire e | release e => e == env
  | run _ _ => false

/-- While processes run, nothing is done that depends on an environment. -/
def Script.Ignores (s : Script) (env : String) : Prop :=
  ∀ step ∈ s.steps, ∀ a ∈ step.during, a.asksAbout env = false

theorem Script.Ignores.of_suffix {s s' : Script} {env : String} (h : s.Ignores env)
    (hs : s'.steps <:+ s.steps) : s'.Ignores env :=
  fun step hstep => h step (hs.subset hstep)

/-- The world but for an environment that is free in it. -/
def World.without (w : World) (env : String) : World :=
  { w with busy := w.busy.filter (· ≠ env) }

mutual

def Job.without (env : String) : Job → Job
  | ⟨stage, argv, timeout, dir, files, outcome, during⟩ =>
    ⟨stage, argv, timeout, dir, files, outcome, deedsWithout env during⟩

def Moment.without (env : String) : Moment → Moment
  | .told w e => .told (w.without env) e
  | .ran w job => .ran (w.without env) (job.without env)

def Deed.without (env : String) : Deed → Deed
  | ⟨a, before, answer, moments, after⟩ =>
    ⟨a, before.without env, answer, momentsWithout env moments, after.without env⟩

def momentsWithout (env : String) : List Moment → List Moment
  | [] => []
  | m :: ms => m.without env :: momentsWithout env ms

def deedsWithout (env : String) : List Deed → List Deed
  | [] => []
  | d :: ds => d.without env :: deedsWithout env ds

end

/-- What is done, seen without an environment. -/
def Done.without {α : Type} (d : Done α) (env : String) : Done α :=
  ⟨d.value, momentsWithout env d.moments, d.world.without env⟩

theorem momentsWithout_append (env : String) : ∀ ms ms' : List Moment,
    momentsWithout env (ms ++ ms') = momentsWithout env ms ++ momentsWithout env ms'
  | [], _ => rfl
  | m :: ms, ms' => congrArg (m.without env :: ·) (momentsWithout_append env ms ms')

namespace World

theorem isBusy_without {w : World} {env other : String} (h : other ≠ env) :
    (w.without env).isBusy other = w.isBusy other := by
  simp [isBusy, without, h]

theorem take_without {w : World} {env other : String} (h : other ≠ env) :
    (w.take other).without env = (w.without env).take other := by
  simp [take, without, h]

theorem free_without (w : World) (env other : String) :
    (w.free other).without env = (w.without env).free other := by
  simp [free, without, List.erase_filter]

theorem nextStep_without (w : World) (env : String) :
    (w.without env).nextStep = (w.nextStep.1, w.nextStep.2.without env) := by
  obtain ⟨⟨steps, otherwise⟩, busy, dirs, fresh⟩ := w
  cases steps <;> rfl

end World

namespace Runner

section
variable (r : Runner) {env : String} {n : Nat}

/-- What is done with at most `n` steps, by calls that say nothing of an environment, does not depend
on whether that environment is free. -/
def BlindTo (env : String) (n : Nat) : Prop :=
  ∀ a w, w.left < n → w.script.Ignores env → a.asksAbout env = false →
    r.perform a (w.without env) = (r.perform a w).without env

variable {r}

theorem performEach_without (ih : r.BlindTo env n) : ∀ (as : List Action) {w : World}, w.left < n →
    w.script.Ignores env → (∀ a ∈ as, a.asksAbout env = false) →
      performEach r.perform as (w.without env)
        = (deedsWithout env (performEach r.perform as w).1,
            (performEach r.perform as w).2.without env)
  | [], _, _, _, _ => rfl
  | a :: as, w, hn, hw, has => by
    have hs := r.perform_suffix a w
    have hrest := performEach_without ih as (w := (r.perform a w).world)
      (Nat.lt_of_le_of_lt hs.length_le hn) (hw.of_suffix hs)
      (fun b hb => has b (List.mem_cons_of_mem a hb))
    have ha := ih a w hn hw (has a List.mem_cons_self)
    unfold performEach
    dsimp only
    rw [ha]
    simp only [Done.without] at hrest ⊢
    rw [hrest]
    rfl

theorem spawn_without (ih : r.BlindTo env n) (stage : Stage) (extra : List String) (dir : Nat)
    {w : World} (hn : w.left ≤ n) (hw : w.script.Ignores env) :
    r.spawn r.perform stage extra dir (w.without env)
      = (r.spawn r.perform stage extra dir w).without env := by
  have heach : performEach r.perform w.nextStep.1.during (w.nextStep.2.without env)
      = (deedsWithout env (performEach r.perform w.nextStep.1.during w.nextStep.2).1,
          (performEach r.perform w.nextStep.1.during w.nextStep.2).2.without env) := by
    cases hd : w.nextStep.1.during with
    | nil => rfl
    | cons a as =>
      have hstep := World.nextStep_of_mem_during (w := w) (a := a) (by simp [hd])
      refine performEach_without ih _ (by omega) ?_ (hd ▸ hw _ hstep.1)
      rw [World.nextStep_world]
      exact hw.of_suffix (List.tail_suffix _)
  unfold spawn
  rw [World.nextStep_without]
  dsimp only
  rw [heach]
  rfl

theorem execute_without (ih : r.BlindTo env n) (stage : Stage) (extra : List String) (dir : Nat) :
    ∀ (left : Nat) {w : World}, w.left ≤ n → w.script.Ignores env →
      r.execute r.perform stage extra dir left (w.without env)
        = (r.execute r.perform stage extra dir left w).without env
  | 0, w, hn, hw => by
    unfold execute
    rw [spawn_without ih stage extra dir hn hw]
    rfl
  | left + 1, w, hn, hw => by
    have hs : (r.spawn r.perform stage extra dir w).world.script.steps <:+ w.script.steps :=
      (r.spawn_suffix r.perform_suffix stage extra dir List.suffix_rfl).world
    have hrest := execute_without ih stage extra dir left (Nat.le_trans hs.length_le hn)
      (hw.of_suffix hs)
    unfold execute
    rw [spawn_without ih stage extra dir hn hw]
    simp only [Done.without] at hrest ⊢
    rw [hrest]
    by_cases hr : isRetried (r.spawn r.perform stage extra dir w).value = true
    · simp only [hr, if_true, momentsWithout_append]
    · simp only [hr, if_false, Bool.false_eq_true]

theorem runStages_without (ih : r.BlindTo env n) (op : Operation) (listener : Listener)
    (dir : Nat) : ∀ (ss : List Stage) (p : Progress) {w : World}, w.left ≤ n →
      w.script.Ignores env →
      r.runStages r.perform op listener dir ss p (w.without env)
        = (r.runStages r.perform op listener dir ss p w).without env
  | [], _, _, _, _ => rfl
  | s :: ss, p, w, hn, hw => by
    have hs : (r.execute r.perform s (op.extraArguments s) dir r.retries w).world.script.steps
        <:+ w.script.steps :=
      (r.execute_within (fun w hw => r.spawn_suffix r.perform_suffix s (op.extraArguments s) dir hw)
        r.retries List.suffix_rfl).world
    have hrest := fun p => runStages_without ih op listener dir ss p
      (Nat.le_trans hs.length_le hn) (hw.of_suffix hs)
    unfold runStages
    rw [execute_without ih s (op.extraArguments s) dir r.retries hn hw]
    simp only [Done.without] at hrest ⊢
    simp only [hrest]
    generalize r.execute r.perform s (op.extraArguments s) dir r.retries w = d
    by_cases hp : (p.emit listener (starting s)).broken = true
    · simp only [hp, if_true, momentsWithout, Moment.without]
    · by_cases hd : (((p.emit listener (starting s)).emit listener (ending s d.value)).broken
          || !d.value.ok) = true
      · simp only [hp, hd, if_true, if_false, Bool.false_eq_true, momentsWithout, Moment.without,
          momentsWithout_append]
      · simp only [hp, hd, if_false, Bool.false_eq_true, momentsWithout, Moment.without,
          momentsWithout_append, List.cons_append]

theorem inDirectory_without {α : Type} (files : FileList) (act : Nat → World → Done α) {w : World}
    (h : ∀ dir d, act dir ((w.makeDir.2.setDir dir d).without env)
      = (act dir (w.makeDir.2.setDir dir d)).without env) :
    inDirectory (w.without env) files act = (inDirectory w files act).without env := by
  unfold inDirectory
  dsimp only
  cases Directory.write [] files with
  | error e => rfl
  | ok content =>
    have hact := h w.makeDir.1 content
    change Done.mk (Except.ok (act w.makeDir.1 ((w.makeDir.2.setDir w.makeDir.1 content).without env)).value)
      (act w.makeDir.1 ((w.makeDir.2.setDir w.makeDir.1 content).without env)).moments
      ((act w.makeDir.1 ((w.makeDir.2.setDir w.makeDir.1 content).without env)).world.removeDir
        w.makeDir.1) = _
    rw [hact]
    rfl

theorem conclude_without {e : String} (h : e ≠ env) (d : Done Answer) :
    conclude e (d.without env) = (conclude e d).without env := by
  unfold conclude
  have hheld : (d.without env).world.isBusy e = d.world.isBusy e := World.isBusy_without h
  rw [hheld]
  split
  · simp only [Done.without, World.free_without]
  · rfl

theorem operate_without {w : World} {e : String} (ih : r.BlindTo env w.left)
    (hw : w.script.Ignores env) (h : e ≠ env) (op : Operation) (files : FileList)
    (listener : Listener) :
    r.operate r.perform op e files listener (w.without env)
      = (r.operate r.perform op e files listener w).without env := by
  have hd := inDirectory_without (w := w.take e) files
    (fun dir w' => r.runStages r.perform op listener dir op.stages {} w')
    (fun dir _ => runStages_without ih op listener dir op.stages {} (Nat.le_refl _) hw)
  unfold operate
  dsimp only
  rw [World.isBusy_without h, ← World.take_without h, hd]
  generalize inDirectory (w.take e) files _ = d
  split
  · rfl
  · exact conclude_without h ⟨answerOf op e d.value, d.moments, d.world⟩

theorem runStage_without {w : World} (ih : r.BlindTo env w.left) (hw : w.script.Ignores env)
    (stage : String) (files : FileList) :
    r.runStage r.perform stage files (w.without env)
      = (r.runStage r.perform stage files w).without env := by
  unfold runStage
  cases Stage.ofName? stage with
  | none => rfl
  | some s =>
    have hd := inDirectory_without (w := w) files
      (fun dir w' => r.execute r.perform s [] dir r.retries w')
      (fun dir _ => execute_without ih s [] dir r.retries (Nat.le_refl _) hw)
    dsimp only
    rw [hd]
    rfl

/-- A call for another environment does what it would do if the environment were free. -/
theorem perform_without {a : Action} {w : World} (hw : w.script.Ignores env)
    (ha : a.asksAbout env = false) : r.perform a (w.without env) = (r.perform a w).without env := by
  revert hw ha
  refine r.perform_induct (P := fun a w d => w.script.Ignores env → a.asksAbout env = false →
    r.perform a (w.without env) = d.without env) (fun a w ih hw ha => ?_) a w
  have ih : r.BlindTo env w.left := fun b w' hlt hw' hb => ih b w' hlt hw' hb
  have hne : ∀ {e : String}, (e == env) = false → e ≠ env := by simp
  rw [r.perform_eq]
  cases a with
  | operate op e files listener => exact operate_without ih hw (hne ha) op files listener
  | run stage files => exact runStage_without ih hw stage files
  | isBusy e =>
    unfold performWith
    dsimp only
    rw [World.isBusy_without (hne ha)]
    rfl
  | acquire e =>
    unfold performWith
    dsimp only
    rw [World.isBusy_without (hne ha), ← World.take_without (hne ha)]
    split <;> rfl
  | release e =>
    unfold performWith
    dsimp only
    rw [World.isBusy_without (hne ha), ← World.free_without]
    split <;> rfl

/-! ## Busy environments -/

variable {op : Operation} {files : FileList} {listener : Listener} {w : World}

/-- An operation for an environment that is taken does nothing. -/
theorem perform_of_busy (h : w.isBusy env = true) :
    r.perform (.operate op env files listener) w = ⟨.error (.busy env), [], w⟩ := by
  rw [r.perform_eq]
  unfold performWith operate
  exact if_pos h

/-- No other operation is refused. -/
theorem perform_of_free (h : w.isBusy env = false) (other : String) :
    (r.perform (.operate op env files listener) w).value ≠ .error (.busy other) := by
  have hd : ∀ act : Nat → World → Done Progress,
      answerOf op env (inDirectory (w.take env) files act).value ≠ .error (.busy other) := by
    intro act
    unfold inDirectory
    dsimp only
    split
    · simp [answerOf]
    · unfold answerOf
      dsimp only
      split <;> simp
  rw [r.perform_eq]
  unfold performWith operate conclude
  dsimp only
  rw [h, if_neg (by simp)]
  split
  · exact hd _
  · simp

end

end Runner

/-! ## Histories -/

/-- A deed that is done in a history while runs for some environments are in progress, the innermost
first. -/
inductive Happens (history : List Deed) : List String → Deed → Prop
  | alone {d : Deed} (h : d ∈ history) : Happens history [] d
  | during {running : List String} {outer d : Deed} {m : Moment} (h : Happens history running outer)
      (hm : m ∈ outer.moments) (hd : d ∈ m.during) :
      Happens history (outer.action.runsFor ++ running) d

/-- What holds of a call that is made while runs are in progress. -/
structure Exclusive (r : Runner) (running : List String) (d : Deed) : Prop where
  /-- At every moment of it, the runs in progress are for different environments, and these are the
  ones that are taken. -/
  held : ∀ m ∈ d.moments, (d.action.runsFor ++ running).Nodup ∧
    ∀ env, m.world.isBusy env = true ↔ env ∈ d.action.runsFor ++ running
  before : running.Nodup ∧ ∀ env, d.before.isBusy env = true ↔ env ∈ running
  /-- However it ends, the environments that are taken are those that were taken before. -/
  after : ∀ env, d.after.isBusy env = true ↔ d.before.isBusy env = true
  told : ∀ env, d.action = .isBusy env → d.answer = .ok (.busy (decide (env ∈ running)))
  /-- An operation for an environment with a run in progress is refused, before it does anything. -/
  refused : ∀ op env files listener, d.action = .operate op env files listener → env ∈ running →
    d.answer = .error (.busy env) ∧ d.moments = [] ∧ d.after = d.before
  accepted : ∀ op env files listener, d.action = .operate op env files listener →
    env ∉ running → ∀ other, d.answer ≠ .error (.busy other)
  /-- Whether an environment that it says nothing of is taken changes nothing for it. -/
  unaffected : ∀ env, d.before.script.Ignores env → d.action.asksAbout env = false →
    (r.perform d.action (d.before.without env)).deed d.action (d.before.without env) = d.without env

section
variable {r : Runner} {actions : List Action} {w : World} {running : List String} {d : Deed}

/-- What is done in a history of calls is what the runner does in a world where the environments
that are taken are those of the runs in progress. -/
theorem Happens.performed (hfree : w.busy = []) (hscript : w.script.OnlyCalls)
    (hcalls : ∀ a ∈ actions, a.isCall = true) (h : Happens (r.performAll actions w).1 running d) :
    d = (r.perform d.action d.before).deed d.action d.before ∧ d.action.isCall = true ∧
      d.before.script.OnlyCalls ∧ d.before.busy = running ∧ running.Nodup := by
  induction h with
  | alone h =>
    have heach := Runner.performEach_within (I := fun w => w.busy = [] ∧ w.script.OnlyCalls)
      r.perform actions (fun a ha w' hw' =>
        ⟨(r.perform_keeps hw'.2 (hcalls a ha)).busy.trans hw'.1,
          hw'.2.of_suffix (r.perform_suffix a w')⟩) ⟨hfree, hscript⟩
    obtain ⟨hmem, hbefore, hd⟩ := heach.2 _ h
    exact ⟨hd, hcalls _ hmem, hbefore.2, hbefore.1, List.nodup_nil⟩
  | @during running outer d m _ hm hd ih =>
    obtain ⟨houter, hcall, hscript, hbusy, hnodup⟩ := ih
    have hkeep := r.perform_keeps hscript hcall
    have hm : m ∈ (r.perform outer.action outer.before).moments := by rw [houter] at hm; exact hm
    have hheld := hkeep.held m hm
    rw [hbusy] at hheld
    refine ⟨hheld.performed d hd, (hheld.calls d hd).1, (hheld.calls d hd).2, hheld.before d hd, ?_⟩
    have hfresh := hkeep.free (List.ne_nil_of_mem hm)
    rw [hbusy] at hfresh
    exact Action.nodup_runsFor hnodup hfresh

/-- Whatever calls are made, one after the other and one inside the other, each is exclusive. -/
theorem exclusive_of_happens (hfree : w.busy = []) (hscript : w.script.OnlyCalls)
    (hcalls : ∀ a ∈ actions, a.isCall = true) (h : Happens (r.performAll actions w).1 running d) :
    Exclusive r running d := by
  obtain ⟨hd, hcall, hscript, hbusy, hnodup⟩ := h.performed hfree hscript hcalls
  have hkeep := r.perform_keeps hscript hcall
  generalize hx : r.perform d.action d.before = x at hd hkeep
  have hmoments : d.moments = x.moments := by rw [hd]; rfl
  have hanswer : d.answer = x.value := by rw [hd]; rfl
  have hafter : d.after = x.world := by rw [hd]; rfl
  have hbefore : ∀ env, d.before.isBusy env = true ↔ env ∈ running := fun env => by
    rw [World.isBusy_iff, hbusy]
  refine ⟨fun m hm => ?_, ⟨hnodup, hbefore⟩, fun env => ?_, fun env ha => ?_,
    fun op env files listener ha henv => ?_, fun op env files listener ha henv other => ?_,
    fun env hignores hasks => ?_⟩
  · rw [hmoments] at hm
    have hfresh := hkeep.free (List.ne_nil_of_mem hm)
    have hheld := hkeep.held m hm
    rw [hbusy] at hfresh hheld
    exact ⟨Action.nodup_runsFor hnodup hfresh, fun env => by rw [World.isBusy_iff, hheld.world]⟩
  · rw [hafter, World.isBusy_iff, World.isBusy_iff, hkeep.busy]
  · rw [hanswer, ← hx, ha, r.perform_eq]
    change Except.ok (Reply.busy (d.before.isBusy env)) = _
    rw [Bool.eq_iff_iff.2 ((hbefore env).trans decide_eq_true_iff.symm)]
  · rw [ha, Runner.perform_of_busy ((hbefore env).2 henv)] at hx
    subst hx
    exact ⟨hanswer, hmoments, hafter⟩
  · rw [hanswer, ← hx, ha]
    refine Runner.perform_of_free ?_ other
    rw [← Bool.not_eq_true, hbefore env]
    exact henv
  · rw [Runner.perform_without hignores hasks, hx]
    exact congrArg (·.without env) hd.symm

end

/-- A world whose first process has a second run for "dev" and a run for "prod" asked for. -/
def World.overlapping : World where
  script :=
    { steps := [{ outcome := fun _ => .exited 0 "" ""
                  during := [.operate .destroy "dev" [("main.tf", "")] .patient,
                    .operate .validate "prod" [("main.tf", "")] .patient] }]
      otherwise := fun _ => .timedOut }

/-- A run for "prod" in the midst of one for "dev". -/
theorem exclusive_overlapping :
    let r : Runner := { binary := "terraform", timeout := 900, retries := 1 }
    let history := (r.performAll [.operate .deploy "dev" [("main.tf", "")] .patient] .overlapping).1
    ∃ d, Happens history ["dev"] d ∧ d.action.runsFor = ["prod"] ∧ Exclusive r ["dev"] d := by
  intro r history
  have h : ∃ outer ∈ history, outer.action.runsFor = ["dev"] ∧
      ∃ m ∈ outer.moments, ∃ d ∈ m.during, d.action.runsFor = ["prod"] := by decide +kernel
  obtain ⟨outer, houter, hdev, m, hm, d, hd, hprod⟩ := h
  have hhappens : Happens history ["dev"] d := by
    have := (Happens.alone houter).during hm hd
    rwa [hdev] at this
  exact ⟨d, hhappens, hprod, exclusive_of_happens rfl (by simp [Script.OnlyCalls, World.overlapping,
    Action.isCall]) (by simp [Action.isCall]) hhappens⟩

end CloudScaffold.Provision
