import CloudScaffold.Proofs.Provision.Exclusion
/-!
# The course of a run

A run goes in rounds, one for each stage: the stage is announced, its command is tried until a process
starts or no retry is left, and the end of the stage is announced. A round that does not succeed is
the last (`Course`). What a report says of the run, and what its listener hears, follows from the
rounds.

Main statement: `perform_runsThrough`.
-/
namespace CloudScaffold.Provision

/-- What is seen at a moment: an event or a job. -/
def Moment.sight : Moment → Event ⊕ Job
  | .told _ e => .inl e
  | .ran _ job => .inr job

/-- Jobs of one command: all but the last could not be started, and the last could unless no retry
was left. -/
structure Tried (r : Runner) (stage : Stage) (extra : List String) (retries : Nat)
    (retried : List Job) (last : Job) : Prop where
  command : ∀ job ∈ retried ++ [last], job.stage = stage ∧
    job.argv = r.binary :: (stage.arguments ++ extra)
  notStarted : ∀ job ∈ retried, ∃ text, job.outcome = .notStarted text
  attempts : retried.length ≤ retries
  exhausted : ∀ text, last.outcome = .notStarted text → retried.length = retries

/-- A stage that ran: its jobs, of which all but the last were tried again, and its result. -/
structure Round where
  stage : Stage
  retried : List Job
  last : Job
  result : StageResult

namespace Round

/-- Whether the command of the stage was completed with exit code 0. -/
def Succeeded (a : Round) : Prop := ∃ out err, a.last.outcome = .exited 0 out err

def events (a : Round) : List Event := [Runner.starting a.stage, Runner.ending a.stage a.result]

def sights (a : Round) : List (Event ⊕ Job) :=
  .inl (Runner.starting a.stage) ::
    ((a.retried ++ [a.last]).map .inr ++ [.inl (Runner.ending a.stage a.result)])

/-- A round as the runner makes it for a stage of an operation. -/
structure Fair (r : Runner) (op : Operation) (a : Round) : Prop where
  tried : Tried r a.stage (op.extraArguments a.stage) r.retries a.retried a.last
  result : a.result = r.resultOf a.stage a.last.outcome

end Round

namespace Runner

theorem resultOf_ok {r : Runner} {s : Stage} {o : Outcome} :
    (r.resultOf s o).ok = true ↔ ∃ out err, o = .exited 0 out err := by
  cases o with
  | exited code out err =>
    constructor
    · intro h
      exact ⟨out, err, by rw [beq_iff_eq.1 h]⟩
    · rintro ⟨_, _, h⟩
      cases h
      rfl
  | notStarted _ | timedOut => simp [resultOf]

end Runner

theorem Round.Fair.ok_iff {r : Runner} {op : Operation} {a : Round} (h : a.Fair r op) :
    a.result.ok = true ↔ a.Succeeded := by
  rw [h.result, Runner.resultOf_ok]
  rfl

/-! ## Rounds in a row -/

/-- Rounds that take stages in their order, up to the first that fails. -/
inductive Course : List Stage → List Round → Prop
  | done : Course [] []
  | failed {s : Stage} {ss : List Stage} {a : Round} (hs : a.stage = s) (h : a.result.ok = false) :
    Course (s :: ss) [a]
  | passed {s : Stage} {ss : List Stage} {a : Round} {rounds : List Round} (hs : a.stage = s)
    (h : a.result.ok = true) (hrest : Course ss rounds) : Course (s :: ss) (a :: rounds)

namespace Course

variable {ss : List Stage} {rounds : List Round}

theorem stages_prefix (h : Course ss rounds) : rounds.map (·.stage) <+: ss := by
  induction h with
  | done => exact List.prefix_rfl
  | @failed s ss a hs _ => exact ⟨ss, by simp [hs]⟩
  | passed hs _ _ ih => exact List.cons_prefix_cons.2 ⟨hs, ih⟩

/-- A round comes after rounds that succeeded. -/
theorem ok_of_before (h : Course ss rounds) : ∀ {before after : List Round} {b : Round},
    rounds = before ++ b :: after → ∀ a ∈ before, a.result.ok = true := by
  induction h with
  | done => intro before after b he; simp at he
  | failed hs hf =>
    intro before after b he a ha
    cases before with
    | nil => cases ha
    | cons c before => simp at he
  | passed hs hok _ ih =>
    intro before after b he a ha
    cases before with
    | nil => cases ha
    | cons c before =>
      rw [List.cons_append, List.cons.injEq] at he
      rcases List.mem_cons.1 ha with rfl | ha
      · rwa [← he.1]
      · exact ih he.2 a ha

/-- A course that leaves out a stage ends in a round that failed. -/
theorem failed_of_proper (h : Course ss rounds) (hne : rounds.map (·.stage) ≠ ss) :
    ∃ before a, rounds = before ++ [a] ∧ a.result.ok = false := by
  induction h with
  | done => exact absurd rfl hne
  | @failed _ _ a _ hf => exact ⟨[], a, rfl, hf⟩
  | @passed s _ b _ hs _ _ ih =>
    obtain ⟨before, a, he, hf⟩ := ih fun h => hne (by rw [List.map_cons, hs, h])
    exact ⟨b :: before, a, by rw [he]; rfl, hf⟩

/-- Every stage has a round that succeeded if and only if there are as many rounds as stages and all
of them succeeded. -/
theorem all_ok_iff (h : Course ss rounds) (hnodup : ss.Nodup) :
    (∀ s ∈ ss, ∃ a ∈ rounds, a.stage = s ∧ a.result.ok = true) ↔
      (∀ a ∈ rounds, a.result.ok = true) ∧ rounds.length = ss.length := by
  induction h with
  | done => simp
  | @failed s _ a hs hf =>
    constructor
    · intro hall
      obtain ⟨b, hb, _, hok⟩ := hall s List.mem_cons_self
      rw [List.mem_singleton.1 hb, hf] at hok
      cases hok
    · rintro ⟨hall, _⟩
      have := hall a List.mem_cons_self
      rw [hf] at this
      cases this
  | @passed s ss a rounds hs hok hrest ih =>
    obtain ⟨hfresh, hnodup⟩ := List.nodup_cons.1 hnodup
    have ih := ih hnodup
    constructor
    · intro hall
      have hlater : ∀ s' ∈ ss, ∃ b ∈ rounds, b.stage = s' ∧ b.result.ok = true := by
        intro s' hs'
        obtain ⟨b, hb, hbs, hbok⟩ := hall s' (List.mem_cons_of_mem s hs')
        rcases List.mem_cons.1 hb with rfl | hb
        · exact absurd (hs.symm.trans hbs ▸ hs') hfresh
        · exact ⟨b, hb, hbs, hbok⟩
      obtain ⟨hrounds, hlen⟩ := ih.1 hlater
      exact ⟨List.forall_mem_cons.2 ⟨hok, hrounds⟩, congrArg (· + 1) hlen⟩
    · rintro ⟨hall, hlen⟩ s' hs'
      rcases List.mem_cons.1 hs' with rfl | hs'
      · exact ⟨a, List.mem_cons_self, hs, hok⟩
      · obtain ⟨b, hb, hb'⟩ := ih.2 ⟨fun b hb => hall b (List.mem_cons_of_mem a hb),
          Nat.succ.inj hlen⟩ s' hs'
        exact ⟨b, List.mem_cons_of_mem a hb, hb'⟩

end Course

/-! ## The runner's rounds -/

namespace Runner

section
variable (r : Runner) (nested : Action → World → Done Answer)

/-- A process is one job, with the command of its stage. -/
theorem spawn_job (stage : Stage) (extra : List String) (dir : Nat) (w : World) :
    ∃ job : Job, (r.spawn nested stage extra dir w).value = job.outcome ∧
      (r.spawn nested stage extra dir w).moments.map Moment.sight = [.inr job] ∧
      job.stage = stage ∧ job.argv = r.binary :: (stage.arguments ++ extra) :=
  ⟨_, rfl, rfl, rfl, rfl⟩

/-- A stage tries its command again after a process that could not be started, and no other. -/
theorem execute_tried (stage : Stage) (extra : List String) (dir : Nat) :
    ∀ (left : Nat) (w : World), ∃ retried last, Tried r stage extra left retried last ∧
      (r.execute nested stage extra dir left w).value = r.resultOf stage last.outcome ∧
      (r.execute nested stage extra dir left w).moments.map Moment.sight
        = (retried ++ [last]).map .inr
  | 0, w => by
    obtain ⟨job, hvalue, hsight, hjob⟩ := r.spawn_job nested stage extra dir w
    refine ⟨[], job, ⟨by simpa using hjob, by simp, Nat.le_refl _, fun _ _ => rfl⟩, ?_, hsight⟩
    unfold execute
    dsimp only
    rw [hvalue]
  | left + 1, w => by
    obtain ⟨job, hvalue, hsight, hjob⟩ := r.spawn_job nested stage extra dir w
    obtain ⟨retried, last, ⟨hcommand, hretried, hle, hlast⟩, hv, hs⟩ :=
      execute_tried stage extra dir left (r.spawn nested stage extra dir w).world
    unfold execute
    dsimp only
    rw [hvalue]
    cases ho : job.outcome with
    | notStarted text =>
      simp only [isRetried, if_true]
      refine ⟨job :: retried, last, ⟨List.forall_mem_cons.2 ⟨hjob, hcommand⟩,
        List.forall_mem_cons.2 ⟨⟨text, ho⟩, hretried⟩, Nat.succ_le_succ hle,
        fun text h => congrArg (· + 1) (hlast text h)⟩, hv, ?_⟩
      rw [List.map_append, hsight, hs]
      rfl
    | exited _ _ _ | timedOut =>
      simp only [isRetried, if_false, Bool.false_eq_true]
      exact ⟨[], job, ⟨by simpa using hjob, by simp, Nat.zero_le _,
        fun _ h => by rw [ho] at h; cases h⟩, by rw [ho], hsight⟩

variable {op : Operation} {listener : Listener}

/-- With a listener that does not fail, the stages of an operation go in rounds. -/
theorem runStages_course (hlistener : ∀ es, listener es = false) (dir : Nat) :
    ∀ (ss : List Stage) (p : Progress) (w : World), p.broken = false →
      ∃ rounds, Course ss rounds ∧ (∀ a ∈ rounds, a.Fair r op) ∧
        (r.runStages nested op listener dir ss p w).moments.map Moment.sight
          = rounds.flatMap Round.sights ∧
        (r.runStages nested op listener dir ss p w).value =
          { events := p.events ++ rounds.flatMap Round.events
            heard := p.heard ++ rounds.flatMap Round.events, broken := false }
  | [], p, w, hp => ⟨[], .done, by simp, rfl, by simp [runStages, ← hp]⟩
  | s :: ss, p, w, hp => by
    obtain ⟨retried, last, htried, hvalue, hsight⟩ :=
      r.execute_tried nested s (op.extraArguments s) dir r.retries w
    have hpatient : ∀ (p : Progress) (e : Event), (p.emit listener e).broken = false :=
      fun p e => hlistener _
    unfold runStages
    dsimp only
    generalize r.execute nested s (op.extraArguments s) dir r.retries w = d at hvalue hsight ⊢
    let a : Round := { stage := s, retried := retried, last := last, result := d.value }
    have hfair : a.Fair r op := ⟨htried, hvalue⟩
    have hmoments : (Moment.told w (starting s) :: (d.moments ++ [.told d.world (ending s d.value)])).map
        Moment.sight = a.sights := by
      rw [List.map_cons, List.map_append, hsight]
      rfl
    have hemit : (p.emit listener (starting s)).emit listener (ending s d.value) =
        { events := p.events ++ a.events, heard := p.heard ++ a.events, broken := false } := by
      simp [Progress.emit, hlistener, Round.events, a]
    rw [hpatient, if_neg (by simp), hpatient, Bool.false_or]
    cases hok : d.value.ok with
    | false =>
      refine ⟨[a], .failed rfl hok, by simpa using hfair, ?_, ?_⟩
      · simpa using hmoments
      · simpa using hemit
    | true =>
      obtain ⟨rounds, hcourse, hrounds, hs, hv⟩ := runStages_course hlistener dir ss
        ((p.emit listener (starting s)).emit listener (ending s d.value)) d.world (hpatient _ _)
      refine ⟨a :: rounds, .passed rfl hok hcourse, List.forall_mem_cons.2 ⟨hfair, hrounds⟩, ?_, ?_⟩
      · rw [if_neg (by simp), List.map_append, hmoments, hs, List.flatMap_cons]
      · rw [if_neg (by simp)]
        dsimp only
        rw [hv, hemit]
        simp [List.append_assoc]

/-- An operation with files that can be written, for an environment that is free, runs its stages. -/
theorem perform_of_files (op : Operation) (listener : Listener) {env : String} {files : FileList}
    {w : World} (hw : w.script.OnlyCalls)
    (hfree : w.isBusy env = false) (hfiles : ∀ f ∈ files, nameFault? f.1 = none) :
    ∃ dir w', (r.perform (.operate op env files listener) w).moments
        = (r.runStages r.perform op listener dir op.stages {} w').moments ∧
      (r.perform (.operate op env files listener) w).value
        = answerOf op env (.ok (r.runStages r.perform op listener dir op.stages {} w').value) := by
  obtain ⟨content, hcontent⟩ : ∃ content, Directory.write [] files = .ok content :=
    Directory.write_eq_ok hfiles
  have hheld := (r.stages_held (fun _ _ _ => r.perform_keeps) hw op env files listener).world.busy
  refine ⟨w.fresh, ((w.take env).makeDir.2).setDir w.fresh content, ?_⟩
  rw [r.perform_eq]
  unfold performWith operate conclude
  dsimp only
  rw [hfree, if_neg (by simp), if_pos (World.isBusy_iff.2 (hheld ▸ List.mem_cons_self))]
  unfold inDirectory
  dsimp only
  rw [hcontent]
  exact ⟨rfl, rfl⟩

end

end Runner

/-! ## Reports -/

section
variable {r : Runner} {op : Operation} {rounds : List Round}

theorem Operation.stages_nodup (op : Operation) : op.stages.Nodup := by
  cases op <;> decide

theorem Round.results_eq (rounds : List Round) :
    (rounds.flatMap Round.events).filterMap (·.result) = rounds.map (·.result) := by
  induction rounds with
  | nil => rfl
  | cons a rounds ih =>
    rw [List.flatMap_cons, List.filterMap_append, ih]
    rfl

/-- A report of rounds is good if every stage has a round that succeeded. -/
theorem Course.report_ok (report : Report) (h : Course report.operation.stages rounds)
    (hevents : report.events = rounds.flatMap Round.events) :
    report.ok = true ↔ ∀ s ∈ report.operation.stages, ∃ a ∈ rounds, a.stage = s ∧
      a.result.ok = true := by
  rw [h.all_ok_iff report.operation.stages_nodup]
  have hresults : report.results = rounds.map (·.result) := by
    unfold Report.results
    rw [hevents, Round.results_eq]
  have hpos : 0 < report.operation.stages.length := by cases report.operation <;> decide
  unfold Report.ok
  rw [hresults]
  simp only [Bool.and_eq_true, Bool.not_eq_true', List.isEmpty_eq_false_iff, ne_eq, List.map_eq_nil_iff,
    List.all_map, List.all_eq_true, Function.comp_apply, beq_iff_eq, List.length_map]
  constructor
  · rintro ⟨⟨_, hall⟩, hlen⟩
    exact ⟨hall, hlen⟩
  · rintro ⟨hall, hlen⟩
    refine ⟨⟨fun hnil => ?_, hall⟩, hlen⟩
    rw [hnil] at hlen
    exact absurd hlen.symm (Nat.ne_of_gt hpos)

/-- What is seen of a run, what its listener hears and what its report says, by the rounds that its
stages took. -/
structure RunsThrough (r : Runner) (op : Operation) (moments : List Moment) (report : Report)
    (rounds : List Round) : Prop where
  /-- Nothing is seen but the rounds, one after the other. -/
  seen : moments.map Moment.sight = rounds.flatMap Round.sights
  fair : ∀ a ∈ rounds, a.Fair r op
  stages : rounds.map (·.stage) <+: op.stages
  /-- A stage is tried only after stages that were completed with exit code 0. -/
  earlier : ∀ before a after, rounds = before ++ a :: after → ∀ b ∈ before, b.Succeeded
  /-- In particular, nothing is applied or destroyed that was not planned before. -/
  planned : ∀ before a after, rounds = before ++ a :: after → a.stage = .apply ∨ a.stage = .destroy →
    before.map (·.stage) = [.init, .plan] ∧ ∀ b ∈ before, b.Succeeded
  events : report.events = rounds.flatMap Round.events
  heard : report.heard = report.events
  failedLast : ∀ e ∈ report.events.dropLast, e.status ≠ .failed
  failedProper : rounds.map (·.stage) ≠ op.stages →
    ∃ e, report.events.getLast? = some e ∧ e.status = .failed
  ok : report.ok = true ↔ ∀ s ∈ op.stages, ∃ a ∈ rounds, a.stage = s ∧ a.Succeeded

/-- The stages before one that applies or destroys. -/
theorem Operation.stages_before (op : Operation) {before after : List Stage} {s : Stage}
    (h : before ++ s :: after <+: op.stages) (hs : s = .apply ∨ s = .destroy) :
    before = [.init, .plan] := by
  obtain ⟨rest, hrest⟩ := h
  rcases hs with rfl | rfl <;> cases op <;>
    rcases before with _ | ⟨s₁, _ | ⟨s₂, _ | ⟨s₃, before⟩⟩⟩ <;> simp_all [stages]

theorem Course.failedLast {ss : List Stage} (h : Course ss rounds) :
    ∀ e ∈ (rounds.flatMap Round.events).dropLast, e.status ≠ .failed := by
  induction h with
  | done => simp
  | @failed s ss a hs hf => simp [Round.events, Runner.starting]
  | @passed s ss a rounds hs hok hrest ih =>
    have hstart : ∀ e ∈ [Runner.starting a.stage], e.status ≠ .failed := by simp [Runner.starting]
    have hend : (Runner.ending a.stage a.result).status ≠ .failed := by simp [Runner.ending, hok]
    rw [List.flatMap_cons]
    by_cases hnil : rounds.flatMap Round.events = []
    · rw [hnil, List.append_nil]
      exact hstart
    · rw [List.dropLast_append_of_ne_nil hnil]
      intro e he
      rcases List.mem_append.1 he with he | he
      · rcases List.mem_cons.1 he with rfl | he
        · exact hstart _ (List.mem_singleton.2 rfl)
        · rwa [List.mem_singleton.1 he]
      · exact ih e he

theorem Course.failedProper {ss : List Stage} (h : Course ss rounds)
    (hne : rounds.map (·.stage) ≠ ss) :
    ∃ e, (rounds.flatMap Round.events).getLast? = some e ∧ e.status = .failed := by
  obtain ⟨before, a, rfl, hf⟩ := h.failed_of_proper hne
  refine ⟨Runner.ending a.stage a.result, ?_, ?_⟩
  · simp [Round.events]
  · simp [Runner.ending, hf]

/-- Every run goes in rounds, whatever its processes do. -/
theorem perform_runsThrough {env : String} {files : FileList} {listener : Listener} {w : World}
    (hw : w.script.OnlyCalls) (hfree : w.isBusy env = false)
    (hfiles : ∀ f ∈ files, nameFault? f.1 = none) (hlistener : ∀ es, listener es = false) :
    ∃ report rounds, (r.perform (.operate op env files listener) w).value = .ok (.report report) ∧
      report.environment = env ∧ report.operation = op ∧
      RunsThrough r op (r.perform (.operate op env files listener) w).moments report rounds := by
  obtain ⟨dir, w', hmoments, hvalue⟩ := r.perform_of_files op listener hw hfree hfiles
  obtain ⟨rounds, hcourse, hfair, hseen, hprogress⟩ :=
    r.runStages_course r.perform hlistener dir op.stages {} w' rfl
  rw [hprogress] at hvalue
  let report : Report :=
    { environment := env, operation := op, events := rounds.flatMap Round.events
      heard := rounds.flatMap Round.events }
  have hsucceeded : ∀ a ∈ rounds, a.result.ok = true → a.Succeeded := fun a ha h =>
    (hfair a ha).ok_iff.1 h
  have hearlier : ∀ before a after, rounds = before ++ a :: after → ∀ b ∈ before, b.Succeeded :=
    fun before a after he b hb =>
      hsucceeded b (he ▸ List.mem_append_left _ hb) (hcourse.ok_of_before he b hb)
  refine ⟨report, rounds, hvalue, rfl, rfl, ?_⟩
  refine
    { seen := hmoments ▸ hseen
      fair := hfair
      stages := hcourse.stages_prefix
      earlier := hearlier
      planned := fun before a after he ha => ⟨?_, hearlier before a after he⟩
      events := rfl
      heard := rfl
      failedLast := hcourse.failedLast
      failedProper := hcourse.failedProper
      ok := ?_ }
  · have hprefix := hcourse.stages_prefix
    rw [he, List.map_append, List.map_cons] at hprefix
    exact op.stages_before hprefix ha
  · rw [hcourse.report_ok report rfl]
    constructor
    · intro h s hs
      obtain ⟨a, ha, has, hok⟩ := h s hs
      exact ⟨a, ha, has, hsucceeded a ha hok⟩
    · intro h s hs
      obtain ⟨a, ha, has, hok⟩ := h s hs
      exact ⟨a, ha, has, (hfair a ha).ok_iff.2 hok⟩

end

/-- A world whose first process cannot be started, and whose third one fails. -/
def World.faltering : World where
  script :=
    { steps := [{ outcome := fun _ => .notStarted "Resource temporarily unavailable" },
        { outcome := fun _ => .exited 0 "" "" }, { outcome := fun _ => .exited 1 "" "Invalid plan" }]
      otherwise := fun _ => .exited 0 "" "" }

theorem perform_runsThrough_faltering :
    let r : Runner := { binary := "terraform", timeout := 900, retries := 1 }
    let d := r.perform (.operate .deploy "dev" [("main.tf", "")] .patient) .faltering
    ∃ report rounds, d.value = .ok (.report report) ∧ report.environment = "dev" ∧
      report.operation = .deploy ∧ RunsThrough r .deploy d.moments report rounds :=
  perform_runsThrough (by simp [Script.OnlyCalls, World.faltering]) rfl (by decide +kernel)
    fun _ => rfl

end CloudScaffold.Provision
