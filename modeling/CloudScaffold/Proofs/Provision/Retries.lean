import CloudScaffold.Proofs.Provision.Course
/-!
# Retries

The command of a stage is tried over and over until a process starts, or no retry is left. The tries
are a sequence that does not depend on how many of them are made (`Runner.attempt`): how the first ones
end settles how many there are, and the last of them settles the result (`Runner.Retries`).

Counted from one up to the last that is allowed, as a loop that could end without a result
(`Runner.tryEach`), the tries never do: there is always a first, and the last one always gives a result
(`Runner.tryEach_counted`). Main statement: `execute_retries`.
-/
namespace CloudScaffold.Provision

/-- How the process that takes a step of a script ends. -/
def Script.outcomeAt (s : Script) (stage : Stage) (i : Nat) : Outcome :=
  (s.steps[i]?.map (·.outcome stage)).getD (s.otherwise stage)

namespace Runner

section
variable (r : Runner) (nested : Action → World → Done Answer) (stage : Stage) (extra : List String)
  (dir : Nat)

/-- A try of a command, after those before it. -/
def attempt : Nat → World → Done Outcome
  | 0, w => r.spawn nested stage extra dir w
  | i + 1, w => attempt i (r.spawn nested stage extra dir w).world

/-- Tries a command once for each number of a list, but not again after a process that started or after
the try of the last number. Without a number there is no result. -/
def tryEach (last : Nat) : List Nat → World → Done (Option StageResult)
  | [], w => ⟨none, [], w⟩
  | i :: is, w =>
    let d := r.spawn nested stage extra dir w
    if isRetried d.value && i != last then
      let d' := tryEach last is d.world
      ⟨d'.value, d.moments ++ d'.moments, d'.world⟩
    else ⟨some (r.resultOf stage d.value), d.moments, d.world⟩

/-- A command that was tried until a process started, if the first `k` processes could not be started
and the next one could. -/
structure Retries (k : Nat) (w : World) (d : Done StageResult) : Prop where
  /-- Nothing is done but the tries, one after the other. -/
  moments : d.moments = (List.range (min k r.retries + 1)).flatMap fun i =>
    (r.attempt nested stage extra dir i w).moments
  attempts : d.moments.length = min k r.retries + 1
  /-- All tries are made with the command of the stage. -/
  command : ∀ m ∈ d.moments, ∃ w' job, m = .ran w' job ∧ job.stage = stage ∧
    job.argv = r.binary :: (stage.arguments ++ extra)
  started : k ≤ r.retries →
    let last := (r.attempt nested stage extra dir k w).value
    d.value = r.resultOf stage last ∧
      (d.value.ok = true ↔ ∃ out err, last = .exited 0 out err) ∧
      (last = .timedOut → d.value.exitCode = -1)
  exhausted : r.retries < k → ∃ text,
    (r.attempt nested stage extra dir r.retries w).value = .notStarted text ∧
      d.value.ok = false ∧ d.value.exitCode = -1 ∧ d.value.stderr = text

end

section
variable {r : Runner} {nested : Action → World → Done Answer} {stage : Stage} {extra : List String}
  {dir : Nat}

theorem isRetried_iff {o : Outcome} : isRetried o = true ↔ ∃ text, o = .notStarted text := by
  cases o <;> simp [isRetried]

variable (r nested stage extra dir) in
/-- A try is one process, with the command of the stage. -/
theorem attempt_ran (i : Nat) (w : World) : ∃ w' job,
    (r.attempt nested stage extra dir i w).moments = [.ran w' job] ∧ job.stage = stage ∧
      job.argv = r.binary :: (stage.arguments ++ extra) := by
  induction i generalizing w with
  | zero => exact ⟨_, _, rfl, rfl, rfl⟩
  | succ i ih => exact ih _

/-- If no action is done while processes run, tries take the steps of the script in order. -/
theorem attempt_value (i : Nat) {w : World} (h : ∀ step ∈ w.script.steps, step.during = []) :
    (r.attempt nested stage extra dir i w).value = w.script.outcomeAt stage i := by
  induction i generalizing w with
  | zero =>
    obtain ⟨⟨steps, otherwise⟩, busy, dirs, fresh⟩ := w
    cases steps <;> rfl
  | succ i ih =>
    have hquiet : w.nextStep.1.during = [] := by
      obtain ⟨⟨steps, otherwise⟩, busy, dirs, fresh⟩ := w
      cases steps with
      | nil => rfl
      | cons s ss => exact h s List.mem_cons_self
    have hworld : (r.spawn nested stage extra dir w).world = w.nextStep.2 := by
      unfold spawn
      dsimp only
      rw [hquiet]
      rfl
    rw [attempt, hworld, ih]
    · rw [World.nextStep_world]
      simp [Script.outcomeAt]
    · rw [World.nextStep_world]
      exact fun step hstep => h step (List.mem_of_mem_tail hstep)

/-- What is done in the tries of a command is what is done in the first of them, and in the others. -/
theorem flatMap_attempts (n : Nat) (w : World) :
    ((List.range (n + 1)).flatMap fun i => (r.attempt nested stage extra dir i w).moments) =
      (r.spawn nested stage extra dir w).moments ++ (List.range n).flatMap fun i =>
        (r.attempt nested stage extra dir i (r.spawn nested stage extra dir w).world).moments := by
  rw [List.range_succ_eq_map, List.flatMap_cons, List.flatMap_map]
  rfl

/-- **The tries that are made.** If the first `k` processes cannot be started and the next one, as far as
it is reached, can, then so many tries are made as there are retries, but no more than `k`, and one more. -/
theorem execute_eq : ∀ (k left : Nat) (w : World),
    (∀ i < k, ∃ text, (r.attempt nested stage extra dir i w).value = .notStarted text) →
    (k ≤ left → ∀ text, (r.attempt nested stage extra dir k w).value ≠ .notStarted text) →
    (r.execute nested stage extra dir left w).value =
        r.resultOf stage (r.attempt nested stage extra dir (min k left) w).value ∧
      (r.execute nested stage extra dir left w).moments =
        (List.range (min k left + 1)).flatMap fun i =>
          (r.attempt nested stage extra dir i w).moments
  | _, 0, w, _, _ => by
    rw [Nat.min_zero]
    exact ⟨rfl, by simp [execute, attempt]⟩
  | 0, left + 1, w, _, hnext => by
    have hstop : isRetried (r.spawn nested stage extra dir w).value = false := by
      rw [← Bool.not_eq_true, isRetried_iff, not_exists]
      exact hnext (Nat.zero_le _)
    rw [Nat.zero_min, flatMap_attempts]
    unfold execute
    dsimp only
    rw [hstop, if_neg (by simp)]
    exact ⟨rfl, by simp⟩
  | k + 1, left + 1, w, hfailed, hnext => by
    have hgo : isRetried (r.spawn nested stage extra dir w).value = true :=
      isRetried_iff.2 (hfailed 0 (Nat.succ_pos k))
    obtain ⟨hvalue, hmoments⟩ := execute_eq k left (r.spawn nested stage extra dir w).world
      (fun i hi => hfailed (i + 1) (Nat.succ_lt_succ hi))
      fun hk => hnext (Nat.succ_le_succ hk)
    rw [Nat.succ_min_succ, flatMap_attempts]
    unfold execute
    dsimp only
    rw [hgo, if_pos rfl]
    exact ⟨hvalue, congrArg _ hmoments⟩

/-- The tries of a runner with its own retries. -/
theorem retries_execute {k : Nat} {w : World}
    (hfailed : ∀ i < k, ∃ text, (r.attempt nested stage extra dir i w).value = .notStarted text)
    (hnext : k ≤ r.retries → ∀ text,
      (r.attempt nested stage extra dir k w).value ≠ .notStarted text) :
    r.Retries nested stage extra dir k w (r.execute nested stage extra dir r.retries w) := by
  obtain ⟨hvalue, hmoments⟩ := execute_eq k r.retries w hfailed hnext
  refine { moments := hmoments, attempts := ?_, command := ?_, started := ?_, exhausted := ?_ }
  · have hone : ∀ i ∈ List.range (min k r.retries + 1),
        (r.attempt nested stage extra dir i w).moments.length = 1 := by
      intro i _
      obtain ⟨w', job, hm, _⟩ := attempt_ran r nested stage extra dir i w
      rw [hm]
      rfl
    rw [hmoments, List.length_flatMap, List.map_congr_left hone]
    rw [List.map_const', List.sum_replicate_nat, List.length_range, Nat.mul_one]
  · intro m hm
    rw [hmoments, List.mem_flatMap] at hm
    obtain ⟨i, -, hm⟩ := hm
    obtain ⟨w', job, hone, hjob⟩ := attempt_ran r nested stage extra dir i w
    rw [hone, List.mem_singleton] at hm
    exact ⟨w', job, hm, hjob⟩
  · intro hk last
    rw [Nat.min_eq_left hk] at hvalue
    rw [hvalue]
    refine ⟨rfl, resultOf_ok, fun hlast => ?_⟩
    change (r.resultOf stage last).exitCode = -1
    rw [hlast]
    rfl
  · intro hk
    obtain ⟨text, htext⟩ := hfailed r.retries hk
    rw [Nat.min_eq_right (Nat.le_of_lt hk), htext] at hvalue
    refine ⟨text, htext, ?_⟩
    rw [hvalue]
    exact ⟨rfl, rfl, rfl⟩

/-- Counting the tries from one on comes to the same as counting the retries that are left. -/
theorem tryEach_counted {last : Nat} : ∀ (left i : Nat) (w : World), i + left = last →
    r.tryEach nested stage extra dir last (List.range' i (left + 1)) w =
      let d := r.execute nested stage extra dir left w
      ⟨some d.value, d.moments, d.world⟩
  | 0, i, w, hi => by
    have hlast : (i != last) = false := by simpa using hi
    simp [List.range', tryEach, execute, hlast]
  | left + 1, i, w, hi => by
    have hmore : (i != last) = true := by simp; omega
    rw [List.range'_succ, tryEach, execute]
    dsimp only
    rw [hmore, Bool.and_true, tryEach_counted left (i + 1) _ (by omega)]
    split <;> rfl

end

end Runner

/-- **Only what could not be started is tried again.** Take a runner with any number of retries, where a
negative one counts as none, and a command whose first `k` processes cannot be started while the next
one can, if it is reached. Then the command is tried until a process starts, or as often as the retries
allow and once more, and the last try gives the result; so does the loop that counts the tries. If no
actions are done while processes run, the processes end as the steps of the script say, in order. -/
theorem execute_retries (settings : RunnerSettings) (binary : Option String)
    (timeout retries : Option Int) (nested : Action → World → Done Answer) (stage : Stage)
    (extra : List String) (dir : Nat) (w : World) {k : Nat} :
    let r := Runner.configure settings binary timeout retries
    let tries (i : Nat) : Outcome := (r.attempt nested stage extra dir i w).value
    let d := r.execute nested stage extra dir r.retries w
    (∀ i < k, ∃ text, tries i = .notStarted text) →
    (k ≤ r.retries → ∀ text, tries k ≠ .notStarted text) →
    (r.retries : Int) = max 0 (retries.getD settings.retries) ∧
      r.Retries nested stage extra dir k w d ∧
      r.tryEach nested stage extra dir (r.retries + 1) (List.range' 1 (r.retries + 1)) w =
        ⟨some d.value, d.moments, d.world⟩ ∧
      ((∀ step ∈ w.script.steps, step.during = []) → ∀ i, tries i = w.script.outcomeAt stage i) := by
  intro r tries d hfailed hnext
  have hmax : (r.retries : Int) = max 0 (retries.getD settings.retries) :=
    (Int.toNat_eq_max _).trans (Int.max_comm _ _)
  exact ⟨hmax, Runner.retries_execute hfailed hnext,
    Runner.tryEach_counted r.retries 1 w (Nat.add_comm 1 _), fun h i => Runner.attempt_value i h⟩

/-- One retry is allowed, and it is the try that succeeds. -/
theorem execute_retries_faltering :
    let r := Runner.configure {} none none (some 1)
    let d := r.execute r.perform .init [] 0 r.retries .faltering
    (r.attempt r.perform .init [] 0 0 .faltering).value =
        .notStarted "Resource temporarily unavailable" ∧
      r.Retries r.perform .init [] 0 1 .faltering d ∧ d.moments.length = 2 ∧ d.value.ok = true := by
  intro r d
  have hfailed : ∀ i < 1, ∃ text,
      (r.attempt r.perform .init [] 0 i .faltering).value = .notStarted text := by
    intro i hi
    rw [Nat.lt_one_iff.1 hi]
    exact ⟨_, rfl⟩
  have hnext : 1 ≤ r.retries → ∀ text,
      (r.attempt r.perform .init [] 0 1 .faltering).value ≠ .notStarted text :=
    fun _ _ => nofun
  have h := (execute_retries {} none none (some 1) r.perform .init [] 0 .faltering hfailed hnext).2.1
  exact ⟨rfl, h, h.attempts, rfl⟩

end CloudScaffold.Provision
