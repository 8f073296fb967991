import Foreman.Proofs.Maps
import Foreman.Proofs.Run.Course

/-!
# `Foreman.Proofs.Run.FinalState` — what an execution leaves behind

An execution that has ended stands after its last level. `FinalState` spells out what that means for
the statuses of the workflow, and for all parts of the result: the results by task, the lists of
failed and cancelled tasks, the statuses, and the numbers. It follows from the situation in which an
execution ends (`Sound`), however it got there.

The attempts of all tasks are summed up in 32 bits (`AttemptsSummed`). The number in a result is that sum
just if the sum fits, and where sums are checked, an execution that has made more attempts returns no
result.

## Contents
- `find?_statuses`, `count_statuses`: statuses of a workflow with different ids.
- **`AttemptsSummed`**: the number of attempts, and whether it is returned.
- **`FinalState`**, `finalState_of_sound`, `Engine.finalState_of_execute`, and
  **`Engine.run_leaves_final_state`**.
-/

namespace Foreman

open Machine

variable {w : Workflow} {s : Setup} {m : Machine} {levels : List Level} {level : Level}
  {schedule : Schedule} {world : World} {t : TaskId} {a b : TaskStatus}

/-! ## Statuses by id -/

namespace Workflow

theorem statusOf_of_mem {k : Task} (hnodup : w.taskIds.Nodup) (hk : k ∈ w.tasks) :
    w.statusOf k.id = some k.status :=
  statusOf_eq_some_iff_task?.mpr ⟨k, task?_of_mem hnodup hk, rfl⟩

theorem map_fst_statuses (w : Workflow) :
    (w.tasks.map fun t => (t.id, t.status)).map Prod.fst = w.taskIds := by
  simp [taskIds, Function.comp_def]

/-- With different ids, it does not matter which declaration of an id counts. -/
theorem find?_statuses (hnodup : w.taskIds.Nodup) (t : TaskId) :
    w.statuses.find? t = w.statusOf t := by
  refine Option.ext fun a => ?_
  rw [statuses, NameMap.find?_ofList_of_nodup ((map_fst_statuses w).symm ▸ hnodup), List.mem_map]
  constructor
  · rintro ⟨k, hk, heq⟩
    obtain ⟨rfl, rfl⟩ := Prod.mk.inj heq
    exact statusOf_of_mem hnodup hk
  · intro h
    obtain ⟨k, hk, rfl⟩ := statusOf_eq_some_iff_task?.mp h
    exact ⟨k, List.mem_of_find?_eq_some hk, by rw [id_of_task? hk]⟩

theorem entries_statuses_perm (hnodup : w.taskIds.Nodup) :
    w.statuses.entries.Perm (w.tasks.map fun t => (t.id, t.status)) :=
  NameMap.entries_ofList_perm ((map_fst_statuses w).symm ▸ hnodup)

theorem size_statuses (hnodup : w.taskIds.Nodup) : w.statuses.size = w.taskIds.length := by
  rw [NameMap.size, (entries_statuses_perm hnodup).length_eq]
  simp [taskIds]

theorem count_statuses (hnodup : w.taskIds.Nodup) (a : TaskStatus) :
    w.statuses.values.countP (fun b => b = a) = (tasksWith w a w.taskIds).length := by
  have hvalues : w.statuses.values.Perm (w.tasks.map Task.status) := by
    simpa [NameMap.values, Function.comp_def] using (entries_statuses_perm hnodup).map Prod.snd
  rw [hvalues.countP_eq, List.countP_map, tasksWith, ← List.countP_eq_length_filter, taskIds,
    List.countP_map]
  refine List.countP_congr fun k hk => ?_
  simp [statusOf_of_mem hnodup hk]

end Workflow

/-! ## The final state -/

/-- **How the levels of an execution end**, some of which were executed: all completed, or all
    completed up to the first level with a failure and cancelled from there on. -/
def Finished (levels : List Level) (x : Workflow) (executed : Nat) : Prop :=
  AllAre x .completed (tasksOf levels) ∧ executed = levels.length ∨
    ∃ past level later, levels = past ++ level :: later ∧ AllAre x .completed (tasksOf past) ∧
      level.EndedBadly x ∧ AllAre x .cancelled (tasksOf later) ∧ executed = past.length + 1

/-- **The number of attempts in a result**, and what it has to do with the attempts of all tasks. -/
structure AttemptsSummed (result : RunResult) : Prop where
  /-- The sum is made in 32 bits. -/
  wrapped : result.metrics.attempts = sumOf TaskResult.attempts result.tasks.values % 2 ^ 32
  /-- Where sums are checked, a result is returned just if its number is the sum over all tasks. -/
  exact : ∀ r, result.checked = .ok r ↔
    r = result ∧ r.metrics.attempts = sumOf TaskResult.attempts r.tasks.values
  /-- The only other way to end is that the sum does not fit. -/
  overflow : ∀ e, result.checked = .error e ↔
    e = .attempts ∧ 2 ^ 32 ≤ sumOf TaskResult.attempts result.tasks.values

theorem attemptsSummed_result (s : Setup) (m : Machine) : AttemptsSummed (m.result s) := by
  have hwrapped : (m.result s).metrics.attempts =
      sumOf TaskResult.attempts (m.result s).tasks.values % 2 ^ 32 := rfl
  refine ⟨hwrapped, fun r => ?_, fun e => ?_⟩
  · unfold RunResult.checked
    split
    · next hfits =>
        rw [Nat.mod_eq_of_lt hfits] at hwrapped
        constructor
        · rintro ⟨⟩
          exact ⟨rfl, hwrapped⟩
        · rintro ⟨rfl, -⟩
          rfl
    · next hover =>
        constructor
        · rintro ⟨⟩
        · rintro ⟨rfl, hexact⟩
          -- a number of 32 bits is less than a sum that does not fit
          have hlt := Nat.mod_lt (sumOf TaskResult.attempts (m.result s).tasks.values)
            (show 2 ^ 32 > 0 by decide)
          omega
  · unfold RunResult.checked
    split
    · next hfits =>
        constructor
        · rintro ⟨⟩
        · rintro ⟨-, hover⟩
          exact absurd hfits (Nat.not_lt.mpr hover)
    · next hover =>
        constructor
        · rintro ⟨⟩
          exact ⟨rfl, Nat.not_lt.mp hover⟩
        · rintro ⟨rfl, -⟩
          rfl

/-- **The final state of an execution of `w` by levels**: the workflow `x` with its statuses, and the
    result. -/
structure FinalState (w : Workflow) (levels : List Level) (x : Workflow) (result : RunResult) :
    Prop where
  /-- Only statuses have changed. -/
  same : x.resetStatuses = w.resetStatuses
  /-- The levels hold every task once. -/
  all : (tasksOf levels).Perm w.taskIds
  finished : Finished levels x result.metrics.levelsExecuted
  settled : ∀ t, x.statusOf t ≠ some .scheduled ∧ x.statusOf t ≠ some .running
  /-- There are results for just the completed and failed tasks. -/
  keys : ∀ t, t ∈ result.tasks.keys ↔
    x.statusOf t = some .completed ∨ x.statusOf t = some .failed
  /-- A result is that of its task and agrees with its status. -/
  verdicts : ∀ t r, result.tasks.find? t = some r → r.task = t ∧ x.statusOf t = some r.verdict
  failed : result.failedTasks = tasksWith x .failed (tasksOf levels)
  cancelled : result.cancelledTasks = tasksWith x .cancelled (tasksOf levels)
  statuses : ∀ t, result.statuses.find? t = x.statusOf t
  success : result.success = true ↔ AllAre x .completed w.taskIds
  status : result.status = if result.success then .completed else .failed
  total : result.metrics.total = w.taskIds.length
  counts : result.metrics.completed = (tasksWith x .completed w.taskIds).length ∧
    result.metrics.failed = (tasksWith x .failed w.taskIds).length ∧
    result.metrics.cancelled = (tasksWith x .cancelled w.taskIds).length ∧
    result.metrics.pending = (tasksWith x .pending w.taskIds).length
  attempts : AttemptsSummed result

theorem tasksWith_of_allAre {ts : List TaskId} (h : AllAre w a ts) :
    tasksWith w b ts = if a = b then ts else [] := by
  unfold tasksWith
  split
  · next hab => exact List.filter_eq_self.mpr fun t ht => by simp [h t ht, hab]
  · next hab => exact List.filter_eq_nil_iff.mpr fun t ht => by simp [h t ht, hab]

/-- Statuses in a level that ended badly. -/
theorem Level.EndedBadly.statusOf (h : level.EndedBadly w) (ht : t ∈ level.tasks) :
    w.statusOf t = some .completed ∨ w.statusOf t = some .failed ∨ w.statusOf t = some .pending := by
  unfold Level.EndedBadly at h
  split at h
  · exact (h.1 t ht).imp_right Or.inl
  · obtain ⟨done, u, rest, heq, hdone, hfail, hrest⟩ := h
    rw [heq, List.mem_append, List.mem_cons] at ht
    rcases ht with ht | rfl | ht
    · exact Or.inl (hdone t ht)
    · exact Or.inr (Or.inl hfail)
    · exact Or.inr (Or.inr (hrest t ht))

theorem Level.EndedBadly.tasksWith_cancelled (h : level.EndedBadly w) :
    tasksWith w .cancelled level.tasks = [] := by
  refine List.filter_eq_nil_iff.mpr fun t ht => ?_
  rcases h.statusOf ht with heq | heq | heq <;> simp [heq]

/-- The lists of failed and cancelled tasks, and how the levels ended. -/
structure Listed (levels : List Level) (m : Machine) : Prop where
  finished : Finished levels m.workflow m.levelsExecuted
  failed : m.failed = tasksWith m.workflow .failed (tasksOf levels)
  cancelled : m.cancelled = tasksWith m.workflow .cancelled (tasksOf levels)
  settled : ∀ t ∈ tasksOf levels,
    m.workflow.statusOf t ≠ some .scheduled ∧ m.workflow.statusOf t ≠ some .running

/-- The situation in which an execution ends. -/
theorem Standing.listed (h : Standing levels m) (hdone : m.isDone = true) : Listed levels m := by
  have hend : m.stage = none ∧ m.levels = [] := by simpa [isDone] using hdone
  cases h with
  | between past h =>
      have hlevels : levels = past := by rw [h.split, hend.2, List.append_nil]
      have hall := hlevels ▸ h.done
      have hexecuted := h.executed.trans (congrArg List.length hlevels.symm)
      refine ⟨Or.inl ⟨hall, hexecuted⟩, ?_, ?_, fun t ht => by simp [hall t ht]⟩
      · rw [h.failed, tasksWith_of_allAre hall, if_neg (by decide)]
      · rw [h.cancelled, tasksWith_of_allAre hall, if_neg (by decide)]
  | during past stage h => cases h.current.symm.trans hend.1
  | broken past level skipped h =>
      have hlevels : levels = past ++ level :: skipped := by rw [h.split, hend.2, List.append_nil]
      have htasks : tasksOf levels = tasksOf past ++ (level.tasks ++ tasksOf skipped) := by
        rw [hlevels, tasksOf_append, tasksOf_cons]
      refine ⟨Or.inr ⟨past, level, skipped, hlevels, h.done, h.ended, h.void, h.executed⟩, ?_, ?_,
        fun t ht => ?_⟩
      · rw [htasks, tasksWith_append, tasksWith_append, tasksWith_of_allAre h.done,
          tasksWith_of_allAre h.void, h.failed]
        simp
      · rw [htasks, tasksWith_append, tasksWith_append, tasksWith_of_allAre h.done,
          tasksWith_of_allAre h.void, h.cancelled, h.ended.tasksWith_cancelled]
        simp
      · rw [htasks, List.mem_append, List.mem_append] at ht
        rcases ht with ht | ht | ht
        · simp [h.done t ht]
        · rcases h.ended.statusOf ht with heq | heq | heq <;> simp [heq]
        · simp [h.void t ht]

theorem Workflow.outcomeOf_eq_some_iff :
    w.outcomeOf t = some a ↔ w.statusOf t = some a ∧ (a = .completed ∨ a = .failed) := by
  rw [outcomeOf, Option.filter_eq_some_iff]
  refine and_congr_right fun _ => ?_
  cases a <;> simp [TaskStatus.isOutcome]

/-- There is a result for a task just if it is completed or failed. -/
theorem Books.mem_keys_iff (h : Books w m) : t ∈ m.results.keys ↔
    m.workflow.statusOf t = some .completed ∨ m.workflow.statusOf t = some .failed := by
  have hverdict := h.verdicts t
  rw [NameMap.mem_keys_iff]
  constructor
  · rintro ⟨r, hr⟩
    rw [hr] at hverdict
    obtain ⟨hstatus, heq | heq⟩ := Workflow.outcomeOf_eq_some_iff.mp hverdict.symm
    · exact Or.inl (heq ▸ hstatus)
    · exact Or.inr (heq ▸ hstatus)
  · intro hstatus
    have houtcome : ∃ a, m.workflow.outcomeOf t = some a := by
      rcases hstatus with hstatus | hstatus
      · exact ⟨_, Workflow.outcomeOf_eq_some_iff.mpr ⟨hstatus, Or.inl rfl⟩⟩
      · exact ⟨_, Workflow.outcomeOf_eq_some_iff.mpr ⟨hstatus, Or.inr rfl⟩⟩
    obtain ⟨a, ha⟩ := houtcome
    obtain ⟨r, hr, _⟩ := Option.map_eq_some_iff.mp (hverdict.trans ha)
    exact ⟨r, hr⟩

/-- A level that ended badly has a failed task. -/
theorem Level.EndedBadly.exists_failed (h : level.EndedBadly w) :
    ∃ t ∈ level.tasks, w.statusOf t = some .failed := by
  unfold Level.EndedBadly at h
  split at h
  · exact h.2
  · obtain ⟨done, t, rest, heq, _, hfail, _⟩ := h
    exact ⟨t, by simp [heq], hfail⟩

/-- No task failed just if every task is completed. -/
theorem Listed.failed_eq_nil_iff (h : Listed levels m) :
    m.failed = [] ↔ AllAre m.workflow .completed (tasksOf levels) := by
  constructor
  · intro hnone
    rcases h.finished with ⟨hall, _⟩ | ⟨past, level, later, hlevels, _, hended, _, _⟩
    · exact hall
    · obtain ⟨t, ht, hfail⟩ := hended.exists_failed
      have hmem : t ∈ m.failed := by
        rw [h.failed, tasksWith, List.mem_filter, hlevels]
        simp [ht, hfail]
      rw [hnone] at hmem
      cases hmem
  · intro hall
    rw [h.failed, tasksWith_of_allAre hall, if_neg (by decide)]

/-- **An execution that has ended is in its final state.** -/
theorem finalState_of_sound (hvalid : w.WellFormed) (hl : Layered w levels)
    (h : Sound w levels m) (hdone : m.isDone = true) :
    FinalState w levels m.workflow (m.result s) := by
  have hlisted := h.standing.listed hdone
  have hids : m.workflow.taskIds = w.taskIds := Workflow.taskIds_eq_of_reset h.books.same
  have hnodup : m.workflow.taskIds.Nodup := hids ▸ hvalid.distinct
  have hperm : (tasksOf levels).Perm w.taskIds :=
    (List.perm_ext_iff_of_nodup hl.nodup hvalid.distinct).mpr hl.mem_iff
  refine ⟨h.books.same, hperm, hlisted.finished, fun t => ?_, fun t => h.books.mem_keys_iff,
    fun t r hr => ?_, hlisted.failed, hlisted.cancelled, Workflow.find?_statuses hnodup, ?_, rfl, ?_,
    ?_, attemptsSummed_result s m⟩
  · -- what is not in a level is not declared and has no status
    by_cases ht : t ∈ tasksOf levels
    · exact hlisted.settled t ht
    · rw [hl.mem_iff, ← hids, ← Workflow.exists_statusOf_iff] at ht
      exact ⟨fun heq => ht ⟨_, heq⟩, fun heq => ht ⟨_, heq⟩⟩
  · refine ⟨h.books.names t r hr, ?_⟩
    have hverdict := h.books.verdicts t
    rw [show m.results.find? t = some r from hr] at hverdict
    exact (Workflow.outcomeOf_eq_some_iff.mp hverdict.symm).1
  · show m.failed.isEmpty = true ↔ _
    rw [List.isEmpty_iff, hlisted.failed_eq_nil_iff]
    exact forall_congr' fun t => imp_congr_left hperm.mem_iff
  · exact (Workflow.size_statuses hnodup).trans (congrArg List.length hids)
  · rw [← hids]
    exact ⟨Workflow.count_statuses hnodup _, Workflow.count_statuses hnodup _,
      Workflow.count_statuses hnodup _, Workflow.count_statuses hnodup _⟩

/-- What the execution of a plan leaves is a final state. -/
theorem Engine.finalState_of_execute {e : Engine} {fuel : Nat} {x : Execution}
    (hplan : w.plan world.pool = .ok schedule) (hx : e.execute fuel w schedule world = some x) :
    FinalState w schedule.levels x.workflow x.result := by
  have hvalid := Workflow.wellFormed_of_isValid (isValid_of_plan hplan).1
  have hl := layered_of_plan hplan
  obtain ⟨m, hsteps, hdone, rfl⟩ := Engine.exists_machine_of_execute hx
  have hm := interleaving_of_steps (orderly_of_stage_none rfl) hsteps
  exact finalState_of_sound hvalid hl (sound_of_interleaving hl hm) hdone

/-- **The final state of a run.** Of every execution of a planned workflow, in whatever order flights
    take their turns and whatever happens to pool and memory meanwhile: no step of a task was illegal
    at any moment, and once it has ended, workflow and result are in the final state. The same holds
    for what a run of an engine returns. -/
theorem Engine.run_leaves_final_state (e : Engine) (hplan : w.plan world.pool = .ok schedule) :
    (∀ m, Interleaving (e.setup w schedule) (Machine.start w schedule world) m →
      (∀ step, .illegalStep step ∉ m.journal) ∧
        (m.isDone = true →
          FinalState w schedule.levels m.workflow (m.result (e.setup w schedule)))) ∧
    ∀ fuel x, e.run fuel w world = .ok (some x) →
      FinalState w schedule.levels x.workflow x.result := by
  have hvalid := Workflow.wellFormed_of_isValid (isValid_of_plan hplan).1
  have hl := layered_of_plan hplan
  refine ⟨fun m hm => ?_, fun fuel x hrun => ?_⟩
  · have h := sound_of_interleaving hl hm
    exact ⟨h.books.legal, finalState_of_sound hvalid hl h⟩
  · rw [Engine.run, hplan] at hrun
    exact Engine.finalState_of_execute hplan (Except.ok.inj hrun)

/-- The build fails, and the test is cancelled. -/
theorem run_leaves_final_state_pipeline :
    ∃ schedule x, pipeline.plan lonePool = .ok schedule ∧
      (engineFailing ["build"]).run 20 pipeline { pool := lonePool } = .ok (some x) ∧
      x.result.failedTasks = ["build"] ∧ x.result.cancelledTasks = ["test"] ∧
      FinalState pipeline schedule.levels x.workflow x.result := by
  refine ⟨_, _, rfl, rfl, rfl, rfl, ?_⟩
  have hplan : pipeline.plan ({ pool := lonePool } : World).pool = .ok _ := rfl
  exact (Engine.run_leaves_final_state (engineFailing ["build"]) hplan).2 20 _ rfl

end Foreman
