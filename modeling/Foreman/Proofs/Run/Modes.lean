import Foreman.Proofs.Run.Timing

/-!
# `Foreman.Proofs.Run.Modes` — both modes agree up to the first failure

In one mode the tasks of a level are in flight together, and all of them land; in the other mode they
follow each other, and a level stops at its first failure. Planning hardly notices: the plans of a
workflow for the two modes differ only in how their levels are marked (`Workflow.plan_inMode`).

For executions by script, the mode makes a difference in a single level. All levels before the first
one with a task that fails by script are completed in both modes, and all levels after it are cancelled
(`Finished.compare`). In that level, both modes complete the tasks before the first one that fails, and
fail that one; what comes after it is executed in one mode only (`Level.EndedBadly.compare`).

## Contents
- `inMode` for levels, schedules and workflows, with **`Workflow.plan_inMode`**.
- `Level.EndedBadly.compare` and **`Finished.compare`**: two ways to end.
- **`AgreeUpToFailure`** and `Scripted.agreeUpToFailure`.
- **`Engine.modes_agree_up_to_failure`**.
-/

namespace Foreman

open Machine

variable {w x₁ x₂ : Workflow} {levels past later : List Level} {level : Level}
  {good : TaskId → Prop} {script : Script} {r₁ r₂ : RunResult} {n₁ n₂ : Nat} {mode : ExecutionMode}

/-! ## Plans for both modes -/

/-- A level for a mode; a single task is never dispatched together with others. -/
def Level.inMode (mode : ExecutionMode) (level : Level) : Level :=
  { level with parallel := decide (mode = .parallel) && decide (1 < level.tasks.length) }

/-- A schedule for a mode. -/
def Schedule.inMode (mode : ExecutionMode) (schedule : Schedule) : Schedule :=
  { schedule with levels := schedule.levels.map (Level.inMode mode) }

/-- A workflow in a mode. -/
def Workflow.inMode (mode : ExecutionMode) (w : Workflow) : Workflow :=
  { w with metadata := { w.metadata with mode } }

@[simp] theorem Level.tasks_inMode (mode : ExecutionMode) (level : Level) :
    (level.inMode mode).tasks = level.tasks := rfl

@[simp] theorem tasksOf_map_inMode (mode : ExecutionMode) (levels : List Level) :
    tasksOf (levels.map (Level.inMode mode)) = tasksOf levels := by
  simp [tasksOf, List.flatMap_map]

theorem computeLevels_inMode (g : Graph) (order : List TaskId) (mode mode' : ExecutionMode) :
    computeLevels g order mode = (computeLevels g order mode').map (Level.inMode mode) := by
  simp [computeLevels, Level.inMode, Function.comp_def]

/-- The search for cycles does not look at the mode. -/
theorem CycleSearch.visit_inMode (mode : ExecutionMode) (w : Workflow) (known : NameSet)
    (fuel : Nat) :
    CycleSearch.visit (w.inMode mode) known fuel = CycleSearch.visit w known fuel := by
  induction fuel with
  | zero => rfl
  | succ fuel ih =>
      funext path t search
      unfold visit
      rw [ih]
      rfl

/-- Nor does any other check. -/
theorem Workflow.validationErrors_inMode (mode : ExecutionMode) (w : Workflow) :
    (w.inMode mode).validationErrors = w.validationErrors := by
  have hcycles : (w.inMode mode).cycleErrors = w.cycleErrors := by
    unfold cycleErrors CycleSearch.ofWorkflow
    simp only [CycleSearch.visit_inMode]
    rfl
  unfold validationErrors
  rw [hcycles]
  rfl

theorem allocate_inMode (mode : ExecutionMode) (w : Workflow) (levels : List Level) (p : Pool) :
    allocate (w.inMode mode) (levels.map (Level.inMode mode)) p = allocate w levels p := by
  show (tasksOf _).foldlM (allocateTask w.tasksById p) ∅ = (tasksOf levels).foldlM (allocateTask w.tasksById p) ∅
  rw [tasksOf_map_inMode]

theorem Workflow.schedule_inMode (mode : ExecutionMode) (w : Workflow) (p : Pool) :
    (w.inMode mode).schedule p = (w.schedule p).map (Schedule.inMode mode) := by
  unfold schedule
  rw [show Graph.ofWorkflow (w.inMode mode) = Graph.ofWorkflow w from rfl,
    show (w.inMode mode).estimates = w.estimates from rfl]
  dsimp only
  cases (Graph.ofWorkflow w).topologicalOrder with
  | error e => rfl
  | ok order =>
      dsimp only
      cases computeCriticalPath (Graph.ofWorkflow w) order w.estimates with
      | error o => rfl
      | ok criticalPath =>
          dsimp only
          rw [computeLevels_inMode _ order (w.inMode mode).metadata.mode w.metadata.mode,
            show (w.inMode mode).metadata.mode = mode from rfl, allocate_inMode]
          cases allocate w (computeLevels (Graph.ofWorkflow w) order w.metadata.mode) p <;> rfl

/-- **Plans for different modes differ only in the marks of their levels**, and there is one for all
    modes or for none. -/
theorem Workflow.plan_inMode (mode : ExecutionMode) (w : Workflow) (p : Pool) :
    (w.inMode mode).plan p = (w.plan p).map (Schedule.inMode mode) := by
  unfold plan isValid
  rw [validationErrors_inMode, schedule_inMode]
  split <;> rfl

/-! ## The first failure of a level -/

/-- **A level that ended badly has a first failure.** What a sequential level has after it was not
    executed. -/
theorem Level.EndedBadly.exists_first (h : level.EndedBadly x₁) :
    ∃ done t rest, level.tasks = done ++ t :: rest ∧ AllAre x₁ .completed done ∧
      x₁.statusOf t = some .failed ∧ (level.parallel = false → AllAre x₁ .pending rest) := by
  unfold Level.EndedBadly at h
  split at h
  · next hpar =>
      obtain ⟨hall, t, ht, hfail⟩ := h
      obtain ⟨u, hu⟩ : ∃ u, level.tasks.find? (fun t => x₁.statusOf t = some .failed) = some u :=
        Option.isSome_iff_exists.mp (List.find?_isSome.mpr ⟨t, ht, by simpa using hfail⟩)
      obtain ⟨hufail, done, rest, heq, hdone⟩ := List.find?_eq_some_iff_append.mp hu
      refine ⟨done, u, rest, heq, fun t ht => ?_, by simpa using hufail, by simp [hpar]⟩
      have hnot : x₁.statusOf t ≠ some .failed := by simpa using hdone t ht
      exact (hall t (by simp [heq, ht])).resolve_right hnot
  · obtain ⟨done, t, rest, heq, hdone, hfail, hrest⟩ := h
    exact ⟨done, t, rest, heq, hdone, hfail, fun _ => hrest⟩

/-- **A level ends badly with the same first failure in both modes.** What comes after it is executed in
    one of them at most. -/
theorem Level.EndedBadly.compare (h₁ : level.EndedBadly x₁)
    (h₂ : (level.inMode .sequential).EndedBadly x₂) (hj₁ : Judged good x₁) (hj₂ : Judged good x₂) :
    ∃ done t rest, level.tasks = done ++ t :: rest ∧
      (AllAre x₁ .completed done ∧ x₁.statusOf t = some .failed) ∧
      AllAre x₂ .completed done ∧ x₂.statusOf t = some .failed ∧ AllAre x₂ .pending rest := by
  obtain ⟨done₁, t₁, rest₁, heq₁, hdone₁, hfail₁, -⟩ := h₁.exists_first
  obtain ⟨done₂, t₂, rest₂, heq₂, hdone₂, hfail₂, hrest₂⟩ := h₂.exists_first
  obtain ⟨rfl, rfl, rfl⟩ := split_unique (heq₁.symm.trans heq₂) (hj₁.good_of_allAre hdone₁)
    (hj₁.failed t₁ hfail₁) (hj₂.good_of_allAre hdone₂) (hj₂.failed t₂ hfail₂)
  exact ⟨done₁, t₁, rest₁, heq₁, ⟨hdone₁, hfail₁⟩, hdone₂, hfail₂, hrest₂ rfl⟩

/-! ## Two ways to end -/

/-- **An execution that stops at a level**: everything before is completed, and everything after it is
    cancelled. -/
structure StopsAt (past : List Level) (level : Level) (later : List Level) (x : Workflow) : Prop where
  done : AllAre x .completed (tasksOf past)
  ended : level.EndedBadly x
  void : AllAre x .cancelled (tasksOf later)

/-- **Executions in both modes end side by side**: both complete all levels, or both stop at the same
    one. -/
inductive SideBySide (levels : List Level) (x₁ x₂ : Workflow) : Prop
  | completed (h₁ : AllAre x₁ .completed (tasksOf levels))
      (h₂ : AllAre x₂ .completed (tasksOf levels))
  | stopped {past : List Level} {level : Level} {later : List Level}
      (split : levels = past ++ level :: later) (h₁ : StopsAt past level later x₁)
      (h₂ : StopsAt past (level.inMode .sequential) later x₂)

theorem Finished.compare (h₁ : Finished levels x₁ n₁)
    (h₂ : Finished (levels.map (Level.inMode .sequential)) x₂ n₂) (hj₁ : Judged good x₁)
    (hj₂ : Judged good x₂) : SideBySide levels x₁ x₂ ∧ n₁ = n₂ := by
  rcases h₁ with ⟨hall₁, rfl⟩ | ⟨past₁, level₁, later₁, heq₁, hdone₁, hended₁, hvoid₁, rfl⟩ <;>
    rcases h₂ with ⟨hall₂, rfl⟩ | ⟨past₂, level₂, later₂, heq₂, hdone₂, hended₂, hvoid₂, rfl⟩
  · rw [tasksOf_map_inMode] at hall₂
    exact ⟨.completed hall₁ hall₂, (List.length_map _).symm⟩
  · -- one of them completes everything, so no level of the other can end badly
    rw [← tasksOf_map_inMode .sequential] at hall₁
    exact absurd hended₂ (hj₁.not_endedBadly hj₂ hall₁ (by simp [heq₂]))
  · rw [tasksOf_map_inMode] at hall₂
    exact absurd hended₁ (hj₂.not_endedBadly hj₁ hall₂ (by simp [heq₁]))
  · obtain ⟨past, rest, heq, rfl, hrest⟩ := List.map_eq_append_iff.mp heq₂
    obtain ⟨level, later, rfl, rfl, rfl⟩ := List.map_eq_cons_iff.mp hrest
    rw [tasksOf_map_inMode] at hdone₂ hvoid₂
    have hnot₂ : ¬ ∀ t ∈ (level.inMode .sequential).tasks, good t :=
      hj₂.not_good_of_endedBadly hended₂
    -- both stop at the first level with a task that is not good
    obtain ⟨rfl, rfl, rfl⟩ := split_unique (P := fun level => ∀ t ∈ level.tasks, good t)
      (heq₁.symm.trans heq) (good_of_past hj₁ hdone₁) (hj₁.not_good_of_endedBadly hended₁)
      (good_of_past hj₂ hdone₂) hnot₂
    refine ⟨.stopped heq₁ ⟨hdone₁, hended₁, hvoid₁⟩ ⟨hdone₂, hended₂, hvoid₂⟩, ?_⟩
    rw [List.length_map]

/-- What is executed in the sequential mode comes to the same in both modes. -/
theorem SideBySide.statusOf_eq (h : SideBySide levels x₁ x₂) (hj₁ : Judged good x₁)
    (hj₂ : Judged good x₂) {t : TaskId} (ht : t ∈ tasksOf levels) {a : TaskStatus}
    (hstatus : x₂.statusOf t = some a) (ha : a = .completed ∨ a = .failed) :
    x₁.statusOf t = some a := by
  cases h with
  | completed h₁ h₂ => rw [h₁ t ht, ← hstatus, h₂ t ht]
  | stopped split h₁ h₂ =>
      rw [split, tasksOf_append, tasksOf_cons, List.mem_append, List.mem_append] at ht
      rcases ht with ht | ht | ht
      · rw [h₁.done t ht, ← hstatus, h₂.done t ht]
      · obtain ⟨done, u, rest, heq, ⟨hdone₁, hfail₁⟩, hdone₂, hfail₂, hrest₂⟩ :=
          h₁.ended.compare h₂.ended hj₁ hj₂
        rw [heq, List.mem_append, List.mem_cons] at ht
        rcases ht with ht | rfl | ht
        · rw [hdone₁ t ht, ← hstatus, hdone₂ t ht]
        · rw [hfail₁, ← hstatus, hfail₂]
        · rw [hrest₂ t ht] at hstatus
          obtain rfl := Option.some.inj hstatus
          simp at ha
      · rw [h₂.void t ht] at hstatus
        obtain rfl := Option.some.inj hstatus
        simp at ha

/-! ## Results that agree -/

/-- The number of the first level with a failed task. -/
def firstFailing (levels : List Level) (x : Workflow) : Option Nat :=
  (levels.find? fun level => level.tasks.any fun t => x.statusOf t = some .failed).map Level.index

theorem firstFailing_map_inMode (mode : ExecutionMode) (levels : List Level) (x : Workflow) :
    firstFailing (levels.map (Level.inMode mode)) x = firstFailing levels x := by
  unfold firstFailing
  rw [List.find?_map, Option.map_map]
  rfl

theorem firstFailing_of_allAre (h : AllAre x₁ .completed (tasksOf levels)) :
    firstFailing levels x₁ = none := by
  rw [firstFailing, Option.map_eq_none_iff, List.find?_eq_none]
  intro level hlevel
  simp only [List.any_eq_true, decide_eq_true_eq, not_exists, not_and]
  intro t ht
  rw [h t (List.mem_flatMap.mpr ⟨level, hlevel, ht⟩)]
  simp

theorem firstFailing_of_failed {t : TaskId} (hdone : AllAre x₁ .completed (tasksOf past))
    (ht : t ∈ level.tasks) (hfail : x₁.statusOf t = some .failed) :
    firstFailing (past ++ level :: later) x₁ = some level.index := by
  have hnone := firstFailing_of_allAre hdone
  rw [firstFailing, Option.map_eq_none_iff] at hnone
  rw [firstFailing, List.find?_append, hnone, Option.none_or,
    List.find?_cons_of_pos (by simpa using ⟨t, ht, hfail⟩)]
  rfl

/-- All failures are in the level at which an execution stops. -/
theorem StopsAt.failed (h : StopsAt past level later x₁) :
    tasksWith x₁ .failed (tasksOf past ++ (level.tasks ++ tasksOf later)) =
      tasksWith x₁ .failed level.tasks := by
  rw [tasksWith_append, tasksWith_append, tasksWith_of_allAre h.done, tasksWith_of_allAre h.void]
  simp

/-- Just the tasks after that level are cancelled. -/
theorem StopsAt.cancelled (h : StopsAt past level later x₁) :
    tasksWith x₁ .cancelled (tasksOf past ++ (level.tasks ++ tasksOf later)) = tasksOf later := by
  rw [tasksWith_append, tasksWith_append, tasksWith_of_allAre h.done, tasksWith_of_allAre h.void,
    h.ended.tasksWith_cancelled]
  simp

/-- **Two executions agree up to the first failure**, the first one in the parallel mode and the second
    one in the sequential mode: the levels, the workflows with their statuses, and the results. -/
structure AgreeUpToFailure (levels₁ levels₂ : List Level) (x₁ x₂ : Workflow) (r₁ r₂ : RunResult) :
    Prop where
  success : r₁.success = r₂.success
  failing : firstFailing levels₁ x₁ = firstFailing levels₂ x₂
  cancelled : r₁.cancelledTasks = r₂.cancelledTasks
  executed : r₁.metrics.levelsExecuted = r₂.metrics.levelsExecuted
  /-- Only the first failure is a failure in the sequential mode. -/
  failed : r₁.success = false → ∃ t rest, r₁.failedTasks = t :: rest ∧ r₂.failedTasks = [t]
  /-- What has a result in the sequential mode has one in the parallel mode that reports the same. -/
  reports : ∀ t b, r₂.tasks.find? t = some b →
    ∃ a, r₁.tasks.find? t = some a ∧ a.report = b.report

/-- A task with a status is in a level. -/
theorem FinalState.mem_tasksOf (h : FinalState w levels x₁ r₁) {t : TaskId} {a : TaskStatus}
    (ht : x₁.statusOf t = some a) : t ∈ tasksOf levels := by
  rw [h.all.mem_iff, ← Workflow.taskIds_eq_of_reset h.same, ← Workflow.exists_statusOf_iff]
  exact ⟨a, ht⟩

theorem FinalState.success_iff (h : FinalState w levels x₁ r₁) :
    r₁.success = true ↔ AllAre x₁ .completed (tasksOf levels) := by
  rw [h.success]
  exact forall_congr' fun t => imp_congr_left h.all.mem_iff.symm

theorem FinalState.success_of_failed (h : FinalState w levels x₁ r₁) {t : TaskId}
    (ht : x₁.statusOf t = some .failed) : r₁.success = false := by
  rw [← Bool.not_eq_true, h.success_iff]
  intro hall
  rw [hall t (h.mem_tasksOf ht)] at ht
  cases ht

/-- What is left to say of two executions of which neither has a failure. -/
theorem agreeUpToFailure_of_completed {v : Workflow} (h₁ : FinalState w levels x₁ r₁)
    (h₂ : FinalState v (levels.map (Level.inMode .sequential)) x₂ r₂)
    (hall₁ : AllAre x₁ .completed (tasksOf levels)) (hall₂ : AllAre x₂ .completed (tasksOf levels))
    (hexecuted : r₁.metrics.levelsExecuted = r₂.metrics.levelsExecuted)
    (hreports : ∀ t b, r₂.tasks.find? t = some b →
      ∃ a, r₁.tasks.find? t = some a ∧ a.report = b.report) :
    AgreeUpToFailure levels (levels.map (Level.inMode .sequential)) x₁ x₂ r₁ r₂ := by
  have hsuccess₁ : r₁.success = true := h₁.success_iff.mpr hall₁
  rw [← tasksOf_map_inMode .sequential levels] at hall₂
  refine ⟨?_, ?_, ?_, hexecuted, fun hfail => ?_, hreports⟩
  · rw [hsuccess₁, h₂.success_iff.mpr hall₂]
  · rw [firstFailing_of_allAre hall₁, firstFailing_of_allAre hall₂]
  · rw [h₁.cancelled, h₂.cancelled, tasksWith_of_allAre hall₁, tasksWith_of_allAre hall₂]
    rfl
  · rw [hsuccess₁] at hfail
    cases hfail

/-- **Results of both modes agree** if they report the same of each task that both have executed. -/
theorem FinalState.agreeUpToFailure {v : Workflow} {report : TaskId → Report}
    (h₁ : FinalState w levels x₁ r₁)
    (h₂ : FinalState v (levels.map (Level.inMode .sequential)) x₂ r₂)
    (hreport₁ : ∀ t r, r₁.tasks.find? t = some r → r.report = report t)
    (hreport₂ : ∀ t r, r₂.tasks.find? t = some r → r.report = report t) :
    AgreeUpToFailure levels (levels.map (Level.inMode .sequential)) x₁ x₂ r₁ r₂ := by
  have hj₁ := h₁.judged hreport₁
  have hj₂ := h₂.judged hreport₂
  obtain ⟨hside, hexecuted⟩ := h₁.finished.compare h₂.finished hj₁ hj₂
  have hreports : ∀ t b, r₂.tasks.find? t = some b →
      ∃ a, r₁.tasks.find? t = some a ∧ a.report = b.report := by
    intro t b hb
    have hkey := (h₂.keys t).mp (NameMap.mem_keys_iff.mpr ⟨b, hb⟩)
    obtain ⟨status, hstatus, ha⟩ : ∃ a, x₂.statusOf t = some a ∧ (a = .completed ∨ a = .failed) := by
      rcases hkey with h | h
      · exact ⟨_, h, Or.inl rfl⟩
      · exact ⟨_, h, Or.inr rfl⟩
    have ht : t ∈ tasksOf levels := tasksOf_map_inMode .sequential levels ▸ h₂.mem_tasksOf hstatus
    obtain ⟨a, ha, -⟩ := h₁.exists_result (hside.statusOf_eq hj₁ hj₂ ht hstatus ha) ha
    exact ⟨a, ha, (hreport₁ t a ha).trans (hreport₂ t b hb).symm⟩
  cases hside with
  | completed hall₁ hall₂ =>
      exact agreeUpToFailure_of_completed h₁ h₂ hall₁ hall₂ hexecuted hreports
  | @stopped past level later hsplit hs₁ hs₂ =>
      subst hsplit
      have htasks : tasksOf (past ++ level :: later) =
          tasksOf past ++ (level.tasks ++ tasksOf later) := by
        rw [tasksOf_append, tasksOf_cons]
      have hfailed₁ := h₁.failed
      have hfailed₂ := h₂.failed
      have hcancelled₁ := h₁.cancelled
      have hcancelled₂ := h₂.cancelled
      rw [htasks] at hfailed₁ hcancelled₁
      rw [tasksOf_map_inMode, htasks] at hfailed₂ hcancelled₂
      obtain ⟨done, t, rest, heq, ⟨hdone₁, hfail₁⟩, hdone₂, hfail₂, hrest₂⟩ :=
        hs₁.ended.compare hs₂.ended hj₁ hj₂
      have ht : t ∈ level.tasks := by simp [heq]
      refine ⟨?_, ?_, ?_, hexecuted, fun _ => ⟨t, tasksWith x₁ .failed rest, ?_, ?_⟩, hreports⟩
      · rw [h₁.success_of_failed hfail₁, h₂.success_of_failed hfail₂]
      · rw [firstFailing_map_inMode, firstFailing_of_failed hs₁.done ht hfail₁,
          firstFailing_of_failed hs₂.done ht hfail₂]
      · rw [hcancelled₁, hs₁.cancelled]
        exact (hcancelled₂.trans hs₂.cancelled).symm
      · rw [hfailed₁, hs₁.failed, heq, tasksWith_append, tasksWith_of_allAre hdone₁]
        simp [tasksWith, hfail₁]
      · -- after its first failure, the sequential mode executes nothing
        refine (hfailed₂.trans hs₂.failed).trans ?_
        rw [Level.tasks_inMode, heq, tasksWith_append, tasksWith_of_allAre hdone₂,
          ← List.singleton_append, tasksWith_append, tasksWith_of_allAre hrest₂]
        simp [tasksWith, hfail₂]

/-! ## Executions by script in both modes -/

theorem Scripted.agreeUpToFailure
    (h₁ : Scripted script (w.inMode .parallel) levels x₁ r₁)
    (h₂ : Scripted script (w.inMode .sequential) (levels.map (Level.inMode .sequential)) x₂ r₂) :
    AgreeUpToFailure levels (levels.map (Level.inMode .sequential)) x₁ x₂ r₁ r₂ :=
  h₁.final.agreeUpToFailure h₂.final (fun t r hr => (h₁.keeps t r hr).2)
    fun t r hr => (h₂.keeps t r hr).2

/-- The plan for a mode. -/
theorem Workflow.plan_inMode_of_plan {p : Pool} {schedule : Schedule} (mode : ExecutionMode)
    (hplan : w.plan p = .ok schedule) : (w.inMode mode).plan p = .ok (schedule.inMode mode) := by
  rw [Workflow.plan_inMode, hplan]
  rfl

/-- Two executions that have ended, in whatever order. -/
theorem Engine.ByScript.agreeUpToFailure {e₁ e₂ : Engine} {world₁ world₂ : World}
    {schedule₁ schedule₂ : Schedule} {m₁ m₂ : Machine} (h₁ : e₁.ByScript script world₁)
    (h₂ : e₂.ByScript script world₂) (hplan₁ : w.plan world₁.pool = .ok schedule₁)
    (hplan₂ : w.plan world₂.pool = .ok schedule₂)
    (hm₁ : SoleInterleaving (e₁.setup (w.inMode .parallel) (schedule₁.inMode .parallel))
      (Machine.start (w.inMode .parallel) (schedule₁.inMode .parallel) world₁) m₁)
    (hm₂ : SoleInterleaving (e₂.setup (w.inMode .sequential) (schedule₂.inMode .sequential))
      (Machine.start (w.inMode .sequential) (schedule₂.inMode .sequential) world₂) m₂)
    (hdone₁ : m₁.isDone = true) (hdone₂ : m₂.isDone = true) :
    AgreeUpToFailure (schedule₁.inMode .parallel).levels (schedule₂.inMode .sequential).levels
      m₁.workflow m₂.workflow
      (m₁.result (e₁.setup (w.inMode .parallel) (schedule₁.inMode .parallel)))
      (m₂.result (e₂.setup (w.inMode .sequential) (schedule₂.inMode .sequential))) := by
  have hlevels : (schedule₂.inMode .sequential).levels =
      (schedule₁.inMode .parallel).levels.map (Level.inMode .sequential) := by
    simp only [Schedule.inMode, List.map_map, levels_eq_of_plan hplan₁ hplan₂]
    rfl
  have hscripted₁ := h₁.scripted (Workflow.plan_inMode_of_plan .parallel hplan₁) hm₁ hdone₁
  have hscripted₂ := h₂.scripted (Workflow.plan_inMode_of_plan .sequential hplan₂) hm₂ hdone₂
  rw [hlevels] at hscripted₂ ⊢
  exact hscripted₁.agreeUpToFailure hscripted₂

/-- **Both modes agree up to the first failure.** Two engines with runners that follow the same script,
    and with memory services without faults, both have a plan for a workflow, each for its own agents.
    One of them executes the workflow in the parallel mode, and the other one in the sequential mode.
    Then whenever both executions have ended, in whatever order flights have taken their turns while
    nobody else used the pool or the memory service, they agree up to the first failure; and so do two
    runs by steps. -/
theorem Engine.modes_agree_up_to_failure {e₁ e₂ : Engine} {world₁ world₂ : World}
    {schedule₁ schedule₂ : Schedule} (h₁ : e₁.ByScript script world₁)
    (h₂ : e₂.ByScript script world₂) (hplan₁ : w.plan world₁.pool = .ok schedule₁)
    (hplan₂ : w.plan world₂.pool = .ok schedule₂) :
    (∀ m₁ m₂,
      SoleInterleaving (e₁.setup (w.inMode .parallel) (schedule₁.inMode .parallel))
        (Machine.start (w.inMode .parallel) (schedule₁.inMode .parallel) world₁) m₁ →
      SoleInterleaving (e₂.setup (w.inMode .sequential) (schedule₂.inMode .sequential))
        (Machine.start (w.inMode .sequential) (schedule₂.inMode .sequential) world₂) m₂ →
      m₁.isDone = true → m₂.isDone = true →
      AgreeUpToFailure (schedule₁.inMode .parallel).levels (schedule₂.inMode .sequential).levels
        m₁.workflow m₂.workflow
        (m₁.result (e₁.setup (w.inMode .parallel) (schedule₁.inMode .parallel)))
        (m₂.result (e₂.setup (w.inMode .sequential) (schedule₂.inMode .sequential)))) ∧
    ∀ fuel₁ fuel₂ y₁ y₂, e₁.run fuel₁ (w.inMode .parallel) world₁ = .ok (some y₁) →
      e₂.run fuel₂ (w.inMode .sequential) world₂ = .ok (some y₂) →
      AgreeUpToFailure (schedule₁.inMode .parallel).levels (schedule₂.inMode .sequential).levels
        y₁.workflow y₂.workflow y₁.result y₂.result := by
  refine ⟨fun m₁ m₂ hm₁ hm₂ => h₁.agreeUpToFailure h₂ hplan₁ hplan₂ hm₁ hm₂, ?_⟩
  intro fuel₁ fuel₂ y₁ y₂ hrun₁ hrun₂
  obtain ⟨m₁, hsteps₁, hdone₁, rfl⟩ :=
    Engine.exists_machine (Workflow.plan_inMode_of_plan .parallel hplan₁) hrun₁
  obtain ⟨m₂, hsteps₂, hdone₂, rfl⟩ :=
    Engine.exists_machine (Workflow.plan_inMode_of_plan .sequential hplan₂) hrun₂
  exact h₁.agreeUpToFailure h₂ hplan₁ hplan₂ (sole_of_steps (orderly_of_stage_none rfl) hsteps₁)
    (sole_of_steps (orderly_of_stage_none rfl) hsteps₂) hdone₁ hdone₂

/-- Two tasks, and one that waits for both. -/
def merging : Workflow := twins.addTask (stepNamed "merge") ["left", "right"]

theorem engineFailing_byScript (bad : List TaskId) (pool : Pool) :
    (engineFailing bad).ByScript
      (fun t _ => if t ∈ bad then .fail (.invalidInput "no input") else .succeed ⟨none, []⟩)
      { pool } where
  runner := ⟨fun _ _ => rfl, fun _ _ _ h => by cases h⟩
  faults := rfl
  accepts := rfl

/-- Two failures in the parallel mode, of which the sequential mode sees the first one. -/
theorem modes_agree_up_to_failure_merging :
    ∃ schedule y₁ y₂, merging.plan widePool = .ok schedule ∧
      (engineFailing ["left", "right"]).run 60 (merging.inMode .parallel) { pool := widePool } =
        .ok (some y₁) ∧
      (engineFailing ["left", "right"]).run 60 (merging.inMode .sequential) { pool := widePool } =
        .ok (some y₂) ∧
      y₁.result.failedTasks = ["left", "right"] ∧ y₂.result.failedTasks = ["left"] ∧
      y₂.result.cancelledTasks = ["merge"] ∧
      AgreeUpToFailure (schedule.inMode .parallel).levels (schedule.inMode .sequential).levels
        y₁.workflow y₂.workflow y₁.result y₂.result := by
  refine ⟨_, _, _, rfl, rfl, rfl, rfl, rfl, rfl, ?_⟩
  have h := engineFailing_byScript ["left", "right"] widePool
  exact (Engine.modes_agree_up_to_failure (w := merging) h h rfl rfl).2 60 60 _ _ rfl rfl

end Foreman
