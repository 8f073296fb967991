import Foreman.Proofs.CriticalPath
import Foreman.Proofs.Maps
import Foreman.Proofs.Validity

/-!
# `Foreman.Proofs.Budget` — what a budget says about sums of estimates

Validation adds the estimates of all tasks and stops at the greatest duration; the critical path adds
those along chains and fails where a sum does not fit. A capped sum below the greatest duration is
exact, and no chain of a valid workflow weighs more than all its tasks (`WellFormed.weight_le`). So a
budget below the greatest duration bounds everything that a schedule adds up. The greatest duration
itself is within reach of the cap, and then the check lets through sums that are out of range
(`greatestTwice`).
-/

namespace Foreman

open Workflow

variable {w : Workflow} {p : Pool} {order : List TaskId} {k : Task} {ts : List TaskId} {B : Duration}

/-- The exact sum of the estimates, in nanoseconds. -/
def Workflow.exactEstimate (w : Workflow) : Nat := sumOf (fun k => k.estimate.nanos) w.tasks

/-! ## Weights of chains -/

/-- The estimates are those of the tasks; of tasks with the same id the first one counts. -/
theorem find?_estimates (w : Workflow) (t : TaskId) :
    w.estimates.find? t = (w.task? t).map Task.estimate := w.find?_ofList_reverse Task.estimate t

theorem durationIn_of_task? {t : TaskId} (hk : w.task? t = some k) :
    durationIn w.estimates t = k.estimate := by
  rw [durationIn, find?_estimates, hk, Option.map_some, Option.getD_some]

/-- With distinct ids, every task counts with its own estimate. -/
theorem durationIn_estimates (hnodup : w.taskIds.Nodup) (hk : k ∈ w.tasks) :
    durationIn w.estimates k.id = k.estimate := durationIn_of_task? (task?_of_mem hnodup hk)

/-- With distinct ids, all tasks together weigh the exact sum. -/
theorem weight_taskIds (hnodup : w.taskIds.Nodup) :
    weight w.estimates (distinct w.taskIds) = w.exactEstimate := by
  rw [distinct_of_nodup hnodup, weight, taskIds, sumOf_map, exactEstimate]
  exact sumOf_congr fun k hk => congrArg Duration.nanos (durationIn_estimates hnodup hk)

/-- **No chain of a valid workflow weighs more than its tasks.** -/
theorem Workflow.WellFormed.weight_le (h : w.WellFormed) (hts : w.Chain ts) :
    weight w.estimates ts ≤ w.exactEstimate := by
  rw [← weight_taskIds h.distinct]
  exact hts.weight_le h.acyclic

/-- Below the greatest duration the check of the budget is exact. -/
theorem Workflow.WellFormed.exactEstimate_le (h : w.WellFormed)
    (hbudget : w.metadata.timeout ≠ .max) : w.exactEstimate ≤ w.metadata.timeout.nanos := by
  have hlt : w.metadata.timeout.nanos < maxNanos :=
    Nat.lt_of_le_of_ne w.metadata.timeout.le_max fun heq => hbudget (Duration.ext_nanos heq)
  have hcapped : min w.exactEstimate maxNanos ≤ w.metadata.timeout.nanos := h.affordable
  omega

/-- So below the greatest duration every chain fits. -/
theorem Workflow.WellFormed.weightsFit (h : w.WellFormed) (hbudget : w.metadata.timeout ≠ .max) :
    WeightsFit w w.estimates := fun _ hts =>
  Nat.le_trans (h.weight_le hts) (Nat.le_trans (h.exactEstimate_le hbudget) w.metadata.timeout.le_max)

/-! ## Schedules -/

/-- Once there are an order and a critical path, only the agents are left to find. -/
theorem schedule_eq_of_criticalPath {path : CriticalPath}
    (horder : (Graph.ofWorkflow w).topologicalOrder = .ok order)
    (hpath : computeCriticalPath (Graph.ofWorkflow w) order w.estimates = .ok path) :
    w.schedule p =
      ((allocate w (computeLevels (Graph.ofWorkflow w) order w.metadata.mode) p).mapError
        .unschedulable).map fun allocation =>
          { order, levels := computeLevels (Graph.ofWorkflow w) order w.metadata.mode
            criticalPath := path, allocation } := by
  rw [Workflow.schedule, horder]
  dsimp only
  rw [hpath]
  dsimp only
  cases allocate w (computeLevels (Graph.ofWorkflow w) order w.metadata.mode) p <;> rfl

/-- **The critical path of a schedule takes as long as the heaviest chain.** -/
theorem heaviest_of_schedule {schedule : Schedule} (h : w.schedule p = .ok schedule) :
    Heaviest w w.estimates (fun _ => True) schedule.criticalPath.duration.nanos := by
  unfold Workflow.schedule at h
  dsimp only at h
  split at h
  · cases h
  · next order horder =>
      split at h
      · cases h
      · next path hpath =>
          split at h
          · cases h
          · cases h
            exact heaviest_of_criticalPath (isOrder_of_topologicalOrder horder) hpath

/-- **If every chain fits**, there are an order and a critical path, and only the agents are left to
    find. -/
theorem exists_schedule_eq (hacyc : ¬ w.Cyclic) (hfit : WeightsFit w w.estimates) (p : Pool) :
    ∃ order path, IsOrder w order ∧ path.OfChains w w.estimates ∧ w.schedule p =
      ((allocate w (computeLevels (Graph.ofWorkflow w) order w.metadata.mode) p).mapError
        .unschedulable).map fun allocation =>
          { order, levels := computeLevels (Graph.ofWorkflow w) order w.metadata.mode
            criticalPath := path, allocation } := by
  have horder := topologicalOrder_of_not_cyclic hacyc
  obtain ⟨path, hpath, hchains, -⟩ := exists_criticalPath hfit (isOrder_of_topologicalOrder horder)
  exact ⟨_, path, isOrder_of_topologicalOrder horder, hchains, schedule_eq_of_criticalPath horder hpath⟩

/-- Then scheduling adds durations within their range. -/
theorem schedule_of_weightsFit (hacyc : ¬ w.Cyclic) (hfit : WeightsFit w w.estimates) (p : Pool)
    (sum : Overflow) : w.schedule p ≠ .error (.overflow sum) := by
  obtain ⟨order, path, -, -, heq⟩ := exists_schedule_eq hacyc hfit p
  rw [heq]
  cases allocate w _ p <;> nofun

/-- **A budget under which sums are exact**: whatever workflow passes validation with it, scheduling
    it never adds durations out of their range, and the critical path of a schedule takes no longer
    than the exact sum of the estimates, which is within the budget. -/
def Duration.KeepsSumsExact (B : Duration) : Prop :=
  ∀ (w : Workflow) (p : Pool), w.metadata.timeout = B → w.isValid = true →
    w.schedule p ≠ .error (.overflow .durations) ∧ ∀ schedule, w.schedule p = .ok schedule →
      schedule.criticalPath.duration.nanos ≤ w.exactEstimate ∧ w.exactEstimate ≤ B.nanos

theorem keepsSumsExact_of_ne_max (hB : B ≠ .max) : B.KeepsSumsExact := by
  rintro w p rfl hvalid
  have hw := wellFormed_of_isValid hvalid
  refine ⟨schedule_of_weightsFit hw.acyclic (hw.weightsFit hB) p .durations,
    fun schedule h => ⟨?_, hw.exactEstimate_le hB⟩⟩
  -- the duration is zero or the weight of a chain
  rcases (heaviest_of_schedule h).attained with hzero | ⟨ts, hts, -, hweight⟩
  · rw [hzero]
    exact Nat.zero_le _
  · rw [← hweight]
    exact hw.weight_le hts

/-! ## The greatest budget -/

/-- Two tasks in a row, each estimated to take the greatest duration, within the greatest budget. -/
def greatestTwice : Workflow :=
  ((({ id := "greatest", name := "Greatest", metadata := { timeout := .max } } : Workflow).addTask
    { id := "first", name := "First", estimate := .max, capabilities := .ofList ["rust"] } []).addTask
    { id := "second", name := "Second", estimate := .max, capabilities := .ofList ["rust"] } ["first"])

/-- The capped sum of the estimates is within the budget. -/
theorem isValid_greatestTwice : greatestTwice.isValid = true := by decide +kernel

theorem schedule_greatestTwice :
    greatestTwice.schedule .empty = .error (.overflow .durations) := by decide +kernel

/-- **Duration arithmetic is safe after validation, exactly below the greatest budget.** -/
theorem keepsSumsExact_iff (B : Duration) : B.KeepsSumsExact ↔ B ≠ .max := by
  constructor
  · rintro h rfl
    exact (h greatestTwice .empty rfl isValid_greatestTwice).1 schedule_greatestTwice
  · exact keepsSumsExact_of_ne_max

end Foreman
