import Foreman.Pool.Access
import Foreman.Schedule

/-!
# `Foreman.Proofs.Repetitions` — the first declaration of an id counts

Validation reports ids that are declared more than once, but a workflow can be scheduled without it. Three
parts of a schedule then have to settle which of the tasks with an id is meant, each in its own way: the
graph passes over ids that it has met before, while the estimates and the tasks that ask for agents are
stored by id from the last declaration to the first one. All three mean the first one
(`ofWorkflow_withoutRepetitions`, `estimates_withoutRepetitions`, `tasksById_withoutRepetitions`), so the
others can be left out (`schedule_ignores_repetitions`).
-/

namespace Foreman
namespace Workflow

variable {t : TaskId}

/-! ## First declarations -/

/-- The tasks whose ids have not been declared before them. -/
def firstDeclarations : List Task → List Task
  | [] => []
  | k :: ks => k :: (firstDeclarations ks).filter (·.id ≠ k.id)

theorem map_id_firstDeclarations (ks : List Task) :
    (firstDeclarations ks).map Task.id = distinct (ks.map Task.id) := by
  induction ks with
  | nil => rfl
  | cons k ks ih =>
      rw [List.map_cons, distinct, ← ih, List.filter_map]
      rfl

/-- Under every id the first declaration is found. -/
theorem find?_firstDeclarations (ks : List Task) (t : TaskId) :
    (firstDeclarations ks).find? (·.id = t) = ks.find? (·.id = t) := by
  induction ks with
  | nil => rfl
  | cons k ks ih =>
      rw [firstDeclarations, List.find?_cons, List.find?_cons]
      by_cases hid : k.id = t
      · simp [hid]
      · -- what is left out later has the id of `k`, and another one is looked for
        have hfilter : ∀ u : Task, (u.id ≠ k.id ∧ u.id = t) ↔ u.id = t := by
          intro u
          exact and_iff_right_of_imp fun hu => hu ▸ Ne.symm hid
        simp [hid, List.find?_filter, hfilter, ih]

/-- The workflow with the first declaration of each id, and nothing else changed. -/
def withoutRepetitions (w : Workflow) : Workflow := { w with tasks := firstDeclarations w.tasks }

theorem taskIds_withoutRepetitions (w : Workflow) :
    w.withoutRepetitions.taskIds = distinct w.taskIds := map_id_firstDeclarations w.tasks

theorem task?_withoutRepetitions (w : Workflow) (t : TaskId) :
    w.withoutRepetitions.task? t = w.task? t := find?_firstDeclarations w.tasks t

/-! ## The parts of a schedule -/

/-- The graph has one node for each id, whatever its declarations say. -/
theorem ofWorkflow_withoutRepetitions (w : Workflow) :
    Graph.ofWorkflow w.withoutRepetitions = Graph.ofWorkflow w := by
  have hids : distinct w.withoutRepetitions.taskIds = distinct w.taskIds := by
    rw [taskIds_withoutRepetitions, distinct_of_nodup (nodup_distinct w.taskIds)]
  unfold Graph.ofWorkflow
  rw [hids]
  rfl

theorem estimates_withoutRepetitions (w : Workflow) : w.withoutRepetitions.estimates = w.estimates := by
  refine NameMap.ext_find? fun t => ?_
  unfold estimates
  rw [find?_ofList_reverse, find?_ofList_reverse, task?_withoutRepetitions]

theorem tasksById_withoutRepetitions (w : Workflow) : w.withoutRepetitions.tasksById = w.tasksById := by
  refine NameMap.ext_find? fun t => ?_
  rw [find?_tasksById, find?_tasksById, task?_withoutRepetitions]

/-- **The first declaration of an id counts.** Leave out every task whose id has been declared before,
    so that each id is left once, in the order of the first declarations, and stands for what was
    declared first. The workflow is then scheduled as it was, or refused for the same reason, whatever
    the pool and whatever the other declarations said. -/
theorem schedule_ignores_repetitions (w : Workflow) (p : Pool) :
    w.withoutRepetitions.taskIds = distinct w.taskIds ∧
      (∀ t, w.withoutRepetitions.task? t = w.task? t) ∧
      w.withoutRepetitions.schedule p = w.schedule p := by
  refine ⟨w.taskIds_withoutRepetitions, w.task?_withoutRepetitions, ?_⟩
  unfold schedule allocate
  rw [ofWorkflow_withoutRepetitions, estimates_withoutRepetitions, tasksById_withoutRepetitions]
  rfl

/-- The second declaration would take longer and need more than any agent offers. -/
example : ((Workflow.mk "wf" "wf" "" [{ id := "build", name := "build", estimate := .ofSecs 1 },
      { id := "build", name := "again", estimate := .ofSecs 9, capabilities := .ofList ["magic"] }]
      ∅ {}).schedule (Pool.empty.afterCalls [.register { id := "ada" }])).toOption.map
      (fun s => (s.order, s.estimated, s.allocation.entries)) =
    some (["build"], .ofSecs 1, [("build", "ada")]) := by
  rfl

end Workflow
end Foreman
