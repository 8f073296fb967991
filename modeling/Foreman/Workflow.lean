import Foreman.Collection.NameMap
import Foreman.Task
import Foreman.Time.Timestamp

/-!
# `Foreman.Workflow` — tasks and the dependencies between them

A workflow is a list of tasks, in the order of their declaration, and a map from task ids to the ids
they wait for. Neither ends of a dependency need to be declared, and ids may repeat: finding that out
is the job of validation.

## Contents
- **`ExecutionMode`**, **`Metadata`**, **`Workflow`**.
- **Building**: `addTask`, `addDependency`.
- **Reading**: `task?`, `dependenciesOf`, `taskIds`, `totalEstimate`.
- **Statuses**: `transition` and `resetStatuses`.
- **Look-up laws**: what is found under an id, and what building adds.
-/

namespace Foreman

/-- How the tasks of one level are run. -/
inductive ExecutionMode where
  /-- All tasks of a level are dispatched together. -/
  | parallel
  /-- One task at a time; a level stops at its first failure. -/
  | sequential
  deriving DecidableEq, Inhabited

/-- The settings of a workflow. -/
structure Metadata where
  creator : String := "agentdag"
  createdAt : Timestamp := .epoch
  priority : Nat := 5
  /-- The budget that the summed estimates must fit. -/
  timeout : Duration := .ofSecs (24 * 60 * 60)
  /-- Attempts per task, the first one included. -/
  maxAttempts : Nat := 3
  mode : ExecutionMode := .parallel
  deriving Inhabited

/-- Tasks in declaration order, and for each task the ids it waits for. -/
structure Workflow where
  id : String
  name : String
  description : String := ""
  tasks : List Task := []
  dependencies : NameMap NameSet := ∅
  metadata : Metadata := {}
  deriving Inhabited

namespace Workflow

/-! ## Building -/

/-- Records that one task waits for another. -/
def addDependency (w : Workflow) (task dependency : TaskId) : Workflow :=
  { w with
    dependencies :=
      w.dependencies.insert task (((w.dependencies.find? task).getD ∅).insert dependency) }

/-- Declares a pending task that waits for the given ids. Without any, the dependency map gets no
    entry for it. -/
def addTask (w : Workflow) (t : Task) (after : List TaskId) : Workflow :=
  after.foldl (fun w d => w.addDependency t.id d)
    { w with tasks := w.tasks ++ [{ t with status := .pending }] }

/-! ## Reading -/

/-- Ids in declaration order, repeated ones included. -/
def taskIds (w : Workflow) : List TaskId := w.tasks.map Task.id

/-- The first task declared with an id. -/
def task? (w : Workflow) (id : TaskId) : Option Task := w.tasks.find? (·.id = id)

/-- The ids that a task waits for; none if it has no entry. -/
def dependenciesOf (w : Workflow) (id : TaskId) : NameSet := (w.dependencies.find? id).getD ∅

/-- The status of the first task with an id. -/
def statusOf (w : Workflow) (id : TaskId) : Option TaskStatus := (w.task? id).map Task.status

/-- The sum of all estimates, stopping at the greatest duration. -/
def totalEstimate (w : Workflow) : Duration :=
  w.tasks.foldl (fun acc t => acc.satAdd t.estimate) .zero

/-! ## Statuses -/

/-- Replaces the first task with an id. -/
def replaceFirst (id : TaskId) (t' : Task) : List Task → List Task
  | [] => []
  | t :: ts => if t.id = id then t' :: ts else t :: replaceFirst id t' ts

/-- Moves the first task with an id to another status. The answer is whether there is such a task;
    an unknown id changes nothing. -/
def transition (w : Workflow) (id : TaskId) (next : TaskStatus) :
    Except IllegalStep (Bool × Workflow) :=
  match w.task? id with
  | none => .ok (false, w)
  | some t =>
    match t.become next with
    | .error e => .error e
    | .ok t' => .ok (true, { w with tasks := replaceFirst id t' w.tasks })

/-- Puts every task back to pending. -/
def resetStatuses (w : Workflow) : Workflow :=
  { w with tasks := w.tasks.map fun t => { t with status := .pending } }

/-- Statuses by id; of tasks with the same id the last one counts. -/
def statuses (w : Workflow) : NameMap TaskStatus :=
  .ofList (w.tasks.map fun t => (t.id, t.status))

/-! ## Look-up laws -/

theorem id_of_task? {w : Workflow} {t : TaskId} {k : Task} (h : w.task? t = some k) : k.id = t := by
  simpa using List.find?_some h

theorem mem_of_task? {w : Workflow} {t : TaskId} {k : Task} (h : w.task? t = some k) : k ∈ w.tasks :=
  List.mem_of_find?_eq_some h

theorem mem_taskIds_of_task? {w : Workflow} {t : TaskId} {k : Task} (h : w.task? t = some k) :
    t ∈ w.taskIds :=
  List.mem_map.mpr ⟨k, mem_of_task? h, id_of_task? h⟩

theorem exists_task?_of_mem {w : Workflow} {t : TaskId} (ht : t ∈ w.taskIds) :
    ∃ k, w.task? t = some k := by
  obtain ⟨k, hk, rfl⟩ := List.mem_map.mp ht
  exact Option.isSome_iff_exists.mp (List.find?_isSome.mpr ⟨k, hk, by simp⟩)

/-- Data of the tasks stored by id, from the last task to the first one: of tasks with the same id the
    first one counts. -/
theorem find?_ofList_reverse {β : Type} (w : Workflow) (f : Task → β) (t : TaskId) :
    (NameMap.ofList (w.tasks.reverse.map fun k => (k.id, f k))).find? t = (w.task? t).map f := by
  unfold task?
  induction w.tasks with
  | nil => rfl
  | cons k ks ih =>
      have hsnoc : NameMap.ofList ((k :: ks).reverse.map fun k => (k.id, f k)) =
          (NameMap.ofList (ks.reverse.map fun k => (k.id, f k))).insert k.id (f k) := by
        simp [NameMap.ofList]
      rw [hsnoc, NameMap.find?_insert, ih, List.find?_cons]
      by_cases ht : k.id = t
      · simp [ht]
      · simp [ht, Ne.symm ht]

@[simp] theorem taskIds_addTask (w : Workflow) (t : Task) (after : List TaskId) :
    (w.addTask t after).taskIds = w.taskIds ++ [t.id] := by
  have key : ∀ (v : Workflow), (after.foldl (fun w d => w.addDependency t.id d) v).tasks = v.tasks := by
    intro v
    induction after generalizing v with
    | nil => rfl
    | cons d ds ih => exact ih _
  simp [taskIds, addTask, key]

@[simp] theorem metadata_addTask (w : Workflow) (t : Task) (after : List TaskId) :
    (w.addTask t after).metadata = w.metadata := by
  have key : ∀ (v : Workflow),
      (after.foldl (fun w d => w.addDependency t.id d) v).metadata = v.metadata := by
    intro v
    induction after generalizing v with
    | nil => rfl
    | cons d ds ih => exact ih _
  rw [addTask, key]

/-- A declaration adds no entry to the dependency map but that of the task. -/
theorem mem_keys_of_addTask {w : Workflow} {t : Task} {after : List TaskId} {u : TaskId}
    (h : u ∈ (w.addTask t after).dependencies.keys) : u = t.id ∨ u ∈ w.dependencies.keys := by
  have key : ∀ (v : Workflow),
      u ∈ (after.foldl (fun w d => w.addDependency t.id d) v).dependencies.keys →
        u = t.id ∨ u ∈ v.dependencies.keys := by
    clear h
    induction after with
    | nil => exact fun v hu => Or.inr hu
    | cons d ds ih =>
        intro v hu
        rcases ih _ hu with heq | hmem
        · exact Or.inl heq
        · simp only [addDependency, NameMap.mem_keys_iff, NameMap.find?_insert] at hmem ⊢
          split at hmem
          · next heq => exact Or.inl heq
          · exact Or.inr hmem
  exact key { w with tasks := w.tasks ++ [{ t with status := .pending }] } h

end Workflow

end Foreman
