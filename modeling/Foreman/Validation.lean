import Foreman.Workflow

/-!
# `Foreman.Validation` — checks before a workflow is planned

Every violation is collected, in the order of the checks: dependency cycles, repeated ids and
references to undeclared tasks, requirements of single tasks, and the budget. The budget check is
conservative: it ignores that tasks may run side by side and sums all estimates.

## Contents
- **`ValidationError`** with its `message`.
- **Cycles**: a depth-first search from every declared task, `CycleSearch`.
- **The other checks**: `referenceErrors`, `requirementErrors`, `budgetErrors`.
- `Workflow.validationErrors`: everything that is wrong with a workflow.
-/

namespace Foreman

/-- One problem of a workflow. -/
inductive ValidationError where
  /-- The path starts and ends with the task. -/
  | cycleDetected (task : TaskId) (path : List TaskId)
  | dependencyNotFound (task dependency : TaskId)
  | unknownTask (task : TaskId)
  | duplicateTask (task : TaskId)
  | invalidRequirements (task : TaskId) (reason : String)
  | timeoutTooShort (required budget : Duration)
  deriving DecidableEq

namespace ValidationError

/-- How a problem is reported. -/
def message : ValidationError → String
  | cycleDetected task path =>
    "cycle detected involving task '" ++ task ++ "' (" ++ " -> ".intercalate path ++ ")"
  | dependencyNotFound task dependency =>
    "task '" ++ task ++ "' depends on unknown task '" ++ dependency ++ "'"
  | unknownTask task => "dependency map has an entry for unknown task '" ++ task ++ "'"
  | duplicateTask task => "task id '" ++ task ++ "' is declared more than once"
  | invalidRequirements task reason =>
    "task '" ++ task ++ "' has invalid requirements: " ++ reason
  | timeoutTooShort required budget =>
    "workflow timeout of " ++ toString budget.secs ++
      "s is shorter than the summed task estimates of " ++ toString required.secs ++ "s"

/-- The task that a problem is about; the budget is about no single task. -/
def task? : ValidationError → Option TaskId
  | cycleDetected task _ => some task
  | dependencyNotFound task _ => some task
  | unknownTask task => some task
  | duplicateTask task => some task
  | invalidRequirements task _ => some task
  | timeoutTooShort _ _ => none

/-- Several problems in one line. -/
def joined (errors : List ValidationError) : String := "; ".intercalate (errors.map message)

end ValidationError

/-! ## Cycles -/

/-- Where the search stands with a task. -/
inductive Mark where
  /-- On the way from the root of the search to the current task. -/
  | onPath
  /-- Left, with everything that can be reached from it. -/
  | done
  deriving DecidableEq

/-- The marks set and the cycles found so far. -/
structure CycleSearch where
  marks : NameMap Mark
  errors : List ValidationError

namespace CycleSearch

/-- The cycle closed by a step back to a task of the path. -/
def cycleThrough (path : List TaskId) (t : TaskId) : ValidationError :=
  .cycleDetected t (path.drop (path.idxOf t) ++ [t])

/-- Visits a task and, through it, every known task not visited before. The path leads from the root
    of the search to the parent of the task; its length and the fuel together bound the number of tasks,
    since all tasks of a path differ. -/
def visit (w : Workflow) (known : NameSet) :
    Nat → List TaskId → TaskId → CycleSearch → CycleSearch
  | 0, _, _, s => s
  | fuel + 1, path, t, s =>
    let path := path ++ [t]
    let entered := { s with marks := s.marks.insert t .onPath }
    let left := (w.dependenciesOf t).toList.foldl (fun s d =>
      if known.contains d then
        match s.marks.find? d with
        | some .onPath => { s with errors := s.errors ++ [cycleThrough path d] }
        | some .done => s
        | none => visit w known fuel path d s
      else s) entered
    { left with marks := left.marks.insert t .done }

/-- The search with every declared task tried as a root. -/
def ofWorkflow (w : Workflow) : CycleSearch :=
  let known := NameSet.ofList w.taskIds
  w.taskIds.foldl (fun s t =>
    match s.marks.find? t with
    | some _ => s
    | none => visit w known known.size [] t s) ⟨∅, []⟩

end CycleSearch

namespace Workflow

/-- One error per cycle that the search closes. -/
def cycleErrors (w : Workflow) : List ValidationError := (CycleSearch.ofWorkflow w).errors

/-! ## The other checks -/

/-- The ids that repeat an earlier one, in declaration order. -/
def repeatedIds : NameSet → List TaskId → List TaskId
  | _, [] => []
  | seen, t :: ts =>
    if seen.contains t then t :: repeatedIds seen ts else repeatedIds (seen.insert t) ts

/-- Repeated ids, then entries of the dependency map with an undeclared end, by key. -/
def referenceErrors (w : Workflow) : List ValidationError :=
  let known := NameSet.ofList w.taskIds
  (repeatedIds ∅ w.taskIds).map .duplicateTask ++
    w.dependencies.entries.flatMap fun (t, ds) =>
      (if known.contains t then [] else [.unknownTask t]) ++
        (ds.toList.filter fun d => !known.contains d).map (.dependencyNotFound t)

/-- What is wrong with the requirements of single tasks. -/
def requirementErrors (w : Workflow) : List ValidationError :=
  w.tasks.flatMap fun t =>
    (if t.capabilities.isEmpty then
      [.invalidRequirements t.id "at least one required capability must be declared"] else []) ++
    (if t.resources.cores = 0 then
      [.invalidRequirements t.id "at least one CPU core is required"] else [])

/-- Whether the summed estimates exceed the budget. -/
def budgetErrors (w : Workflow) : List ValidationError :=
  if w.metadata.timeout < w.totalEstimate then
    [.timeoutTooShort w.totalEstimate w.metadata.timeout]
  else []

/-- Everything that is wrong with a workflow, in check order. -/
def validationErrors (w : Workflow) : List ValidationError :=
  w.cycleErrors ++ w.referenceErrors ++ w.requirementErrors ++ w.budgetErrors

/-- Whether nothing is wrong with a workflow. -/
def isValid (w : Workflow) : Bool := w.validationErrors.isEmpty

end Workflow

end Foreman
