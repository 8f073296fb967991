import Foreman.Graph.CriticalPath
import Foreman.Graph.Levels
import Foreman.Graph.Order
import Foreman.Pool
import Foreman.Validation

/-!
# `Foreman.Schedule` — the plan of an execution

A schedule fixes the topological order, the levels, the critical path over the estimates, and for
each task the agent that would run it if it started now. It reserves nothing: the agents are asked
again when each task starts.

## Contents
- **`Schedule`** with its look-ups, and **`PlanError`**.
- `Workflow.tasksById`, `allocate`: an agent for every task, level by level.
- `Workflow.schedule`: the schedule of a workflow; `Workflow.plan`: the same after validation.
- `Schedule.verify`: whether all planned agents are still registered.
-/

namespace Foreman

/-- The plan of an execution. -/
structure Schedule where
  order : List TaskId
  levels : List Level
  criticalPath : CriticalPath
  /-- The planned agent of each task. -/
  allocation : NameMap AgentId
  deriving DecidableEq

namespace Schedule

/-- The index of the level that holds a task. -/
def levelOf (s : Schedule) (t : TaskId) : Option Nat :=
  (s.levels.find? fun l => l.tasks.contains t).map Level.index

/-- Number of tasks in all levels. -/
def taskCount (s : Schedule) : Nat := sumOf (fun l => l.tasks.length) s.levels

/-- The least possible time, given unlimited agents. -/
def estimated (s : Schedule) : Duration := s.criticalPath.duration

/-- Fails for the first task, by id, whose planned agent is not registered. -/
def verify (s : Schedule) (p : Pool) : Except SchedulingError Unit :=
  match s.allocation.entries.find? fun e => !p.agents.contains e.2 with
  | some (task, agent) => .error (.agentNotFound task agent)
  | none => .ok ()

end Schedule

/-- Why there is no plan. -/
inductive PlanError where
  | invalid (errors : List ValidationError)
  | unschedulable (error : SchedulingError)
  | overflow (sum : Overflow)
  deriving DecidableEq

/-- How a missing plan is reported. -/
def PlanError.message : PlanError → String
  | .invalid errors => "workflow is invalid: " ++ ValidationError.joined errors
  | .unschedulable error => "workflow cannot be scheduled: " ++ error.message
  | .overflow sum => sum.message

/-- The tasks by id; of tasks with the same id the first one counts. -/
def Workflow.tasksById (w : Workflow) : NameMap Task :=
  .ofList (w.tasks.reverse.map fun t => (t.id, t))

@[simp] theorem Workflow.find?_tasksById (w : Workflow) (t : TaskId) :
    w.tasksById.find? t = w.task? t := by
  unfold tasksById
  rw [w.find?_ofList_reverse (fun k => k), Option.map_id']

/-- Picks an agent for one of some tasks; ids that are not declared are passed over. -/
def allocateTask (tasks : NameMap Task) (p : Pool) (allocation : NameMap AgentId) (t : TaskId) :
    Except SchedulingError (NameMap AgentId) :=
  match tasks.find? t with
  | none => .ok allocation
  | some task =>
    match p.findSuitable task.requirements with
    | some agent => .ok (allocation.insert t agent.id)
    | none =>
      .error (.noSuitableAgent t task.requirements.capabilities.toList
        task.requirements.accelerator)

/-- Picks an agent for every task, level by level. -/
def allocate (w : Workflow) (levels : List Level) (p : Pool) :
    Except SchedulingError (NameMap AgentId) :=
  (levels.flatMap Level.tasks).foldlM (allocateTask w.tasksById p) ∅

namespace Workflow

/-- The estimates by id; of tasks with the same id the first one counts. -/
def estimates (w : Workflow) : NameMap Duration :=
  .ofList (w.tasks.reverse.map fun t => (t.id, t.estimate))

/-- The schedule of a workflow against a pool, without validation. -/
def schedule (w : Workflow) (p : Pool) : Except PlanError Schedule :=
  let g := Graph.ofWorkflow w
  match g.topologicalOrder with
  | .error e => .error (.unschedulable e)
  | .ok order =>
    let levels := computeLevels g order w.metadata.mode
    match computeCriticalPath g order w.estimates with
    | .error o => .error (.overflow o)
    | .ok criticalPath =>
      match allocate w levels p with
      | .error e => .error (.unschedulable e)
      | .ok allocation => .ok { order, levels, criticalPath, allocation }

/-- The schedule of a workflow that passes validation. -/
def plan (w : Workflow) (p : Pool) : Except PlanError Schedule :=
  if w.isValid then w.schedule p else .error (.invalid w.validationErrors)

end Workflow

end Foreman
