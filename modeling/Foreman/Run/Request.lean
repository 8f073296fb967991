import Foreman.InPlace
import Foreman.Run

/-!
# `Foreman.Run.Request` — requests to an engine, in place

`Workflow.plan`, `Engine.run` and `Engine.runPlan` say what a request comes to: a refusal, or what is
left of workflow and world. Here the same requests are written as accesses in place. They look at the
workflow and at the pool again whenever they need something from there, write statuses, assignments and
records where they are, and may refuse anywhere; what has been written by then stays written.

## Contents
- **`Site`**: what requests share, and **`Request`**.
- **Checks**: `validate`, `verify`.
- **`schedule`** with `pickAgents`, **`plan`**, and **`execute`** with `proceed`.
- **`planAndExecute`** and **`executePlan`**.
-/

namespace Foreman

/-- What requests to an engine work on. -/
structure Site where
  workflow : Workflow
  world : World

/-- A request in place. A refusal does not take back what has been written before. -/
abbrev Request (α : Type) := ExceptT PlanError (StateM Site) α

/-- The workflow and the world as an execution has them. -/
def Machine.site (m : Machine) : Site := ⟨m.workflow, m.world⟩

/-- The execution with the workflow and the world that are there. -/
def Site.resume (site : Site) (m : Machine) : Machine :=
  { m with workflow := site.workflow, world := site.world }

namespace Request

/-! ## Checks -/

/-- The workflow must be valid. -/
def validate : Request Unit := do
  let w := (← get).workflow
  if w.isValid then return () else throw (.invalid w.validationErrors)

/-- The agents of some entries must be registered. -/
def verify : List (TaskId × AgentId) → Request Unit
  | [] => return ()
  | (task, agent) :: entries => do
    if (← get).world.pool.agents.contains agent then verify entries
    else throw (.unschedulable (.agentNotFound task agent))

/-! ## Planning -/

/-- Picks agents for some tasks, asking the pool for one task after another. -/
def pickAgents : List TaskId → NameMap AgentId → Request (NameMap AgentId)
  | [], allocation => return allocation
  | t :: ts, allocation => do
    let site ← get
    match allocateTask site.workflow.tasksById site.world.pool allocation t with
    | .ok allocation => pickAgents ts allocation
    | .error e => throw (.unschedulable e)

/-- Schedules the workflow, whether it is valid or not. -/
def schedule : Request Schedule := do
  let w := (← get).workflow
  let g := Graph.ofWorkflow w
  match g.topologicalOrder with
  | .error e => throw (.unschedulable e)
  | .ok order =>
    let levels := computeLevels g order w.metadata.mode
    match computeCriticalPath g order w.estimates with
    | .error o => throw (.overflow o)
    | .ok criticalPath =>
      let allocation ← pickAgents (levels.flatMap Level.tasks) ∅
      return { order, levels, criticalPath, allocation }

/-- Validates the workflow and schedules it. -/
def plan : Request Schedule := do
  validate
  schedule

/-! ## Execution -/

/-- At most a number of steps, each on the workflow and the world that the one before has left. -/
def proceed (s : Setup) : Nat → Machine → Request Machine
  | 0, m => return m
  | n + 1, m => do
    match Machine.step s ((← get).resume m) with
    | none => return m
    | some m =>
      set m.site
      proceed s n m

/-- Executes a schedule: all statuses are put back to pending, then the levels are run. There is no
    result if the execution does not end within the given number of steps. -/
def execute (e : Engine) (fuel : Nat) (schedule : Schedule) : Request (Option RunResult) := do
  let site ← get
  let s := e.setup site.workflow schedule
  let m := Machine.start site.workflow schedule site.world
  set m.site
  let m ← proceed s fuel m
  return if m.isDone then some (m.result s) else none

/-- Plans the workflow and executes the plan. -/
def planAndExecute (e : Engine) (fuel : Nat) : Request (Option RunResult) := do
  let schedule ← plan
  execute e fuel schedule

/-- Executes a plan made earlier, after looking at workflow and agents again. -/
def executePlan (e : Engine) (fuel : Nat) (schedule : Schedule) : Request (Option RunResult) := do
  validate
  verify schedule.allocation.entries
  execute e fuel schedule

end Request

end Foreman
