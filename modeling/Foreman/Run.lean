import Foreman.Run.Machine

/-!
# `Foreman.Run` — from a workflow to its result

An engine is a pool of agents, a memory service and a runner with the settings of the executor. It
can plan a workflow, run it, or run a schedule that was planned before.

## Contents
- **`Engine`**.
- `Engine.execute`: runs a schedule without any check.
- `Engine.run`: plans and executes.
- `Engine.runPlan`: executes an earlier plan after checking workflow and agents again.
-/

namespace Foreman

/-- What runs workflows. -/
structure Engine where
  config : ExecutorConfig := {}
  runner : Runner
  faults : FaultPattern := noFaults

/-- What an execution leaves: its result, the workflow with its statuses, and the world. -/
structure Execution where
  result : RunResult
  workflow : Workflow
  world : World

namespace Engine

/-- What an execution of a schedule is given. A task has at least one attempt. -/
def setup (e : Engine) (w : Workflow) (schedule : Schedule) : Setup :=
  { workflow := w.id
    maxAttempts := Nat.max w.metadata.maxAttempts 1
    allocation := schedule.allocation
    config := e.config
    runner := e.runner
    faults := e.faults }

/-- Executes a schedule without any check. There is no result if the execution does not end within
    the given number of steps. -/
def execute (e : Engine) (fuel : Nat) (w : Workflow) (schedule : Schedule) (world : World) :
    Option Execution :=
  let s := e.setup w schedule
  (Machine.run s fuel (Machine.start w schedule world)).map fun m =>
    { result := m.result s, workflow := m.workflow, world := m.world }

/-- Plans a workflow and executes the plan. -/
def run (e : Engine) (fuel : Nat) (w : Workflow) (world : World) :
    Except PlanError (Option Execution) :=
  (w.plan world.pool).map fun schedule => e.execute fuel w schedule world

/-- Executes a plan made earlier. The workflow must be valid, and every planned agent must still be
    registered. -/
def runPlan (e : Engine) (fuel : Nat) (w : Workflow) (schedule : Schedule) (world : World) :
    Except PlanError (Option Execution) :=
  if w.isValid then
    match schedule.verify world.pool with
    | .error error => .error (.unschedulable error)
    | .ok () => .ok (e.execute fuel w schedule world)
  else .error (.invalid w.validationErrors)

end Engine

end Foreman
