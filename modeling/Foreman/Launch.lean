import Foreman.CommandLine
import Foreman.Graph.Dot
import Foreman.Report
import Foreman.Run
import Foreman.Run.CommandRunner
import Foreman.WorkflowFile.Load

/-!
# `Foreman.Launch` — what the program does with its arguments

The program loads a workflow file and then prints the dependency graph, prints the plan, or runs the
workflow with its commands and prints a summary. What the path of the workflow file leads to and what
becomes of commands is given by its surroundings.

## Contents
- **`LaunchError`**: why the program ends with a failure.
- **`Outcome`**: what it prints, and how it ends.
- **`Host`**: the surroundings of the program.
- `executePlanned`: runs a plan with commands.
- `launch`.
-/

namespace Foreman

/-- Why the program ends with a failure. -/
inductive LaunchError where
  | load (error : LoadError)
  | pool (error : PoolError)
  | noConcurrency
  | plan (error : PlanError)
  | tasksFailed (workflow : String) (count : Nat)
  | endless

/-- How a failure is reported. -/
def LaunchError.message : LaunchError → String
  | load error => error.message
  | pool error => "Agent pool error: " ++ error.message
  | noConcurrency => "--max-concurrency must be >= 1"
  | plan (.invalid errors) => "Workflow validation failed: " ++ ValidationError.joined errors
  | plan (.unschedulable error) => "Scheduling failed: " ++ error.message
  | plan (.overflow sum) => sum.message
  | tasksFailed workflow count =>
    "workflow '" ++ workflow ++ "' failed: " ++ toString count ++ " task(s) failed"
  | endless => "the workflow does not end"

/-- What the program prints, and why it fails, if it does. -/
structure Outcome where
  stdout : String := ""
  stderr : String := ""
  error : Option LaunchError := none

/-- The settings of the executor, with the concurrency that the arguments ask for. -/
def Arguments.executorConfig (a : Arguments) (f : WorkflowFile) :
    Except LaunchError ExecutorConfig :=
  match a.maxConcurrency with
  | none => .ok f.executorConfig
  | some 0 => .error .noConcurrency
  | some n => .ok { f.executorConfig with maxConcurrency := n }

/-! ## Execution -/

/-- What the program finds around it. -/
structure Host where
  /-- What the path of the workflow file leads to. -/
  contents : Contents
  /-- What becomes of the commands of a plan, given what its execution would come to with any processes. -/
  processes : (Processes → Option Execution) → Processes
  /-- Writes the seconds that an execution took. -/
  seconds : RunResult → String

/-- How many steps an execution may take before it counts as endless. -/
def launchFuel : Nat := 20000000

/-- The engine that runs commands. -/
def commandEngine (config : ExecutorConfig) (processes : Processes) : Engine :=
  { config, runner := commandRunner processes }

/-- Runs a plan with the commands of its tasks. -/
def executePlanned (host : Host) (w : Workflow) (s : Schedule) (config : ExecutorConfig)
    (pool : Pool) : Except PlanError (Option Execution) :=
  let processes := host.processes fun processes =>
    (commandEngine config processes).execute launchFuel w s { pool }
  (commandEngine config processes).runPlan launchFuel w s { pool }

/-- Runs a planned workflow and prints the summary. -/
def runAndReport (host : Host) (w : Workflow) (s : Schedule) (config : ExecutorConfig) (pool : Pool) :
    Outcome :=
  match executePlanned host w s config pool with
  | .error e => { error := some (.plan e) }
  | .ok none => { error := some .endless }
  | .ok (some x) =>
    match x.result.checked with
    | .error o => { error := some (.plan (.overflow o)) }
    | .ok result =>
      { stdout := Report.summary result (host.seconds result)
        error :=
          if result.success then none
          else some (.tasksFailed result.workflow result.failedTasks.length) }

/-- Plans a workflow, and prints the plan or runs it. -/
def planAndRun (a : Arguments) (f : WorkflowFile) (host : Host) : Outcome :=
  let w := f.toWorkflow
  match Pool.ofSpecs f.agents with
  | .error e => { error := some (.pool e) }
  | .ok pool =>
    match a.executorConfig f with
    | .error e => { error := some e }
    | .ok config =>
      match w.plan pool with
      | .error (.invalid errors) =>
        { stderr := Report.flaws w errors, error := some (.plan (.invalid errors)) }
      | .error e => { error := some (.plan e) }
      | .ok s =>
        if a.dryRun then { stdout := Report.plan w s } else runAndReport host w s config pool

/-- What the program does with its arguments in its surroundings. -/
def launch (a : Arguments) (host : Host) : Outcome :=
  match WorkflowFile.load host.contents with
  | .error e => { error := some (.load e) }
  | .ok f =>
    if a.dot then { stdout := (Graph.ofWorkflow f.toWorkflow).dot } else planAndRun a f host

end Foreman
