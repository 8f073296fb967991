import Foreman.Number.Decimal
import Foreman.Pool
import Foreman.Run.Flight
import Foreman.Text.Blank

/-!
# `Foreman.WorkflowFile` — workflow files

A workflow file describes a workflow, the settings of its execution, and the agents that it may use.
A file that was read is checked before it is used; dependencies are not looked at here, that is the
job of validation.

## Contents
- **`WorkflowFile`** and its sections, with the defaults of what a file leaves out.
- **`FileFlaw`**: what the check refuses; `WorkflowFile.flaws` lists all of it, and
  `WorkflowFile.check` reports the first.
- **Use**: `toWorkflow` and `executorConfig`.
-/

namespace Foreman

/-! ## Sections

Times are 64-bit numbers, so that each of them is a duration. -/

/-- The section on the workflow as a whole. -/
structure WorkflowSection where
  id : String := "workflow"
  /-- The id, unless there is one. -/
  name : Option String := none
  description : String := ""
  creator : String := "agentdag"
  priority : Nat := 5
  timeoutSecs : UInt64 := 86400
  /-- Attempts per task, the first one included. -/
  maxAttempts : Nat := 3
  mode : ExecutionMode := .parallel

/-- The section on the delays between attempts. -/
structure RetrySection where
  initialDelayMs : UInt64 := 1000
  multiplier : Binary64 := .ofNat 2
  maxDelayMs : UInt64 := 30000

/-- The section on one task. -/
structure TaskSection where
  /-- The id, unless there is one. -/
  name : Option String := none
  kind : TaskKind := .development
  capabilities : List Capability := []
  durationSecs : UInt64 := 0
  cores : Nat := 1
  memoryMb : Nat := 0
  accelerator : Bool := false
  /-- The tasks that it waits for. -/
  after : List TaskId := []
  payload : Option Value := none

/-- A workflow file. -/
structure WorkflowFile where
  workflow : WorkflowSection := {}
  maxConcurrency : Nat := 4
  retry : RetrySection := {}
  agents : List AgentSpec := []
  tasks : NameMap TaskSection := ∅

/-! ## Check -/

/-- What is wrong with a workflow file. -/
inductive FileFlaw where
  | noTasks
  | blankId
  | noTime
  | noConcurrency
  | badMultiplier (x : Binary64)
  | shrinkingDelay (maxDelayMs initialDelayMs : UInt64)
  | repeatedAgent (agent : AgentId)
  | idleAgent (agent : AgentId)
  deriving DecidableEq

/-- How a flaw is reported. -/
def FileFlaw.message : FileFlaw → String
  | noTasks => "workflow file must contain at least one [task.<id>] section"
  | blankId => "[workflow].id must not be empty"
  | noTime => "[workflow].timeout_secs must be >= 1 (got 0)"
  | noConcurrency => "[executor].max_concurrency must be >= 1 (got 0)"
  | badMultiplier x =>
    "[retry].backoff_multiplier must be a finite number >= 1.0 (got " ++ x.text ++ ")"
  | shrinkingDelay most initial =>
    "[retry].max_delay_ms (" ++ toString most.toNat ++
      ") must not be smaller than initial_delay_ms (" ++ toString initial.toNat ++ ")"
  | repeatedAgent agent => "agent '" ++ agent ++ "' is declared more than once"
  | idleAgent agent => "agent '" ++ agent ++ "' must accept at least one concurrent task"

namespace WorkflowFile

/-- The flaw, if the condition holds. -/
def flawIf (condition : Bool) (flaw : FileFlaw) : List FileFlaw := if condition then [flaw] else []

/-- The flaws of agents, given the ids of those declared before. -/
def agentFlaws : List AgentId → List AgentSpec → List FileFlaw
  | _, [] => []
  | seen, a :: rest =>
    flawIf (seen.contains a.id) (.repeatedAgent a.id) ++ flawIf (a.capacity = 0) (.idleAgent a.id) ++
      agentFlaws (a.id :: seen) rest

/-- All flaws of a file, in the order in which they are looked for. -/
def flaws (f : WorkflowFile) : List FileFlaw :=
  flawIf f.tasks.isEmpty .noTasks ++
    flawIf (f.workflow.id.toList.all isBlank) .blankId ++
    flawIf (f.workflow.timeoutSecs = 0) .noTime ++
    flawIf (f.maxConcurrency = 0) .noConcurrency ++
    flawIf (!f.retry.multiplier.isFinite || f.retry.multiplier.lt (.ofNat 1))
      (.badMultiplier f.retry.multiplier) ++
    flawIf (f.retry.maxDelayMs < f.retry.initialDelayMs)
      (.shrinkingDelay f.retry.maxDelayMs f.retry.initialDelayMs) ++
    agentFlaws [] f.agents

/-- Refuses a file for its first flaw. -/
def check (f : WorkflowFile) : Except FileFlaw Unit :=
  match f.flaws with
  | [] => .ok ()
  | flaw :: _ => .error flaw

theorem check_eq_ok_iff {f : WorkflowFile} : f.check = .ok () ↔ f.flaws = [] := by
  unfold check
  split <;> simp_all

/-! ## Use -/

/-- A payload as free-form data, in which a number that is not finite has no place. -/
def storedPayload (payload : Option Value) : Value := (payload.map Value.withoutNonFinite).getD .null

/-- The task of a section. -/
def toTask (id : TaskId) (s : TaskSection) : Task :=
  { id
    name := s.name.getD id
    kind := s.kind
    payload := storedPayload s.payload
    capabilities := .ofList s.capabilities
    estimate := .ofSecs s.durationSecs.toNat
    resources := { cores := s.cores, memoryMb := s.memoryMb, accelerator := s.accelerator } }

/-- The workflow of a file, with its tasks in the order of their ids. -/
def toWorkflow (f : WorkflowFile) : Workflow :=
  let s := f.workflow
  f.tasks.entries.foldl (fun w (id, task) => w.addTask (toTask id task) task.after)
    { id := s.id
      name := s.name.getD s.id
      description := s.description
      metadata :=
        { creator := s.creator
          priority := s.priority
          timeout := .ofSecs s.timeoutSecs.toNat
          maxAttempts := s.maxAttempts
          mode := s.mode } }

/-- The settings of the executor. -/
def executorConfig (f : WorkflowFile) : ExecutorConfig :=
  { maxConcurrency := f.maxConcurrency
    retry :=
      { initialDelay := .ofMillis f.retry.initialDelayMs.toNat
        multiplier := f.retry.multiplier
        maxDelay := .ofMillis f.retry.maxDelayMs.toNat } }

end WorkflowFile

end Foreman
