import Foreman.Codec
import Foreman.Memory
import Foreman.Pool
import Foreman.Run.Result

/-!
# `Foreman.Codec.Documents` — the written forms of the domain types

## Contents
- **Words**: statuses, modes, outcomes, strategies and the sorts of episodes.
- **Records**: tasks, workflows, results, episodes, task records, sessions, pool statistics.
- **Agents**, whose fields other than the id have defaults.
-/

namespace Foreman

open Codec

/-! ## Words -/

/-- The list of labelled data. -/
def labelled {α : Type} (label : α → String) (xs : List α) : List (String × α) :=
  xs.map fun a => (label a, a)

/-- The word of an execution mode. -/
def ExecutionMode.label : ExecutionMode → String
  | parallel => "parallel"
  | sequential => "sequential"

/-- Statuses of tasks. -/
def TaskStatus.codec : Codec TaskStatus :=
  words (labelled label [pending, scheduled, running, completed, failed, cancelled]) label

/-- Execution modes. -/
def ExecutionMode.codec : Codec ExecutionMode := words (labelled label [parallel, sequential]) label

/-- Outcomes of tasks. -/
def TaskOutcome.codec : Codec TaskOutcome := words (labelled label [success, failure, error]) label

/-- Ends of workflows. -/
def RunStatus.codec : Codec RunStatus := words (labelled label [completed, failed]) label

/-- Merge strategies. -/
def MergeStrategy.codec : Codec MergeStrategy :=
  words (labelled label [auto, manual, theirs, mine]) label

/-- Statuses of records. -/
def RecordStatus.codec : Codec RecordStatus :=
  words (labelled label [pending, inProgress, completed, failed]) label

/-- Sorts of episodes. -/
def EpisodeType.codec : Codec EpisodeType :=
  words (labelled label [task, feature, bugfix, refactor, exploration]) label

/-- Outcomes of episodes. -/
def EpisodeOutcome.codec : Codec EpisodeOutcome :=
  words (labelled label [success, partialSuccess, failure, abandoned]) label

/-- Kinds of tasks; every text is one. -/
def TaskKind.codec : Codec TaskKind := ofText label fun s => some (ofLabel s)

/-! ## Tasks and workflows -/

/-- Hardware requirements. -/
def Resources.codec : Codec Resources :=
  record
    (.required "cores" nat32 <| .required "memory_mb" nat64 <| .required "accelerator" bool .nil)
    (fun (cores, memoryMb, accelerator, _) => { cores, memoryMb, accelerator })
    fun r => (r.cores, r.memoryMb, r.accelerator, ())

/-- Tasks. -/
def Task.codec : Codec Task :=
  record
    (.required "id" text <| .required "name" text <| .required "task_type" TaskKind.codec <|
      .required "payload" any <| .required "capabilities" names <|
      .required "estimated_duration" duration <| .required "resources" Resources.codec <|
      .required "status" TaskStatus.codec .nil)
    (fun (id, name, kind, payload, capabilities, estimate, resources, status, _) =>
      { id, name, kind, payload, capabilities, estimate, resources, status })
    fun t => (t.id, t.name, t.kind, t.payload, t.capabilities, t.estimate, t.resources, t.status,
      ())

/-- The settings of workflows. -/
def Metadata.codec : Codec Metadata :=
  record
    (.required "creator" text <| .required "created_at" timestamp <| .required "priority" nat8 <|
      .required "timeout" duration <| .required "max_retries" nat32 <|
      .required "execution_mode" ExecutionMode.codec .nil)
    (fun (creator, createdAt, priority, timeout, maxAttempts, mode, _) =>
      { creator, createdAt, priority, timeout, maxAttempts, mode })
    fun m => (m.creator, m.createdAt, m.priority, m.timeout, m.maxAttempts, m.mode, ())

/-- Workflows. -/
def Workflow.codec : Codec Workflow :=
  record
    (.required "id" text <| .required "name" text <| .required "description" text <|
      .required "tasks" (list Task.codec) <| .required "dependencies" (map names) <|
      .required "metadata" Metadata.codec .nil)
    (fun (id, name, description, tasks, dependencies, metadata, _) =>
      { id, name, description, tasks, dependencies, metadata })
    fun w => (w.id, w.name, w.description, w.tasks, w.dependencies, w.metadata, ())

/-! ## Results -/

/-- Results of tasks. -/
def TaskResult.codec : Codec TaskResult :=
  record
    (.required "task_id" text <| .required "outcome" TaskOutcome.codec <|
      .optional "output" any <| .optional "error" text <| .required "duration" Codec.duration <|
      .required "attempts" nat32 <| .optional "agent" text .nil)
    (fun (task, outcome, output, error, duration, attempts, agent, _) =>
      { task, outcome, output, error, duration, attempts, agent })
    fun t => (t.task, t.outcome, t.output, t.error, t.duration, t.attempts, t.agent, ())

/-- Executions in numbers. -/
def Metrics.codec : Codec Metrics :=
  record
    (.required "total_tasks" nat64 <| .required "completed_tasks" nat64 <|
      .required "failed_tasks" nat64 <| .required "cancelled_tasks" nat64 <|
      .required "pending_tasks" nat64 <| .required "total_attempts" nat32 <|
      .required "levels_executed" nat64 <| .required "elapsed" duration .nil)
    (fun (total, completed, failed, cancelled, pending, attempts, levelsExecuted, elapsed, _) =>
      { total, completed, failed, cancelled, pending, attempts, levelsExecuted, elapsed })
    fun m => (m.total, m.completed, m.failed, m.cancelled, m.pending, m.attempts, m.levelsExecuted,
      m.elapsed, ())

/-- Results of workflows. -/
def RunResult.codec : Codec RunResult :=
  record
    (.required "workflow_id" text <| .required "success" bool <|
      .required "status" RunStatus.codec <| .required "task_results" (map TaskResult.codec) <|
      .required "failed_tasks" (list text) <| .required "cancelled_tasks" (list text) <|
      .required "task_statuses" (map TaskStatus.codec) <| .required "metrics" Metrics.codec .nil)
    (fun (workflow, success, status, tasks, failedTasks, cancelledTasks, statuses, metrics, _) =>
      { workflow, success, status, tasks, failedTasks, cancelledTasks, statuses, metrics })
    fun r => (r.workflow, r.success, r.status, r.tasks, r.failedTasks, r.cancelledTasks,
      r.statuses, r.metrics, ())

/-! ## The memory service -/

/-- What sessions may see. -/
def SessionScope.codec : Codec SessionScope :=
  record
    (.required "paths" (list text) <| .required "read_only_paths" (list text) .nil)
    (fun (paths, readOnlyPaths, _) => { paths, readOnlyPaths })
    fun s => (s.paths, s.readOnlyPaths, ())

/-- What merges did. -/
def MergeReport.codec : Codec MergeReport :=
  record
    (.required "changes_merged" nat64 <| .required "conflicts_resolved" nat64 <|
      .required "new_version" nat64 .nil)
    (fun (changesMerged, conflictsResolved, newVersion, _) =>
      { changesMerged, conflictsResolved, newVersion })
    fun m => (m.changesMerged, m.conflictsResolved, m.newVersion, ())

/-- Episodes. -/
def Episode.codec : Codec Episode :=
  record
    (.required "episode_type" EpisodeType.codec <| .required "task_id" text <|
      .required "description" text <| .required "agent_id" text <|
      .required "outcome" EpisodeOutcome.codec <| .required "duration" Codec.duration <|
      .required "attempts" nat32 <| .required "affected_entities" (list text) <|
      .optional "error" text <| .required "created_at" timestamp .nil)
    (fun (episodeType, task, description, agent, outcome, duration, attempts, affectedEntities,
        error, createdAt, _) =>
      { episodeType, task, description, agent, outcome, duration, attempts, affectedEntities,
        error, createdAt })
    fun e => (e.episodeType, e.task, e.description, e.agent, e.outcome, e.duration, e.attempts,
      e.affectedEntities, e.error, e.createdAt, ())

/-- What records are about. -/
def TaskDefinition.codec : Codec TaskDefinition :=
  record
    (.required "title" text <| .required "description" text <| .optional "workspace_id" text <|
      .optional "estimated_hours" float .nil)
    (fun (title, description, workspace, estimatedHours, _) =>
      { title, description, workspace, estimatedHours })
    fun t => (t.title, t.description, t.workspace, t.estimatedHours, ())

/-- What records carry besides their status. -/
def RecordMetadata.codec : Codec RecordMetadata :=
  record
    (.optional "duration" Codec.duration <| .optional "notes" text .nil)
    (fun (duration, notes, _) => { duration, notes })
    fun r => (r.duration, r.notes, ())

/-! ## Agents -/

/-- Pools in numbers. -/
def PoolStatistics.codec : Codec PoolStatistics :=
  record
    (.required "total_agents" nat64 <| .required "idle_agents" nat64 <|
      .required "busy_agents" nat64 <| .required "saturated_agents" nat64 <|
      .required "active_assignments" nat64 <| .required "total_capacity" nat64 <|
      .required "tasks_assigned" nat64 <| .required "tasks_released" nat64 .nil)
    (fun (totalAgents, idleAgents, busyAgents, saturatedAgents, activeAssignments, totalCapacity,
        tasksAssigned, tasksReleased, _) =>
      { totalAgents, idleAgents, busyAgents, saturatedAgents, activeAssignments, totalCapacity,
        tasksAssigned, tasksReleased })
    fun p => (p.totalAgents, p.idleAgents, p.busyAgents, p.saturatedAgents, p.activeAssignments,
      p.totalCapacity, p.tasksAssigned, p.tasksReleased, ())

/-- Reads an agent. All fields but the id have defaults. -/
def AgentSpec.decode (v : Value) : Option AgentSpec :=
  match fieldValues? ["id", "capabilities", "max_concurrent_tasks", "accelerator"] 1 v with
  | some [id, capabilities, capacity, accelerator] => do
    return {
      id := ← required text id
      capabilities := ← defaulted names ∅ capabilities
      capacity := ← defaulted nat64 1 capacity
      accelerator := ← defaulted bool false accelerator }
  | _ => none

end Foreman
