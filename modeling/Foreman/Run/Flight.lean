import Foreman.Retry
import Foreman.Run.Result
import Foreman.Run.Runner
import Foreman.Text.Quoted

/-!
# `Foreman.Run.Flight` — one task on its way

A dispatched task first looks for an agent, preferring the planned one. With the agent it opens a
record and a workspace session, then makes its attempts, and finally merges and closes the session,
stores an episode and closes the record. A `Flight` is such a task between two moments at which
somebody else may come in; `Flight.resume` is what it does in one go from one such moment to the next.

Looking for an agent and claiming the one that was found are two things, and so are any two calls of
the memory service: others may change the pool or the books in between.

## Contents
- **`Setup`**, **`World`**: what an execution is given, and what it changes.
- `ask`: a call of the memory service, which may fail or panic.
- **Finding an agent**: `World.claim`, `World.claimPlanned`.
- **`Flight`**, **`Phase`** with **`Opening`** and **`Closing`**, and **`Next`**: how a flight goes on.
- `Flight.openUp`, `Flight.closeUp`: the books of a task.
- `Flight.resume`.
-/

namespace Foreman

/-! ## Surroundings -/

/-- The settings of an executor. -/
structure ExecutorConfig where
  /-- The most tasks of one level in flight. -/
  maxConcurrency : Nat := 4
  retry : RetryPolicy := {}
  mergeStrategy : MergeStrategy := .auto
  /-- How long a task waits for a release before it looks for an agent again. -/
  pollInterval : Duration := .ofMillis 100
  deriving DecidableEq

/-- What an execution is given and never changes. -/
structure Setup where
  workflow : String
  maxAttempts : Nat
  allocation : NameMap AgentId
  config : ExecutorConfig
  runner : Runner
  faults : FaultPattern

/-- What an execution shares with its surroundings and changes. -/
structure World where
  pool : Pool
  memory : Memory := .empty
  /-- How many of the next assignments are lost to other clients of the pool. -/
  contention : Nat := 0
  /-- All calls of runners so far, the latest first. -/
  calls : List Call := []
  /-- All calls of the memory service so far, the latest first. -/
  memoryCalls : List MemoryCall := []

/-! ## Calls of the memory service -/

/-- Makes a call of the memory service, unless a fault prevents it. The service may refuse; a panic
    leaves its text instead of an answer. -/
def ask {α : Type} (faults : FaultPattern) (call : MemoryCall)
    (op : Memory → Except MemoryError (α × Memory)) (w : World) :
    Except String (Except MemoryError α) × World :=
  let called := { w with memoryCalls := call :: w.memoryCalls }
  match faults w.memoryCalls call with
  | some (.panic text) => (.error text, called)
  | some (.unavailable reason) => (.ok (.error (.unavailable reason)), called)
  | none =>
    match op w.memory with
    | .error e => (.ok (.error e), called)
    | .ok (a, memory) => (.ok (.ok a), { called with memory })

/-! ## Finding an agent -/

/-- A task ready to run: a snapshot of it, with its planned agent. -/
structure Job where
  task : TaskId
  name : String
  kind : TaskKind
  payload : Value
  requirements : Requirements
  planned : Option AgentId
  estimate : Duration

/-- Assigns a task to an agent, unless another client comes first. The answer is whether it worked. -/
def World.claim (w : World) (agent : AgentId) (task : TaskId) : Bool × World :=
  match w.contention with
  | n + 1 => (false, { w with contention := n })
  | 0 =>
    match w.pool.assign agent task with
    | .ok pool => (true, { w with pool })
    | .error _ => (false, w)

/-- Assigns a task to its planned agent, if it has one. -/
def World.claimPlanned (w : World) (job : Job) : Option AgentId × World :=
  match job.planned with
  | none => (none, w)
  | some agent =>
    match w.claim agent job.task with
    | (true, w) => (some agent, w)
    | (false, w) => (none, w)

/-! ## Flights -/

/-- What a task holds while it runs. -/
structure Engagement where
  agent : AgentId
  /-- The record of the task, if one could be created. -/
  record : Option Handle
  session : Handle

/-- What a task with an agent does in the books before its first attempt. -/
inductive Opening where
  /-- Creates the record of the task. -/
  | record
  /-- Marks the record, if there is one, as in progress. -/
  | mark (record : Option Handle)
  /-- Opens the session. -/
  | session (record : Option Handle)

/-- What a task does in the books after its last attempt. -/
inductive Closing where
  /-- Merges the session. -/
  | merge (record : Option Handle) (session : Handle)
  /-- Closes the session. -/
  | close (record : Option Handle) (session : Handle)
  /-- Stores an episode. -/
  | store (record : Option Handle)
  /-- Marks the record, if there is one, as completed or failed. -/
  | sign (record : Option Handle)

/-- What has come of a task, with the time that it took. -/
structure Upshot where
  attempts : Nat
  duration : Duration
  answer : Except TaskError Output

/-- What a flight does next. -/
inductive Phase where
  /-- Claims its planned agent, or looks for another one. -/
  | seeking
  /-- Claims the agent that it has found. -/
  | claiming (agent : AgentId)
  /-- Opens the books of its task. -/
  | opening (agent : AgentId) (step : Opening)
  /-- Calls the runner; `delay` follows if the attempt fails. -/
  | calling (e : Engagement) (attempt : Nat) (delay : Duration)
  /-- Goes on with an attempt. -/
  | working (e : Engagement) (attempt : Nat) (delay : Duration) (rest : List Activity)
      (ending : Ending)
  /-- Takes the answer of an attempt. -/
  | returned (e : Engagement) (attempt : Nat) (delay : Duration)
      (answer : Except TaskError Output)
  /-- Starts an attempt after a delay. -/
  | rested (e : Engagement) (attempt : Nat) (delay : Duration)
  /-- Closes the books of its task. -/
  | closing (agent : AgentId) (step : Closing) (u : Upshot)

/-- A dispatched task. -/
structure Flight where
  job : Job
  /-- When it was dispatched. -/
  startedAt : Nat
  phase : Phase

/-- How a flight goes on after a moment of activity. -/
inductive Next where
  /-- It goes on at once, unless somebody else comes in. -/
  | atOnce (f : Flight)
  /-- It lines up behind the other active flights. -/
  | again (f : Flight)
  /-- It sleeps until a time. -/
  | sleep (due : Nat) (f : Flight)
  /-- It sleeps until a time or the next release of an agent. -/
  | wait (due : Nat) (f : Flight)
  /-- It ends, giving back the agent it holds. -/
  | land (result : TaskResult) (leased : Option AgentId)

/-- The result of a task that failed. -/
def failedResult (job : Job) (e : TaskError) (attempts : Nat) (agent : Option AgentId)
    (duration : Duration) : TaskResult :=
  { task := job.task, outcome := e.outcome, output := none, error := some e.message, duration,
    attempts, agent }

/-- The error of a task that finds no agent. -/
def noAgentError (r : Requirements) : TaskError :=
  .noSuitableAgent ("no registered agent offers " ++ quotedSet r.capabilities.toList ++
    if r.accelerator then " with an accelerator" else "")

/-- How a panic is reported; the number of the failed unit is not shown. -/
def panicText (prologue text : String) : String :=
  prologue ++ " panicked: task # panicked with message " ++ quoted text

/-- The result of a task cut off by a panic outside its runner. -/
def panickedResult (job : Job) (text : String) : TaskResult :=
  failedResult job (.system (panicText "task" text)) 0 none .zero

namespace Flight

/-- Time since the flight was dispatched. -/
def elapsed (f : Flight) (now : Nat) : Duration := .ofMillis (now - f.startedAt)

/-- The flight in another phase. -/
def enter (f : Flight) (phase : Phase) : Flight := { f with phase }

@[simp] theorem phase_enter (f : Flight) (phase : Phase) : (f.enter phase).phase = phase := rfl
@[simp] theorem job_enter (f : Flight) (phase : Phase) : (f.enter phase).job = f.job := rfl
@[simp] theorem startedAt_enter (f : Flight) (phase : Phase) :
    (f.enter phase).startedAt = f.startedAt := rfl

/-! ### The books of a task -/

/-- Makes a call of the memory service for a flight that holds an agent. The flight goes on with the
    answer; a panic ends it. -/
def consult {α : Type} (s : Setup) (f : Flight) (agent : AgentId) (call : MemoryCall)
    (op : Memory → Except MemoryError (α × Memory)) (next : Except MemoryError α → Next) (w : World) :
    Next × World :=
  match ask s.faults call op w with
  | (.ok answer, w) => (next answer, w)
  | (.error text, w) => (.land (panickedResult f.job text) (some agent), w)

/-- The record of a task as it is created. -/
def definitionOf (s : Setup) (job : Job) : TaskDefinition :=
  { title := job.task
    description := job.name
    workspace := some s.workflow
    estimatedHours := some (job.estimate.toSeconds.div (.ofNat 3600)) }

/-- The part of the memory that a task may write, and the part it may only read. -/
def scopeOf (s : Setup) (job : Job) : SessionScope :=
  { paths := ["workflows/" ++ s.workflow ++ "/tasks/" ++ job.task]
    readOnlyPaths := ["workflows/" ++ s.workflow] }

/-- The error of a task whose session is not opened. -/
def noSessionError (e : MemoryError) : TaskError :=
  .serviceUnavailable ("could not open workspace: " ++ e.message)

/-- One step on the way to the first attempt. Without a record the task runs, too; without a session it
    fails, and has only its record to close. -/
def openUp (s : Setup) (now : Nat) (f : Flight) (agent : AgentId) : Opening → World → Next × World
  | .record, w =>
    f.consult s agent .createRecord (fun m => .ok (m.createRecord (definitionOf s f.job)))
      (fun answer => .atOnce (f.enter (.opening agent (.mark answer.toOption)))) w
  | .mark none, w => (.atOnce (f.enter (.opening agent (.session none))), w)
  | .mark (some record), w =>
    f.consult s agent .updateRecord
      (fun m => (m.updateRecord record .inProgress {}).map fun m => ((), m))
      (fun _ => .atOnce (f.enter (.opening agent (.session (some record))))) w
  | .session record, w =>
    f.consult s agent .createSession (fun m => m.createSession agent (scopeOf s f.job))
      (fun
        | .ok session =>
          .again (f.enter (.calling { agent, record, session } 1 s.config.retry.firstDelay))
        | .error e =>
          .atOnce (f.enter (.closing agent (.sign record)
            { attempts := 0, duration := f.elapsed now, answer := .error (noSessionError e) })))
      w

/-- What the answer of the last attempt makes of the task. -/
def resultOf (f : Flight) (agent : AgentId) (u : Upshot) : TaskResult :=
  match u.answer with
  | .ok output =>
    { task := f.job.task, outcome := .success, output := output.value, error := none,
      duration := u.duration, attempts := u.attempts, agent := some agent }
  | .error e => failedResult f.job e u.attempts (some agent) u.duration

/-- What a task touched; only a success reports it. -/
def affectedBy (answer : Except TaskError Output) : List String :=
  match answer with
  | .ok output => output.affectedEntities
  | .error _ => []

/-- The episode about a task. -/
def episodeOf (f : Flight) (agent : AgentId) (u : Upshot) (now : Nat) : Episode :=
  let result := f.resultOf agent u
  { episodeType := .task
    task := f.job.task
    description := f.job.name ++ " (" ++ f.job.kind.label ++ ")"
    agent
    outcome := if result.isSuccess then .success else .failure
    duration := result.duration
    attempts := result.attempts
    affectedEntities := affectedBy u.answer
    error := result.error
    createdAt := ⟨(now / 1000 : Nat), now % 1000 * 1000000⟩ }

/-- One step on the way to the end. Whatever the service answers, the task ends with its result. -/
def closeUp (s : Setup) (now : Nat) (f : Flight) (agent : AgentId) (u : Upshot) :
    Closing → World → Next × World
  | .merge record session, w =>
    f.consult s agent .mergeSession (fun m => m.mergeSession session s.config.mergeStrategy)
      (fun _ => .atOnce (f.enter (.closing agent (.close record session) u))) w
  | .close record session, w =>
    f.consult s agent .closeSession (fun m => (m.closeSession session agent).map fun m => ((), m))
      (fun _ => .atOnce (f.enter (.closing agent (.store record) u))) w
  | .store record, w =>
    f.consult s agent .storeEpisode (fun m => .ok ((), m.storeEpisode (f.episodeOf agent u now)))
      (fun _ => .atOnce (f.enter (.closing agent (.sign record) u))) w
  | .sign none, w => (.land (f.resultOf agent u) (some agent), w)
  | .sign (some record), w =>
    let result := f.resultOf agent u
    let status := if result.isSuccess then RecordStatus.completed else RecordStatus.failed
    f.consult s agent .updateRecord
      (fun m => (m.updateRecord record status
        { duration := some result.duration, notes := result.error }).map fun m => ((), m))
      (fun _ => .land result (some agent)) w

/-! ### Attempts -/

/-- What the ending of an attempt answers; a panic of the runner is an error of the system. -/
def answerOf : Ending → Except TaskError Output
  | .panic text => .error (.system (panicText "task runner" text))
  | .fail e => .error e
  | .succeed output => .ok output

/-- Goes on with an attempt until it pauses or ends. A pause below the resolution of the clock takes
    no time. -/
def workOn (now : Nat) (f : Flight) (e : Engagement) (attempt : Nat) (delay : Duration)
    (ending : Ending) : List Activity → World → Next × World
  | [], w => (.again (f.enter (.returned e attempt delay (answerOf ending))), w)
  | .pause length :: rest, w =>
    if length.sleepMillis = 0 then workOn now f e attempt delay ending rest w
    else
      (.sleep (now + length.sleepMillis) (f.enter (.working e attempt delay rest ending)), w)
  | .act action :: rest, w =>
    workOn now f e attempt delay ending rest
      { w with pool := action.onPool w.pool, memory := action.onMemory w.memory }

/-- The attempt that a flight starts. -/
def callOf (s : Setup) (now : Nat) (f : Flight) (e : Engagement) (attempt : Nat) : Call :=
  { workflow := s.workflow, task := f.job.task, name := f.job.name, kind := f.job.kind,
    payload := f.job.payload, agent := e.agent, session := e.session, attempt, startedAt := now }

/-- What a flight does from one moment at which somebody else may come in to the next. -/
def resume (s : Setup) (now : Nat) (f : Flight) (w : World) : Next × World :=
  match f.phase with
  | .seeking =>
    match w.claimPlanned f.job with
    | (some agent, w) => (.atOnce (f.enter (.opening agent .record)), w)
    | (none, w) =>
      match w.pool.findSuitable f.job.requirements with
      | some found => (.atOnce (f.enter (.claiming found.id)), w)
      | none =>
        if w.pool.canSatisfy f.job.requirements then
          (.wait (now + s.config.pollInterval.sleepMillis) f, w)
        else
          (.land (failedResult f.job (noAgentError f.job.requirements) 0 none (f.elapsed now)) none, w)
  | .claiming agent =>
    match w.claim agent f.job.task with
    | (true, w) => (.atOnce (f.enter (.opening agent .record)), w)
    | (false, w) => (.atOnce (f.enter .seeking), w)
  | .opening agent step => f.openUp s now agent step w
  | .calling e attempt delay =>
    let call := f.callOf s now e attempt
    let behaviour := s.runner w.calls call
    f.workOn now e attempt delay behaviour.ending behaviour.course
      { w with calls := call :: w.calls }
  | .working e attempt delay rest ending => f.workOn now e attempt delay ending rest w
  | .returned e attempt delay answer =>
    let closing := f.enter (.closing e.agent (.merge e.record e.session)
      { attempts := attempt, duration := f.elapsed now, answer })
    match answer with
    | .ok _ => (.atOnce closing, w)
    | .error error =>
      match s.config.retry.decide error attempt s.maxAttempts delay with
      | .giveUp => (.atOnce closing, w)
      | .retryAfter wait =>
        let next := s.config.retry.nextDelay delay
        if wait.sleepMillis = 0 then (.again (f.enter (.calling e (attempt + 1) next)), w)
        else (.sleep (now + wait.sleepMillis) (f.enter (.rested e (attempt + 1) next)), w)
  | .rested e attempt delay => (.again (f.enter (.calling e attempt delay)), w)
  | .closing agent step u => f.closeUp s now agent u step w

end Flight

end Foreman
