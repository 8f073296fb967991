import Foreman.Memory
import Foreman.Pool
import Foreman.Run.TaskError

/-!
# `Foreman.Run.Runner` — what does the work of a task

An execution hands every attempt to a runner. A runner decides, from the attempt and all attempts
before it, what the attempt does: how long it takes, what it does to the pool or the memory service
meanwhile, and how it ends. Likewise a fault pattern decides which calls of the memory service fail.

## Contents
- **`Call`**: one attempt, as the runner sees it.
- **`Behaviour`**: what an attempt does, **`Runner`**: the choice of it.
- **`MemoryCall`**, **`Fault`**, **`FaultPattern`**: disturbances of the memory service.
-/

namespace Foreman

/-! ## Attempts -/

/-- One attempt, as the runner sees it. -/
structure Call where
  workflow : String
  task : TaskId
  name : String
  kind : TaskKind
  payload : Value
  agent : AgentId
  session : Handle
  /-- Counted from one. -/
  attempt : Nat
  /-- Milliseconds since the execution began. -/
  startedAt : Nat

/-- What a successful attempt yields. -/
structure Output where
  value : Option Value
  affectedEntities : List String

/-- Something an attempt does to the surroundings of its execution. -/
inductive Action where
  | register (agent : AgentSpec)
  | deregister (agent : AgentId)
  | assign (agent : AgentId) (task : TaskId)
  | release (agent : AgentId) (task : TaskId)
  | refuseSessions (on : Bool)

/-- One part of the course of an attempt. -/
inductive Activity where
  | pause (length : Duration)
  | act (action : Action)

/-- How an attempt ends. -/
inductive Ending where
  | panic (text : String)
  | fail (error : TaskError)
  | succeed (output : Output)

/-- What an attempt does. -/
structure Behaviour where
  course : List Activity
  ending : Ending

/-- The choice of a behaviour for an attempt, given all attempts made before, the latest first. -/
abbrev Runner := List Call → Call → Behaviour

/-- What an action does to the pool; refused operations do nothing. -/
def Action.onPool (a : Action) (p : Pool) : Pool :=
  match a with
  | .register spec => (p.register spec).toOption.getD p
  | .deregister agent => ((p.deregister agent).toOption.map Prod.snd).getD p
  | .assign agent task => (p.assign agent task).toOption.getD p
  | .release agent task => (p.release agent task).toOption.getD p
  | .refuseSessions _ => p

/-- What an action does to the memory service. -/
def Action.onMemory (a : Action) (m : Memory) : Memory :=
  match a with
  | .refuseSessions on => { m with refusesSessions := on }
  | _ => m

/-- The runner that gives the attempts of each task their behaviour from a list, in order; attempts
    beyond the list get the last argument. -/
def scriptedRunner (script : TaskId → List Behaviour) (fallback : TaskId → Behaviour) : Runner :=
  fun before call =>
    let made := before.countP fun c => c.task = call.task
    ((script call.task)[made]?).getD (fallback call.task)

/-! ## Disturbances -/

/-- The calls that an execution makes to the memory service. -/
inductive MemoryCall where
  | createSession
  | mergeSession
  | closeSession
  | storeEpisode
  | createRecord
  | updateRecord
  deriving DecidableEq

/-- How a call fails before it reaches the service. -/
inductive Fault where
  | unavailable (reason : String)
  | panic (text : String)

/-- Which calls fail, given all calls made before, the latest first. -/
abbrev FaultPattern := List MemoryCall → MemoryCall → Option Fault

/-- No call fails. -/
def noFaults : FaultPattern := fun _ _ => none

end Foreman
