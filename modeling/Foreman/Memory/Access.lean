import Foreman.InPlace
import Foreman.Memory

/-!
# `Foreman.Memory.Access` — requests to a shared memory service

Several clients use one memory service through requests that exclude each other. `Memory.mergeSession`
and its siblings say what a request comes to: a new memory or a refusal. Here the same requests are
written as accesses to a memory in place, which read and write one part after another and may refuse
anywhere; what has been written by then stays written.

## Contents
- **`MemoryAccess`**, an access in place, and one for each operation.
- **`MemoryRequest`** with `perform`, `answer` and `after`, and **`MemoryAnswer`**.
- **`Served`**: a request with its answer; `Memory.served` and `Memory.afterRequests`, what a number of
  requests are answered, and the memory that they leave.
-/

namespace Foreman

/-- An access to a memory in place. A refusal does not take back what has been written before. -/
abbrev MemoryAccess (α : Type) := ExceptT MemoryError (StateM Memory) α

namespace MemoryAccess

variable {α : Type}

/-! ## The operations in place -/

/-- Looks for a session that meets a condition; one that does not is as good as none. -/
def findSession (h : Handle) (condition : Session → Bool) : MemoryAccess Session := do
  match ((← get).session? h).filter condition with
  | none => throw (.sessionNotFound h)
  | some s => return s

/-- What follows the search runs on the session that was found. -/
theorem run_findSession_bind (h : Handle) (condition : Session → Bool) (next : Session → MemoryAccess α)
    (m : Memory) : (findSession h condition >>= next).run m = match m.session? h with
      | none => (.error (.sessionNotFound h), m)
      | some s => if condition s = true then (next s).run m else (.error (.sessionNotFound h), m) := by
  simp only [findSession, bind_assoc, InPlace.run_get_bind]
  cases m.session? h with
  | none => rfl
  | some s =>
      dsimp only [Option.filter]
      by_cases hs : condition s = true
      · rw [if_pos hs, if_pos hs]
        rfl
      · rw [if_neg hs, if_neg hs]
        rfl

/-- Opens a session. -/
def createSession (owner : AgentId) (scope : SessionScope) : MemoryAccess Handle := do
  if (← get).refusesSessions then throw (.unavailable "session creation disabled")
  let h := Handle.issued (← get).sessions.length
  modify fun m => { m with sessions := m.sessions ++ [{ owner, scope }] }
  return h

/-- Merges an open session: first it is marked, then the version is counted up. -/
def mergeSession (h : Handle) (strategy : MergeStrategy) : MemoryAccess MergeReport := do
  let s ← findSession h fun s => !s.closed
  modify fun m => m.setSession h { s with mergedWith := some strategy }
  modify fun m => { m with version := m.version + 1 }
  return ⟨0, 0, (← get).version⟩

/-- Closes a session, open or not, for its owner. -/
def closeSession (h : Handle) (owner : AgentId) : MemoryAccess Unit := do
  let s ← findSession h fun s => s.owner = owner
  modify fun m => m.setSession h { s with closed := true }

/-- Stores an episode. -/
def storeEpisode (e : Episode) : MemoryAccess Unit :=
  modify fun m => { m with episodes := m.episodes ++ [e] }

/-- Creates a pending record. -/
def createRecord (definition : TaskDefinition) : MemoryAccess Handle := do
  let h := Handle.issued (← get).records.length
  modify fun m => { m with records := m.records ++ [{ definition }] }
  return h

/-- Gives a record its next status and new metadata. -/
def updateRecord (h : Handle) (status : RecordStatus) (metadata : RecordMetadata) :
    MemoryAccess Unit := do
  match (← get).record? h with
  | none => throw (.recordNotFound h)
  | some r =>
    modify fun m => m.setRecord h { r with status, metadata, history := r.history ++ [status] }

/-- Sets whether sessions are refused. -/
def refuseSessions (on : Bool) : MemoryAccess Unit := modify fun m => { m with refusesSessions := on }

end MemoryAccess

/-! ## Requests -/

/-- A request that may change a memory. -/
inductive MemoryRequest where
  | createSession (owner : AgentId) (scope : SessionScope)
  | mergeSession (session : Handle) (strategy : MergeStrategy)
  | closeSession (session : Handle) (owner : AgentId)
  | storeEpisode (episode : Episode)
  | createRecord (definition : TaskDefinition)
  | updateRecord (record : Handle) (status : RecordStatus) (metadata : RecordMetadata)
  | refuseSessions (on : Bool)
  deriving DecidableEq

/-- What a request is answered unless it is refused. -/
inductive MemoryAnswer where
  | opened (session : Handle)
  | merged (report : MergeReport)
  | recorded (record : Handle)
  | done
  deriving DecidableEq

namespace MemoryRequest

/-- The access that a request makes. -/
def perform : MemoryRequest → MemoryAccess MemoryAnswer
  | createSession owner scope => return .opened (← MemoryAccess.createSession owner scope)
  | mergeSession session strategy => return .merged (← MemoryAccess.mergeSession session strategy)
  | closeSession session owner => do
    MemoryAccess.closeSession session owner
    return .done
  | storeEpisode episode => do
    MemoryAccess.storeEpisode episode
    return .done
  | createRecord definition => return .recorded (← MemoryAccess.createRecord definition)
  | updateRecord record status metadata => do
    MemoryAccess.updateRecord record status metadata
    return .done
  | refuseSessions on => do
    MemoryAccess.refuseSessions on
    return .done

/-- What a request is answered. -/
def answer (q : MemoryRequest) (m : Memory) : Except MemoryError MemoryAnswer := (q.perform.run m).1

/-- The memory that a request leaves, accepted or refused. -/
def after (q : MemoryRequest) (m : Memory) : Memory := (q.perform.run m).2

end MemoryRequest

/-- A request with its answer. -/
structure Served where
  request : MemoryRequest
  answer : Except MemoryError MemoryAnswer

namespace Memory

/-- The memory after a number of requests, in their order. -/
def afterRequests (qs : List MemoryRequest) (m : Memory) : Memory := qs.foldl (fun m q => q.after m) m

/-- A number of requests with their answers. -/
def served : List MemoryRequest → Memory → List Served
  | [], _ => []
  | q :: qs, m => ⟨q, q.answer m⟩ :: served qs (q.after m)

end Memory

end Foreman
