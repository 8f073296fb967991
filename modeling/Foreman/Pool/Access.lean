import Foreman.InPlace
import Foreman.Pool

/-!
# `Foreman.Pool.Access` — calls of clients that share a pool

Several clients change one pool through calls that exclude each other. `Pool.register` and its
siblings say what a call comes to: a new pool or a refusal. Here the same calls are written as
accesses to a pool in place, which read and write one part after another and may refuse anywhere;
what has been written by then stays written.

## Contents
- **`PoolAccess`**, an access in place, and one for each operation.
- **`PoolCall`** with `perform` and `after`: what a client asks for, and the pool it leaves.
- `Pool.afterCalls`: the pool after a number of calls, refused ones included.
-/

namespace Foreman

/-- An access to a pool in place. A refusal does not take back what has been written before. -/
abbrev PoolAccess (α : Type) := ExceptT PoolError (StateM Pool) α

namespace PoolAccess

variable {α : Type}

/-! ## The operations in place -/

/-- Looks for a registered agent. -/
def find (agent : AgentId) : PoolAccess Agent := do
  match (← get).agents.find? agent with
  | none => throw (.agentNotFound agent)
  | some a => return a

@[simp] theorem run_find_bind (agent : AgentId) (next : Agent → PoolAccess α) (p : Pool) :
    (find agent >>= next).run p = match p.agents.find? agent with
      | none => (.error (.agentNotFound agent), p)
      | some a => (next a).run p := by
  simp only [find, bind_assoc, InPlace.run_get_bind]
  cases p.agents.find? agent <;> rfl

/-- Stores the state of an agent. -/
def put (agent : AgentId) (a : Agent) : PoolAccess Unit :=
  modify fun p => { p with agents := p.agents.insert agent a }

/-- Changes the index under each of some capabilities. -/
def reindex (change : NameMap NameSet → Capability → NameMap NameSet) (cs : List Capability) :
    PoolAccess Unit :=
  modify fun p => { p with byCapability := cs.foldl change p.byCapability }

/-- Registers an agent: first in the index, then in the table. -/
def register (spec : AgentSpec) : PoolAccess Unit := do
  if (← get).agents.contains spec.id then throw (.duplicateAgent spec.id)
  reindex (Pool.indexAdd spec.id) spec.capabilities.toList
  put spec.id { spec }

/-- Removes an agent: it is taken out of the table before anything is known about it. -/
def deregister (agent : AgentId) : PoolAccess AgentSpec := do
  let found := (← get).agents.find? agent
  modify fun p => { p with agents := p.agents.erase agent }
  match found with
  | none => throw (.agentNotFound agent)
  | some a =>
    reindex (Pool.indexRemove agent) a.spec.capabilities.toList
    return a.spec

/-- Assigns a task to an agent. -/
def assign (agent : AgentId) (task : TaskId) : PoolAccess Unit := do
  let a ← find agent
  if task ∈ a.assigned then return ()
  if !a.hasCapacity then throw (.atCapacity agent a.spec.capacity)
  put agent { a with assigned := a.assigned.insert task }
  modify fun p => { p with assignedTotal := p.assignedTotal + 1 }

/-- Ends an assignment: the task is taken out before it is known whether it was there. -/
def release (agent : AgentId) (task : TaskId) : PoolAccess Unit := do
  let a ← find agent
  put agent { a with assigned := a.assigned.erase task }
  if task ∉ a.assigned then throw (.notAssigned agent task)
  modify fun p => { p with releasedTotal := p.releasedTotal + 1 }

end PoolAccess

/-! ## Calls -/

/-- A call that may change a pool. -/
inductive PoolCall where
  | register (spec : AgentSpec)
  | deregister (agent : AgentId)
  | assign (agent : AgentId) (task : TaskId)
  | release (agent : AgentId) (task : TaskId)
  deriving DecidableEq

namespace PoolCall

/-- The access that a call makes. -/
def perform : PoolCall → PoolAccess Unit
  | register spec => PoolAccess.register spec
  | deregister agent => do
    let _ ← PoolAccess.deregister agent
  | assign agent task => PoolAccess.assign agent task
  | release agent task => PoolAccess.release agent task

/-- The pool that a call leaves, accepted or refused. -/
def after (c : PoolCall) (p : Pool) : Pool := (c.perform.run p).2

end PoolCall

/-- The pool after a number of calls, in their order. -/
def Pool.afterCalls (calls : List PoolCall) (p : Pool) : Pool :=
  calls.foldl (fun p c => c.after p) p

end Foreman
