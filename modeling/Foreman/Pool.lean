import Foreman.Collection.Sum
import Foreman.Overflow
import Foreman.Task

/-!
# `Foreman.Pool` — the agents and what they are working on

A pool holds registered agents with the tasks assigned to each, an index from capabilities to agents
that keeps look-ups cheap, and two lifetime counters. A plan only looks at the pool; `assign` and
`release` are the operations that change what an agent works on.

## Contents
- **`AgentSpec`**, **`Agent`**, **`AgentView`**, **`PoolError`**.
- **`Pool`**: `register`, `deregister`, `assign`, `release`.
- **Look-ups**: `candidates` through the index, `findSuitable`, `canSatisfy`.
- **`PoolStatistics`**, the only look-up that can leave its range.
-/

namespace Foreman

/-! ## Agents -/

/-- What an agent is, as registered. -/
structure AgentSpec where
  id : AgentId
  capabilities : NameSet := ∅
  /-- How many tasks it works on at the same time. -/
  capacity : Nat := 1
  accelerator : Bool := false
  deriving DecidableEq, Inhabited

/-- Whether an agent offers everything that is required. -/
def AgentSpec.covers (a : AgentSpec) (r : Requirements) : Bool :=
  (!r.accelerator || a.accelerator) && r.capabilities.subset a.capabilities

/-- A registered agent and the tasks assigned to it. -/
structure Agent where
  spec : AgentSpec
  assigned : NameSet := ∅
  deriving DecidableEq, Inhabited

/-- What a look-up shows of an agent. -/
structure AgentView where
  id : AgentId
  capabilities : NameSet
  load : Nat
  capacity : Nat
  deriving DecidableEq

namespace Agent

/-- Number of assigned tasks. -/
def load (a : Agent) : Nat := a.assigned.size

/-- Whether one more task can be assigned. -/
def hasCapacity (a : Agent) : Bool := decide (a.load < a.spec.capacity)

/-- What a look-up shows of the agent. -/
def view (a : Agent) : AgentView := ⟨a.spec.id, a.spec.capabilities, a.load, a.spec.capacity⟩

end Agent

/-- Why a pool refuses an operation. -/
inductive PoolError where
  | agentNotFound (agent : AgentId)
  | atCapacity (agent : AgentId) (capacity : Nat)
  | notAssigned (agent : AgentId) (task : TaskId)
  | duplicateAgent (agent : AgentId)
  deriving DecidableEq

/-- How a refusal is reported. -/
def PoolError.message : PoolError → String
  | .agentNotFound agent => "agent '" ++ agent ++ "' is not registered"
  | .atCapacity agent capacity =>
    "agent '" ++ agent ++ "' is at capacity (" ++ toString capacity ++ " concurrent tasks)"
  | .notAssigned agent task =>
    "task '" ++ task ++ "' is not assigned to agent '" ++ agent ++ "'"
  | .duplicateAgent agent => "agent '" ++ agent ++ "' is already registered"

/-! ## The pool -/

/-- Registered agents, the index of their capabilities, and counters of all assignments made and
    released so far. -/
structure Pool where
  agents : NameMap Agent := ∅
  byCapability : NameMap NameSet := ∅
  assignedTotal : Nat := 0
  releasedTotal : Nat := 0
  deriving DecidableEq, Inhabited

namespace Pool

/-- The pool without agents. -/
def empty : Pool := {}

/-- Adds an agent to the index under one of its capabilities. -/
def indexAdd (agent : AgentId) (index : NameMap NameSet) (c : Capability) : NameMap NameSet :=
  index.insert c (((index.find? c).getD ∅).insert agent)

/-- Removes an agent from the index under one of its capabilities. -/
def indexRemove (agent : AgentId) (index : NameMap NameSet) (c : Capability) : NameMap NameSet :=
  index.modify c fun ids => ids.erase agent

/-- Registers an agent without tasks; its id must be new. -/
def register (p : Pool) (spec : AgentSpec) : Except PoolError Pool :=
  if p.agents.contains spec.id then .error (.duplicateAgent spec.id)
  else .ok { p with
    agents := p.agents.insert spec.id { spec }
    byCapability := spec.capabilities.toList.foldl (indexAdd spec.id) p.byCapability }

/-- Removes an agent. Tasks still assigned to it are forgotten, not counted as released. -/
def deregister (p : Pool) (agent : AgentId) : Except PoolError (AgentSpec × Pool) :=
  match p.agents.find? agent with
  | none => .error (.agentNotFound agent)
  | some a => .ok (a.spec, { p with
      agents := p.agents.erase agent
      byCapability := a.spec.capabilities.toList.foldl (indexRemove agent) p.byCapability })

/-- Assigns a task to an agent. A pair that is assigned already stays as it is. -/
def assign (p : Pool) (agent : AgentId) (task : TaskId) : Except PoolError Pool :=
  match p.agents.find? agent with
  | none => .error (.agentNotFound agent)
  | some a =>
    if task ∈ a.assigned then .ok p
    else if a.hasCapacity then .ok { p with
      agents := p.agents.insert agent { a with assigned := a.assigned.insert task }
      assignedTotal := p.assignedTotal + 1 }
    else .error (.atCapacity agent a.spec.capacity)

/-- Ends the assignment of a task to an agent. -/
def release (p : Pool) (agent : AgentId) (task : TaskId) : Except PoolError Pool :=
  match p.agents.find? agent with
  | none => .error (.agentNotFound agent)
  | some a =>
    if task ∈ a.assigned then .ok { p with
      agents := p.agents.insert agent { a with assigned := a.assigned.erase task }
      releasedTotal := p.releasedTotal + 1 }
    else .error (.notAssigned agent task)

/-- A pool of the given agents, whose ids must differ. -/
def ofSpecs (specs : List AgentSpec) : Except PoolError Pool := specs.foldlM register empty

/-! ## Look-ups -/

/-- Whether the index lists an agent under a capability. -/
def indexed (p : Pool) (c : Capability) (agent : AgentId) : Bool :=
  match p.byCapability.find? c with
  | some ids => ids.contains agent
  | none => false

/-- The agents that offer all required capabilities, by id. The index is asked for the first
    capability, and what it lists is checked against the others. -/
def candidates (p : Pool) (required : NameSet) : List Agent :=
  match required.toList with
  | [] => p.agents.values
  | first :: others =>
    (((p.byCapability.find? first).getD ∅).toList.filter fun id =>
      others.all fun c => p.indexed c id).filterMap p.agents.find?

/-- Of two agents, the one with less load; the first one if they are equal. -/
def lessLoaded (best : Option Agent) (a : Agent) : Option Agent :=
  match best with
  | none => some a
  | some b => if a.load < b.load then some a else some b

/-- An agent that covers the requirements and has spare capacity: the one with the least load, and of
    these the one with the least id. Nothing is reserved. -/
def findSuitable (p : Pool) (r : Requirements) : Option AgentView :=
  (((p.candidates r.capabilities).filter fun a => a.spec.covers r && a.hasCapacity).foldl
    lessLoaded none).map Agent.view

/-- Whether some registered agent covers the requirements, however loaded it is. -/
def canSatisfy (p : Pool) (r : Requirements) : Bool :=
  (p.candidates r.capabilities).any fun a => a.spec.covers r

/-- A registered agent. -/
def agent? (p : Pool) (id : AgentId) : Option AgentView := (p.agents.find? id).map Agent.view

/-- The load of a registered agent. -/
def loadOf (p : Pool) (id : AgentId) : Option Nat := (p.agents.find? id).map Agent.load

/-- The tasks assigned to an agent; an unknown agent has none. -/
def assignedTasks (p : Pool) (id : AgentId) : NameSet :=
  ((p.agents.find? id).map Agent.assigned).getD ∅

/-- Ids of the registered agents in ascending order. -/
def agentIds (p : Pool) : List AgentId := p.agents.keys

end Pool

/-! ## Statistics -/

/-- The pool in numbers. -/
structure PoolStatistics where
  totalAgents : Nat
  /-- Agents without a task. -/
  idleAgents : Nat
  /-- Agents with a task and spare capacity. -/
  busyAgents : Nat
  /-- Agents with a task and no spare capacity. -/
  saturatedAgents : Nat
  activeAssignments : Nat
  totalCapacity : Nat
  tasksAssigned : Nat
  tasksReleased : Nat
  deriving DecidableEq, Inhabited

namespace Pool

/-- The pool in numbers, unless the capacities sum up to `2 ^ 64` or more. -/
def statistics (p : Pool) : Except Overflow PoolStatistics :=
  let agents := p.agents.values
  let capacity := sumOf (fun a => a.spec.capacity) agents
  if 2 ^ 64 ≤ capacity then .error .capacities
  else .ok {
    totalAgents := agents.length
    idleAgents := agents.countP fun a => a.load = 0
    busyAgents := agents.countP fun a => a.load ≠ 0 && a.hasCapacity
    saturatedAgents := agents.countP fun a => a.load ≠ 0 && !a.hasCapacity
    activeAssignments := sumOf Agent.load agents
    totalCapacity := capacity
    tasksAssigned := p.assignedTotal
    tasksReleased := p.releasedTotal }

end Pool

end Foreman
