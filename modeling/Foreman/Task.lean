import Foreman.Collection.NameSet
import Foreman.Task.Kind
import Foreman.Task.Status
import Foreman.Time.Duration
import Foreman.Value

/-!
# `Foreman.Task` — a single unit of work

A task names the capabilities that an agent must offer to run it, how long it is expected to take,
and the payload that the runner works on.

## Contents
- **`Resources`** and **`Requirements`**: what a task needs from the machine and from an agent.
- **`Task`** with `requirements` and the checked step `Task.become`.
-/

namespace Foreman

/-- The identity of a task within a workflow. -/
abbrev TaskId := String

/-- The identity of an agent within a pool. -/
abbrev AgentId := String

/-- Something that an agent offers and a task needs. -/
abbrev Capability := String

/-- Hardware that a task needs. -/
structure Resources where
  /-- A valid task needs at least one. -/
  cores : Nat := 1
  memoryMb : Nat := 0
  accelerator : Bool := false
  deriving DecidableEq, Inhabited

/-- What a task needs from an agent. -/
structure Requirements where
  capabilities : NameSet
  accelerator : Bool
  deriving DecidableEq, Inhabited

/-- A single unit of work. -/
structure Task where
  id : TaskId
  name : String
  kind : TaskKind := .development
  /-- Handed to the runner as it is. -/
  payload : Value := .null
  capabilities : NameSet := ∅
  estimate : Duration := .zero
  resources : Resources := {}
  status : TaskStatus := .pending
  deriving Inhabited

namespace Task

/-- What an agent must offer to run the task. -/
def requirements (t : Task) : Requirements := ⟨t.capabilities, t.resources.accelerator⟩

/-- Moves the task to another status if its life cycle has that step. -/
def become (t : Task) (next : TaskStatus) : Except IllegalStep Task :=
  if t.status.canBecome next then .ok { t with status := next }
  else .error ⟨t.id, t.status, next⟩

end Task

end Foreman
