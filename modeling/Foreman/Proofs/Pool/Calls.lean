import Foreman.Pool.Access
import Foreman.Proofs.Maps

/-!
# `Foreman.Proofs.Pool.Calls` — what a call does to a pool

An access in place comes to the same as the operation that makes a new pool: it stores the result of
the operation, and a refusal leaves the pool as it was, although a removal may have been tried before.
All that any call can do is one of four changes, under the guards of the operation, or nothing.

## Contents
- **`PoolCall.outcome`** and `PoolCall.run_perform`: a call in place, and the operation.
- **`Pool.Change`** with `PoolCall.change_after`: the changes, with what each one forgets.
- `Pool.assign_of_mem`, `Pool.exists_of_assign`, `Pool.release_of_mem`: single operations.
- `Pool.specs`: what the agents are; assignments do not change it.
- `Pool.afterCalls_invariant`: what every change preserves holds after any number of calls.
- **`Pool.ByCalls`**: a pool that calls have brought about from another one.
-/

namespace Foreman

/-! ## Calls and operations -/

namespace PoolCall

variable {p q : Pool} {c : PoolCall}

/-- What a call comes to: a new pool or a refusal. -/
def outcome (p : Pool) : PoolCall → Except PoolError Pool
  | register spec => p.register spec
  | deregister agent => (p.deregister agent).map Prod.snd
  | assign agent task => p.assign agent task
  | release agent task => p.release agent task

/-- **A call in place stores what the operation makes**, and a refusal leaves no trace. -/
theorem run_perform (c : PoolCall) (p : Pool) :
    c.perform.run p = match c.outcome p with
      | .ok q => (.ok (), q)
      | .error e => (.error e, p) := by
  cases c with
  | register spec =>
      simp only [perform, outcome, PoolAccess.register, Pool.register]
      by_cases h : spec.id ∈ p.agents.keys
      · simp [h]
      · simp [h, PoolAccess.reindex, PoolAccess.put]
  | deregister agent =>
      simp only [perform, outcome, PoolAccess.deregister, Pool.deregister]
      cases h : p.agents.find? agent with
      | none =>
          -- what was taken out of the table was not in it
          simp [h, NameMap.erase_of_find?_eq_none h, Except.map]
      | some a => simp [h, PoolAccess.reindex, Except.map]
  | assign agent task =>
      simp only [perform, outcome, PoolAccess.assign, Pool.assign]
      cases h : p.agents.find? agent with
      | none => simp [h]
      | some a =>
          by_cases ht : task ∈ a.assigned
          · simp [h, ht]
          · cases hc : a.hasCapacity <;> simp [h, ht, hc, PoolAccess.put]
  | release agent task =>
      simp only [perform, outcome, PoolAccess.release, Pool.release]
      cases h : p.agents.find? agent with
      | none => simp [h]
      | some a =>
          by_cases ht : task ∈ a.assigned
          · simp [h, ht, PoolAccess.put]
          · -- what was taken out of the set was not in it
            simp [h, ht, PoolAccess.put, NameSet.erase_of_not_mem ht, NameMap.insert_of_find? h]

/-- A refused call leaves the pool as it was: table, index and counters. -/
theorem snd_run_perform_of_error {e : PoolError} (h : (c.perform.run p).1 = .error e) :
    (c.perform.run p).2 = p := by
  rw [run_perform] at h ⊢
  cases hout : c.outcome p with
  | ok q => simp [hout] at h
  | error e' => rfl

theorem after_of_ok (h : c.outcome p = .ok q) : c.after p = q := by
  rw [after, run_perform, h]

theorem after_of_error {e : PoolError} (h : c.outcome p = .error e) : c.after p = p := by
  rw [after, run_perform, h]

/-- How many assignments are forgotten with an agent that is removed. -/
def forgotten (p : Pool) : PoolCall → Nat
  | deregister agent => (p.loadOf agent).getD 0
  | _ => 0

end PoolCall

/-! ## Changes -/

namespace Pool

/-- **What a call can do to a pool**, and how many assignments it forgets thereby. -/
inductive Change (p : Pool) : Nat → Pool → Prop
  /-- A refusal, or an assignment that was there already. -/
  | kept : Change p 0 p
  | registered {spec : AgentSpec} (hnew : p.agents.find? spec.id = none) : Change p 0 { p with
      agents := p.agents.insert spec.id { spec }
      byCapability := spec.capabilities.toList.foldl (indexAdd spec.id) p.byCapability }
  | deregistered {agent : AgentId} {a : Agent} (ha : p.agents.find? agent = some a) :
      Change p a.load { p with
        agents := p.agents.erase agent
        byCapability := a.spec.capabilities.toList.foldl (indexRemove agent) p.byCapability }
  | assigned {agent : AgentId} {task : TaskId} {a : Agent} (ha : p.agents.find? agent = some a)
      (htask : task ∉ a.assigned) (hroom : a.load < a.spec.capacity) : Change p 0 { p with
        agents := p.agents.insert agent { a with assigned := a.assigned.insert task }
        assignedTotal := p.assignedTotal + 1 }
  | released {agent : AgentId} {task : TaskId} {a : Agent} (ha : p.agents.find? agent = some a)
      (htask : task ∈ a.assigned) : Change p 0 { p with
        agents := p.agents.insert agent { a with assigned := a.assigned.erase task }
        releasedTotal := p.releasedTotal + 1 }

variable {p q : Pool} {spec : AgentSpec} {agent : AgentId} {task : TaskId}

theorem change_of_register (h : p.register spec = .ok q) : Change p 0 q := by
  unfold register at h
  split at h
  · cases h
  · next hfound =>
    cases h
    refine .registered (NameMap.find?_eq_none_iff.mpr fun hmem => hfound ?_)
    exact NameMap.contains_eq_true.mpr hmem

theorem change_of_deregister (h : p.deregister agent = .ok (spec, q)) :
    Change p ((p.loadOf agent).getD 0) q := by
  unfold deregister at h
  split at h
  · cases h
  · next a ha =>
    cases h
    rw [loadOf, ha]
    exact .deregistered ha

/-- An assignment that is there already is confirmed. -/
theorem assign_of_mem {a : Agent} (ha : p.agents.find? agent = some a) (htask : task ∈ a.assigned) :
    p.assign agent task = .ok p := by
  rw [assign, ha]
  exact if_pos htask

/-- An assignment that is accepted and was not there is new. -/
theorem exists_of_assign (h : p.assign agent task = .ok q) : ∃ a, p.agents.find? agent = some a ∧
    (task ∈ a.assigned ∧ q = p ∨ task ∉ a.assigned ∧ a.load < a.spec.capacity ∧ q = { p with
      agents := p.agents.insert agent { a with assigned := a.assigned.insert task }
      assignedTotal := p.assignedTotal + 1 }) := by
  unfold assign at h
  split at h
  · cases h
  · next a ha =>
    refine ⟨a, ha, ?_⟩
    split at h
    · next htask => cases h; exact Or.inl ⟨htask, rfl⟩
    · next htask =>
      split at h
      · next hroom =>
        cases h
        exact Or.inr ⟨htask, by simpa [Agent.hasCapacity] using hroom, rfl⟩
      · cases h

theorem change_of_assign (h : p.assign agent task = .ok q) : Change p 0 q := by
  obtain ⟨a, ha, ⟨-, rfl⟩ | ⟨htask, hroom, rfl⟩⟩ := exists_of_assign h
  · exact .kept
  · exact .assigned ha htask hroom

/-- What is assigned can be released. -/
theorem release_of_mem {a : Agent} (ha : p.agents.find? agent = some a) (htask : task ∈ a.assigned) :
    p.release agent task = .ok { p with
      agents := p.agents.insert agent { a with assigned := a.assigned.erase task }
      releasedTotal := p.releasedTotal + 1 } := by
  rw [release, ha]
  exact if_pos htask

theorem change_of_release (h : p.release agent task = .ok q) : Change p 0 q := by
  unfold release at h
  split at h
  · cases h
  · next a ha =>
    split at h
    · next htask => cases h; exact .released ha htask
    · cases h

end Pool

/-- Whatever a call comes to, it is one of the changes. -/
theorem PoolCall.change_after (c : PoolCall) (p : Pool) : p.Change (c.forgotten p) (c.after p) := by
  cases h : c.outcome p with
  | error e =>
      rw [after_of_error h]
      cases c with
      | deregister agent =>
          -- only an agent that is not there cannot be removed, and nothing is forgotten with it
          have hnone : p.agents.find? agent = none := by
            cases ha : p.agents.find? agent with
            | none => rfl
            | some a => simp [outcome, Pool.deregister, ha, Except.map] at h
          simpa [forgotten, Pool.loadOf, hnone] using Pool.Change.kept
      | _ => exact .kept
  | ok q =>
      rw [after_of_ok h]
      cases c with
      | register spec => exact Pool.change_of_register h
      | deregister agent =>
          cases hd : p.deregister agent with
          | error e => simp [outcome, hd, Except.map] at h
          | ok r =>
              rw [outcome, hd] at h
              cases h
              exact Pool.change_of_deregister hd
      | assign agent task => exact Pool.change_of_assign h
      | release agent task => exact Pool.change_of_release h

/-! ## What the agents are -/

namespace Pool

/-- The registered agents, without what they are working on. -/
def specs (p : Pool) : NameMap AgentSpec := p.agents.mapValues Agent.spec

@[simp] theorem find?_specs (p : Pool) (id : AgentId) :
    p.specs.find? id = (p.agents.find? id).map Agent.spec := NameMap.find?_mapValues _ _ _

/-- Whatever an agent is given to work on, it stays what it is. -/
theorem mapValues_spec_insert {p : Pool} {agent : AgentId} {a : Agent}
    (ha : p.agents.find? agent = some a) (tasks : NameSet) :
    (p.agents.insert agent { a with assigned := tasks }).mapValues Agent.spec = p.specs := by
  have hspec : p.specs.find? agent = some a.spec := by rw [find?_specs, ha, Option.map_some]
  exact (NameMap.mapValues_insert _ _ _ _).trans (NameMap.insert_of_find? hspec)

end Pool

/-! ## Any number of calls -/

/-- What every change preserves holds after any number of calls. -/
theorem Pool.afterCalls_invariant {Inv : Pool → Prop}
    (hstep : ∀ {p q n}, Inv p → Change p n q → Inv q) (calls : List PoolCall) :
    ∀ {p : Pool}, Inv p → Inv (p.afterCalls calls) := by
  induction calls with
  | nil => exact id
  | cons c calls ih => exact fun hp => ih (hstep hp (c.change_after _))

/-- **From `p` to `q` by calls.** -/
def Pool.ByCalls (p q : Pool) : Prop := ∃ calls, q = p.afterCalls calls

namespace Pool.ByCalls

variable {p q r : Pool} {c : PoolCall}

theorem refl (p : Pool) : p.ByCalls p := ⟨[], rfl⟩

theorem trans (h₁ : p.ByCalls q) (h₂ : q.ByCalls r) : p.ByCalls r := by
  obtain ⟨calls₁, rfl⟩ := h₁
  obtain ⟨calls₂, rfl⟩ := h₂
  exact ⟨calls₁ ++ calls₂, (List.foldl_append ..).symm⟩

theorem of_after (c : PoolCall) (p : Pool) : p.ByCalls (c.after p) := ⟨[c], rfl⟩

theorem of_outcome (h : c.outcome p = .ok q) : p.ByCalls q := PoolCall.after_of_ok h ▸ of_after c p

/-- A refusal is no change. -/
theorem of_toOption (c : PoolCall) (p : Pool) : p.ByCalls ((c.outcome p).toOption.getD p) := by
  cases h : c.outcome p with
  | ok q => exact of_outcome h
  | error e => exact refl p

end Pool.ByCalls

end Foreman
