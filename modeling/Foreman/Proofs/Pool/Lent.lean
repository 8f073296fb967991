import Foreman.Proofs.Pool.Accounts

/-!
# `Foreman.Proofs.Pool.Lent` — a pool with some agents lent out

Who takes agents from a pool and gives them back leaves it, at any moment, as it was before up to the
assignments held at that moment (`Pool.Lent`): the agents and the index are the same, the tasks of the
agents are those from before and those that are held, and the counters differ as the load does. An
assignment of a task that is new everywhere adds to what is held, and a release takes away from it and
cannot be refused. When nothing is held, every agent is as before and both counters have grown by the
same number.
-/

namespace Foreman
namespace Pool

variable {before p q : Pool} {held held' : List (AgentId × TaskId)} {agent : AgentId}
  {task : TaskId} {a : Agent}

/-! ## Tasks of agents -/

theorem assignedTasks_of_find? (ha : p.agents.find? agent = some a) :
    p.assignedTasks agent = a.assigned := by
  rw [assignedTasks, ha]
  rfl

/-- The state of one agent is replaced. -/
theorem assignedTasks_of_insert (h : q.agents = p.agents.insert agent a) (id : AgentId) :
    q.assignedTasks id = if id = agent then a.assigned else p.assignedTasks id := by
  rw [assignedTasks, h, NameMap.find?_insert]
  split <;> rfl

theorem exists_of_mem_assignedTasks (h : task ∈ p.assignedTasks agent) :
    ∃ a, p.agents.find? agent = some a ∧ task ∈ a.assigned := by
  cases ha : p.agents.find? agent with
  | none => simp [assignedTasks, ha, EmptyCollection.emptyCollection] at h
  | some a => exact ⟨a, rfl, assignedTasks_of_find? ha ▸ h⟩

/-! ## Lent agents -/

/-- **A pool of which some assignments are held**, compared with the pool before. -/
structure Lent (before : Pool) (held : List (AgentId × TaskId)) (p : Pool) : Prop where
  specs : p.specs = before.specs
  index : p.byCapability = before.byCapability
  assigned : ∀ agent task, task ∈ p.assignedTasks agent ↔
    task ∈ before.assignedTasks agent ∨ (agent, task) ∈ held
  balance : p.assignedTotal + (before.releasedTotal + before.totalLoad) =
    before.assignedTotal + (p.releasedTotal + p.totalLoad)
  grown : before.assignedTotal ≤ p.assignedTotal

namespace Lent

theorem refl (p : Pool) : Lent p [] p := ⟨rfl, rfl, by simp, rfl, Nat.le_refl _⟩

/-- The order in which assignments are held does not matter. -/
theorem congr (h : Lent before held p) (hmem : ∀ x, x ∈ held' ↔ x ∈ held) : Lent before held' p :=
  ⟨h.specs, h.index, fun agent task => by rw [h.assigned, hmem], h.balance, h.grown⟩

/-- **A task that is new everywhere is assigned**: the assignment is held from now on. -/
theorem assign (h : Lent before held p) (hfree : task ∉ before.assignedTasks agent)
    (hnew : (agent, task) ∉ held) (hq : p.assign agent task = .ok q) :
    Lent before ((agent, task) :: held) q := by
  have hbalance := (change_of_assign hq).balance
  obtain ⟨a, ha, ⟨hthere, -⟩ | ⟨-, -, rfl⟩⟩ := exists_of_assign hq
  · -- it is neither there from before nor held
    rw [← assignedTasks_of_find? ha, h.assigned] at hthere
    exact absurd hthere (not_or.mpr ⟨hfree, hnew⟩)
  · refine ⟨(mapValues_spec_insert ha _).trans h.specs, h.index, fun id t => ?_, ?_,
      Nat.le_succ_of_le h.grown⟩
    · rw [assignedTasks_of_insert rfl]
      by_cases hid : id = agent
      · subst hid
        simp [← assignedTasks_of_find? ha, h.assigned, or_left_comm]
      · simp [hid, h.assigned]
    · have hbefore := h.balance
      omega

/-- **What is held can be released**, and is held no more. -/
theorem release (h : Lent before ((agent, task) :: held) p)
    (hfree : task ∉ before.assignedTasks agent) (hnew : (agent, task) ∉ held) :
    ∃ q, p.release agent task = .ok q ∧ Lent before held q := by
  obtain ⟨a, ha, htask⟩ := exists_of_mem_assignedTasks ((h.assigned agent task).mpr (by simp))
  have hrelease := release_of_mem ha htask
  have hbalance := (change_of_release hrelease).balance
  refine ⟨_, hrelease, (mapValues_spec_insert ha _).trans h.specs, h.index, fun id t => ?_, ?_,
    h.grown⟩
  · rw [assignedTasks_of_insert rfl]
    by_cases hid : id = agent
    · subst hid
      by_cases ht : t = task
      · simp [ht, hfree, hnew]
      · simp [ht, ← assignedTasks_of_find? ha, h.assigned]
    · simp [hid, h.assigned]
  · have hbefore := h.balance
    omega

/-- When nothing is held, every agent is as before. -/
theorem agents_eq (h : Lent before [] p) : p.agents = before.agents := by
  refine NameMap.ext_find? fun id => ?_
  have hspec : (p.agents.find? id).map Agent.spec = (before.agents.find? id).map Agent.spec := by
    rw [← find?_specs, ← find?_specs, h.specs]
  have htasks : p.assignedTasks id = before.assignedTasks id :=
    NameSet.ext_mem fun t => (h.assigned id t).trans (by simp)
  cases hnow : p.agents.find? id with
  | none =>
      rw [hnow, Option.map_none, eq_comm, Option.map_eq_none_iff] at hspec
      exact hspec.symm
  | some a =>
      rw [hnow, Option.map_some, eq_comm, Option.map_eq_some_iff] at hspec
      obtain ⟨b, hb, hsame⟩ := hspec
      rw [assignedTasks_of_find? hnow, assignedTasks_of_find? hb] at htasks
      rw [hb, Option.some_inj]
      cases a
      cases b
      exact congrArg₂ Agent.mk hsame.symm htasks

/-- When nothing is held, as many assignments were released as made. -/
theorem exists_counted (h : Lent before [] p) : ∃ n, p.assignedTotal = before.assignedTotal + n ∧
    p.releasedTotal = before.releasedTotal + n := by
  have hbalance := h.balance
  have hgrown := h.grown
  rw [totalLoad, totalLoad, h.agents_eq] at hbalance
  exact ⟨p.assignedTotal - before.assignedTotal, by omega, by omega⟩

end Lent
end Pool
end Foreman
