import Foreman.Proofs.Pool.Index
import Foreman.Schedule

/-!
# `Foreman.Proofs.Allocation` — the agents of a schedule

A schedule names an agent for every task of its levels that the workflow declares: the one that the pool
finds suitable when the schedule is made. So whenever there is a schedule, every such task is covered by
some registered agent.

Nothing is reserved, so the agent of a task (`agentFor`) depends on no other task. Picking agents
therefore comes to the same in whatever order it is done (`Allocated`): every task gets its agent, or
there is one without.
-/

namespace Foreman

variable {w : Workflow} {p : Pool} {allocation allocation' : NameMap AgentId} {schedule : Schedule}
  {t u : TaskId} {agent : AgentId} {k : Task}

/-- The pool finds a task an agent. -/
def Suits (p : Pool) (k : Task) (agent : AgentId) : Prop :=
  ∃ view, p.findSuitable k.requirements = some view ∧ view.id = agent

/-- **What an allocation of some tasks contains**, added to one that was there before. -/
structure Allocates (w : Workflow) (p : Pool) (ts : List TaskId)
    (allocation allocation' : NameMap AgentId) : Prop where
  /-- Every declared task gets an agent. -/
  all : ∀ t ∈ ts, ∀ k, w.task? t = some k → ∃ agent, Suits p k agent
  /-- What is new suits its task. -/
  suits : ∀ t agent, allocation'.find? t = some agent → allocation.find? t = some agent ∨
    ∃ k, w.task? t = some k ∧ Suits p k agent

theorem allocates_one (h : allocateTask w.tasksById p allocation t = .ok allocation') :
    Allocates w p [t] allocation allocation' := by
  unfold allocateTask at h
  rw [w.find?_tasksById] at h
  split at h
  · next hnone =>
      cases h
      refine ⟨?_, fun u agent hu => Or.inl hu⟩
      intro u hu k hk
      rw [List.mem_singleton.mp hu, hnone] at hk
      cases hk
  · next k hk =>
      split at h
      · next view hfind =>
          cases h
          refine ⟨?_, ?_⟩
          · intro u hu k' hk'
            rw [List.mem_singleton.mp hu, hk] at hk'
            obtain rfl := Option.some.inj hk'
            exact ⟨view.id, view, hfind, rfl⟩
          · intro u agent hu
            rw [NameMap.find?_insert] at hu
            split at hu
            · next hut =>
                exact Or.inr ⟨k, hut ▸ hk, view, hfind, Option.some.inj hu⟩
            · exact Or.inl hu
      · cases h

/-- **The tasks of a list are allocated one by one.** -/
theorem allocates (ts : List TaskId) (h : ts.foldlM (allocateTask w.tasksById p) allocation = .ok allocation') :
    Allocates w p ts allocation allocation' := by
  induction ts generalizing allocation with
  | nil =>
      cases h
      exact ⟨fun _ ht => (by cases ht), fun _ _ ht => Or.inl ht⟩
  | cons t ts ih =>
      rw [List.foldlM_cons] at h
      cases hfirst : allocateTask w.tasksById p allocation t with
      | error e =>
          rw [hfirst] at h
          cases h
      | ok next =>
          rw [hfirst] at h
          have hone := allocates_one hfirst
          have hrest := ih h
          refine ⟨?_, ?_⟩
          · intro u hu
            rcases List.mem_cons.mp hu with rfl | hu
            · exact hone.all u (List.mem_singleton.mpr rfl)
            · exact hrest.all u hu
          · intro u agent hu
            exact (hrest.suits u agent hu).elim (hone.suits u agent) Or.inr

/-- A schedule comes with an allocation of the tasks of its levels. -/
theorem allocates_of_schedule (h : w.schedule p = .ok schedule) :
    Allocates w p (schedule.levels.flatMap Level.tasks) ∅ schedule.allocation := by
  unfold Workflow.schedule at h
  dsimp only at h
  split at h
  · cases h
  · split at h
    · cases h
    · split at h
      · cases h
      · next hallocate =>
          cases h
          exact allocates _ hallocate

/-- **A planned agent suits its task** in the pool for which the schedule was made. -/
theorem suits_of_allocation (h : w.schedule p = .ok schedule)
    (hagent : schedule.allocation.find? t = some agent) :
    ∃ k, w.task? t = some k ∧ Suits p k agent :=
  ((allocates_of_schedule h).suits t agent hagent).resolve_left fun hnone => by cases hnone

/-- An agent that the pool finds is registered and covers the task. -/
theorem Suits.exists_agent (h : Suits p k agent) (hindexed : p.Indexed) :
    ∃ a, p.agents.find? agent = some a ∧ a.spec.Covers k.requirements := by
  obtain ⟨view, hfind, rfl⟩ := h
  obtain ⟨a, ha, -, rfl⟩ := hindexed.findSuitable_eq_some_iff.mp hfind
  exact ⟨a, ha.registered, ha.covers⟩

/-! ## Whatever the order -/

/-- The agent that the pool finds a declared task. -/
def agentFor (w : Workflow) (p : Pool) (t : TaskId) : Option AgentId :=
  (w.task? t).bind fun k => (p.findSuitable k.requirements).map AgentView.id

/-- **What picking agents for some declared tasks comes to**, whatever their order. -/
inductive Allocated (w : Workflow) (p : Pool) (ts : List TaskId) (allocation : NameMap AgentId) :
    Except SchedulingError (NameMap AgentId) → Prop
  /-- Every task has its agent; what was there before is kept for all others. -/
  | all {allocation' : NameMap AgentId} (hall : ∀ t ∈ ts, agentFor w p t ≠ none)
      (hfind : ∀ t, allocation'.find? t = if t ∈ ts then agentFor w p t else allocation.find? t) :
      Allocated w p ts allocation (.ok allocation')
  /-- There is a task without an agent; those before it have theirs. -/
  | without {before after : List TaskId} {t : TaskId} {k : Task} (heq : ts = before ++ t :: after)
      (hbefore : ∀ u ∈ before, agentFor w p u ≠ none) (hk : w.task? t = some k)
      (hnone : agentFor w p t = none) : Allocated w p ts allocation
        (.error (.noSuitableAgent t k.capabilities.toList k.resources.accelerator))

/-- A declared task gets its agent, or there is none. -/
theorem allocateTask_of_mem (ht : t ∈ w.taskIds) (p : Pool) (allocation : NameMap AgentId) :
    (∃ agent, agentFor w p t = some agent ∧
      allocateTask w.tasksById p allocation t = .ok (allocation.insert t agent)) ∨
    (agentFor w p t = none ∧ ∃ k, w.task? t = some k ∧ allocateTask w.tasksById p allocation t =
      .error (.noSuitableAgent t k.capabilities.toList k.resources.accelerator)) := by
  obtain ⟨k, hk⟩ := Workflow.exists_task?_of_mem ht
  have hagent : agentFor w p t = (p.findSuitable k.requirements).map AgentView.id := by
    rw [agentFor, hk, Option.bind_some]
  rw [hagent, allocateTask, w.find?_tasksById, hk]
  dsimp only
  cases p.findSuitable k.requirements with
  | none => exact Or.inr ⟨rfl, k, rfl, rfl⟩
  | some view => exact Or.inl ⟨view.id, rfl, rfl⟩

theorem allocated (ts : List TaskId) (hdeclared : ∀ t ∈ ts, t ∈ w.taskIds)
    (allocation : NameMap AgentId) :
    Allocated w p ts allocation (ts.foldlM (allocateTask w.tasksById p) allocation) := by
  induction ts generalizing allocation with
  | nil => exact .all (fun _ ht => absurd ht (by simp)) fun _ => by simp
  | cons t ts ih =>
      obtain ⟨ht, hts⟩ := List.forall_mem_cons.mp hdeclared
      rw [List.foldlM_cons]
      rcases allocateTask_of_mem ht p allocation with ⟨agent, hagent, hstep⟩ | ⟨hnone, k, hk, hstep⟩
      · rw [hstep]
        have hrest := ih hts (allocation.insert t agent)
        show Allocated w p (t :: ts) allocation (ts.foldlM (allocateTask w.tasksById p) (allocation.insert t agent))
        generalize ts.foldlM (allocateTask w.tasksById p) (allocation.insert t agent) = outcome at hrest ⊢
        cases hrest with
        | all hall hfind =>
            refine .all (List.forall_mem_cons.mpr ⟨by simp [hagent], hall⟩) fun u => ?_
            rw [hfind, NameMap.find?_insert]
            by_cases hu : u = t
            · subst hu
              simp [hagent]
            · simp [hu]
        | @without before after u k heq hbefore hk hnone =>
            have hbefore' : ∀ v ∈ t :: before, agentFor w p v ≠ none :=
              List.forall_mem_cons.mpr ⟨by simp [hagent], hbefore⟩
            exact .without (by rw [heq, List.cons_append]) hbefore' hk hnone
      · rw [hstep]
        exact .without (List.nil_append (t :: ts)).symm (fun _ hu => absurd hu (by simp)) hk hnone

end Foreman
