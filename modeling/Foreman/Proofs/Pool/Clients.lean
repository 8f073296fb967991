import Foreman.Proofs.Pool.Lent
import Mathlib.Logic.Relation

/-!
# `Foreman.Proofs.Pool.Clients` — a pool shared by clients that hold leases

Tasks of several executions may share a pool. Each of them is a client that takes an accepted assignment
for a lease of its own, and ends it with a release. The pool knows pairs of an agent and a task, not
clients: a pair that is assigned already is confirmed to whoever asks for it.

As long as no pair is granted to a client while another one still has to release it, both views agree
(`Agreeing`): the live leases on an agent are its tasks, so they keep to its capacity, and none of their
releases is refused. The condition is needed, since every grant of a pair that is out makes a lease
without an assignment. Ids of tasks are distinct within one execution but may coincide in two, and then
leases can exceed a capacity.

## Contents
- **Single calls**: what an accepted assignment and any other call do to the tasks of the agents.
- **`Lease`**, **`Sharing`** with its moves, `Sharing.Distinct`.
- `Agreeing` with `Agreeing.move`: what every move keeps that grants only pairs that are not out.
- **`Sharing.leases_fit_while_distinct`**, and `leases_exceed_capacity` where a pair is granted twice.
-/

namespace Foreman

open Relation

variable {p q : Pool} {agent id : AgentId} {task u : TaskId}

/-! ## Single calls -/

namespace Pool

/-- After an accepted assignment the agent has the task, new or not. -/
theorem mem_assignedTasks_of_assign (h : p.assign agent task = .ok q) :
    u ∈ q.assignedTasks id ↔ id = agent ∧ u = task ∨ u ∈ p.assignedTasks id := by
  obtain ⟨a, ha, ⟨htask, rfl⟩ | ⟨-, -, rfl⟩⟩ := exists_of_assign h
  · rw [← assignedTasks_of_find? ha] at htask
    constructor
    · exact Or.inr
    · rintro (⟨rfl, rfl⟩ | hu)
      · exact htask
      · exact hu
  · rw [assignedTasks_of_insert rfl]
    by_cases hid : id = agent
    · subst hid
      simp [assignedTasks_of_find? ha]
    · simp [hid]

/-- A task that is not assigned cannot be released. -/
theorem release_of_not_mem (ha : ∃ a, p.agents.find? agent = some a)
    (htask : task ∉ p.assignedTasks agent) :
    p.release agent task = .error (.notAssigned agent task) := by
  obtain ⟨a, ha⟩ := ha
  rw [assignedTasks_of_find? ha] at htask
  rw [release, ha]
  exact if_neg htask

theorem exists_of_release (h : p.release agent task = .ok q) :
    ∃ a, p.agents.find? agent = some a ∧ task ∈ a.assigned := by
  unfold release at h
  split at h
  · cases h
  · next a ha =>
    split at h
    · next htask => exact ⟨a, ha, htask⟩
    · cases h

end Pool

namespace PoolCall

/-- After a release, accepted or refused, the agent does not have the task. -/
theorem mem_assignedTasks_after_release : u ∈ ((release agent task).after p).assignedTasks id ↔
    u ∈ p.assignedTasks id ∧ ¬ (id = agent ∧ u = task) := by
  by_cases htask : task ∈ p.assignedTasks agent
  · obtain ⟨a, ha, hmem⟩ := Pool.exists_of_mem_assignedTasks htask
    rw [after_of_ok (c := release agent task) (Pool.release_of_mem ha hmem),
      Pool.assignedTasks_of_insert rfl]
    by_cases hid : id = agent
    · subst hid
      simp [Pool.assignedTasks_of_find? ha]
    · simp [hid]
  · -- nothing is released that is not assigned
    have hrefused : (release agent task).after p = p := by
      cases h : p.release agent task with
      | error e => exact after_of_error h
      | ok q =>
          obtain ⟨a, ha, hmem⟩ := Pool.exists_of_release h
          rw [Pool.assignedTasks_of_find? ha] at htask
          exact absurd hmem htask
    rw [hrefused]
    refine (and_iff_left_of_imp ?_).symm
    rintro hu ⟨rfl, rfl⟩
    exact htask hu

/-- An agent is registered without tasks, and no agent had tasks under its id. -/
theorem assignedTasks_after_register (spec : AgentSpec) (p : Pool) (id : AgentId) :
    ((register spec).after p).assignedTasks id = p.assignedTasks id := by
  cases h : p.register spec with
  | error e => rw [after_of_error (c := register spec) h]
  | ok q =>
      rw [after_of_ok (c := register spec) h]
      unfold Pool.register at h
      split at h
      · cases h
      · next hfound =>
        cases h
        rw [Pool.assignedTasks_of_insert rfl]
        split
        · next hid =>
          have hnone : p.agents.find? spec.id = none :=
            NameMap.find?_eq_none_iff.mpr fun hmem => hfound (NameMap.contains_eq_true.mpr hmem)
          rw [hid, Pool.assignedTasks, hnone]
          rfl
        · rfl

/-- An agent that is removed leaves with its tasks. -/
theorem assignedTasks_after_deregister (agent : AgentId) (p : Pool) (id : AgentId) :
    ((deregister agent).after p).assignedTasks id =
      if id = agent then ∅ else p.assignedTasks id := by
  cases ha : p.agents.find? agent with
  | none =>
      have hrefused : (deregister agent).outcome p = .error (.agentNotFound agent) := by
        simp only [outcome, Pool.deregister, ha]
        rfl
      rw [after_of_error hrefused]
      split
      · next hid =>
        rw [hid, Pool.assignedTasks, ha]
        rfl
      · rfl
  | some a =>
      have hremoved : ((deregister agent).after p).agents = p.agents.erase agent := by
        rw [after_of_ok (by simp only [outcome, Pool.deregister, ha]; rfl)]
      rw [Pool.assignedTasks, hremoved, NameMap.find?_erase]
      split <;> rfl

end PoolCall

/-! ## Leases -/

/-- What a client holds after an accepted assignment, until it makes the release. -/
structure Lease where
  client : Nat
  agent : AgentId
  task : TaskId
  deriving DecidableEq

/-- All that the pool knows of a lease. -/
def Lease.pair (l : Lease) : AgentId × TaskId := (l.agent, l.task)

/-- The call that ends a lease. -/
def Lease.ending (l : Lease) : PoolCall := .release l.agent l.task

/-- **A shared pool** with the leases that its clients hold. -/
structure Sharing where
  pool : Pool := .empty
  /-- Leases on agents that stayed registered. -/
  live : List Lease := []
  /-- Leases on agents that were removed since. They will be released like the others. -/
  orphaned : List Lease := []

namespace Sharing

variable {σ σ' : Sharing} {l : Lease}

/-- **What can happen next**, in any order and by any client: a lease is granted or ended, or an agent
    comes or goes. A refused request leaves everything as it is and is no move. -/
inductive Move (σ : Sharing) : Sharing → Prop
  | acquire (client : Nat) {agent : AgentId} {task : TaskId} {q : Pool}
      (h : σ.pool.assign agent task = .ok q) :
      Move σ { σ with pool := q, live := ⟨client, agent, task⟩ :: σ.live }
  /-- The client is done with its lease, whatever the pool answers. -/
  | release {l : Lease} (h : l ∈ σ.live) :
      Move σ { σ with pool := l.ending.after σ.pool, live := σ.live.erase l }
  | releaseOrphaned {l : Lease} (h : l ∈ σ.orphaned) :
      Move σ { σ with pool := l.ending.after σ.pool, orphaned := σ.orphaned.erase l }
  | register (spec : AgentSpec) : Move σ { σ with pool := (PoolCall.register spec).after σ.pool }
  | deregister (agent : AgentId) : Move σ {
      pool := (PoolCall.deregister agent).after σ.pool
      live := σ.live.filter (·.agent ≠ agent)
      orphaned := σ.live.filter (·.agent = agent) ++ σ.orphaned }

/-- The live leases on an agent. -/
def leasesOn (σ : Sharing) (agent : AgentId) : List Lease := σ.live.filter (·.agent = agent)

/-- No two clients have to release the same pair. -/
def Distinct (σ : Sharing) : Prop := ((σ.live ++ σ.orphaned).map Lease.pair).Nodup

instance (σ : Sharing) : Decidable σ.Distinct :=
  inferInstanceAs (Decidable ((σ.live ++ σ.orphaned).map Lease.pair).Nodup)

/-- A move after which no pair is out twice. -/
def DistinctMove (σ σ' : Sharing) : Prop := σ.Move σ' ∧ σ'.Distinct

/-- **Pool and clients agree**: what is assigned is what live leases are for. -/
structure Agreeing (σ : Sharing) : Prop where
  within : σ.pool.WithinCapacity
  distinct : σ.Distinct
  assigned : ∀ agent task,
    task ∈ σ.pool.assignedTasks agent ↔ (agent, task) ∈ σ.live.map Lease.pair

theorem Move.within (h : σ.Move σ') (hwithin : σ.pool.WithinCapacity) : σ'.pool.WithinCapacity := by
  cases h with
  | acquire client h => exact hwithin.change (Pool.change_of_assign h)
  | _ => exact hwithin.change (PoolCall.change_after _ _)

/-- A pair whose only lease is taken off a list is not on it any more. -/
theorem pair_mem_erase {ls : List Lease} (hnodup : (ls.map Lease.pair).Nodup) (hl : l ∈ ls)
    (x : AgentId × TaskId) :
    x ∈ (ls.erase l).map Lease.pair ↔ x ∈ ls.map Lease.pair ∧ x ≠ l.pair := by
  have hperm : (ls.map Lease.pair).Perm (l.pair :: (ls.erase l).map Lease.pair) :=
    (List.perm_cons_erase hl).map Lease.pair
  have hnew : l.pair ∉ (ls.erase l).map Lease.pair :=
    (List.nodup_cons.mp (hperm.nodup_iff.mp hnodup)).1
  rw [hperm.mem_iff, List.mem_cons]
  constructor
  · intro hx
    exact ⟨Or.inr hx, fun heq => hnew (heq ▸ hx)⟩
  · rintro ⟨heq | hx, hne⟩
    · exact absurd heq hne
    · exact hx

theorem mem_map_pair {ls : List Lease} :
    (agent, task) ∈ ls.map Lease.pair ↔ ∃ l ∈ ls, l.agent = agent ∧ l.task = task := by
  simp [Lease.pair]

namespace Agreeing

/-- **Every move that grants only pairs that are not out** keeps pool and clients in agreement. -/
theorem move (h : σ.Agreeing) (hmove : σ.DistinctMove σ') : σ'.Agreeing := by
  obtain ⟨hmove, hdistinct⟩ := hmove
  refine ⟨hmove.within h.within, hdistinct, ?_⟩
  have hnodup := h.distinct
  rw [Distinct, List.map_append, List.nodup_append] at hnodup
  obtain ⟨hlive, -, hapart⟩ := hnodup
  intro id u
  cases hmove with
  | acquire client hgrant =>
      -- whether the pool has noted the pair or had it already, it is assigned now
      rw [Pool.mem_assignedTasks_of_assign hgrant, h.assigned]
      simp [Lease.pair]
  | release hl =>
      rw [pair_mem_erase hlive hl, Lease.ending, PoolCall.mem_assignedTasks_after_release, h.assigned]
      simp [Lease.pair]
  | releaseOrphaned hl =>
      -- the pair of an orphaned lease is not assigned, so nothing is released
      rw [Lease.ending, PoolCall.mem_assignedTasks_after_release, h.assigned]
      refine and_iff_left_of_imp ?_
      rintro hmem ⟨rfl, rfl⟩
      exact hapart _ hmem _ (List.mem_map_of_mem hl) rfl
  | register spec => rw [PoolCall.assignedTasks_after_register, h.assigned]
  | deregister agent =>
      -- the agent leaves with its tasks, and the leases on it are live no more
      rw [PoolCall.assignedTasks_after_deregister]
      split
      · next hid =>
        subst hid
        refine iff_of_false NameSet.not_mem_empty ?_
        rw [mem_map_pair]
        rintro ⟨l, hl, rfl, -⟩
        simp at hl
      · next hid =>
        rw [h.assigned, mem_map_pair, mem_map_pair]
        refine exists_congr fun l => ?_
        constructor
        · rintro ⟨hl, rfl, rfl⟩
          exact ⟨List.mem_filter.mpr ⟨hl, by simpa using hid⟩, rfl, rfl⟩
        · rintro ⟨hl, hsame⟩
          exact ⟨(List.mem_filter.mp hl).1, hsame⟩

theorem empty : Agreeing {} :=
  ⟨Pool.WithinCapacity.afterCalls [], List.nodup_nil, fun agent task => by
    simp [Pool.assignedTasks, Pool.empty, EmptyCollection.emptyCollection]⟩

/-- All along a history in which no pair is out twice, pool and clients agree. -/
theorem reached (h : ReflTransGen DistinctMove {} σ) : σ.Agreeing := by
  induction h with
  | refl => exact empty
  | tail _ hmove ih => exact ih.move hmove

/-- The live leases on an agent are as many as its tasks. -/
theorem length_leasesOn {a : Agent} (h : σ.Agreeing) (ha : σ.pool.agents.find? agent = some a) :
    (σ.leasesOn agent).length = a.load := by
  have hlive : (σ.live.map Lease.pair).Nodup := by
    have hnodup := h.distinct
    rw [Distinct, List.map_append] at hnodup
    exact (List.nodup_append.mp hnodup).1
  -- on one agent, leases of different pairs are leases of different tasks
  have htasks : ((σ.leasesOn agent).map Lease.task).Nodup := by
    refine List.pairwise_map.mpr ?_
    refine ((List.pairwise_map.mp hlive).filter _).imp_of_mem fun {l l'} hl hl' hne => ?_
    have hagent : l.agent = agent := by simpa using (List.mem_filter.mp hl).2
    have hagent' : l'.agent = agent := by simpa using (List.mem_filter.mp hl').2
    intro heq
    exact hne (Prod.ext (hagent.trans hagent'.symm) heq)
  have hperm : ((σ.leasesOn agent).map Lease.task).Perm a.assigned.toList := by
    refine (List.perm_ext_iff_of_nodup htasks a.assigned.nodup).mpr fun u => ?_
    rw [← NameSet.mem_def, ← Pool.assignedTasks_of_find? ha, h.assigned, mem_map_pair, List.mem_map]
    simp [leasesOn, and_assoc]
  rw [← List.length_map Lease.task]
  exact hperm.length_eq

end Agreeing

/-- **Leases never oversubscribe an agent, unless one assignment is granted twice.** Let any number of
    clients interleave in any order, with agents that come and go, such that no pair of an agent and a
    task is granted while a client still has to release it. Then at every moment the live leases on each
    registered agent are at most its capacity, and the release of each of them is accepted. The
    condition is needed at every moment: a pair that is held is granted to everyone who asks, without a
    change of the pool, and of the two releases that are due then the second one is refused. -/
theorem leases_fit_while_distinct (h : ReflTransGen DistinctMove {} σ) :
    (∀ agent a, σ.pool.agents.find? agent = some a →
      (σ.leasesOn agent).length ≤ a.spec.capacity) ∧
    ∀ l ∈ σ.live, ∃ q, σ.pool.release l.agent l.task = .ok q ∧
      σ.pool.assign l.agent l.task = .ok σ.pool ∧
      q.release l.agent l.task = .error (.notAssigned l.agent l.task) := by
  have hagree := Agreeing.reached h
  refine ⟨fun agent a ha => ?_, fun l hl => ?_⟩
  · rw [hagree.length_leasesOn ha]
    exact hagree.within agent a ha
  · have hmem := (hagree.assigned l.agent l.task).mpr (List.mem_map_of_mem hl)
    obtain ⟨a, ha, htask⟩ := Pool.exists_of_mem_assignedTasks hmem
    refine ⟨_, Pool.release_of_mem ha htask, Pool.assign_of_mem ha htask, ?_⟩
    refine Pool.release_of_not_mem ⟨_, NameMap.find?_insert_self _ _ _⟩ ?_
    rw [Pool.assignedTasks_of_insert rfl, if_pos rfl]
    exact fun hmem => (NameSet.mem_erase.mp hmem).2 rfl

/-! ## Two tasks at a desk -/

/-- A pool with one agent. -/
def office (capacity : Nat) : Sharing where
  pool := Pool.empty.afterCalls [.register { id := "desk", capacity }]

/-- The first of two clients has a task at the desk. -/
def oneTask (capacity : Nat) : Sharing where
  pool := (office capacity).pool.afterCalls [.assign "desk" "build"]
  live := [⟨1, "desk", "build"⟩]

/-- A desk for two, with another task of the second client at it. -/
def twoTasks : Sharing where
  pool := (oneTask 2).pool.afterCalls [.assign "desk" "test"]
  live := [⟨2, "desk", "test"⟩, ⟨1, "desk", "build"⟩]

theorem leases_fit_while_distinct_twoTasks : ReflTransGen DistinctMove {} twoTasks ∧
    (twoTasks.leasesOn "desk").length ≤ 2 ∧
      ∃ q, twoTasks.pool.release "desk" "build" = .ok q := by
  have hopened : DistinctMove {} (office 2) := ⟨.register _, by decide⟩
  have hfirst : DistinctMove (office 2) (oneTask 2) := ⟨.acquire 1 rfl, by decide⟩
  have hsecond : DistinctMove (oneTask 2) twoTasks := ⟨.acquire 2 rfl, by decide⟩
  have hreached := ((ReflTransGen.single hopened).tail hfirst).tail hsecond
  obtain ⟨hfit, hrelease⟩ := leases_fit_while_distinct hreached
  obtain ⟨q, hq, -⟩ := hrelease ⟨1, "desk", "build"⟩ (by decide)
  exact ⟨hreached, hfit "desk" _ rfl, q, hq⟩

/-! ## One task of two clients -/

/-- A desk for one, with a task of the same id of both clients at it. -/
def sameTask : Sharing where
  pool := (oneTask 1).pool
  live := [⟨2, "desk", "build"⟩, ⟨1, "desk", "build"⟩]

/-- The first client has left the desk. -/
def firstLeft : Sharing where
  pool := (oneTask 1).pool.afterCalls [.release "desk" "build"]
  live := [⟨2, "desk", "build"⟩]

/-- **Leases of clients whose tasks have the same id can exceed a capacity.** Both hold the only place of
    an agent, and after one of them has left, the release of the other one is refused. -/
theorem leases_exceed_capacity :
    (ReflTransGen Move {} sameTask ∧ ∃ a, sameTask.pool.agents.find? "desk" = some a ∧
      a.spec.capacity < (sameTask.leasesOn "desk").length) ∧
    ReflTransGen Move {} firstLeft ∧ ∃ l ∈ firstLeft.live,
      firstLeft.pool.release l.agent l.task = .error (.notAssigned l.agent l.task) := by
  have hopened : Move {} (office 1) := .register _
  have hfirst : Move (office 1) (oneTask 1) := .acquire 1 rfl
  have hsecond : Move (oneTask 1) sameTask := .acquire 2 rfl
  have hleft : Move sameTask firstLeft := .release (l := ⟨1, "desk", "build"⟩) (by decide)
  have hreached := ((ReflTransGen.single hopened).tail hfirst).tail hsecond
  exact ⟨⟨hreached, _, rfl, by decide⟩, hreached.tail hleft, ⟨2, "desk", "build"⟩, by decide, rfl⟩

end Sharing
end Foreman
