import Foreman.Proofs.Pool.Calls

/-!
# `Foreman.Proofs.Pool.Accounts` — capacities, counters and statistics

Every assignment that a pool has ever counted was released, is still there, or was forgotten with its
agent. One equation says what each change does to the two counters and to the load; the account of a
pool after any calls is its sum. No agent is given more than its capacity, so the statistics divide the
agents into idle, busy and saturated ones, and no more is assigned than the capacities allow.

## Contents
- `Pool.Change.balance`: counters and load before and after a change.
- **`Pool.forgottenBy`** with `Pool.balance_afterCalls`: the account after any calls.
- **`Pool.WithinCapacity`** with `WithinCapacity.change`: no agent has more than it can take.
- `Pool.statistics_eq_ok`: what the statistics report then.
- **`Pool.accounts_are_kept`**.
-/

namespace Foreman

namespace Agent

variable {a : Agent} {task : TaskId}

theorem load_assigned (h : task ∉ a.assigned) :
    load { a with assigned := a.assigned.insert task } = a.load + 1 := NameSet.size_insert h

theorem load_released (h : task ∈ a.assigned) :
    load { a with assigned := a.assigned.erase task } + 1 = a.load := NameSet.size_erase h

end Agent

namespace Pool

variable {p q : Pool} {n : Nat}

/-! ## The balance of counters and load -/

/-- How many tasks the agents are working on. -/
def totalLoad (p : Pool) : Nat := sumOf Agent.load p.agents.values

/-- **A change keeps the balance**: what is newly counted as assigned was added to the load, counted as
    released, or forgotten. -/
theorem Change.balance (h : p.Change n q) :
    q.assignedTotal + (p.releasedTotal + p.totalLoad) =
      p.assignedTotal + (q.releasedTotal + q.totalLoad + n) := by
  cases h with
  | kept => rfl
  | registered hnew =>
      -- an agent starts without a task, and there was none under its id
      simp only [totalLoad, NameMap.sumOf_values_insert, NameMap.erase_of_find?_eq_none hnew]
      simp [Agent.load, NameSet.size, EmptyCollection.emptyCollection, NameSet.empty]
  | deregistered ha =>
      simp only [totalLoad, NameMap.sumOf_values_erase _ ha]
      omega
  | assigned ha htask =>
      simp only [totalLoad, NameMap.sumOf_values_erase _ ha, NameMap.sumOf_values_insert,
        Agent.load_assigned htask]
      omega
  | released ha htask =>
      have hload := Agent.load_released htask
      simp only [totalLoad, NameMap.sumOf_values_erase _ ha, NameMap.sumOf_values_insert]
      omega

/-- How many assignments a number of calls forget, with each agent that they remove. -/
def forgottenBy : List PoolCall → Pool → Nat
  | [], _ => 0
  | c :: calls, p => c.forgotten p + forgottenBy calls (c.after p)

theorem balance_afterCalls (calls : List PoolCall) (p : Pool) :
    (p.afterCalls calls).assignedTotal + (p.releasedTotal + p.totalLoad) =
      p.assignedTotal + ((p.afterCalls calls).releasedTotal + (p.afterCalls calls).totalLoad +
        forgottenBy calls p) := by
  induction calls generalizing p with
  | nil => rfl
  | cons c calls ih =>
      have hstep := (c.change_after p).balance
      have hrest := ih (c.after p)
      have hcons : p.afterCalls (c :: calls) = (c.after p).afterCalls calls := rfl
      rw [hcons, forgottenBy]
      omega

/-! ## Capacities -/

/-- No agent works on more than it can take. -/
def WithinCapacity (p : Pool) : Prop :=
  ∀ id a, p.agents.find? id = some a → a.load ≤ a.spec.capacity

namespace WithinCapacity

/-- Only the agent that a change stores needs a look. -/
theorem insert {agents : NameMap Agent} {agent : AgentId} {a : Agent}
    (h : ∀ id a, agents.find? id = some a → a.load ≤ a.spec.capacity)
    (ha : a.load ≤ a.spec.capacity) :
    ∀ id a', (agents.insert agent a).find? id = some a' → a'.load ≤ a'.spec.capacity := by
  intro id a' hfind
  rw [NameMap.find?_insert] at hfind
  split at hfind
  · cases hfind; exact ha
  · exact h id a' hfind

theorem change (h : p.WithinCapacity) (hchange : p.Change n q) : q.WithinCapacity := by
  cases hchange with
  | kept => exact h
  | registered hnew => exact insert h (Nat.zero_le _)
  | deregistered ha =>
      intro id a hfind
      rw [NameMap.find?_erase] at hfind
      split at hfind
      · cases hfind
      · exact h id a hfind
  | assigned ha htask hroom =>
      have hmore := Nat.le_of_eq (Agent.load_assigned htask)
      exact insert h (Nat.le_trans hmore hroom)
  | released ha htask =>
      have hless := Nat.le_of_succ_le (Nat.le_of_eq (Agent.load_released htask))
      exact insert h (Nat.le_trans hless (h _ _ ha))

theorem afterCalls (calls : List PoolCall) : (Pool.empty.afterCalls calls).WithinCapacity :=
  afterCalls_invariant change calls fun _ _ h => by cases h

theorem load_le (h : p.WithinCapacity) {a : Agent} (ha : a ∈ p.agents.values) :
    a.load ≤ a.spec.capacity := by
  obtain ⟨⟨id, a'⟩, he, rfl⟩ := List.mem_map.mp ha
  exact h id a' (NameMap.mem_entries_iff.mp he)

end WithinCapacity

/-! ## Statistics -/

/-- Every agent is idle, busy or saturated, and just one of the three. -/
theorem countP_buckets (agents : List Agent) :
    agents.countP (fun a => a.load = 0) + agents.countP (fun a => a.load ≠ 0 && a.hasCapacity) +
      agents.countP (fun a => a.load ≠ 0 && !a.hasCapacity) = agents.length := by
  simp only [ne_eq, decide_not]
  induction agents with
  | nil => rfl
  | cons a agents ih =>
      simp only [List.countP_cons, List.length_cons]
      by_cases hidle : a.load = 0
      · simp [hidle]; omega
      · cases hroom : a.hasCapacity <;> simp [hidle] <;> omega

theorem statistics_eq_ok (h : p.WithinCapacity)
    (hfit : sumOf (fun a => a.spec.capacity) p.agents.values < 2 ^ 64) :
    ∃ s, p.statistics = .ok s ∧
      s.idleAgents + s.busyAgents + s.saturatedAgents = s.totalAgents ∧
      s.activeAssignments ≤ s.totalCapacity := by
  refine ⟨_, if_neg (Nat.not_le.mpr hfit), countP_buckets _, ?_⟩
  exact sumOf_le_sumOf fun a ha => h.load_le ha

/-! ## The accounts of a pool -/

/-- **After any calls, the accounts of a pool are kept.** No agent has more tasks than it can take;
    every assignment counted so far was released, is still there, or was forgotten when its agent was
    removed; the statistics, if the capacities do not overflow, divide the agents by their load and show
    no more assignments than there is capacity. An assignment that is there already is confirmed and
    changes nothing, and a call that is refused leaves the table, the index and the counters as they
    were. -/
theorem accounts_are_kept (calls : List PoolCall) :
    let p := Pool.empty.afterCalls calls
    (∀ id a, p.agents.find? id = some a → a.assigned.size ≤ a.spec.capacity) ∧
    p.assignedTotal = p.releasedTotal + sumOf (fun a => a.assigned.size) p.agents.values +
      forgottenBy calls Pool.empty ∧
    (sumOf (fun a => a.spec.capacity) p.agents.values < 2 ^ 64 → ∃ s, p.statistics = .ok s ∧
      s.idleAgents + s.busyAgents + s.saturatedAgents = s.totalAgents ∧
      s.activeAssignments ≤ s.totalCapacity) ∧
    (∀ agent task a, p.agents.find? agent = some a → task ∈ a.assigned →
      (PoolCall.assign agent task).perform.run p = (.ok (), p)) ∧
    ∀ (c : PoolCall) e, (c.perform.run p).1 = .error e → (c.perform.run p).2 = p := by
  have hwithin := WithinCapacity.afterCalls calls
  refine ⟨hwithin, ?_, statistics_eq_ok hwithin, fun agent task a ha htask => ?_,
    fun c e => PoolCall.snd_run_perform_of_error⟩
  · exact (balance_afterCalls calls Pool.empty).trans (Nat.zero_add _)
  · rw [PoolCall.run_perform, PoolCall.outcome, assign_of_mem ha htask]

/-- An agent that goes while it works on a task, and one that never takes any. -/
def departure : List PoolCall :=
  [.register { id := "ada", capacity := 2 }, .register { id := "idle", capacity := 0 },
    .assign "ada" "build", .assign "ada" "test", .assign "ada" "build", .assign "idle" "build",
    .release "ada" "build", .deregister "ada"]

theorem accounts_are_kept_departure :
    (Pool.empty.afterCalls departure).assignedTotal = 1 + 0 + 1 ∧
      ∃ s, (Pool.empty.afterCalls departure).statistics = .ok s ∧
        s.idleAgents + s.busyAgents + s.saturatedAgents = s.totalAgents ∧
        s.activeAssignments ≤ s.totalCapacity := by
  obtain ⟨-, haccount, hstatistics, -⟩ := accounts_are_kept departure
  exact ⟨haccount.trans (by decide), hstatistics (by decide)⟩

end Pool
end Foreman
