import Foreman.Proofs.Pool.Index
import Foreman.Proofs.Pool.Lent

/-!
# `Foreman.Proofs.Pool.Idle` — a pool once everything has been released

A pool that cannot serve a task now may serve it later, when other tasks have been released, without any
agent coming or going. A pool at work is an idle pool with its assignments lent out (`lent_idle`), so
they can all be released, in any order, and what is left is the idle pool (`foldlM_release_eq_idle`).

`canSatisfy` looks at the agents alone, so its answer is the same before and after. It says that a task
could be served some day, unless every agent that covers the task has room for no task at all
(`Pool.OnlyWithoutRoom`): such an agent is never busy and never free.
-/

namespace Foreman
namespace Pool

variable {p : Pool} {r : Requirements} {agent : AgentId} {task : TaskId}

/-! ## Assignments -/

/-- All assignments of a pool: each agent with each of its tasks. -/
def assignments (p : Pool) : List (AgentId × TaskId) :=
  p.agents.entries.flatMap fun e => e.2.assigned.toList.map fun task => (e.1, task)

theorem mem_assignments : (agent, task) ∈ p.assignments ↔ task ∈ p.assignedTasks agent := by
  unfold assignments
  rw [List.mem_flatMap]
  constructor
  · rintro ⟨⟨id, a⟩, he, hmem⟩
    obtain ⟨u, hu, heq⟩ := List.mem_map.mp hmem
    obtain ⟨rfl, rfl⟩ := Prod.mk.inj heq
    rw [assignedTasks_of_find? (NameMap.mem_entries_iff.mp he)]
    exact hu
  · intro htask
    obtain ⟨a, ha, hmem⟩ := exists_of_mem_assignedTasks htask
    exact ⟨(agent, a), NameMap.mem_entries_iff.mpr ha, List.mem_map.mpr ⟨task, hmem, rfl⟩⟩

theorem nodup_assignments (p : Pool) : p.assignments.Nodup := by
  refine List.nodup_flatMap.mpr ⟨fun e _ => ?_, ?_⟩
  · exact (NameSet.nodup e.2.assigned).map fun _ _ h => (Prod.mk.inj h).2
  · refine List.Pairwise.imp ?_ (List.pairwise_map.mp p.agents.nodup_keys)
    intro e e' hne pair hpair hpair'
    obtain ⟨_, _, rfl⟩ := List.mem_map.mp hpair
    obtain ⟨_, _, heq⟩ := List.mem_map.mp hpair'
    exact hne (Prod.mk.inj heq).1.symm

/-! ## The idle pool -/

/-- The pool with everything released: the same agents without tasks, and all that they had counted as
    released. -/
def idle (p : Pool) : Pool :=
  { p with
    agents := p.agents.mapValues fun a => { a with assigned := ∅ }
    releasedTotal := p.releasedTotal + p.totalLoad }

theorem find?_agents_idle (p : Pool) (id : AgentId) :
    p.idle.agents.find? id = (p.agents.find? id).map fun a => { a with assigned := ∅ } :=
  NameMap.find?_mapValues _ _ _

theorem specs_idle (p : Pool) : p.idle.specs = p.specs := by
  refine NameMap.ext_find? fun id => ?_
  rw [find?_specs, find?_specs, find?_agents_idle, Option.map_map]
  rfl

theorem assignedTasks_idle (p : Pool) (id : AgentId) : p.idle.assignedTasks id = ∅ := by
  unfold assignedTasks
  rw [find?_agents_idle]
  cases p.agents.find? id <;> rfl

theorem totalLoad_idle (p : Pool) : p.idle.totalLoad = 0 := by
  unfold totalLoad idle
  rw [NameMap.values_mapValues, sumOf_map]
  exact sumOf_eq_zero fun _ _ => rfl

/-- **A pool at work is an idle pool with its assignments lent out.** -/
theorem lent_idle (p : Pool) : Lent p.idle p.assignments p where
  specs := p.specs_idle.symm
  index := rfl
  assigned agent task := by
    rw [assignedTasks_idle, mem_assignments]
    exact (or_iff_right NameSet.not_mem_empty).symm
  balance := by
    rw [totalLoad_idle, Nat.add_zero]
    rfl
  grown := Nat.le_refl _

/-! ## Releasing everything -/

/-- What is lent out can be released one after another; nothing else is assigned meanwhile. -/
theorem Lent.exists_released {before : Pool} (hbefore : ∀ agent, before.assignedTasks agent = ∅)
    (held : List (AgentId × TaskId)) (hnodup : held.Nodup) (h : Lent before held p) :
    ∃ q, held.foldlM (fun p e => p.release e.1 e.2) p = .ok q ∧ Lent before [] q ∧
      q.assignedTotal = p.assignedTotal := by
  induction held generalizing p with
  | nil => exact ⟨p, rfl, h, rfl⟩
  | cons e held ih =>
      obtain ⟨hnew, hnodup⟩ := List.nodup_cons.mp hnodup
      have hfree : e.2 ∉ before.assignedTasks e.1 := by
        rw [hbefore]
        exact NameSet.not_mem_empty
      obtain ⟨next, hnext, hlent⟩ := h.release hfree hnew
      obtain ⟨q, hq, hback, htotal⟩ := ih hnodup hlent
      have hcounter : next.assignedTotal = p.assignedTotal := by
        obtain ⟨a, ha, hmem⟩ := exists_of_mem_assignedTasks ((h.assigned e.1 e.2).mpr (by simp))
        rw [release_of_mem ha hmem] at hnext
        cases hnext
        rfl
      refine ⟨q, ?_, hback, htotal.trans hcounter⟩
      rw [List.foldlM_cons, hnext]
      exact hq

/-- **Everything can be released**, whatever the order, and leaves the idle pool. -/
theorem foldlM_release_eq_idle {releases : List (AgentId × TaskId)}
    (hreleases : releases.Perm p.assignments) :
    releases.foldlM (fun p e => p.release e.1 e.2) p = .ok p.idle := by
  have hlent : Lent p.idle releases p := p.lent_idle.congr fun _ => hreleases.mem_iff
  have hnodup : releases.Nodup := hreleases.nodup_iff.mpr p.nodup_assignments
  obtain ⟨⟨agents, index, assigned, released⟩, hq, hback, htotal⟩ :=
    hlent.exists_released p.assignedTasks_idle releases hnodup
  obtain ⟨n, hassigned, hreleased⟩ := hback.exists_counted
  -- no assignment was counted meanwhile, so nothing was counted beyond what was at work before
  obtain rfl : n = 0 := by
    have hidle : p.idle.assignedTotal = p.assignedTotal := rfl
    omega
  obtain rfl : agents = p.idle.agents := hback.agents_eq
  obtain rfl : index = p.idle.byCapability := hback.index
  obtain rfl : assigned = p.idle.assignedTotal := hassigned
  obtain rfl : released = p.idle.releasedTotal := hreleased
  exact hq

/-! ## Some day -/

/-- Some agent covers the requirements, but none of those that do has room for a task at all. -/
structure OnlyWithoutRoom (p : Pool) (r : Requirements) : Prop where
  covered : ∃ id a, p.agents.find? id = some a ∧ a.spec.Covers r
  capacity : ∀ id a, p.agents.find? id = some a → a.spec.Covers r → a.spec.capacity = 0

/-- An idle pool finds an agent just if one that covers the requirements has room at all. -/
theorem Indexed.findSuitable_idle_isSome_iff (h : p.Indexed) :
    (p.idle.findSuitable r).isSome = true ↔
      ∃ id a, p.agents.find? id = some a ∧ a.spec.Covers r ∧ 0 < a.spec.capacity := by
  have hidle : p.idle.Indexed := h.congr p.specs_idle rfl
  rw [← Option.ne_none_iff_isSome, ne_eq, hidle.findSuitable_eq_none_iff]
  push Not
  constructor
  · rintro ⟨b, hb⟩
    have hfind := hb.registered
    rw [find?_agents_idle, Option.map_eq_some_iff] at hfind
    obtain ⟨a, ha, rfl⟩ := hfind
    exact ⟨a.spec.id, a, ha, hb.covers, hb.room⟩
  · rintro ⟨id, a, ha, hcovers, hroom⟩
    have hid : a.spec.id = id := h.keyed_agent ha
    refine ⟨{ a with assigned := ∅ }, ⟨?_, hcovers, hroom⟩⟩
    rw [find?_agents_idle, hid, ha]
    rfl

/-- **`canSatisfy` says that a task could be served some day, unless only agents without room cover
    it.** After any calls, all assignments of the pool can be released, in any order, and what is left
    has the same agents and no task. It then finds an agent for a task that could be satisfied before,
    or some agent covers the task but each of those that do has a capacity of zero; never both. -/
theorem canSatisfy_means_some_day (calls : List PoolCall) {releases : List (AgentId × TaskId)}
    (hreleases : releases.Perm (empty.afterCalls calls).assignments) (r : Requirements) :
    let p := empty.afterCalls calls
    ∃ q, releases.foldlM (fun p e => p.release e.1 e.2) p = .ok q ∧
      q.specs = p.specs ∧ (∀ id, q.assignedTasks id = ∅) ∧
      (p.canSatisfy r = true ↔ (q.findSuitable r).isSome = true ∨ p.OnlyWithoutRoom r) ∧
      ¬ ((q.findSuitable r).isSome = true ∧ p.OnlyWithoutRoom r) := by
  intro p
  have hindexed : p.Indexed := Indexed.afterCalls calls
  refine ⟨p.idle, foldlM_release_eq_idle hreleases, p.specs_idle, p.assignedTasks_idle, ?_, ?_⟩
  · rw [hindexed.canSatisfy_iff, hindexed.findSuitable_idle_isSome_iff]
    constructor
    · intro hcovered
      by_cases hroom : ∃ id a, p.agents.find? id = some a ∧ a.spec.Covers r ∧ 0 < a.spec.capacity
      · exact Or.inl hroom
      · refine Or.inr ⟨hcovered, fun id a ha hcovers => ?_⟩
        by_contra hpos
        exact hroom ⟨id, a, ha, hcovers, Nat.pos_of_ne_zero hpos⟩
    · rintro (⟨id, a, ha, hcovers, -⟩ | hnone)
      · exact ⟨id, a, ha, hcovers⟩
      · exact hnone.covered
  · rintro ⟨hsome, hnone⟩
    obtain ⟨id, a, ha, hcovers, hroom⟩ := hindexed.findSuitable_idle_isSome_iff.mp hsome
    exact Nat.ne_of_gt hroom (hnone.capacity id a ha hcovers)

/-- A pool whose only coder is busy, and one that registered as a coder without taking any task. -/
def busyCoder : List PoolCall :=
  [.register { id := "ada", capabilities := .ofList ["code"] },
    .register { id := "sign", capabilities := .ofList ["code"], capacity := 0 },
    .assign "ada" "build"]

theorem canSatisfy_means_some_day_busyCoder :
    (empty.afterCalls busyCoder).findSuitable ⟨.ofList ["code"], false⟩ = none ∧
      [("ada", "build")].Perm (empty.afterCalls busyCoder).assignments ∧
      ∃ q, [("ada", "build")].foldlM (fun p e => p.release e.1 e.2) (empty.afterCalls busyCoder) = .ok q ∧
        (q.findSuitable ⟨.ofList ["code"], false⟩).isSome = true := by
  have hreleases : [("ada", "build")].Perm (empty.afterCalls busyCoder).assignments := by decide
  obtain ⟨q, hq, -, -, hsatisfy, -⟩ :=
    canSatisfy_means_some_day busyCoder hreleases ⟨.ofList ["code"], false⟩
  refine ⟨by decide, hreleases, q, hq, (hsatisfy.mp (by decide)).resolve_right fun hnone => ?_⟩
  -- ada has room for one task
  have hcapacity := hnone.capacity "ada" _ rfl ⟨by decide, by decide⟩
  exact absurd hcapacity (by decide)

/-- **An agent without room makes a task look possible that can never be served**: nothing is assigned,
    so there is nothing to wait for, and still no agent is found. -/
theorem canSatisfy_without_room :
    let p := empty.afterCalls [.register { id := "sign", capabilities := .ofList ["code"], capacity := 0 }]
    p.assignments = [] ∧ p.canSatisfy ⟨.ofList ["code"], false⟩ = true ∧
      p.findSuitable ⟨.ofList ["code"], false⟩ = none := by
  decide

end Pool
end Foreman
