import Foreman.Proofs.Budget
import Foreman.Proofs.Depths
import Foreman.Proofs.Run.Requests

/-!
# `Foreman.Proofs.Run.AgentChoice` — which agents a schedule names

A schedule asks the pool for one task after another, level by level. Since nothing is reserved, every
question is answered as if it were the only one, so an allocation is a function of single tasks: each gets
the agent with the least load, and of these the one with the least id. There is no schedule just if some
task cannot be served; then the first such task is reported, in the order of the levels.

That order is the one of depths and, for tasks of the same depth, of declarations (`LevelBefore`), and the
tasks of the levels stand in it (`ByDepth.pairwise_tasksOf`).

## Contents
- **`Pool.LeastSuitable`**: the agent that an allocation names for a task.
- **`Workflow.LevelBefore`**, **`Workflow.FirstWithout`**: the task that a refusal names.
- **`Allots`**, **`Refuses`** and `Request.schedule_picks_least_agents`.
-/

namespace Foreman

open Workflow

variable {w : Workflow} {p : Pool} {r : Requirements} {k : Task} {t u : TaskId} {agent : AgentId}
  {levels : List Level} {mode : ExecutionMode}

/-! ## Agents for single tasks -/

/-- **The agent with the least load and id** of those that cover the requirements and have spare
    capacity. -/
structure Pool.LeastSuitable (p : Pool) (r : Requirements) (a : Agent) : Prop where
  suitable : p.Suitable r a
  precedes : ∀ b, p.Suitable r b → b ≠ a → a.Precedes b

theorem agentFor_eq_some_iff (hindexed : p.Indexed) (hk : w.task? t = some k) :
    agentFor w p t = some agent ↔ ∃ a, p.LeastSuitable k.requirements a ∧ a.spec.id = agent := by
  rw [agentFor, hk, Option.bind_some, Option.map_eq_some_iff]
  constructor
  · rintro ⟨view, hview, rfl⟩
    obtain ⟨a, ha, hleast, rfl⟩ := hindexed.findSuitable_eq_some_iff.mp hview
    exact ⟨a, ⟨ha, hleast⟩, rfl⟩
  · rintro ⟨a, ⟨ha, hleast⟩, rfl⟩
    exact ⟨_, hindexed.findSuitable_eq_some_iff.mpr ⟨a, ha, hleast, rfl⟩, rfl⟩

theorem agentFor_eq_none_iff (hindexed : p.Indexed) (hk : w.task? t = some k) :
    agentFor w p t = none ↔ ∀ a, ¬ p.Suitable k.requirements a := by
  rw [agentFor, hk, Option.bind_some, Option.map_eq_none_iff, hindexed.findSuitable_eq_none_iff]

/-! ## The order of levels -/

/-- **One task before another in the order of levels**: it is less deep, or as deep and declared
    first. -/
def Workflow.LevelBefore (w : Workflow) (t u : TaskId) : Prop :=
  ∃ m n, w.Depth t m ∧ w.Depth u n ∧
    (m < n ∨ m = n ∧ w.taskIds.idxOf t < w.taskIds.idxOf u)

/-- **The tasks of levels stand in their order.** -/
theorem ByDepth.pairwise_tasksOf (h : ByDepth w mode levels) :
    (tasksOf levels).Pairwise w.LevelBefore := by
  have hascending : levels.Pairwise fun a b => a.index < b.index := by
    rw [← List.pairwise_map (f := Level.index) (R := (· < ·)), h.indices]
    exact List.pairwise_lt_range
  refine List.pairwise_flatMap.mpr ⟨fun level hlevel => ?_, ?_⟩
  · refine (h.declaration level hlevel).imp_of_mem fun {a b} ha hb hlt => ?_
    exact ⟨_, _, (h.mem_iff level hlevel a).mp ha, (h.mem_iff level hlevel b).mp hb, Or.inr ⟨rfl, hlt⟩⟩
  · refine hascending.imp_of_mem fun {x y} hx hy hlt a ha b hb => ?_
    exact ⟨_, _, (h.mem_iff x hx a).mp ha, (h.mem_iff y hy b).mp hb, Or.inl hlt⟩

/-- **The first task without an agent**: nobody can do it now, and every other such task comes later. -/
structure Workflow.FirstWithout (w : Workflow) (p : Pool) (t : TaskId) (k : Task) : Prop where
  declared : w.task? t = some k
  unserved : ∀ a, ¬ p.Suitable k.requirements a
  first : ∀ u k', u ≠ t → w.task? u = some k' → (∀ a, ¬ p.Suitable k'.requirements a) →
    w.LevelBefore t u

/-! ## Results -/

/-- **An allocation that serves every task**, each as if it were the only one. -/
structure Allots (w : Workflow) (p : Pool) (allocation : NameMap AgentId) : Prop where
  keys : ∀ t, t ∈ allocation.keys ↔ t ∈ w.taskIds
  least : ∀ t k, w.task? t = some k →
    ∃ a, p.LeastSuitable k.requirements a ∧ allocation.find? t = some a.spec.id

/-- **A refusal for the first task without an agent**, with its capabilities in ascending order and its
    need of an accelerator. -/
inductive Refuses (w : Workflow) (p : Pool) : PlanError → Prop
  | noSuitableAgent {t : TaskId} {k : Task} {required : List Capability}
      (hfirst : w.FirstWithout p t k) (hsorted : required.Pairwise (· < ·))
      (hrequired : ∀ c, c ∈ required ↔ c ∈ k.capabilities) :
      Refuses w p (.unschedulable (.noSuitableAgent t required k.resources.accelerator))

/-- What was picked for the tasks of the levels serves all of them. -/
theorem allots_of_find? {ts : List TaskId} {allocation : NameMap AgentId} (hindexed : p.Indexed)
    (hts : ∀ t, t ∈ ts ↔ t ∈ w.taskIds) (hall : ∀ t ∈ ts, agentFor w p t ≠ none)
    (hfind : ∀ t, allocation.find? t = if t ∈ ts then agentFor w p t else none) :
    Allots w p allocation := by
  refine ⟨fun t => ?_, fun t k hk => ?_⟩
  · rw [← hts, NameMap.mem_keys_iff, hfind]
    constructor
    · rintro ⟨agent, hagent⟩
      by_contra ht
      rw [if_neg ht] at hagent
      cases hagent
    · intro ht
      rw [if_pos ht]
      exact Option.ne_none_iff_exists'.mp (hall t ht)
  · have ht : t ∈ ts := (hts t).mpr (mem_taskIds_of_task? hk)
    obtain ⟨agent, hagent⟩ := Option.ne_none_iff_exists'.mp (hall t ht)
    obtain ⟨a, hleast, rfl⟩ := (agentFor_eq_some_iff hindexed hk).mp hagent
    exact ⟨a, hleast, by rw [hfind, if_pos ht, hagent]⟩

/-- The first task of the levels that was not served is the first one without an agent. -/
theorem firstWithout_of_append {before after : List TaskId} (hindexed : p.Indexed)
    (hlevels : ByDepth w mode levels) (hts : ∀ t, t ∈ tasksOf levels ↔ t ∈ w.taskIds)
    (heq : tasksOf levels = before ++ t :: after) (hbefore : ∀ u ∈ before, agentFor w p u ≠ none)
    (hk : w.task? t = some k) (hnone : agentFor w p t = none) : w.FirstWithout p t k := by
  refine ⟨hk, (agentFor_eq_none_iff hindexed hk).mp hnone, fun u k' hne hk' hunserved => ?_⟩
  have hu : u ∈ tasksOf levels := (hts u).mpr (mem_taskIds_of_task? hk')
  have hpairwise := hlevels.pairwise_tasksOf
  rw [heq] at hu hpairwise
  rcases List.mem_append.mp hu with hu | hu
  · exact absurd ((agentFor_eq_none_iff hindexed hk').mpr hunserved) (hbefore u hu)
  · have hafter : u ∈ after := (List.mem_cons.mp hu).resolve_left hne
    exact List.rel_of_pairwise_cons (List.pairwise_append.mp hpairwise).2.1 hafter

/-- **Scheduling serves every task, or refuses for the first one without an agent.** -/
theorem schedule_allots_or_refuses (hindexed : p.Indexed) (hacyc : ¬ w.Cyclic)
    (hfit : WeightsFit w w.estimates) :
    (∃ s, w.schedule p = .ok s ∧ Allots w p s.allocation) ∨
      ∃ e, w.schedule p = .error e ∧ Refuses w p e := by
  obtain ⟨order, path, horder, -, heq⟩ := exists_schedule_eq hacyc hfit p
  have hlevels : ByDepth w w.metadata.mode (computeLevels (Graph.ofWorkflow w) order w.metadata.mode) :=
    byDepth_computeLevels horder
  have hlayered : Layered w (computeLevels (Graph.ofWorkflow w) order w.metadata.mode) :=
    layered_computeLevels horder
  rw [heq, allocate, ← tasksOf]
  generalize computeLevels (Graph.ofWorkflow w) order w.metadata.mode = levels at hlevels hlayered
  have hpicked : Allocated w p (tasksOf levels) ∅ ((tasksOf levels).foldlM (allocateTask w.tasksById p) ∅) :=
    allocated _ (fun t ht => (hlayered.mem_iff t).mp ht) ∅
  generalize (tasksOf levels).foldlM (allocateTask w.tasksById p) ∅ = picked at hpicked
  cases hpicked with
  | all hall hfind =>
      exact Or.inl ⟨_, rfl, allots_of_find? hindexed hlayered.mem_iff hall hfind⟩
  | @without before after t k heq hbefore hk hnone =>
      have hfirst := firstWithout_of_append hindexed hlevels hlayered.mem_iff heq hbefore hk hnone
      exact Or.inr ⟨_, rfl, .noSuitableAgent hfirst k.capabilities.ascending fun c => Iff.rfl⟩

/-- **Allocation serves every task by itself, and reserves nothing.** Take a site whose pool any calls
    have left, and whose workflow has no cycle and only chains that fit. Scheduling then changes nothing
    there. It succeeds exactly if there is, for each task by itself, a registered agent now that covers
    it and has spare capacity; of tasks with the same id the first one counts. The allocation then names
    for every task the least such agent, by load and id; otherwise the refusal names the first task
    without one. -/
theorem Request.schedule_picks_least_agents (site : Site) (calls : List PoolCall)
    (hpool : site.world.pool = Pool.empty.afterCalls calls) (hacyc : ¬ site.workflow.Cyclic)
    (hfit : WeightsFit site.workflow site.workflow.estimates) :
    (Request.schedule.run site).2 = site ∧
    ((∃ s, (Request.schedule.run site).1 = .ok s) ↔ ∀ t k, site.workflow.task? t = some k →
      ∃ a, site.world.pool.Suitable k.requirements a) ∧
    (∀ s, (Request.schedule.run site).1 = .ok s →
      Allots site.workflow site.world.pool s.allocation) ∧
    ∀ e, (Request.schedule.run site).1 = .error e → Refuses site.workflow site.world.pool e := by
  have hindexed : site.world.pool.Indexed := hpool ▸ Pool.Indexed.afterCalls calls
  rw [run_schedule]
  refine ⟨rfl, ?_⟩
  rcases schedule_allots_or_refuses hindexed hacyc hfit with ⟨s, hs, hallots⟩ | ⟨e, he, hrefuses⟩
  · rw [hs]
    refine ⟨⟨fun _ t k hk => ?_, fun _ => ⟨s, rfl⟩⟩, fun s' hs' => ?_, nofun⟩
    · obtain ⟨a, ha, -⟩ := hallots.least t k hk
      exact ⟨a, ha.suitable⟩
    · cases hs'
      exact hallots
  · rw [he]
    refine ⟨⟨nofun, fun hserved => ?_⟩, nofun, fun e' he' => ?_⟩
    · -- the task that the refusal names is not served
      cases hrefuses with
      | noSuitableAgent hfirst =>
          obtain ⟨a, ha⟩ := hserved _ _ hfirst.declared
          exact absurd ha (hfirst.unserved a)
    · cases he'
      exact hrefuses

/-- Two tasks on the same level; the one that is declared first needs an accelerator. -/
def studio : Workflow :=
  ((({ id := "studio", name := "Studio" } : Workflow).addTask
    { id := "ink", name := "Ink", capabilities := .ofList ["ink", "draw"],
      resources := { accelerator := true } } ["sketch"]).addTask
    { id := "color", name := "Color", capabilities := .ofList ["paint"] } ["sketch"]).addTask
    { id := "sketch", name := "Sketch", capabilities := .ofList ["draw"] } []

/-- Two agents are registered, and one of them starts to work on something. -/
def openStudio : List PoolCall :=
  [.register { id := "ann", capabilities := .ofList ["draw"], capacity := 2 },
    .register { id := "bob", capabilities := .ofList ["draw", "ink", "paint"], accelerator := true },
    .assign "ann" "poster"]

/-- The other one starts to work on something, too. -/
def busyStudio : List PoolCall := openStudio ++ [.assign "bob" "mural"]

/-- The studio with the agents that some calls have left. -/
def studioAfter (calls : List PoolCall) : Site := ⟨studio, { pool := Pool.empty.afterCalls calls }⟩

/-- Bob is planned for all three tasks, although he can only do one at a time. While he does something
    else, nobody can ink or color; inking comes first. -/
theorem Request.schedule_picks_least_agents_studio :
    (∃ s, (Request.schedule.run (studioAfter openStudio)).1 = .ok s ∧
      s.allocation.entries = [("color", "bob"), ("ink", "bob"), ("sketch", "bob")] ∧
      Allots studio (Pool.empty.afterCalls openStudio) s.allocation) ∧
    (Request.schedule.run (studioAfter busyStudio)).2 = studioAfter busyStudio ∧
    (Request.schedule.run (studioAfter busyStudio)).1 =
      .error (.unschedulable (.noSuitableAgent "ink" ["draw", "ink"] true)) ∧
    Refuses studio (Pool.empty.afterCalls busyStudio)
      (.unschedulable (.noSuitableAgent "ink" ["draw", "ink"] true)) := by
  have horder : (Graph.ofWorkflow studio).topologicalOrder = .ok ["sketch", "ink", "color"] := rfl
  have hacyc := (isOrder_of_topologicalOrder horder).acyclic
  have hfit : WeightsFit studio studio.estimates := weightsFit_of_le hacyc (by decide)
  obtain ⟨-, -, hallots, -⟩ :=
    schedule_picks_least_agents (studioAfter openStudio) openStudio rfl hacyc hfit
  obtain ⟨hkept, -, -, hrefuses⟩ :=
    schedule_picks_least_agents (studioAfter busyStudio) busyStudio rfl hacyc hfit
  have hplanned : (Request.schedule.run (studioAfter openStudio)).1 = .ok _ := rfl
  exact ⟨⟨_, hplanned, rfl, hallots _ hplanned⟩, hkept, rfl, hrefuses _ rfl⟩

end Foreman
