import Foreman.Proofs.Pool.Lent
import Foreman.Proofs.Run.Course

/-!
# `Foreman.Proofs.Run.Leases` — every agent is given back

A flight holds the agent that it found until it lands, on whatever path it comes to that: a success, a
failure, no session, or a panic anywhere. At any moment the pool is the pool from before with the
agents lent out that the flights hold (`Leased`). A flight that takes or gives back an agent keeps this,
since its task is in no other flight and was with no agent before. When an execution has ended, there
are no flights left, so every agent is as before; and so is the plan of the workflow, which depends on
nothing else.

This needs that nobody else uses the pool: neither the runner, by what its attempts do
(`Runner.SparesPool`), nor the surroundings (`OwnInterleaving`).

## Contents
- **`Runner.SparesPool`**.
- **`Flight.Leases`** with `leases_resume`: what one activity of a flight does to the pool.
- **`Leased`**, with `Leased.turn` and `Leased.move`.
- `Workflow.schedule_congr`: what a schedule depends on.
- **`AgentsReturned`** and `Engine.run_returns_agents`.
-/

namespace Foreman

open Machine

variable {w x : Workflow} {s : Setup} {m m' : Machine} {levels : List Level} {stage : Stage}
  {f f' : Flight} {world : World} {before p q : Pool} {task : TaskId} {n : Nat}

/-! ## Runners that leave the pool alone -/

/-- An activity of an attempt that is no call of the pool. -/
def Activity.SparesPool : Activity → Prop
  | .pause _ | .act (.refuseSessions _) => True
  | _ => False

/-- A runner whose attempts make no calls of the pool. -/
def Runner.SparesPool (runner : Runner) : Prop :=
  ∀ before call, ∀ activity ∈ (runner before call).course, activity.SparesPool

theorem onPool_of_sparesPool {action : Action} (h : (Activity.act action).SparesPool) (p : Pool) :
    action.onPool p = p := by
  cases action with
  | refuseSessions on => rfl
  | _ => cases h

namespace Flight

/-! ## Flights and their agents -/

theorem pool_workOn {now attempt : Nat} {e : Engagement} {delay : Duration} {ending : Ending}
    {course : List Activity} (hspares : ∀ activity ∈ course, activity.SparesPool) (world : World) :
    (workOn now f e attempt delay ending course world).2.pool = world.pool := by
  induction course generalizing world with
  | nil => rfl
  | cons activity rest ih =>
      obtain ⟨hspare, hrest⟩ := List.forall_mem_cons.mp hspares
      cases activity with
      | pause length =>
          unfold workOn
          split
          · exact ih hrest world
          · rfl
      | act action => exact (ih hrest _).trans (onPool_of_sparesPool hspare world.pool)

/-- **What one activity of a flight does to the pool**: nothing, and it goes on with the agent that it
    holds, if any; or it finds an agent, to which its task is now assigned. -/
structure Leases (f : Flight) (world : World) (out : Next × World) : Prop where
  lease : out.1.lease = f.phase.lease ∧ out.2.pool = world.pool ∨ f.phase.lease = none ∧
    ∃ agent, out.1.lease = some agent ∧ world.pool.assign agent f.job.task = .ok out.2.pool
  spares : ∀ activity ∈ out.1.course, activity.SparesPool

/-- **Every activity**, in every phase. -/
theorem leases_resume (hrunner : s.runner.SparesPool)
    (hspares : ∀ activity ∈ f.phase.course, activity.SparesPool) (now : Nat) (world : World) :
    f.Leases world (f.resume s now world) := by
  have hacts := acts_resume s now f world
  have hheld := (resumes_resume s now f world).lease
  generalize f.resume s now world = out at hacts hheld ⊢
  -- a flight that holds an agent keeps it, so it is enough that the pool stays as it is
  have hkeeps : ∀ {held : AgentId}, f.phase.lease = some held → out.2.pool = world.pool →
      (∀ activity ∈ out.1.course, activity.SparesPool) → f.Leases world out :=
    fun hlease hpool hcourse => ⟨Or.inl ⟨(hheld _ hlease).trans hlease.symm, hpool⟩, hcourse⟩
  cases hacts with
  | searches hfree hsearches =>
      cases hsearches with
      | leased _ h => exact ⟨Or.inr ⟨hfree, _, rfl, h.pool⟩, by simp [Next.course, Phase.course]⟩
      | found _ h _ | lost _ h =>
          exact ⟨Or.inl ⟨hfree.symm, h.pool⟩, by simp [Next.course, Phase.course]⟩
      | busy _ h _ _ => exact ⟨Or.inl ⟨rfl, h.pool⟩, hspares⟩
      | impossible _ h _ _ => exact ⟨Or.inl ⟨hfree.symm, h.pool⟩, by simp [Next.course]⟩
  | @opens agent step hphase =>
      have h := kept_openUp s now f agent step world
      exact hkeeps (by rw [hphase]; rfl) h.world.pool (by simp [h.holds.course])
  | @closes agent step u hphase =>
      have h := kept_closeUp s now f agent u step world
      exact hkeeps (by rw [hphase]; rfl) h.world.pool (by simp [h.holds.course])
  | @calls e attempt delay hphase =>
      have hcourse := hrunner world.calls (f.callOf s now e attempt)
      exact hkeeps (by rw [hphase]; rfl) (pool_workOn hcourse _) fun a ha =>
        hcourse a ((staysAtWork_workOn ..).course ha)
  | works hphase =>
      rw [hphase] at hspares
      exact hkeeps (by rw [hphase]; rfl) (pool_workOn hspares _) fun a ha =>
        hspares a ((staysAtWork_workOn ..).course ha)
  | answered hphase hanswered =>
      refine hkeeps (by rw [hphase]; rfl) (by rw [hanswered.world_eq]) ?_
      cases hanswered <;> simp [Next.course, Phase.course]
  | rests hphase => exact hkeeps (by rw [hphase]; rfl) rfl (by simp [Next.course, Phase.course])

end Flight

/-! ## Agents held by flights -/

/-- The assignment that a flight holds. -/
def heldFor (task : TaskId) (agent : Option AgentId) : List (AgentId × TaskId) :=
  (agent.map fun agent => (agent, task)).toList

/-- The assignments that some flights hold. -/
def holdings (flights : List (Nat × Flight)) : List (AgentId × TaskId) :=
  flights.flatMap fun e => heldFor e.2.job.task e.2.phase.lease

/-- The flights of a level but one. -/
abbrev Stage.others (stage : Stage) (n : Nat) : List (Nat × Flight) :=
  stage.flights.filter (·.1 ≠ n)

/-- A flight takes an agent, or holds the one that it has. -/
theorem Flight.Leases.lent {out : Next × World} {others : List (AgentId × TaskId)}
    (h : f.Leases world out) (hfree : ∀ agent, f.job.task ∉ before.assignedTasks agent)
    (hothers : ∀ held ∈ others, held.2 ≠ f.job.task)
    (hlent : before.Lent (heldFor f.job.task f.phase.lease ++ others) world.pool) :
    before.Lent (heldFor f.job.task out.1.lease ++ others) out.2.pool := by
  obtain ⟨hlease, hpool⟩ | ⟨hnone, agent, hlease, hassign⟩ := h.lease
  · rw [hlease, hpool]
    exact hlent
  · rw [hnone] at hlent
    rw [hlease]
    exact hlent.assign (hfree agent) (fun hmem => hothers _ hmem rfl) hassign

/-- A flight of a level, and the others. -/
theorem flights_perm (horderly : stage.Orderly) (hmem : (n, f) ∈ stage.flights) :
    stage.flights.Perm ((n, f) :: stage.others n) := perm_cons_filter horderly.distinct hmem

theorem flights_setFlight_perm (horderly : stage.Orderly) (hmem : (n, f) ∈ stage.flights)
    (f' : Flight) : (setFlight stage n f').flights.Perm ((n, f') :: stage.others n) := by
  have hperm := (flights_perm horderly hmem).map fun e => if e.1 = n then (n, f') else e
  rw [List.map_cons, if_pos rfl] at hperm
  -- the others stay what they are
  refine hperm.trans (List.Perm.of_eq (congrArg _ ?_))
  refine (List.map_congr_left fun e he => ?_).trans (List.map_id _)
  rw [if_neg (by simpa using (List.mem_filter.mp he).2), id]

/-- The task of a flight is with no other flight, and so nobody else holds an agent for it. -/
theorem ne_of_mem_others (horderly : stage.Orderly) (hmem : (n, f) ∈ stage.flights)
    (hdistinct : stage.airborne.Nodup) {held : AgentId × TaskId}
    (hheld : held ∈ holdings (stage.others n)) : held.2 ≠ f.job.task := by
  have hair : stage.airborne.Perm (f.job.task :: (stage.others n).map fun e => e.2.job.task) := by
    simpa [Stage.airborne, Stage.roster, Function.comp_def] using
      (flights_perm horderly hmem).map fun e => e.2.job.task
  obtain ⟨e, he, hheld⟩ := List.mem_flatMap.mp hheld
  obtain ⟨agent, -, rfl⟩ : ∃ agent, e.2.phase.lease = some agent ∧ (agent, e.2.job.task) = held := by
    simpa [heldFor] using hheld
  intro heq
  exact (List.nodup_cons.mp (hair.nodup_iff.mp hdistinct)).1 (List.mem_map.mpr ⟨e, he, heq⟩)

/-! ## Lent agents along an execution -/

/-- **The pool of an execution** is the one from before with the agents lent out that are held by
    flights, none of which will use the pool otherwise, and no agent was refused. -/
structure Leased (before : Pool) (m : Machine) : Prop where
  lent : before.Lent (holdings m.flights) m.world.pool
  accepted : ∀ e, .releaseRefused e ∉ m.journal
  spares : ∀ e ∈ m.flights, ∀ activity ∈ e.2.phase.course, activity.SparesPool

namespace Leased

/-- A flight goes on, in its turn. -/
theorem goesOn (h : Leased before m) (hstage : m.stage = some stage) (horderly : stage.Orderly)
    (hmem : (n, f) ∈ stage.flights) (hjob : f'.job = f.job)
    (hlent : before.Lent (heldFor f.job.task f'.phase.lease ++ holdings (stage.others n))
      m'.world.pool)
    (hspares : ∀ activity ∈ f'.phase.course, activity.SparesPool)
    (hflights : m'.flights = (setFlight stage n f').flights)
    (hrefusals : ∀ e, .releaseRefused e ∈ m'.journal → .releaseRefused e ∈ m.journal) :
    Leased before m' := by
  have hperm := hflights ▸ flights_setFlight_perm horderly hmem f'
  refine ⟨hlent.congr fun held => ?_, fun e he => h.accepted e (hrefusals e he), fun e he => ?_⟩
  · rw [holdings, (hperm.flatMap_right _).mem_iff, List.flatMap_cons, hjob]
    rfl
  · rcases List.mem_cons.mp (hperm.mem_iff.mp he) with rfl | he
    · exact hspares
    · exact h.spares e (flights_of_stage hstage ▸ (List.mem_filter.mp he).1)

/-- A flight has landed, and what it held was taken back. -/
theorem lands (h : Leased before m) (hstage : m.stage = some stage)
    (hlent : before.Lent (holdings (stage.others n)) m'.world.pool)
    (hflights : m'.flights = stage.others n)
    (hrefusals : ∀ e, .releaseRefused e ∈ m'.journal → .releaseRefused e ∈ m.journal) :
    Leased before m' := by
  refine ⟨hflights ▸ hlent, fun e he => h.accepted e (hrefusals e he), fun e he => ?_⟩
  rw [hflights] at he
  exact h.spares e (flights_of_stage hstage ▸ (List.mem_filter.mp he).1)

/-- What a flight and the others hold before its turn. -/
theorem lent_apart (h : Leased before m) (hstage : m.stage = some stage) (horderly : stage.Orderly)
    (hmem : (n, f) ∈ stage.flights) :
    before.Lent (heldFor f.job.task f.phase.lease ++ holdings (stage.others n)) m.world.pool := by
  refine h.lent.congr fun held => ?_
  have hperm := flights_perm horderly hmem
  rw [flights_of_stage hstage, holdings, holdings, (hperm.flatMap_right _).mem_iff, List.flatMap_cons]

/-- **A turn of a flight**: it takes an agent, holds it, or gives it back, and that is not refused. -/
theorem turn (h : Leased before m) (hrunner : s.runner.SparesPool) (hstage : m.stage = some stage)
    (horderly : stage.Orderly) (hdistinct : stage.airborne.Nodup)
    (hfree : ∀ t ∈ stage.airborne, ∀ agent, t ∉ before.assignedTasks agent) (n : Nat) :
    Leased before (m.turn s stage n (stage.active.erase n)) := by
  have hflights := flights_of_stage hstage
  have hnew : ∀ f, (n, f) ∈ stage.flights → ∀ agent, f.job.task ∉ before.assignedTasks agent :=
    fun f hmem => hfree f.job.task (List.mem_map.mpr ⟨_, List.mem_map_of_mem hmem, rfl⟩)
  have hothers : ∀ f, (n, f) ∈ stage.flights →
      ∀ held ∈ holdings (stage.others n), held.2 ≠ f.job.task :=
    fun f hmem held => ne_of_mem_others horderly hmem hdistinct
  -- the activity of a flight may take an agent
  have hactivity : ∀ f next world, (n, f) ∈ stage.flights →
      f.resume s m.clock m.world = (next, world) →
      before.Lent (heldFor f.job.task next.lease ++ holdings (stage.others n)) world.pool ∧
        ∀ activity ∈ next.course, activity.SparesPool := fun f next world hmem hresume => by
    have hleases := Flight.leases_resume (f := f) hrunner
      (h.spares (n, f) (hflights ▸ hmem)) m.clock m.world
    have hlent := hleases.lent (hnew f hmem) (hothers f hmem) (h.lent_apart hstage horderly hmem)
    rw [hresume] at hleases hlent
    exact ⟨hlent, hleases.spares⟩
  have hturned := turned s m stage n
  generalize m.turn s stage n (stage.active.erase n) = after at hturned ⊢
  cases hturned with
  | absent habsent => exact ⟨hflights ▸ h.lent, h.accepted, hflights ▸ h.spares⟩
  | @goesOn f f' next world events hmem hresume hnext hcalls =>
      obtain ⟨hlent, hspares⟩ := hactivity f next world hmem hresume
      have habout := (Flight.resumes_resume s m.clock f m.world).about
      rw [hresume] at habout
      rw [Next.lease_of_flight? hnext] at hlent
      rw [Next.course_of_flight? hnext] at hspares
      refine h.goesOn hstage horderly hmem (habout.job_eq hnext) hlent hspares rfl fun e he => ?_
      -- a call is no refusal
      refine (List.mem_append.mp he).resolve_left ?_
      rcases hcalls with ⟨rfl, -⟩ | ⟨call, -, rfl, -⟩ <;> simp
  | @lands f r leased world hmem hresume =>
      obtain ⟨hlent, -⟩ := hactivity f _ world hmem hresume
      cases leased with
      | none => exact h.lands hstage hlent rfl fun e he => by simpa [after, World.handBack] using he
      | some agent =>
          -- what it holds in the end is given back
          obtain ⟨q, hrelease, hreturned⟩ := hlent.release (hnew f hmem agent)
            fun hheld => hothers f hmem _ hheld rfl
          rw [World.handBack_of_ok hrelease]
          exact h.lands hstage hreturned rfl fun e he => by simpa [after] using he

/-- Whatever else happens, flights that have just been dispatched hold nothing. -/
theorem elsewhere (h : Leased before m) {dispatched : List (Nat × Flight)}
    (hno : NoTurn s m m' dispatched) (hpool : m'.world.pool = m.world.pool) : Leased before m' := by
  have hnone : holdings dispatched = [] := by
    refine List.flatMap_eq_nil_iff.mpr fun e he => ?_
    rw [hno.seeking e he]
    rfl
  refine ⟨?_, fun e he => h.accepted e ((hno.refusals e).mp he), fun e he => ?_⟩
  · have hlent := h.lent
    rwa [hpool, hno.flights, holdings, List.flatMap_append, ← holdings, ← holdings, hnone,
      List.append_nil]
  · rcases List.mem_append.mp (hno.flights ▸ he) with he | he
    · exact h.spares e he
    · simp [hno.seeking e he, Phase.course]

theorem start (schedule : Schedule) (world : World) :
    Leased world.pool (Machine.start w schedule world) :=
  ⟨.refl _, by simp [Machine.start], by simp [Machine.start, flights]⟩

/-- **Every move of an execution by itself**, given that its flights are in good order. -/
theorem move (hl : Layered w levels) (hsound : Sound w levels m) (hrunner : s.runner.SparesPool)
    (hfree : ∀ t ∈ w.taskIds, ∀ agent, t ∉ before.assignedTasks agent) (h : Leased before m)
    (hm : OwnMove s m m') : Leased before m' := by
  rcases hm.noTurn_or_turn with ⟨hpool, dispatched, hno⟩ | ⟨stage, id, hstage, rfl⟩
  · exact h.elsewhere hno hpool
  · obtain ⟨past, hduring⟩ := hsound.standing.exists_during hstage
    have hparts := hduring.underway.nodup_parts (hl.apart hduring.split).1
    have hdistinct := (List.nodup_append.mp (List.nodup_append.mp hparts).1).2.1
    refine h.turn hrunner hstage (hsound.orderly stage hstage) hdistinct (fun t ht => ?_) id
    have hlevel : t ∈ stage.level.tasks := hduring.underway.parts.mem_iff.mp (by simp [ht])
    exact hfree t ((hl.mem_iff t).mp (by rw [hduring.split]; simp [hlevel]))

/-- At the end nobody is in flight, and nothing is held. -/
theorem lent_of_isDone (h : Leased before m) (hdone : m.isDone = true) :
    before.Lent [] m.world.pool := by
  have hend : m.stage = none ∧ m.levels = [] := by simpa [isDone] using hdone
  have hlent := h.lent
  rwa [flights, hend.1] at hlent

end Leased

theorem leased_of_own {schedule : Schedule} (hl : Layered w schedule.levels)
    (hrunner : s.runner.SparesPool)
    (hfree : ∀ t ∈ w.taskIds, ∀ agent, t ∉ world.pool.assignedTasks agent)
    (hm : OwnInterleaving s (Machine.start w schedule world) m) : Leased world.pool m := by
  induction hm with
  | refl => exact Leased.start schedule world
  | tail hmoves hlast ih =>
      have hsound := sound_of_interleaving hl (OwnInterleaving.interleaving hmoves)
      exact ih.move hl hsound hrunner hfree hlast

/-! ## What a schedule depends on -/

namespace Workflow

/-- Planning does not look at statuses. -/
theorem schedule_resetStatuses (w : Workflow) (p : Pool) :
    w.resetStatuses.schedule p = w.schedule p := by
  have hgraph : Graph.ofWorkflow w.resetStatuses = Graph.ofWorkflow w := by
    unfold Graph.ofWorkflow
    rw [taskIds_resetStatuses]
    rfl
  have hestimates : w.resetStatuses.estimates = w.estimates := by
    simp [estimates, resetStatuses, ← List.map_reverse, Function.comp_def]
  have hallocate : allocateTask w.resetStatuses.tasksById p = allocateTask w.tasksById p := by
    funext allocation t
    unfold allocateTask
    rw [find?_tasksById, find?_tasksById, task?_resetStatuses]
    cases w.task? t <;> rfl
  unfold schedule allocate
  rw [hgraph, hestimates, hallocate]
  rfl

/-- **A schedule depends on the declarations of the tasks and on the agents**, and on nothing else. -/
theorem schedule_congr (hw : x.resetStatuses = w.resetStatuses) (hagents : q.agents = p.agents)
    (hindex : q.byCapability = p.byCapability) : x.schedule q = w.schedule p := by
  have hcandidates : q.candidates = p.candidates := by
    funext required
    unfold Pool.candidates Pool.indexed
    rw [hagents, hindex]
  have hallocate : allocateTask w.tasksById q = allocateTask w.tasksById p := by
    funext allocation t
    unfold allocateTask Pool.findSuitable
    rw [hcandidates]
  rw [← schedule_resetStatuses x, hw, schedule_resetStatuses]
  unfold schedule allocate
  rw [hallocate]

end Workflow

/-! ## The end of an execution -/

/-- **All agents were given back** by an execution of a workflow that has left `x` and the pool `p`. -/
structure AgentsReturned (w : Workflow) (before : Pool) (x : Workflow) (p : Pool) : Prop where
  /-- Every agent works on the same tasks as before. -/
  assigned : ∀ agent, p.assignedTasks agent = before.assignedTasks agent
  agents : p.agents = before.agents
  index : p.byCapability = before.byCapability
  counted : ∃ n, p.assignedTotal = before.assignedTotal + n ∧
    p.releasedTotal = before.releasedTotal + n
  /-- The workflow, with whatever statuses, has the same schedule as before. -/
  replanned : w.schedule p = w.schedule before ∧ x.schedule p = w.schedule before

theorem agentsReturned_of_lent (h : before.Lent [] p) (hsame : x.resetStatuses = w.resetStatuses) :
    AgentsReturned w before x p where
  assigned agent := by rw [Pool.assignedTasks, h.agents_eq, Pool.assignedTasks]
  agents := h.agents_eq
  index := h.index
  counted := h.exists_counted
  replanned := ⟨Workflow.schedule_congr rfl h.agents_eq h.index,
    Workflow.schedule_congr hsame h.agents_eq h.index⟩

/-- **Every agent is given back.** The runner makes no calls of the pool, and no task of the workflow
    is assigned to an agent when it is planned. Then, whatever tasks succeed, fail or find no session,
    and wherever the runner or the memory service panics, no agent is refused when it is given back,
    and once the execution has ended, all agents were returned: in any order of moves while nobody else
    uses the pool, in an execution by steps, and for what a run of an engine leaves. -/
theorem Engine.run_returns_agents {schedule : Schedule} (e : Engine)
    (hplan : w.plan world.pool = .ok schedule) (hrunner : e.runner.SparesPool)
    (hfree : ∀ t ∈ w.taskIds, ∀ agent, t ∉ world.pool.assignedTasks agent) :
    (∀ m, OwnInterleaving (e.setup w schedule) (Machine.start w schedule world) m →
      (∀ error, .releaseRefused error ∉ m.journal) ∧
        (m.isDone = true → AgentsReturned w world.pool m.workflow m.world.pool)) ∧
    (∀ m, Steps (e.setup w schedule) (Machine.start w schedule world) m →
      ∀ error, .releaseRefused error ∉ m.journal) ∧
    ∀ fuel x, e.run fuel w world = .ok (some x) →
      AgentsReturned w world.pool x.workflow x.world.pool := by
  have hl := layered_of_plan hplan
  have hall : ∀ m, OwnInterleaving (e.setup w schedule) (Machine.start w schedule world) m →
      (∀ error, .releaseRefused error ∉ m.journal) ∧
        (m.isDone = true → AgentsReturned w world.pool m.workflow m.world.pool) := fun m hm => by
    have h := leased_of_own hl hrunner hfree hm
    have hsame := (sound_of_interleaving hl hm.interleaving).books.same
    exact ⟨h.accepted, fun hdone => agentsReturned_of_lent (h.lent_of_isDone hdone) hsame⟩
  have hsteps : ∀ m, Steps (e.setup w schedule) (Machine.start w schedule world) m →
      OwnInterleaving (e.setup w schedule) (Machine.start w schedule world) m :=
    fun m => own_of_steps (orderly_of_stage_none rfl)
  refine ⟨hall, fun m hm => (hall m (hsteps m hm)).1, fun fuel x hrun => ?_⟩
  obtain ⟨m, hm, hdone, rfl⟩ := Engine.exists_machine hplan hrun
  exact (hall m (hsteps m hm)).2 hdone

/-- A memory service that panics whenever a session is merged, after the work is done. -/
def engineCutOff : Engine :=
  { engineFailing [] with
    faults := fun _ call => if call = .mergeSession then some (.panic "connection lost") else none }

theorem assignedTasks_lonePool (agent : AgentId) : lonePool.assignedTasks agent = ∅ := by
  rw [Pool.assignedTasks_of_insert (p := .empty) (q := lonePool) rfl]
  split <;> rfl

/-- The build is cut off by a panic, and its agent is given back all the same. -/
theorem run_returns_agents_cutOff :
    ∃ x, engineCutOff.run 20 pipeline { pool := lonePool } = .ok (some x) ∧
      x.result.failedTasks = ["build"] ∧ x.world.pool.assignedTotal = 1 ∧
      AgentsReturned pipeline lonePool x.workflow x.world.pool := by
  refine ⟨_, rfl, rfl, rfl, ?_⟩
  have hplan : pipeline.plan ({ pool := lonePool } : World).pool = .ok _ := rfl
  have hrunner : engineCutOff.runner.SparesPool := fun _ _ _ hcourse => by cases hcourse
  have hfree : ∀ t ∈ pipeline.taskIds, ∀ agent,
      t ∉ ({ pool := lonePool } : World).pool.assignedTasks agent := fun t _ agent => by
    rw [assignedTasks_lonePool]
    exact NameSet.not_mem_empty
  exact (Engine.run_returns_agents engineCutOff hplan hrunner hfree).2.2 20 _ rfl

end Foreman
