import Foreman.Proofs.Allocation
import Foreman.Proofs.Run.Contracts
import Foreman.Proofs.Run.WakeUps

/-!
# `Foreman.Proofs.Run.Capability` — what the agent of a task can do

A task that looks for an agent first claims the planned one, by its id. If that fails, the pool is asked
for an agent that covers the requirements, and this one is claimed, again by its id. A claim does not
look at what the agent offers, so a lease need not be on a capable agent: between the look and the claim
an agent may be removed, and another one registered under its id. For the planned agent, the look was the
plan. This is the only way to an agent that is not capable
(`Engine.leases_cover_unless_registered_anew`), and it is open (`lease_on_agent_registered_anew`), even
while another agent could do the task.

## Contents
- **`PooledInterleaving`**: whoever else uses the pool does so by calls.
- **`LookedUp`**, with `lookedUp_of_claiming`: every agent that is claimed was found before.
- **`Engine.leases_cover_unless_registered_anew`**.
-/

namespace Foreman

open Machine

variable {w : Workflow} {s : Setup} {m m' start : Machine} {stage : Stage} {schedule : Schedule}
  {world world' : World} {job : Job} {agent : AgentId} {f f' : Flight} {n : Nat}

/-! ## Calls of the pool -/

namespace World

theorem byCalls_of_searched {task : TaskId} {found : Option AgentId}
    (h : world.Searched task found world') : world.pool.ByCalls world'.pool := by
  have hpool := h.pool
  cases found with
  | none => exact hpool ▸ .refl _
  | some agent => exact .of_outcome (c := .assign agent task) hpool

theorem byCalls_handBack (world : World) (task : TaskId) (leased : Option AgentId) :
    world.pool.ByCalls (world.handBack task leased).1.pool := by
  rcases world.handBack_world task leased with hsame | ⟨agent, pool, hrelease, hreleased⟩
  · rw [hsame]
    exact .refl _
  · rw [hreleased]
    exact .of_outcome (c := .release agent task) hrelease

end World

/-- What a runner does to the pool, it does by calls. -/
theorem byCalls_onPool (action : Action) (p : Pool) : p.ByCalls (action.onPool p) := by
  cases action with
  | register spec => exact .of_toOption (.register spec) p
  | deregister agent =>
      have h := Pool.ByCalls.of_toOption (.deregister agent) p
      unfold Action.onPool
      unfold PoolCall.outcome at h
      cases hremoved : p.deregister agent <;> simpa [hremoved, Except.map, Except.toOption] using h
  | assign agent task => exact .of_toOption (.assign agent task) p
  | release agent task => exact .of_toOption (.release agent task) p
  | refuseSessions on => exact .refl p

namespace Flight

theorem byCalls_workOn (now attempt : Nat) (f : Flight) (e : Engagement) (delay : Duration)
    (ending : Ending) (course : List Activity) (world : World) :
    world.pool.ByCalls (f.workOn now e attempt delay ending course world).2.pool := by
  induction course generalizing world with
  | nil => exact .refl _
  | cons activity rest ih =>
      cases activity with
      | pause length =>
          unfold workOn
          split
          · exact ih world
          · exact .refl _
      | act action => exact (byCalls_onPool action world.pool).trans (ih _)

/-- **What an activity of a flight does to the pool, it does by calls.** -/
theorem byCalls_resume (s : Setup) (now : Nat) (f : Flight) (world : World) :
    world.pool.ByCalls (f.resume s now world).2.pool := by
  have hacts := acts_resume s now f world
  generalize f.resume s now world = out at hacts ⊢
  cases hacts with
  | searches _ hsearches =>
      obtain ⟨found, h⟩ := hsearches.exists_searched
      exact World.byCalls_of_searched h
  | opens _ => exact (kept_openUp ..).world.pool ▸ .refl _
  | closes _ => exact (kept_closeUp ..).world.pool ▸ .refl _
  | calls _ => exact byCalls_workOn ..
  | works _ => exact byCalls_workOn ..
  | answered _ hanswered => exact hanswered.world_eq ▸ .refl _
  | rests _ => exact .refl _

end Flight

/-! ## Interleavings with calls of the pool -/

namespace Machine

/-- A move that changes the pool by calls, whoever makes it. -/
structure PooledMove (s : Setup) (m m' : Machine) : Prop where
  move : Move s m m'
  pool : m.world.pool.ByCalls m'.world.pool

/-- **Any number of moves while everybody uses the pool by calls.** -/
abbrev PooledInterleaving (s : Setup) : Machine → Machine → Prop :=
  Relation.ReflTransGen (PooledMove s)

theorem PooledInterleaving.interleaving (h : PooledInterleaving s m m') : Interleaving s m m' :=
  Relation.ReflTransGen.mono (fun _ _ => PooledMove.move) _ _ h

theorem PooledInterleaving.byCalls (h : PooledInterleaving s m m') :
    m.world.pool.ByCalls m'.world.pool := by
  induction h with
  | refl => exact .refl _
  | tail _ hlast ih => exact ih.trans hlast.pool

/-- A turn changes the pool by calls. -/
theorem byCalls_turn (s : Setup) (m : Machine) (stage : Stage) (n : Nat) :
    m.world.pool.ByCalls (m.turn s stage n (stage.active.erase n)).world.pool := by
  have hturned := turned s m stage n
  generalize m.turn s stage n (stage.active.erase n) = after at hturned ⊢
  cases hturned with
  | absent habsent => exact .refl _
  | @goesOn f f' next world events hmem hresume hnext hcalls =>
      have hcalled := f.byCalls_resume s m.clock m.world
      rw [hresume] at hcalled
      exact hcalled
  | @lands f r leased world hmem hresume =>
      have hcalled := f.byCalls_resume s m.clock m.world
      rw [hresume] at hcalled
      exact hcalled.trans (world.byCalls_handBack f.job.task leased)

/-- An execution changes the pool by calls only, as long as nobody else uses it. -/
theorem OwnInterleaving.pooled (h : OwnInterleaving s m m') : PooledInterleaving s m m' := by
  refine Relation.ReflTransGen.mono (fun m m' hm => ⟨hm.move, ?_⟩) _ _ h
  rcases hm.pool with hsame | ⟨stage, id, -, rfl⟩
  · exact hsame ▸ .refl _
  · exact byCalls_turn s m stage id

end Machine

/-! ## Where a lease comes from -/

namespace Flight

/-- **An activity that leads to a lease** has claimed the planned agent, or the one that the flight had
    found before; and this agent is registered. -/
theorem planned_or_found_of_leased {now : Nat} (hfree : f.phase.lease = none)
    (hlease : (f.resume s now world).1.lease = some agent) :
    (f.job.planned = some agent ∨ f.phase = .claiming agent) ∧
      ∃ a, world.pool.agents.find? agent = some a := by
  have hsearches := searches_resume s now hfree world
  generalize f.resume s now world = out at hsearches hlease
  cases hsearches with
  | leased hchoice h =>
      obtain rfl := Option.some.inj hlease
      obtain ⟨a, ha, -⟩ := Pool.exists_of_assign h.pool
      exact ⟨hchoice.imp_left And.right, a, ha⟩
  | found _ _ _ | lost _ _ | impossible _ _ _ _ => cases hlease
  | busy _ _ _ _ => cases hfree.symm.trans hlease

/-- **A flight that goes on to claim an agent has just found it.** -/
theorem found_of_claiming {now : Nat} {next : Next} (hresume : f.resume s now world = (next, world'))
    (hnext : next.flight? = some f') (hclaiming : f'.phase = .claiming agent) :
    f.phase = .seeking ∧
      ∃ view, world.pool.findSuitable f.job.requirements = some view ∧ view.id = agent := by
  -- a flight that holds an agent does not claim one
  have hfree : f.phase.lease = none := by
    rw [Option.eq_none_iff_forall_ne_some]
    intro held hheld
    have hlease := (resumes_resume s now f world).lease held hheld
    rw [hresume, Next.lease_of_flight? hnext, hclaiming] at hlease
    cases hlease
  have hsearches := searches_resume s now hfree world
  rw [hresume] at hsearches
  cases hsearches with
  | found hphase _ hfind =>
      cases hnext
      cases hclaiming
      exact ⟨hphase, _, hfind, rfl⟩
  | leased _ _ | lost _ _ =>
      cases hnext
      cases hclaiming
  | impossible _ _ _ _ => cases hnext
  | busy hphase _ _ _ =>
      cases hnext
      cases hphase.symm.trans hclaiming

end Flight

/-- The flight with a number is about to claim an agent for its job. -/
def Machine.Claims (m : Machine) (n : Nat) (job : Job) (agent : AgentId) : Prop :=
  ∃ f, (n, f) ∈ m.flights ∧ f.job = job ∧ f.phase = .claiming agent

/-- **A look that was successful**: with the pool `p`, a flight with a job looked for an agent and found
    it, and since then it has been about to claim this agent. -/
structure LookedUp (s : Setup) (start m : Machine) (n : Nat) (job : Job) (agent : AgentId) (p : Pool) :
    Prop where
  moment : ∃ m₀ f, PooledInterleaving s start m₀ ∧ m₀.world.pool = p ∧ (n, f) ∈ m₀.flights ∧
    f.job = job ∧ f.phase = .seeking ∧
    Relation.TransGen (fun a b => PooledMove s a b ∧ b.Claims n job agent) m₀ m
  found : ∃ view, p.findSuitable job.requirements = some view ∧ view.id = agent

theorem LookedUp.move {p : Pool} (h : LookedUp s start m n job agent p) (hm : PooledMove s m m')
    (hclaims : m'.Claims n job agent) : LookedUp s start m' n job agent p := by
  obtain ⟨m₀, f, hbefore, hpool, hflight, hjob, hphase, hsince⟩ := h.moment
  exact ⟨⟨m₀, f, hbefore, hpool, hflight, hjob, hphase, hsince.tail ⟨hm, hclaims⟩⟩, h.found⟩

/-- **Every agent that a flight is about to claim was found by it.** -/
theorem lookedUp_of_claiming (hstart : start.flights = []) (hm : PooledInterleaving s start m)
    (hflight : (n, f) ∈ m.flights) (hclaiming : f.phase = .claiming agent) :
    ∃ p, LookedUp s start m n f.job agent p := by
  induction hm generalizing n f with
  | refl =>
      rw [hstart] at hflight
      cases hflight
  | @tail m m' hbefore hlast ih =>
      have hclaims : m'.Claims n f.job agent := ⟨f, hflight, rfl, hclaiming⟩
      have hkeep : (n, f) ∈ m.flights → ∃ p, LookedUp s start m' n f.job agent p := fun hold => by
        obtain ⟨p, h⟩ := ih hold hclaiming
        exact ⟨p, h.move hlast hclaims⟩
      rcases hlast.move.noTurn_or_turn with ⟨dispatched, hno⟩ | ⟨stage, id, hstage, heq⟩
      · rcases List.mem_append.mp (hno.flights ▸ hflight) with hold | hnew
        · exact hkeep hold
        · cases (hno.seeking _ hnew).symm.trans hclaiming
      · have hturned := hflight
        rw [heq] at hturned
        rw [flights_of_stage hstage] at hkeep
        rcases mem_flights_turn hturned with hold | ⟨f₀, next, world, hmem, rfl, hresume, hnext⟩
        · exact hkeep hold
        · -- the flight has just found the agent
          have habout := (Flight.resumes_resume s m.clock f₀ m.world).about
          rw [hresume] at habout
          have hjob : f.job = f₀.job := habout.job_eq hnext
          have hlooked := Flight.found_of_claiming hresume hnext hclaiming
          refine ⟨m.world.pool, ⟨m, f₀, hbefore, rfl, ?_, hjob.symm, hlooked.1, .single ⟨hlast, hclaims⟩⟩, ?_⟩
          · rw [flights_of_stage hstage]
            exact hmem
          · rw [hjob]
            exact hlooked.2

/-! ## Jobs -/

/-- Every flight is about a task of the workflow, with its requirements and its planned agent. -/
def aboutTasks (s : Setup) (w : Workflow) : Contract where
  world _ := True
  flight f := ∃ t k, w.task? t = some k ∧ f.job = jobOf s k
  result _ := True

theorem kept_aboutTasks (s : Setup) (w : Workflow) : (aboutTasks s w).Kept s w where
  boards t k now hk := ⟨t, k, hk, rfl⟩
  resumes f now world _ hf := by
    refine ⟨?_, trivial⟩
    have habout := (Flight.resumes_resume s now f world).about
    obtain ⟨t, k, hk, hjob⟩ := hf
    generalize (f.resume s now world).1 = next at habout ⊢
    cases next with
    | land r leased => trivial
    | atOnce f' | again f' | sleep due f' | wait due f' => exact ⟨t, k, hk, habout.trans hjob⟩
  handsBack _ _ _ _ := trivial

/-- The task of a flight, in the workflow as it was given. -/
theorem exists_task_of_flight (hl : Layered w schedule.levels)
    (hm : Interleaving s (Machine.start w schedule world) m) (hflight : (n, f) ∈ m.flights) :
    ∃ k, w.task? f.job.task = some k ∧ f.job = jobOf s k := by
  obtain ⟨t, k, hk, hjob⟩ :=
    (Contract.holds_of_interleaving (kept_aboutTasks s w) (fun _ => trivial) hl hm).flights _ hflight
  obtain rfl : k.id = t := Workflow.id_of_task? hk
  rw [hjob]
  exact ⟨k, hk, rfl⟩

/-! ## Capable agents -/

/-- **Leases are on capable agents, or on agents that were registered anew.** A plan was made for a pool
    that calls have brought about; whatever calls of the pool anybody makes from then on, whatever
    happens to the memory service, and in whatever order flights take their turns, consider a flight
    whose turn leads to a lease. The agent is registered. It covers the requirements of the task, unless
    it did so when it was looked at, which was when the plan was made or when the flight looked for an
    agent for the last time, and is something else now. -/
theorem Engine.leases_cover_unless_registered_anew (e : Engine) {planned : Pool}
    (hplanned : Pool.empty.ByCalls planned) (hplan : w.plan planned = .ok schedule)
    (hworld : Pool.empty.ByCalls world.pool)
    (hm : PooledInterleaving (e.setup w schedule) (Machine.start w schedule world) m)
    (hflight : (n, f) ∈ m.flights) (hfree : f.phase.lease = none)
    (hlease : (f.resume (e.setup w schedule) m.clock m.world).1.lease = some agent) :
    ∃ k a, w.task? f.job.task = some k ∧ m.world.pool.agents.find? agent = some a ∧
      (a.spec.Covers k.requirements ∨ ∃ p a₀,
        (schedule.allocation.find? f.job.task = some agent ∧ p = planned ∨
          LookedUp (e.setup w schedule) (Machine.start w schedule world) m n f.job agent p) ∧
        p.agents.find? agent = some a₀ ∧ a₀.spec.Covers k.requirements ∧ a₀.spec ≠ a.spec) := by
  obtain ⟨k, hk, hjob⟩ := exists_task_of_flight (layered_of_plan hplan) hm.interleaving hflight
  obtain ⟨hchoice, a, ha⟩ := Flight.planned_or_found_of_leased hfree hlease
  refine ⟨k, a, hk, ha, or_iff_not_imp_left.mpr fun hnot => ?_⟩
  -- the agent suited the task when it was looked at
  suffices h : ∃ p, p.Indexed ∧ Suits p k agent ∧
      (schedule.allocation.find? f.job.task = some agent ∧ p = planned ∨
        LookedUp (e.setup w schedule) (Machine.start w schedule world) m n f.job agent p) by
    obtain ⟨p, hindexed, hsuits, hlooked⟩ := h
    obtain ⟨a₀, ha₀, hcovers⟩ := hsuits.exists_agent hindexed
    exact ⟨p, a₀, hlooked, ha₀, hcovers, fun hsame => hnot (hsame ▸ hcovers)⟩
  rcases hchoice with hchosen | hclaiming
  · have hallocated : schedule.allocation.find? f.job.task = some agent := by
      rw [hjob] at hchosen ⊢
      exact hchosen
    obtain ⟨k', hk', hsuits⟩ := suits_of_allocation (isValid_of_plan hplan).2 hallocated
    obtain rfl := Option.some.inj (hk.symm.trans hk')
    exact ⟨_, .of_byCalls hplanned, hsuits, Or.inl ⟨hallocated, rfl⟩⟩
  · obtain ⟨p, hlooked⟩ := lookedUp_of_claiming rfl hm hflight hclaiming
    obtain ⟨m₀, -, hbefore, rfl, -⟩ := hlooked.moment
    refine ⟨_, .of_byCalls (hworld.trans hbefore.byCalls), ?_, Or.inr hlooked⟩
    obtain ⟨view, hfind, hview⟩ := hlooked.found
    rw [hjob] at hfind
    exact ⟨view, hfind, hview⟩

/-! ## An agent registered anew -/

/-- A single task. -/
def errand : Workflow :=
  ({ id := "errand", name := "Errand" } : Workflow).addTask (stepNamed "build") []

/-- Two agents that can do it. -/
def bothCan : Pool := Pool.empty.afterCalls
  [.register { id := "ada", capabilities := .ofList ["rust"] },
    .register { id := "bob", capabilities := .ofList ["rust"] }]

/-- The pool after an agent has left and come back with something else to offer. -/
def comesBack (agent : AgentId) (p : Pool) : Pool := p.afterCalls
  [.deregister agent, .register { id := agent, capabilities := .ofList ["docs"] }]

/-- The task after its dispatch, with a plan made before its first agent left and came back. -/
def errandUnderWay (schedule : Schedule) : Machine :=
  Machine.advance ((engineFailing []).setup errand schedule) 2
    (Machine.start errand schedule { pool := comesBack "ada" bothCan })

/-- The lease is on the planned agent, which was something else when the plan was made. -/
theorem leases_cover_unless_registered_anew_errand :
    ∃ schedule f k a, errand.plan bothCan = .ok schedule ∧
      (errandUnderWay schedule).flights = [(0, f)] ∧ errand.task? f.job.task = some k ∧
      (errandUnderWay schedule).world.pool.agents.find? "ada" = some a ∧
      (a.spec.Covers k.requirements ∨ ∃ p a₀,
        (schedule.allocation.find? f.job.task = some "ada" ∧ p = bothCan ∨
          LookedUp ((engineFailing []).setup errand schedule)
            (Machine.start errand schedule { pool := comesBack "ada" bothCan })
            (errandUnderWay schedule) 0 f.job "ada" p) ∧
        p.agents.find? "ada" = some a₀ ∧ a₀.spec.Covers k.requirements ∧ a₀.spec ≠ a.spec) := by
  have hplanned : Pool.empty.ByCalls bothCan := ⟨_, rfl⟩
  have hworld : Pool.empty.ByCalls (comesBack "ada" bothCan) := hplanned.trans ⟨_, rfl⟩
  have hlease : ∀ schedule f, errand.plan bothCan = .ok schedule →
      (errandUnderWay schedule).flights = [(0, f)] → f.phase.lease = none →
      (f.resume ((engineFailing []).setup errand schedule) (errandUnderWay schedule).clock
        (errandUnderWay schedule).world).1.lease = some "ada" → _ :=
    fun schedule f hplan hflights hfree hlease =>
      Engine.leases_cover_unless_registered_anew (engineFailing []) hplanned hplan hworld
        (own_of_steps (orderly_of_stage_none rfl) (steps_advance _ 2 _)).pooled
        (n := 0) (hflights ▸ List.mem_cons_self) hfree hlease
  obtain ⟨k, a, hk, ha, hcovers⟩ := hlease _ _ rfl rfl rfl rfl
  exact ⟨_, _, k, a, rfl, rfl, hk, ha, hcovers⟩

/-- **A lease on an agent that is not capable**, while another agent is. -/
theorem lease_on_agent_registered_anew :
    ∃ schedule f a, errand.plan bothCan = .ok schedule ∧
      schedule.verify (comesBack "ada" bothCan) = .ok () ∧
      (errandUnderWay schedule).flights = [(0, f)] ∧ f.phase = .seeking ∧
      (f.resume ((engineFailing []).setup errand schedule) (errandUnderWay schedule).clock
        (errandUnderWay schedule).world).1.lease = some "ada" ∧
      (errandUnderWay schedule).world.pool.agents.find? "ada" = some a ∧
      ¬ a.spec.Covers f.job.requirements ∧
      ((errandUnderWay schedule).world.pool.findSuitable f.job.requirements).map AgentView.id =
        some "bob" := by
  refine ⟨_, _, _, rfl, rfl, rfl, rfl, rfl, rfl, ?_, rfl⟩
  rw [← AgentSpec.covers_iff]
  decide

-- The same happens to a task that finds its agent by itself, between the look and the claim.
example (s : Setup) (job : Job) :
    (bothCan.findSuitable (stepNamed "build").requirements).map AgentView.id = some "ada" ∧
      (({ job, startedAt := 0, phase := .claiming "ada" } : Flight).resume s 0
        { pool := comesBack "ada" bothCan }).1.lease = some "ada" := ⟨rfl, rfl⟩

end Foreman
