import Foreman.Proofs.Allocation
import Foreman.Proofs.Run.Course
import Foreman.Run.Request

/-!
# `Foreman.Proofs.Run.Requests` — what requests come to, and what a refusal leaves

Every request in place comes to what the engine says (`run_plan`, `run_planAndExecute`,
`run_executePlan`), and until its execution begins it only looks. So a refusal leaves workflow, pool and
memory service as they were (`snd_outcome_of_error`): an execution is never refused.

To plan and to execute the plan then is the same as to do both in one request. This needs that the
second look at the agents finds all of them registered, which is because the index of a pool lists
registered agents only (`verify_of_schedule`).

## Contents
- `Machine.run_eq_advance`: a run in terms of steps.
- `run_verify`, `run_pickAgents`, **`run_schedule`**, **`run_plan`**, `run_proceed`, **`run_execute`**,
  `site_reached`.
- **`run_planAndExecute`**, **`run_executePlan`**, and their answers (`answer_planAndExecute`,
  `answer_executePlan`).
- **`Request.plan_then_execute`**.
-/

namespace Foreman

open InPlace

variable {w : Workflow} {p : Pool} {schedule : Schedule} {site : Site} {e : Engine} {fuel : Nat}

/-! ## Runs as steps -/

/-- A run is as many steps, and has a result if it has ended by then. -/
theorem Machine.run_eq_advance (s : Setup) (n : Nat) (m : Machine) :
    run s n m = if (advance s n m).isDone then some (advance s n m) else none := by
  induction n generalizing m with
  | zero => rfl
  | succ n ih =>
      unfold run advance
      cases hstep : step s m with
      | none =>
          -- there is no step just if the execution has ended
          have hdone := isDone_iff_step_eq_none.mpr hstep
          exact (if_pos hdone).symm
      | some m₁ => exact ih m₁

/-! ## Second looks -/

/-- **The agents of a schedule are found again** in the pool that it was made for. -/
theorem verify_of_schedule (hindexed : p.Indexed) (h : w.schedule p = .ok schedule) :
    schedule.verify p = .ok () := by
  have hnone : schedule.allocation.entries.find? (fun x => !p.agents.contains x.2) = none := by
    refine List.find?_eq_none.mpr fun ⟨t, agent⟩ hentry => ?_
    obtain ⟨k, -, hsuits⟩ := suits_of_allocation h (NameMap.mem_entries_iff.mp hentry)
    obtain ⟨a, ha, -⟩ := hsuits.exists_agent hindexed
    simpa using NameMap.mem_keys_iff.mpr ⟨a, ha⟩
  rw [Schedule.verify, hnone]

namespace Request

@[simp] theorem run_validate (site : Site) : validate.run site =
    (if site.workflow.isValid then .ok () else .error (.invalid site.workflow.validationErrors),
      site) := by
  unfold validate
  rw [run_get_bind]
  dsimp only
  cases site.workflow.isValid <;> rfl

/-- Looking at agents one by one comes to one look at all of them. -/
theorem run_verify (site : Site) (schedule : Schedule) :
    (verify schedule.allocation.entries).run site =
      ((schedule.verify site.world.pool).mapError .unschedulable, site) := by
  rw [Schedule.verify]
  induction schedule.allocation.entries with
  | nil => rfl
  | cons entry entries ih =>
      obtain ⟨task, agent⟩ := entry
      rw [verify, run_get_bind, List.find?_cons]
      cases hfound : site.world.pool.agents.contains agent with
      | true => exact ih
      | false => rfl

/-- Picking agents one by one changes nothing. -/
theorem run_pickAgents (site : Site) (ts : List TaskId) (allocation : NameMap AgentId) :
    (pickAgents ts allocation).run site =
      ((ts.foldlM (allocateTask site.workflow.tasksById site.world.pool) allocation).mapError .unschedulable,
        site) := by
  induction ts generalizing allocation with
  | nil => rfl
  | cons t ts ih =>
      rw [pickAgents, run_get_bind, List.foldlM_cons]
      cases h : allocateTask site.workflow.tasksById site.world.pool allocation t with
      | ok next => exact ih next
      | error e => rfl

/-- **Scheduling in place** comes to the schedule of the workflow, and changes nothing. -/
theorem run_schedule (site : Site) :
    Request.schedule.run site = (site.workflow.schedule site.world.pool, site) := by
  unfold Request.schedule
  rw [run_get_bind, Workflow.schedule]
  dsimp only
  cases (Graph.ofWorkflow site.workflow).topologicalOrder with
  | error e => rfl
  | ok order =>
      dsimp only
      generalize computeLevels (Graph.ofWorkflow site.workflow) order _ = levels
      cases computeCriticalPath (Graph.ofWorkflow site.workflow) order site.workflow.estimates with
      | error o => rfl
      | ok path =>
          -- only the agents are left, asked for one after another
          dsimp only
          rw [run_bind, run_pickAgents, allocate]
          cases (levels.flatMap Level.tasks).foldlM
            (allocateTask site.workflow.tasksById site.world.pool) ∅ <;> rfl

/-- **Planning in place** comes to the plan of the workflow, and changes nothing. -/
theorem run_plan (site : Site) : plan.run site = (site.workflow.plan site.world.pool, site) := by
  unfold plan
  rw [run_bind, run_validate, Workflow.plan]
  cases site.workflow.isValid with
  | false => rfl
  | true => exact run_schedule site

/-- **Steps in place** are the steps of the execution. -/
theorem run_proceed (s : Setup) (n : Nat) (m : Machine) :
    (proceed s n m).run m.site = (.ok (Machine.advance s n m), (Machine.advance s n m).site) := by
  induction n generalizing m with
  | zero => rfl
  | succ n ih =>
      have hsame : m.site.resume m = m := rfl
      rw [proceed, run_get_bind, hsame, Machine.advance]
      cases Machine.step s m with
      | none => rfl
      | some m₁ => exact ih m₁

/-- The execution of a schedule, as far as a number of steps takes it. -/
def reached (e : Engine) (fuel : Nat) (schedule : Schedule) (site : Site) : Machine :=
  Machine.advance (e.setup site.workflow schedule) fuel
    (Machine.start site.workflow schedule site.world)

/-- What the engine says about an execution, in terms of its last step. -/
theorem execute_eq_reached (e : Engine) (fuel : Nat) (schedule : Schedule) (site : Site) :
    e.execute fuel site.workflow schedule site.world =
      if (reached e fuel schedule site).isDone then
        some { result := (reached e fuel schedule site).result (e.setup site.workflow schedule)
               workflow := (reached e fuel schedule site).workflow
               world := (reached e fuel schedule site).world }
      else none := by
  rw [Engine.execute, Machine.run_eq_advance]
  show Option.map _ (if (reached e fuel schedule site).isDone then _ else none) = _
  cases (reached e fuel schedule site).isDone <;> rfl

/-- **An execution in place** is never refused. It has the result of the engine, and leaves workflow and
    world as the last of its steps does. -/
theorem run_execute (e : Engine) (fuel : Nat) (schedule : Schedule) (site : Site) :
    (execute e fuel schedule).run site =
      (.ok ((e.execute fuel site.workflow schedule site.world).map Execution.result),
        (reached e fuel schedule site).site) := by
  unfold execute
  rw [run_get_bind, run_set_bind, run_bind, run_proceed, execute_eq_reached]
  show (Except.ok (if (reached e fuel schedule site).isDone then _ else _), _) = _
  cases (reached e fuel schedule site).isDone <;> rfl

/-- **An execution that has ended** leaves the workflow and the world that the engine says. -/
theorem site_reached {x : Execution} (h : e.execute fuel site.workflow schedule site.world = some x) :
    (reached e fuel schedule site).site = ⟨x.workflow, x.world⟩ := by
  rw [execute_eq_reached] at h
  split at h
  · cases h
    rfl
  · cases h

/-! ## Requests as a whole -/

/-- Where the looks at workflow and agents lead to: the execution of a schedule, or a refusal that leaves
    everything as it was. -/
def outcome (e : Engine) (fuel : Nat) (site : Site) :
    Except PlanError Schedule → Except PlanError (Option RunResult) × Site
  | .ok schedule => (execute e fuel schedule).run site
  | .error err => (.error err, site)

/-- The answer is what the engine says about the schedule. -/
theorem fst_outcome (e : Engine) (fuel : Nat) (site : Site) (look : Except PlanError Schedule) :
    (outcome e fuel site look).1 = look.map fun schedule =>
      (e.execute fuel site.workflow schedule site.world).map Execution.result := by
  cases look with
  | error err => rfl
  | ok schedule => rw [outcome, run_execute]; rfl

/-- **A refusal leaves everything as it was**, since an execution is never refused. -/
theorem snd_outcome_of_error {look : Except PlanError Schedule} {err : PlanError}
    (h : (outcome e fuel site look).1 = .error err) : (outcome e fuel site look).2 = site := by
  cases look with
  | error err => rfl
  | ok schedule =>
      rw [fst_outcome] at h
      cases h

/-- **Planning and executing in place.** -/
theorem run_planAndExecute (e : Engine) (fuel : Nat) (site : Site) :
    (planAndExecute e fuel).run site =
      outcome e fuel site (site.workflow.plan site.world.pool) := by
  rw [planAndExecute, run_bind, run_plan]
  cases site.workflow.plan site.world.pool <;> rfl

/-- **Executing an earlier plan in place.** -/
theorem run_executePlan (e : Engine) (fuel : Nat) (schedule : Schedule) (site : Site) :
    (executePlan e fuel schedule).run site = outcome e fuel site
      ((e.runPlan fuel site.workflow schedule site.world).map fun _ => schedule) := by
  rw [executePlan, run_bind, run_validate, Engine.runPlan]
  cases site.workflow.isValid with
  | false => rfl
  | true =>
      rw [if_pos rfl, if_pos rfl]
      dsimp only
      rw [run_bind, run_verify]
      cases schedule.verify site.world.pool <;> rfl

/-- Planning and executing in place answers what a run of the engine does. -/
theorem answer_planAndExecute (e : Engine) (fuel : Nat) (site : Site) :
    ((planAndExecute e fuel).run site).1 =
      (e.run fuel site.workflow site.world).map (Option.map Execution.result) := by
  rw [run_planAndExecute, fst_outcome, Engine.run]
  cases site.workflow.plan site.world.pool <;> rfl

/-- Executing a plan in place answers what the engine does. -/
theorem answer_executePlan (e : Engine) (fuel : Nat) (schedule : Schedule) (site : Site) :
    ((executePlan e fuel schedule).run site).1 =
      (e.runPlan fuel site.workflow schedule site.world).map (Option.map Execution.result) := by
  rw [run_executePlan, fst_outcome, Engine.runPlan]
  cases site.workflow.isValid with
  | false => rfl
  | true =>
      rw [if_pos rfl]
      cases schedule.verify site.world.pool <;> rfl

/-- **To plan and then to execute the plan is to do both at once, and a refusal has no effects.** Let
    the pool be one that any calls have left. If a workflow can be planned, planning changes nothing,
    and executing the plan then is not refused and is the same as planning and executing in one request:
    the same result, and the same workflow, pool and memory service afterwards, however many steps it
    takes. What that is, a run of the engine says. And whenever one of the three requests is refused,
    all of this is as it was before, and so are the calls of the runner. -/
theorem plan_then_execute (e : Engine) (fuel : Nat) (site : Site) :
    (∀ calls schedule, site.world.pool = Pool.empty.afterCalls calls →
      (plan.run site).1 = .ok schedule →
        (plan.run site).2 = site ∧
        (executePlan e fuel schedule).run site = (planAndExecute e fuel).run site ∧
        ∃ result, ((executePlan e fuel schedule).run site).1 = .ok result) ∧
    (∀ x, e.run fuel site.workflow site.world = .ok (some x) →
      (planAndExecute e fuel).run site = (.ok (some x.result), ⟨x.workflow, x.world⟩)) ∧
    (∀ err, (plan.run site).1 = .error err → (plan.run site).2 = site) ∧
    (∀ err, ((planAndExecute e fuel).run site).1 = .error err →
      ((planAndExecute e fuel).run site).2 = site) ∧
    ∀ schedule err, ((executePlan e fuel schedule).run site).1 = .error err →
      ((executePlan e fuel schedule).run site).2 = site := by
  refine ⟨fun calls schedule hpool hplan => ?_, fun x hrun => ?_, fun err _ => by rw [run_plan],
    fun err herr => ?_, fun schedule err herr => ?_⟩
  · have hplanned : site.workflow.plan site.world.pool = .ok schedule := by
      rw [run_plan] at hplan
      exact hplan
    have hindexed : site.world.pool.Indexed := hpool ▸ Pool.Indexed.afterCalls calls
    obtain ⟨hvalid, hschedule⟩ := isValid_of_plan hplanned
    -- the second look at workflow and agents finds what the first one has found
    have haccepted : e.runPlan fuel site.workflow schedule site.world =
        .ok (e.execute fuel site.workflow schedule site.world) := by
      rw [Engine.runPlan, if_pos hvalid, verify_of_schedule hindexed hschedule]
    have hsame : (executePlan e fuel schedule).run site = (planAndExecute e fuel).run site := by
      rw [run_executePlan, haccepted, run_planAndExecute, hplanned]
      rfl
    refine ⟨by rw [run_plan], hsame, ?_⟩
    rw [answer_executePlan, haccepted]
    exact ⟨_, rfl⟩
  · obtain ⟨schedule, hplan, hexecute⟩ := Engine.exists_execute_of_run hrun
    refine Prod.ext ?_ ?_
    · rw [answer_planAndExecute, hrun]
      rfl
    · rw [run_planAndExecute, hplan, outcome, run_execute]
      exact site_reached hexecute
  · rw [run_planAndExecute] at herr ⊢
    exact snd_outcome_of_error herr
  · rw [run_executePlan] at herr ⊢
    exact snd_outcome_of_error herr

/-- A workflow with agents, and without any. -/
def siteWith (pool : Pool) : Site := ⟨pipeline, { pool }⟩

/-- The pipeline is planned and executed, and refused where there is no agent. -/
theorem plan_then_execute_pipeline :
    (∃ schedule, ∃ x : Execution, (plan.run (siteWith lonePool)).1 = .ok schedule ∧
      (executePlan (engineFailing []) 40 schedule).run (siteWith lonePool) =
        (planAndExecute (engineFailing []) 40).run (siteWith lonePool) ∧
      (planAndExecute (engineFailing []) 40).run (siteWith lonePool) =
        (.ok (some x.result), ⟨x.workflow, x.world⟩) ∧
      x.result.success = true ∧
      ((executePlan (engineFailing []) 40 schedule).run (siteWith .empty)).2 = siteWith .empty) ∧
    (plan.run (siteWith .empty)).2 = siteWith .empty ∧
    ((planAndExecute (engineFailing []) 40).run (siteWith .empty)).2 = siteWith .empty := by
  obtain ⟨hexecute, hends, -, -, -⟩ := plan_then_execute (engineFailing []) 40 (siteWith lonePool)
  obtain ⟨-, -, hplan, hrun, hlate⟩ := plan_then_execute (engineFailing []) 40 (siteWith .empty)
  have hplanned : (plan.run (siteWith lonePool)).1 = .ok _ := rfl
  obtain ⟨-, hsame, -⟩ := hexecute
    [.register { id := "solo", capabilities := .ofList ["rust"] }] _ rfl hplanned
  have hended := hends _ rfl
  exact ⟨⟨_, _, hplanned, hsame, hended, rfl, hlate _ _ rfl⟩, hplan _ rfl, hrun _ rfl⟩

end Request
end Foreman
