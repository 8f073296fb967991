import Foreman.Proofs.Levels
import Foreman.Proofs.Run.Underway

/-!
# `Foreman.Proofs.Run.Course` — the course of an execution

An execution of layered levels is always in one of three situations (`Standing`):

* between two levels, with everything before completed and everything ahead pending;
* during a level, with the same on both sides and the level itself under way;
* after a level that ended badly, with some of the levels after it cancelled already.

Its books agree with this (`Books`): there is a result for just the tasks that are completed or
failed, it says which, and no step was illegal. `Sound` puts both together.

A move has one of three effects (`Effect`): nothing that the books record, a turn of a flight, or the
taking of all results of a level. With this, every move keeps `Sound` (`Sound.move`), and so it holds
all along (`sound_of_interleaving`).
-/

namespace Foreman

open Machine

variable {w w' : Workflow} {s : Setup} {m m' : Machine} {levels past later : List Level}
  {level : Level} {stage stage' : Stage} {t : TaskId} {a : TaskStatus}
  {steps : List (TaskId × TaskStatus)}

/-! ## Books -/

/-- Whether a status is that of a task with a result. -/
def TaskStatus.isOutcome : TaskStatus → Bool
  | completed | failed => true
  | _ => false

theorem TaskResult.isOutcome_verdict (r : TaskResult) : r.verdict.isOutcome = true := by
  unfold verdict
  split <;> rfl

/-- The status of a task with a result. -/
def Workflow.outcomeOf (w : Workflow) (t : TaskId) : Option TaskStatus :=
  (w.statusOf t).filter TaskStatus.isOutcome

theorem Workflow.outcomeOf_eq_none (h : w.statusOf t = some a) (ha : a.isOutcome = false) :
    w.outcomeOf t = none := by
  simp [outcomeOf, h, ha]

/-- **The books of an execution of a workflow.** -/
structure Books (w : Workflow) (m : Machine) : Prop where
  same : m.workflow.resetStatuses = w.resetStatuses
  legal : ∀ step, .illegalStep step ∉ m.journal
  verdicts : ∀ t, (m.results.find? t).map TaskResult.verdict = m.workflow.outcomeOf t
  names : ∀ t r, m.results.find? t = some r → r.task = t

/-- Moves of tasks without a result to statuses without a result do not show in the books. -/
theorem Moved.outcomeOf (hm : Moved steps w w')
    (hbefore : ∀ t ∈ steps.map Prod.fst, w.outcomeOf t = none)
    (hafter : ∀ p ∈ steps, p.2.isOutcome = false) (t : TaskId) :
    w'.outcomeOf t = w.outcomeOf t := by
  by_cases ht : t ∈ steps.map Prod.fst
  · rw [hbefore t ht]
    obtain ⟨⟨u, a⟩, hp, rfl⟩ := List.mem_map.mp ht
    exact Workflow.outcomeOf_eq_none (hm.moved u a hp) (hafter _ hp)
  · rw [Workflow.outcomeOf, hm.kept t ht, Workflow.outcomeOf]

theorem find?_collected_of_not_mem {results : NameMap TaskResult} {rs : List TaskResult}
    (h : t ∉ rs.map TaskResult.task) : (collected results rs).find? t = results.find? t := by
  induction rs generalizing results with
  | nil => rfl
  | cons r rs ih =>
      rw [List.map_cons, List.mem_cons, not_or] at h
      rw [collected, List.foldl_cons, ← collected, ih h.2, NameMap.find?_insert, if_neg h.1]

theorem find?_collected {results : NameMap TaskResult} {rs : List TaskResult} {r : TaskResult}
    (hnodup : (rs.map TaskResult.task).Nodup) (hr : r ∈ rs) :
    (collected results rs).find? r.task = some r := by
  induction rs generalizing results with
  | nil => cases hr
  | cons r' rs ih =>
      rw [List.map_cons, List.nodup_cons] at hnodup
      rw [collected, List.foldl_cons, ← collected]
      rcases List.mem_cons.mp hr with rfl | hr
      · rw [find?_collected_of_not_mem hnodup.1, NameMap.find?_insert_self]
      · exact ih hnodup.2 hr

/-! ## Situations -/

/-- Between two levels, while no task has failed. -/
structure Between (levels past : List Level) (m : Machine) : Prop where
  current : m.stage = none
  split : levels = past ++ m.levels
  done : AllAre m.workflow .completed (tasksOf past)
  ahead : AllAre m.workflow .pending (tasksOf m.levels)
  failed : m.failed = []
  cancelled : m.cancelled = []
  executed : m.levelsExecuted = past.length

/-- During a level. -/
structure During (levels past : List Level) (stage : Stage) (m : Machine) : Prop where
  current : m.stage = some stage
  split : levels = past ++ stage.level :: m.levels
  done : AllAre m.workflow .completed (tasksOf past)
  ahead : AllAre m.workflow .pending (tasksOf m.levels)
  failed : m.failed = []
  cancelled : m.cancelled = []
  executed : m.levelsExecuted = past.length + 1
  underway : stage.Underway m.workflow

/-- After a level with a failure; some of the levels after it are cancelled already. -/
structure Broken (levels past : List Level) (level : Level) (skipped : List Level) (m : Machine) :
    Prop where
  current : m.stage = none
  split : levels = past ++ level :: (skipped ++ m.levels)
  done : AllAre m.workflow .completed (tasksOf past)
  ended : level.EndedBadly m.workflow
  void : AllAre m.workflow .cancelled (tasksOf skipped)
  ahead : AllAre m.workflow .pending (tasksOf m.levels)
  failed : m.failed = tasksWith m.workflow .failed level.tasks
  failure : m.failed ≠ []
  cancelled : m.cancelled = tasksOf skipped
  executed : m.levelsExecuted = past.length + 1

/-- **The situation of an execution of some levels.** -/
inductive Standing (levels : List Level) (m : Machine) : Prop
  | between (past : List Level) (h : Between levels past m)
  | during (past : List Level) (stage : Stage) (h : During levels past stage m)
  | broken (past : List Level) (level : Level) (skipped : List Level)
      (h : Broken levels past level skipped m)

/-- **What holds all along.** -/
structure Sound (w : Workflow) (levels : List Level) (m : Machine) : Prop where
  orderly : m.Orderly
  books : Books w m
  standing : Standing levels m

/-! ## Levels apart -/

/-- Layers have no task in common. -/
theorem Layered.apart (hl : Layered w levels) (heq : levels = past ++ level :: later) :
    level.tasks.Nodup ∧ (∀ t ∈ tasksOf past, t ∉ level.tasks) ∧
      ∀ t ∈ tasksOf later, t ∉ level.tasks := by
  have hnodup := hl.nodup
  rw [heq, tasksOf_append, tasksOf_cons, List.nodup_append, List.nodup_append] at hnodup
  obtain ⟨_, ⟨hlevel, _, hlater⟩, hpast⟩ := hnodup
  exact ⟨hlevel, fun t ht hmem => hpast t ht t (List.mem_append_left _ hmem) rfl,
    fun t ht hmem => hlater t hmem t ht rfl⟩

/-- What happens in a level does not concern the levels around it. -/
theorem Moved.around (hm : Moved steps w w') (hsteps : ∀ t ∈ steps.map Prod.fst, t ∈ level.tasks)
    {ts : List TaskId} (hapart : ∀ t ∈ ts, t ∉ level.tasks) (hts : AllAre w a ts) :
    AllAre w' a ts :=
  hm.allAre hts fun t ht hmem => hapart t ht (hsteps t hmem)

theorem Level.EndedBadly.congr (h : level.EndedBadly w)
    (hsame : ∀ t ∈ level.tasks, w'.statusOf t = w.statusOf t) : level.EndedBadly w' := by
  unfold Level.EndedBadly at h ⊢
  split at h
  · next hpar =>
      rw [if_pos hpar]
      obtain ⟨hall, t, ht, hfail⟩ := h
      refine ⟨fun u hu => ?_, t, ht, (hsame t ht).trans hfail⟩
      rw [hsame u hu]
      exact hall u hu
  · next hpar =>
      rw [if_neg hpar]
      obtain ⟨done, t, rest, heq, hdone, hfail, hrest⟩ := h
      refine ⟨done, t, rest, heq, fun u hu => ?_, ?_, fun u hu => ?_⟩
      · exact (hsame u (by simp [heq, hu])).trans (hdone u hu)
      · exact (hsame t (by simp [heq])).trans hfail
      · exact (hsame u (by simp [heq, hu])).trans (hrest u hu)

/-! ## Effects -/

/-- **Nothing to record**: no call, no landing, no result. -/
structure Quiet (m m' : Machine) : Prop where
  same : m'.workflow.resetStatuses = m.workflow.resetStatuses
  journal : m'.journal = m.journal
  calls : m'.world.calls = m.world.calls
  landed : m'.landed = m.landed
  results : m'.results = m.results
  outcomes : ∀ t, m'.workflow.outcomeOf t = m.workflow.outcomeOf t

/-- **The results of the level are taken**, and give their tasks the outcome. -/
structure Takes (m m' : Machine) : Prop where
  same : m'.workflow.resetStatuses = m.workflow.resetStatuses
  journal : m'.journal = m.journal
  calls : m'.world.calls = m.world.calls
  landed : m'.landed = []
  taken : ∀ r ∈ m.landed,
    m'.results.find? r.task = some r ∧ m'.workflow.outcomeOf r.task = some r.verdict
  others : ∀ t, t ∉ m.landed.map TaskResult.task →
    m'.results.find? t = m.results.find? t ∧ m'.workflow.outcomeOf t = m.workflow.outcomeOf t

/-- **What a move does to calls, landings and results.** -/
inductive Effect (m m' : Machine) : Prop
  | quiet (h : Quiet m m')
  | turn (stage : Stage) (id : Nat) (world : World) (stage' : Stage) (events : List Event)
      (hstage : m.stage = some stage) (heq : m' = m.after world stage' events)
      (hturn : GoesOn m stage id world stage' events ∨
        ∃ r, Lands m stage id world stage' events r)
  | takes (h : Takes m m')

theorem Books.quiet (hb : Books w m) (h : Quiet m m') : Books w m' :=
  ⟨h.same.trans hb.same, h.journal ▸ hb.legal, fun t => by rw [h.results, h.outcomes, hb.verdicts],
    h.results ▸ hb.names⟩

theorem Books.takes (hb : Books w m) (h : Takes m m') : Books w m' := by
  refine ⟨h.same.trans hb.same, h.journal ▸ hb.legal, fun t => ?_, fun t r hr => ?_⟩
  · by_cases ht : t ∈ m.landed.map TaskResult.task
    · obtain ⟨r, hr, rfl⟩ := List.mem_map.mp ht
      rw [(h.taken r hr).1, (h.taken r hr).2]
      rfl
    · rw [(h.others t ht).1, (h.others t ht).2, hb.verdicts]
  · by_cases ht : t ∈ m.landed.map TaskResult.task
    · obtain ⟨r', hr', rfl⟩ := List.mem_map.mp ht
      rw [(h.taken r' hr').1] at hr
      rw [← Option.some.inj hr]
    · rw [(h.others t ht).1] at hr
      exact hb.names t r hr

/-- A turn makes no illegal step. -/
theorem Books.effect (hb : Books w m) (h : Effect m m') : Books w m' := by
  cases h with
  | quiet h => exact hb.quiet h
  | takes h => exact hb.takes h
  | turn stage id world stage' events hstage heq hturn =>
      subst heq
      refine ⟨hb.same, fun step hmem => ?_, hb.verdicts, hb.names⟩
      have hevents : .illegalStep step ∉ events := by
        rcases hturn with ⟨_, _, ⟨rfl, _⟩ | ⟨call, _, rfl, _⟩⟩ | ⟨r, _, _, _, rfl | ⟨e, rfl⟩, _⟩ <;>
          simp
      exact hb.legal step ((List.mem_append.mp hmem).resolve_left hevents)

/-! ## Moves -/

/-- A level begins. -/
theorem Between.begin {rest : List Level} (h : Between levels past m)
    (hlevels : m.levels = level :: rest) :
    Quiet m (m.beginLevel level rest) ∧
      During levels past { level, waiting := level.tasks } (m.beginLevel level rest) := by
  have hahead := h.ahead
  rw [hlevels, tasksOf_cons, allAre_append_iff] at hahead
  rw [beginLevel, if_pos (by simp [h.failed])]
  have hlanded : m.landed = [] := by rw [landed, h.current]; rfl
  exact ⟨⟨rfl, rfl, rfl, hlanded.symm, rfl, fun _ => rfl⟩, rfl, hlevels ▸ h.split, h.done, hahead.2,
    h.failed, h.cancelled, congrArg (· + 1) h.executed, .start hahead.1⟩

/-- A level is cancelled. -/
theorem Broken.begin {skipped rest : List Level} {next : Level} (hl : Layered w levels)
    (h : Broken levels past level skipped m) (hlevels : m.levels = next :: rest) :
    Quiet m (m.beginLevel next rest) ∧
      Broken levels past level (skipped ++ [next]) (m.beginLevel next rest) := by
  have hahead := h.ahead
  rw [hlevels, tasksOf_cons, allAre_append_iff] at hahead
  have hsplit : levels = (past ++ level :: skipped) ++ next :: rest := by
    rw [h.split, hlevels]
    simp
  obtain ⟨hnodup, hpast, hrest⟩ := hl.apart hsplit
  rw [tasksOf_append, tasksOf_cons] at hpast
  obtain ⟨w', heq, hm⟩ := foldl_cancel hnodup hahead.1
  have hsteps : ∀ t ∈ (next.tasks.map fun t => (t, TaskStatus.cancelled)).map Prod.fst,
      t ∈ next.tasks := by
    simp
  -- the level with the failure is among the levels before the cancelled one
  have hkeep : ∀ t ∈ level.tasks, w'.statusOf t = m.workflow.statusOf t := fun t ht =>
    hm.kept t fun hmem => hpast t (by simp [ht]) (hsteps t hmem)
  have hfailed : tasksWith w' .failed level.tasks = tasksWith m.workflow .failed level.tasks :=
    List.filter_congr fun t ht => by rw [hkeep t ht]
  rw [beginLevel, if_neg (by simpa using h.failure), heq]
  have houtcome : ∀ t, w'.outcomeOf t = m.workflow.outcomeOf t :=
    hm.outcomeOf (fun t ht => Workflow.outcomeOf_eq_none (hahead.1 t (hsteps t ht)) rfl)
      (by simp [TaskStatus.isOutcome])
  refine ⟨⟨hm.same, rfl, rfl, rfl, rfl, houtcome⟩, h.current, ?_,
    hm.around hsteps (fun t ht => hpast t (by simp [ht])) h.done, h.ended.congr hkeep, ?_,
    hm.around hsteps hrest hahead.2, h.failed.trans hfailed.symm, h.failure, ?_, h.executed⟩
  · rw [hsplit]
    simp
  · rw [tasksOf_append, tasksOf_cons, tasksOf_nil, List.append_nil]
    refine AllAre.append (hm.around hsteps (fun t ht => hpast t (by simp [ht])) h.void) ?_
    exact fun t ht => hm.moved t _ (by simpa using ht)
  · rw [tasksOf_append, tasksOf_cons, tasksOf_nil, List.append_nil]
    exact congrArg (· ++ next.tasks) h.cancelled

/-- Every task of a level is declared. -/
theorem exists_task? (hl : Layered w levels) (hb : Books w m) (ht : t ∈ tasksOf levels) :
    ∃ k, m.workflow.task? t = some k := by
  have hdeclared : t ∈ m.workflow.taskIds := by
    rw [Workflow.taskIds_eq_of_reset hb.same]
    exact (hl.mem_iff t).mp ht
  obtain ⟨a, ha⟩ := Workflow.exists_statusOf_iff.mpr hdeclared
  obtain ⟨k, hk, _⟩ := Workflow.statusOf_eq_some_iff_task?.mp ha
  exact ⟨k, hk⟩

/-- A task of the level is dispatched. -/
theorem During.dispatch {rest : List TaskId} (hl : Layered w levels) (hb : Books w m)
    (h : During levels past stage m) (hwaiting : stage.waiting = t :: rest)
    (hgo : stopped stage = false) (hroom : stage.flights.length < bound s stage.level) :
    Quiet m ((dispatchOne s m stage t rest).1.withStage (dispatchOne s m stage t rest).2) ∧
      During levels past (dispatchOne s m stage t rest).2
        ((dispatchOne s m stage t rest).1.withStage (dispatchOne s m stage t rest).2) := by
  obtain ⟨hnodup, hpast, hlater⟩ := hl.apart h.split
  have hmem : t ∈ stage.level.tasks := h.underway.parts.mem_iff.mp (by simp [hwaiting])
  obtain ⟨k, hk⟩ := exists_task? hl hb (t := t) (by rw [h.split]; simp [hmem])
  obtain rfl : k.id = t := Workflow.id_of_task? hk
  have hpending : m.workflow.statusOf k.id = some .pending :=
    h.underway.pending _ (by simp [hwaiting])
  obtain ⟨w', heq, hm⟩ := setStatus_dispatch hpending
  have hsteps : ∀ t ∈ [(k.id, TaskStatus.running)].map Prod.fst, t ∈ stage.level.tasks := by
    simpa using hmem
  have houtcome : ∀ t, w'.outcomeOf t = m.workflow.outcomeOf t :=
    hm.outcomeOf (by simpa using Workflow.outcomeOf_eq_none hpending rfl)
      (by simp [TaskStatus.isOutcome])
  have hlanded : stage.landed = m.landed := by rw [landed, h.current]; rfl
  rw [dispatchOne_of_some hk, heq]
  exact ⟨⟨hm.same, rfl, rfl, hlanded, rfl, houtcome⟩, rfl, h.split, hm.around hsteps hpast h.done,
    hm.around hsteps hlater h.ahead, h.failed, h.cancelled, h.executed,
    h.underway.boarding hnodup hwaiting hgo hroom hm⟩

/-- A flight of the level has its turn. -/
theorem During.turn {id : Nat} (horderly : stage.Orderly) (h : During levels past stage m) :
    Effect m (m.turn s stage id (stage.active.erase id)) ∧
      ∃ stage', During levels past stage' (m.turn s stage id (stage.active.erase id)) := by
  obtain ⟨world, stage', events, heq, hsame, hturn⟩ := turn_cases s m horderly id
  -- statuses only change at dispatch and at the end of the level, never in a turn
  have hunderway : stage'.Underway m.workflow := by
    rcases hturn with hgo | ⟨r, hland⟩
    · exact h.underway.of_same hsame hgo.roster hgo.landed
    · exact h.underway.lands horderly hsame hland
  refine ⟨.turn stage id world stage' events h.current heq hturn, stage', ?_⟩
  rw [heq]
  refine ⟨rfl, ?_, h.done, h.ahead, h.failed, h.cancelled, h.executed, hunderway⟩
  rw [hsame.level]
  exact h.split

/-- The clock moves on. -/
theorem During.tick (h : During levels past stage m) (now : Nat) (selected : Sleeper → Bool) :
    Quiet m { m with clock := now, stage := some (wake stage selected) } ∧
      During levels past (wake stage selected)
        { m with clock := now, stage := some (wake stage selected) } := by
  have hlanded : stage.landed = m.landed := by rw [landed, h.current]; rfl
  have hsame : SameCourse stage (wake stage selected) :=
    ⟨rfl, rfl, rfl, fun _ _ hatt => mem_attended_wake _ hatt⟩
  exact ⟨⟨rfl, rfl, rfl, hlanded, rfl, fun _ => rfl⟩, rfl, h.split, h.done, h.ahead, h.failed,
    h.cancelled, h.executed, h.underway.of_same hsame rfl rfl⟩

theorem settle_eq (m : Machine) (stage : Stage) :
    m.settle stage = stage.results.foldl takeResult { m with stage := none } := rfl

/-- What the machine looks like after the level. -/
theorem During.exists_settle (hl : Layered w levels) (h : During levels past stage m)
    (hend : stage.AtEnd) :
    ∃ w', m.settle stage = { m with
        stage := none
        workflow := w'
        failed := failuresOf stage.results
        results := collected m.results stage.results } ∧
      Moved (stage.results.map fun r => (r.task, r.verdict)) m.workflow w' ∧ stage.Settled w' := by
  have hnodup := (hl.apart h.split).1
  have hresults : (stage.results.map TaskResult.task).Nodup :=
    (List.nodup_append.mp (h.underway.tasks_results hnodup hend ▸ hnodup)).1
  have hrunning : AllAre m.workflow .running (stage.results.map TaskResult.task) := by
    intro t ht
    have hmem := (stage.results_perm.map TaskResult.task).mem_iff.mp ht
    exact h.underway.running t (List.mem_append_left _ hmem)
  obtain ⟨w', heq, hm⟩ := foldl_takeResult (m := { m with stage := none }) hresults hrunning
  refine ⟨w', ?_, hm, h.underway.settled hnodup hend hm⟩
  rw [settle_eq, heq]
  simp only [h.failed, List.nil_append]

/-- The end of the level takes its results. -/
theorem During.takes (hl : Layered w levels) (h : During levels past stage m)
    (hend : stage.AtEnd) : Takes m (m.settle stage) := by
  obtain ⟨w', heq, hm, hsettled⟩ := h.exists_settle hl hend
  have hlanded : m.landed = stage.landed := by rw [landed, h.current]; rfl
  have hresults : (stage.results.map TaskResult.task).Nodup :=
    (List.nodup_append.mp (hsettled.tasks ▸ (hl.apart h.split).1)).1
  rw [heq]
  refine ⟨hm.same, rfl, rfl, rfl, fun r hr => ?_, fun t ht => ?_⟩
  · have hmem : r ∈ stage.results := stage.results_perm.mem_iff.mpr (hlanded ▸ hr)
    refine ⟨find?_collected hresults hmem, ?_⟩
    simp [Workflow.outcomeOf, hsettled.verdicts r hmem, Option.filter, TaskResult.isOutcome_verdict]
  · have hfresh : t ∉ stage.results.map TaskResult.task := by
      rwa [(stage.results_perm.map TaskResult.task).mem_iff, ← hlanded]
    refine ⟨find?_collected_of_not_mem hfresh, ?_⟩
    rw [Workflow.outcomeOf, hm.kept t (by simpa [Function.comp_def] using hfresh), Workflow.outcomeOf]

/-- The end of the level leads on, or to the end of it all. -/
theorem During.settle (hl : Layered w levels) (h : During levels past stage m)
    (hend : stage.AtEnd) : Standing levels (m.settle stage) := by
  obtain ⟨_, hpast, hlater⟩ := hl.apart h.split
  obtain ⟨w', heq, hm, hsettled⟩ := h.exists_settle hl hend
  have hsteps : ∀ t ∈ (stage.results.map fun r => (r.task, r.verdict)).map Prod.fst,
      t ∈ stage.level.tasks := by
    intro t ht
    rw [List.map_map] at ht
    rw [← hsettled.tasks]
    exact List.mem_append_left _ ht
  have hdone := hm.around hsteps hpast h.done
  have hahead := hm.around hsteps hlater h.ahead
  rw [heq]
  by_cases hnone : failuresOf stage.results = []
  · refine .between (past ++ [stage.level]) ⟨rfl, ?_, ?_, hahead, hnone, h.cancelled, ?_⟩
    · rw [h.split]
      simp
    · simpa using hdone.append (hsettled.allAre_completed hend hnone)
    · simpa using h.executed
  · exact .broken past stage.level [] ⟨rfl, h.split, hdone,
      hsettled.endedBadly hend h.underway.inOrder hnone, fun _ ht => absurd ht (by simp), hahead,
      hsettled.failures, hnone, h.cancelled, h.executed⟩

/-! ## All along -/

theorem Standing.exists_during (h : Standing levels m) (hstage : m.stage = some stage) :
    ∃ past, During levels past stage m := by
  cases h with
  | between past h => cases h.current.symm.trans hstage
  | during past stage h =>
      cases h.current.symm.trans hstage
      exact ⟨past, h⟩
  | broken past level skipped h => cases h.current.symm.trans hstage

/-- Between moves of its own, an execution does not notice its surroundings. -/
theorem Standing.surroundings (h : Standing levels m) (world : World) :
    Standing levels { m with world } := by
  cases h with
  | between past h =>
      exact .between past
        ⟨h.current, h.split, h.done, h.ahead, h.failed, h.cancelled, h.executed⟩
  | during past stage h =>
      exact .during past stage
        ⟨h.current, h.split, h.done, h.ahead, h.failed, h.cancelled, h.executed, h.underway⟩
  | broken past level skipped h =>
      exact .broken past level skipped
        ⟨h.current, h.split, h.done, h.ended, h.void, h.ahead, h.failed, h.failure, h.cancelled,
          h.executed⟩

/-- **What a move does**, and to which situation it leads. -/
theorem Sound.effect (hl : Layered w levels) (h : Sound w levels m) (hm : Move s m m') :
    Effect m m' ∧ Standing levels m' := by
  obtain ⟨horderly, hb, hstanding⟩ := h
  cases hm with
  | begin hstage hlevels =>
      cases hstanding with
      | between past h =>
          obtain ⟨hquiet, h'⟩ := h.begin hlevels
          exact ⟨.quiet hquiet, .during past _ h'⟩
      | during past stage h => cases h.current.symm.trans hstage
      | broken past level skipped h =>
          obtain ⟨hquiet, h'⟩ := h.begin hl hlevels
          exact ⟨.quiet hquiet, .broken past level _ h'⟩
  | dispatch hstage hwaiting hgo hroom =>
      obtain ⟨past, h⟩ := hstanding.exists_during hstage
      obtain ⟨hquiet, h'⟩ := h.dispatch hl hb hwaiting hgo hroom
      exact ⟨.quiet hquiet, .during past _ h'⟩
  | turn hstage hactive =>
      obtain ⟨past, h⟩ := hstanding.exists_during hstage
      obtain ⟨heffect, stage', h'⟩ := h.turn (horderly _ hstage)
      exact ⟨heffect, .during past stage' h'⟩
  | tick due hstage =>
      obtain ⟨past, h⟩ := hstanding.exists_during hstage
      obtain ⟨hquiet, h'⟩ := h.tick _ _
      exact ⟨.quiet hquiet, .during past _ h'⟩
  | settle hstage hflights hend =>
      obtain ⟨past, h⟩ := hstanding.exists_during hstage
      exact ⟨.takes (h.takes hl ⟨hflights, hend⟩), h.settle hl ⟨hflights, hend⟩⟩
  | surroundings hcalls =>
      exact ⟨.quiet ⟨rfl, rfl, hcalls, rfl, rfl, fun _ => rfl⟩, hstanding.surroundings _⟩

/-- **Every move keeps the books and leads to one of the situations.** -/
theorem Sound.move (hl : Layered w levels) (h : Sound w levels m) (hm : Move s m m') :
    Sound w levels m' :=
  ⟨h.orderly.move hm, h.books.effect (h.effect hl hm).1, (h.effect hl hm).2⟩

theorem sound_start {schedule : Schedule} {world : World} (hl : Layered w schedule.levels) :
    Sound w schedule.levels (Machine.start w schedule world) := by
  have hpending : AllAre w.resetStatuses .pending (tasksOf schedule.levels) := fun t ht =>
    Workflow.statusOf_resetStatuses ((hl.mem_iff t).mp ht)
  refine ⟨orderly_of_stage_none rfl, ⟨?_, fun _ hmem => absurd hmem (by simp [start]), fun t => ?_,
    fun t r hr => by cases hr⟩,
    .between [] ⟨rfl, rfl, fun _ ht => absurd ht (by simp), hpending, rfl, rfl, rfl⟩⟩
  · simp [start, Workflow.resetStatuses, Function.comp_def]
  · symm
    by_cases ht : t ∈ w.taskIds
    · exact Workflow.outcomeOf_eq_none (Workflow.statusOf_resetStatuses ht) rfl
    · have hnone : w.resetStatuses.statusOf t = none := by
        rw [← Option.not_isSome_iff_eq_none, Option.isSome_iff_exists, Workflow.exists_statusOf_iff,
          Workflow.taskIds_resetStatuses]
        exact ht
      rw [start, Workflow.outcomeOf, hnone]
      rfl

/-- **All along an execution.** -/
theorem sound_of_interleaving {schedule : Schedule} {world : World}
    (hl : Layered w schedule.levels)
    (hm : Interleaving s (Machine.start w schedule world) m) : Sound w schedule.levels m :=
  hm.invariant (sound_start hl) fun _ _ => Sound.move hl

/-! ## Small executions

Workflows, agents and an engine on which the results about all executions can be watched. -/

/-- A task that any agent with the language can do. -/
def stepNamed (id : TaskId) : Task := { id, name := id, capabilities := .ofList ["rust"] }

/-- A test that waits for a build. -/
def pipeline : Workflow :=
  (({ id := "release", name := "Release" } : Workflow).addTask (stepNamed "build") []).addTask
    (stepNamed "test") ["build"]

/-- Two tasks that do not wait for each other. -/
def twins : Workflow :=
  (({ id := "review", name := "Review" } : Workflow).addTask (stepNamed "left") []).addTask
    (stepNamed "right") []

/-- One agent that can do one task at a time. -/
def lonePool : Pool :=
  (Pool.empty.register { id := "solo", capabilities := .ofList ["rust"] }).toOption.getD .empty

/-- One agent that can do many. -/
def widePool : Pool :=
  (Pool.empty.register
    { id := "team", capabilities := .ofList ["rust"], capacity := 8 }).toOption.getD .empty

/-- An engine whose runner fails for some tasks. -/
def engineFailing (bad : List TaskId) : Engine :=
  { runner := fun _ call => ⟨[], if call.task ∈ bad then .fail (.invalidInput "no input")
      else .succeed ⟨none, []⟩⟩ }

end Foreman
