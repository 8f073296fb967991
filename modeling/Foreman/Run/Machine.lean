import Foreman.Run.Flight
import Foreman.Schedule

/-!
# `Foreman.Run.Machine` — the execution of a schedule, step by step

An execution walks the levels of a schedule with a full barrier between them. A parallel level has up
to a given number of flights at once and ends when all of them have landed, failures or not; a
sequential level has one at a time and stops at the first failure. Once a task has failed, all later
levels are cancelled.

Flights take turns. A flight is active, asleep until a time, or asleep until a time or a release;
active flights are resumed in turn, and when none is left, first new tasks are dispatched and then
the clock moves on to the next time at which a flight wakes up. Every step is a function, so an
execution is determined by its setup, its schedule, and the world it starts in.

## Contents
- **`Sleeper`**, **`Stage`**: the flights of the current level.
- **`Machine`** with its journal of **`Event`**s.
- **Steps**: `beginLevel`, `dispatch`, `turn`, `settle`, `tick`, and `Machine.step`.
- `Machine.run`: steps until the execution ends.
-/

namespace Foreman

/-! ## State -/

/-- A sleeping flight. -/
structure Sleeper where
  flight : Nat
  due : Nat
  /-- Whether a release of an agent wakes it, too. -/
  onRelease : Bool
  deriving DecidableEq

/-- The current level and its flights. -/
structure Stage where
  level : Level
  /-- Tasks that are still to be dispatched. -/
  waiting : List TaskId
  /-- Flights by number, in the order of dispatch. -/
  flights : List (Nat × Flight) := []
  /-- The number of the next flight. -/
  nextFlight : Nat := 0
  /-- Active flights, the next one to be resumed first. -/
  active : List Nat := []
  /-- Sleeping flights, in the order in which they fell asleep. -/
  asleep : List Sleeper := []
  /-- Results, in the order of landing. -/
  landed : List TaskResult := []

/-- Something worth noting in the course of an execution. -/
inductive Event where
  | called (call : Call)
  | landed (result : TaskResult)
  /-- A step of a task that its life cycle does not have; the status stays as it is. -/
  | illegalStep (step : IllegalStep)
  /-- An agent that could not be given back. -/
  | releaseRefused (error : PoolError)

/-- An execution between two steps. -/
structure Machine where
  /-- Milliseconds since the execution began. -/
  clock : Nat := 0
  workflow : Workflow
  world : World
  /-- Levels after the current one. -/
  levels : List Level
  stage : Option Stage := none
  results : NameMap TaskResult := ∅
  failed : List TaskId := []
  cancelled : List TaskId := []
  levelsExecuted : Nat := 0
  /-- What happened so far, the latest first. -/
  journal : List Event := []

namespace Machine

/-! ## Statuses -/

/-- Moves a task to a status; a step that is not legal is noted and otherwise ignored. -/
def setStatus (m : Machine) (t : TaskId) (status : TaskStatus) : Machine :=
  match m.workflow.transition t status with
  | .ok (_, workflow) => { m with workflow }
  | .error e => { m with journal := .illegalStep e :: m.journal }

/-! ## Levels -/

/-- Begins the next level, or cancels it if a task has failed. -/
def beginLevel (m : Machine) (level : Level) (rest : List Level) : Machine :=
  if m.failed.isEmpty then
    { m with
      levels := rest
      stage := some { level, waiting := level.tasks }
      levelsExecuted := m.levelsExecuted + 1 }
  else
    let m := level.tasks.foldl (fun m t => m.setStatus t .cancelled) m
    { m with levels := rest, cancelled := m.cancelled ++ level.tasks }

/-- Takes the result of a task into the final result. -/
def takeResult (m : Machine) (r : TaskResult) : Machine :=
  let m := m.setStatus r.task (if r.isSuccess then .completed else .failed)
  { m with
    failed := if r.isSuccess then m.failed else m.failed ++ [r.task]
    results := m.results.insert r.task r }

/-- Ends a level. Results of a parallel level are taken in level order, whatever the order of
    landing. -/
def settle (m : Machine) (stage : Stage) : Machine :=
  let results :=
    if stage.level.parallel then sortBy (fun r => stage.level.tasks.idxOf r.task) stage.landed
    else stage.landed
  results.foldl takeResult { m with stage := none }

/-! ## Dispatch -/

/-- The most flights of a level at once. -/
def bound (s : Setup) (level : Level) : Nat :=
  if level.parallel then Nat.max s.config.maxConcurrency 1 else 1

/-- Whether the level accepts no more dispatches: a sequential level stops at a failure. -/
def stopped (stage : Stage) : Bool :=
  !stage.level.parallel && stage.landed.any fun r => !r.isSuccess

/-- A snapshot of a task for its flight. -/
def jobOf (s : Setup) (t : Task) : Job :=
  { task := t.id, name := t.name, kind := t.kind, payload := t.payload,
    requirements := t.requirements, planned := s.allocation.find? t.id, estimate := t.estimate }

/-- Dispatches the next task of the level; an id that the workflow does not declare is skipped. -/
def dispatchOne (s : Setup) (m : Machine) (stage : Stage) (t : TaskId) (rest : List TaskId) :
    Machine × Stage :=
  match m.workflow.task? t with
  | none => (m, { stage with waiting := rest })
  | some task =>
    let flight : Flight := { job := jobOf s task, startedAt := m.clock, phase := .seeking }
    ((m.setStatus t .scheduled).setStatus t .running,
      { stage with
        waiting := rest
        flights := stage.flights ++ [(stage.nextFlight, flight)]
        nextFlight := stage.nextFlight + 1
        active := stage.active ++ [stage.nextFlight] })

/-- Dispatches tasks in level order while there is room for more flights. -/
def dispatch (s : Setup) : List TaskId → Machine → Stage → Machine × Stage
  | [], m, stage => (m, stage)
  | t :: rest, m, stage =>
    if stage.flights.length < bound s stage.level then
      let (m, stage) := dispatchOne s m stage t rest
      dispatch s rest m stage
    else (m, stage)

/-- Whether a dispatch is possible. -/
def canDispatch (s : Setup) (stage : Stage) : Bool :=
  !stage.waiting.isEmpty && !stopped stage &&
    decide (stage.flights.length < bound s stage.level)

/-! ## Turns -/

/-- Replaces a flight. -/
def setFlight (stage : Stage) (id : Nat) (f : Flight) : Stage :=
  { stage with flights := stage.flights.map fun e => if e.1 = id then (id, f) else e }

/-- Wakes the sleepers that a condition selects, in the order in which they fell asleep. -/
def wake (stage : Stage) (selected : Sleeper → Bool) : Stage :=
  { stage with
    active := stage.active ++ (stage.asleep.filter selected).map Sleeper.flight
    asleep := stage.asleep.filter fun z => !selected z }

/-- Gives an agent back and wakes everyone who waits for one. A refusal is noted. -/
def giveBack (m : Machine) (stage : Stage) (agent : AgentId) (t : TaskId) : Machine × Stage :=
  let m :=
    match m.world.pool.release agent t with
    | .ok pool => { m with world := { m.world with pool } }
    | .error e => { m with journal := .releaseRefused e :: m.journal }
  (m, wake stage Sleeper.onRelease)

/-- Notes the calls that a world has and an earlier one did not have. -/
def noteCalls (m : Machine) (before : List Call) : Machine :=
  let fresh := m.world.calls.take (m.world.calls.length - before.length)
  { m with journal := fresh.map .called ++ m.journal }

/-- Resumes an active flight. -/
def turn (s : Setup) (m : Machine) (stage : Stage) (id : Nat) (rest : List Nat) : Machine :=
  let stage := { stage with active := rest }
  match stage.flights.find? (·.1 = id) with
  | none => { m with stage := some stage }
  | some (_, f) =>
    let (next, world) := f.resume s m.clock m.world
    let m := noteCalls { m with world } m.world.calls
    match next with
    | .atOnce f =>
      let stage := setFlight stage id f
      { m with stage := some { stage with active := id :: stage.active } }
    | .again f =>
      let stage := setFlight stage id f
      { m with stage := some { stage with active := stage.active ++ [id] } }
    | .sleep due f =>
      let stage := setFlight stage id f
      { m with stage := some { stage with asleep := stage.asleep ++ [⟨id, due, false⟩] } }
    | .wait due f =>
      let stage := setFlight stage id f
      { m with stage := some { stage with asleep := stage.asleep ++ [⟨id, due, true⟩] } }
    | .land result leased =>
      let stage :=
        { stage with
          flights := stage.flights.filter (·.1 ≠ id)
          landed := stage.landed ++ [result] }
      let (m, stage) :=
        match leased with
        | some agent => giveBack m stage agent f.job.task
        | none => (m, stage)
      { m with stage := some stage, journal := .landed result :: m.journal }

/-! ## Time -/

/-- The earliest time at which a flight wakes up. -/
def nextDue : List Sleeper → Option Nat
  | [] => none
  | z :: zs => some (zs.foldl (fun least z => Nat.min least z.due) z.due)

/-- Moves the clock on and wakes everyone whose time has come. -/
def tick (m : Machine) (stage : Stage) (due : Nat) : Machine :=
  let now := Nat.max m.clock due
  { m with clock := now, stage := some (wake stage fun z => z.due ≤ now) }

/-! ## Steps -/

/-- One step; none is left when all levels are done. -/
def step (s : Setup) (m : Machine) : Option Machine :=
  match m.stage with
  | none =>
    match m.levels with
    | [] => none
    | level :: rest => some (m.beginLevel level rest)
  | some stage =>
    match stage.active with
    | id :: rest => some (turn s m stage id rest)
    | [] =>
      if canDispatch s stage then
        let (m, stage) := dispatch s stage.waiting m stage
        some { m with stage := some stage }
      else
        match nextDue stage.asleep with
        | some due => some (tick m stage due)
        | none => some (settle m stage)

/-- The start of an execution: all statuses are pending. -/
def start (w : Workflow) (schedule : Schedule) (world : World) : Machine :=
  { workflow := w.resetStatuses, world, levels := schedule.levels }

/-- Whether the execution has ended. -/
def isDone (m : Machine) : Bool := m.stage.isNone && m.levels.isEmpty

/-- Steps until the execution ends, at most as many as the first argument says. -/
def run (s : Setup) : Nat → Machine → Option Machine
  | 0, m => if m.isDone then some m else none
  | fuel + 1, m =>
    match step s m with
    | none => some m
    | some m => run s fuel m

/-- The result of an execution that has ended. -/
def result (s : Setup) (m : Machine) : RunResult :=
  let statuses := m.workflow.statuses
  let success := m.failed.isEmpty
  { workflow := s.workflow
    success
    status := if success then .completed else .failed
    tasks := m.results
    failedTasks := m.failed
    cancelledTasks := m.cancelled
    statuses
    metrics := .collect statuses m.results m.levelsExecuted (.ofMillis m.clock) }

theorem isDone_iff_step_eq_none {s : Setup} {m : Machine} :
    m.isDone = true ↔ step s m = none := by
  unfold isDone step
  cases m.stage with
  | none => cases m.levels <;> simp
  | some stage =>
    simp only [Option.isNone_some, Bool.false_and, Bool.false_eq_true, false_iff]
    repeat' split
    all_goals simp

end Machine

end Foreman
