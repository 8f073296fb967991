import Foreman.Proofs.Run.Bare

/-!
# `Foreman.Proofs.Run.Indifference` — errors of bookkeeping change nothing

An execution without its books (`Machine.bare`) goes on in the same way, with errors of bookkeeping or
without them: a turn looks the same from there (`Machine.bare_turn`), since one activity of a flight
does, and all other moves do not look at the books at all. So executions that look the same go on
looking the same, step by step (`Machine.bare_run`) and move by move (`SoleMove.exists_alike`); and
results, statuses, attempts and the pool can be seen without the books.

## Contents
- `Machine.bare_turn`, `Machine.bare_step`, `Machine.bare_run`.
- **`SoleMove.exists_alike`**, and the same for any number of moves.
- **`Execution.Outcome`**, `Engine.MayEndWith`, and **`Engine.outcomes_ignore_bookkeeping`**.
-/

namespace Foreman

open Machine

variable {w : Workflow} {s s₁ s₂ : Setup} {m m₁ m₂ m₁' : Machine} {stage stage₁ stage₂ : Stage}
  {world : World} {schedule : Schedule} {refusals : Nat → Option Fault}

/-! ## Turns -/

namespace Machine

theorem setFlight_bare (stage : Stage) (id : Nat) (f : Flight) :
    setFlight stage.bare id f.bare = (setFlight stage id f).bare := by
  simp only [setFlight, Stage.bare, List.map_map]
  congr 1
  refine List.map_congr_left fun e _ => ?_
  by_cases hid : e.1 = id <;> simp [hid]

theorem giveBack_bare (m : Machine) (stage : Stage) (agent : AgentId) (t : TaskId) :
    giveBack m.bare stage.bare agent t =
      ((giveBack m stage agent t).1.bare, (giveBack m stage agent t).2.bare) := by
  unfold giveBack
  rw [show m.bare.world.pool = m.world.pool from rfl]
  cases m.world.pool.release agent t <;> rfl

/-- What the machine makes of what a flight comes to in its turn. -/
def carryOn (m : Machine) (stage : Stage) (id : Nat) (task : TaskId) (out : Next × World) : Machine :=
  let noted := noteCalls { m with world := out.2 } m.world.calls
  match out.1 with
  | .atOnce f =>
    { noted with
      stage := some { setFlight stage id f with active := id :: stage.active } }
  | .again f =>
    { noted with
      stage := some { setFlight stage id f with active := stage.active ++ [id] } }
  | .sleep due f =>
    { noted with
      stage := some { setFlight stage id f with asleep := stage.asleep ++ [⟨id, due, false⟩] } }
  | .wait due f =>
    { noted with
      stage := some { setFlight stage id f with asleep := stage.asleep ++ [⟨id, due, true⟩] } }
  | .land r leased =>
    let left := { stage with
      flights := stage.flights.filter (·.1 ≠ id)
      landed := stage.landed ++ [r] }
    let back := match leased with
      | some agent => giveBack noted left agent task
      | none => (noted, left)
    { back.1 with stage := some back.2, journal := .landed r :: back.1.journal }

theorem turn_of_find?_eq_none {id : Nat} {rest : List Nat}
    (h : stage.flights.find? (·.1 = id) = none) :
    m.turn s stage id rest = m.withStage { stage with active := rest } := by
  unfold turn
  dsimp only
  rw [h]
  rfl

theorem turn_of_find? {id : Nat} {rest : List Nat} {e : Nat × Flight}
    (h : stage.flights.find? (·.1 = id) = some e) : m.turn s stage id rest =
      m.carryOn { stage with active := rest } id e.2.job.task (e.2.resume s m.clock m.world) := by
  unfold turn
  dsimp only
  rw [h]
  unfold carryOn
  dsimp only
  cases e.2.resume s m.clock m.world with
  | mk next world =>
      cases next with
      | land r leased => cases leased <;> rfl
      | _ => rfl

theorem carryOn_bare (m : Machine) (stage : Stage) (id : Nat) (task : TaskId) (out : Next × World) :
    m.bare.carryOn stage.bare id task (bareOut out) = (m.carryOn stage id task out).bare := by
  obtain ⟨next, world⟩ := out
  cases next with
  | atOnce f | again f | sleep due f | wait due f =>
      simp only [carryOn, bareOut, Next.bare, setFlight_bare]
      rfl
  | land r leased =>
      have hleft : ({ stage.bare with
            flights := stage.bare.flights.filter (·.1 ≠ id)
            landed := stage.bare.landed ++ [r] } : Stage) =
          Stage.bare { stage with
            flights := stage.flights.filter (·.1 ≠ id)
            landed := stage.landed ++ [r] } := by
        simp [Stage.bare, List.filter_map, Function.comp_def]
      simp only [carryOn, bareOut, Next.bare]
      rw [hleft]
      cases leased with
      | none => rfl
      | some agent =>
          have hback := giveBack_bare (noteCalls { m with world } m.world.calls)
            { stage with
              flights := stage.flights.filter (·.1 ≠ id)
              landed := stage.landed ++ [r] } agent task
          have hnoted : noteCalls { m.bare with world := world.bare } m.bare.world.calls =
              (noteCalls { m with world } m.world.calls).bare := rfl
          rw [hnoted]
          dsimp only
          rw [hback]
          rfl

/-- **A turn looks the same** without the books and without errors of bookkeeping. -/
theorem bare_turn (hfaults : s.faults.OnlyDisturbs refusals) (m : Machine) (stage : Stage) (id : Nat)
    (rest : List Nat) : (m.turn s stage id rest).bare =
      (m.bare.turn (s.sparing refusals) stage.bare id rest).bare := by
  have hfind : stage.bare.flights.find? (·.1 = id) =
      (stage.flights.find? (·.1 = id)).map fun e => (e.1, e.2.bare) := by
    rw [Stage.bare, List.find?_map]
    rfl
  cases hflight : stage.flights.find? (·.1 = id) with
  | none =>
      rw [hflight, Option.map_none] at hfind
      rw [turn_of_find?_eq_none hflight, turn_of_find?_eq_none hfind]
      simp only [bare, withStage, World.bare_bare, Option.map_some]
      congr 2
      exact (Stage.bare_bare { stage with active := rest }).symm
  | some e =>
      rw [hflight, Option.map_some] at hfind
      rw [turn_of_find? hflight, turn_of_find? hfind, ← carryOn_bare, ← carryOn_bare, bare_bare,
        Flight.bare_resume hfaults]
      exact congrArg (fun stage => m.bare.carryOn stage id e.2.job.task _)
        (Stage.bare_bare { stage with active := rest }).symm

/-! ## The other moves -/

@[simp] theorem setStatus_bare (m : Machine) (t : TaskId) (a : TaskStatus) :
    m.bare.setStatus t a = (m.setStatus t a).bare := by
  unfold setStatus
  rw [show m.bare.workflow = m.workflow from rfl]
  cases m.workflow.transition t a <;> rfl

theorem beginLevel_bare (m : Machine) (level : Level) (rest : List Level) :
    m.bare.beginLevel level rest = (m.beginLevel level rest).bare := by
  unfold beginLevel
  rw [show m.bare.failed = m.failed from rfl]
  split
  · rfl
  · rw [List.foldl_hom Machine.bare fun m t => setStatus_bare m t .cancelled]
    rfl

theorem takeResult_bare (m : Machine) (r : TaskResult) :
    m.bare.takeResult r = (m.takeResult r).bare := by
  unfold takeResult
  rw [setStatus_bare]
  rfl

theorem settle_bare (m : Machine) (stage : Stage) :
    m.bare.settle stage.bare = (m.settle stage).bare := by
  rw [settle_eq, settle_eq, ← List.foldl_hom Machine.bare takeResult_bare]
  rfl

theorem dispatchOne_bare (s : Setup) (m : Machine) (stage : Stage) (t : TaskId)
    (rest : List TaskId) : dispatchOne s m.bare stage.bare t rest =
      ((dispatchOne s m stage t rest).1.bare, (dispatchOne s m stage t rest).2.bare) := by
  unfold dispatchOne
  rw [show m.bare.workflow = m.workflow from rfl]
  cases m.workflow.task? t with
  | none => rfl
  | some k =>
      simp [Stage.bare, Flight.bare, Phase.bare]
      rfl

theorem length_flights_bare (stage : Stage) :
    stage.bare.flights.length = stage.flights.length := by
  simp [Stage.bare]

theorem dispatch_bare (s : Setup) (ts : List TaskId) (m : Machine) (stage : Stage) :
    dispatch s ts m.bare stage.bare =
      ((dispatch s ts m stage).1.bare, (dispatch s ts m stage).2.bare) := by
  induction ts generalizing m stage with
  | nil => rfl
  | cons t rest ih =>
      unfold dispatch
      rw [length_flights_bare, show stage.bare.level = stage.level from rfl, dispatchOne_bare]
      split
      · exact ih _ _
      · rfl

/-- The sparing setup dispatches in the same way. -/
theorem dispatch_sparing (s : Setup) (refusals : Nat → Option Fault) :
    dispatch (s.sparing refusals) = dispatch s := by
  funext ts
  induction ts with
  | nil => rfl
  | cons t rest ih =>
      funext m stage
      unfold dispatch
      rw [ih]
      rfl

/-- **A step looks the same** without the books and without errors of bookkeeping. -/
theorem bare_step (hfaults : s.faults.OnlyDisturbs refusals) (m : Machine) :
    (step s m).map bare = (step (s.sparing refusals) m.bare).map bare := by
  unfold step
  rw [show m.bare.stage = m.stage.map Stage.bare from rfl,
    show m.bare.levels = m.levels from rfl]
  cases m.stage with
  | none =>
      cases m.levels with
      | nil => rfl
      | cons level rest =>
          dsimp only [Option.map_none]
          rw [beginLevel_bare, Option.map_some, Option.map_some, bare_bare]
  | some stage =>
      dsimp only [Option.map_some]
      rw [show stage.bare.active = stage.active from rfl,
        show stage.bare.asleep = stage.asleep from rfl]
      cases stage.active with
      | cons id rest => exact congrArg some (bare_turn hfaults m stage id rest)
      | nil =>
          have hcan : canDispatch (s.sparing refusals) stage.bare = canDispatch s stage := by
            unfold canDispatch
            rw [length_flights_bare]
            rfl
          dsimp only
          rw [hcan, dispatch_sparing, show stage.bare.waiting = stage.waiting from rfl, dispatch_bare]
          split
          · exact congrArg some (bare_bare (withStage _ _)).symm
          · cases nextDue stage.asleep with
            | none =>
                dsimp only
                rw [settle_bare, Option.map_some, Option.map_some, bare_bare]
            | some due => exact congrArg some (bare_bare (m.tick stage due)).symm

theorem isDone_bare (m : Machine) : m.bare.isDone = m.isDone := by
  simp [isDone, bare]

/-- **A run looks the same** without errors of bookkeeping, from machines that look the same. -/
theorem bare_run (hfaults : s.faults.OnlyDisturbs refusals) (n : Nat) (m : Machine) :
    (run s n m).map bare = (run (s.sparing refusals) n m.bare).map bare := by
  have hspared : (s.sparing refusals).faults.OnlyDisturbs refusals :=
    FaultPattern.onlyDisturbs_sparing refusals
  induction n generalizing s m with
  | zero =>
      unfold run
      rw [isDone_bare]
      split <;> simp
  | succ n ih =>
      have hstep := bare_step hfaults m
      unfold run
      cases hnext : step s m with
      | none =>
          rw [hnext, Option.map_none, eq_comm, Option.map_eq_none_iff] at hstep
          rw [hstep]
          simp
      | some m₁ =>
          rw [hnext, Option.map_some, eq_comm] at hstep
          obtain ⟨m₂, hnext₂, hsame⟩ := Option.map_eq_some_iff.mp hstep
          rw [hnext₂]
          dsimp only
          rw [ih hfaults m₁ hspared, ← hsame]
          exact (ih hspared m₂ hspared).symm

/-! ## Executions in any order -/

/-- A turn of a flight that is not active is seen, unless it changes nothing. -/
theorem world_eq_of_turn {id : Nat} (hstage : m.stage = some stage) (hidle : id ∉ stage.active)
    (heq : { m with world } = m.turn s stage id (stage.active.erase id)) : world = m.world := by
  have hturned := turned s m stage id
  rw [← heq] at hturned
  generalize hafter : ({ m with world } : Machine) = m' at hturned
  cases hturned with
  | absent _ => exact congrArg Machine.world hafter
  | @goesOn f f' next w events hmem hresume hnext hcalls =>
      have hsame := Option.some.inj (hstage.symm.trans (congrArg Machine.stage hafter))
      have hactive := congrArg (fun stage => stage.active.length) hsame
      have hasleep := congrArg (fun stage => stage.asleep.length) hsame
      rw [List.erase_of_not_mem hidle] at hactive
      cases next with
      | land r leased => cases hnext
      | atOnce f | again f => simp [Next.queue] at hactive
      | sleep due f => simp [Next.sleepers] at hasleep
      | wait due f => simp [Next.sleepers] at hasleep
  | @lands f r leased w hmem hresume =>
      have hsame := Option.some.inj (hstage.symm.trans (congrArg Machine.stage hafter))
      have hlanded := congrArg (fun stage => stage.landed.length) hsame
      simp [landed_wakeAfter, Stage.landing] at hlanded

/-- **What looks like the work of others is a turn**, or nothing at all, if nobody else uses the pool or
    the memory service. -/
theorem turn_or_eq_of_sole (hm : SoleMove s m { m with world }) :
    (∃ stage id, m.stage = some stage ∧ id ∈ stage.active ∧
      { m with world } = m.turn s stage id (stage.active.erase id)) ∨ world = m.world := by
  rcases hm.world with hworld | ⟨stage, id, hstage, hturn⟩
  · exact Or.inr hworld
  · by_cases hactive : id ∈ stage.active
    · exact Or.inl ⟨stage, id, hstage, hactive, hturn⟩
    · exact Or.inr (world_eq_of_turn hstage hactive hturn)

/-- Levels that look the same have the same tasks to dispatch, and as many flights. -/
structure LooksLike (stage₁ stage₂ : Stage) : Prop where
  bare : stage₁.bare = stage₂.bare
  level : stage₁.level = stage₂.level
  waiting : stage₁.waiting = stage₂.waiting
  active : stage₁.active = stage₂.active
  stopped : stopped stage₁ = stopped stage₂
  flights : stage₁.flights.length = stage₂.flights.length

theorem looksLike_of_bare_eq (h : stage₁.bare = stage₂.bare) : LooksLike stage₁ stage₂ := by
  have hfields := Stage.mk.inj h
  refine ⟨h, hfields.1, hfields.2.1, hfields.2.2.2.2.1, ?_, ?_⟩
  · exact congrArg₂ (fun (level : Level) (landed : List TaskResult) =>
      !level.parallel && landed.any fun r => !r.isSuccess) hfields.1 hfields.2.2.2.2.2.2
  · rw [← length_flights_bare, h, length_flights_bare]

/-- Machines that look the same are both in levels that look the same, or both in none. -/
theorem exists_stage_of_bare_eq (hsame : m₁.bare = m₂.bare) (hstage : m₁.stage = some stage₁) :
    ∃ stage₂, m₂.stage = some stage₂ ∧ LooksLike stage₁ stage₂ := by
  have hstages : m₁.stage.map Stage.bare = m₂.stage.map Stage.bare := congrArg Machine.stage hsame
  rw [hstage, Option.map_some, eq_comm] at hstages
  obtain ⟨stage₂, hstage₂, heq⟩ := Option.map_eq_some_iff.mp hstages
  exact ⟨stage₂, hstage₂, looksLike_of_bare_eq heq.symm⟩

theorem stage_eq_none_of_bare_eq (hsame : m₁.bare = m₂.bare) (hstage : m₁.stage = none) :
    m₂.stage = none := by
  have hstages : m₁.stage.map Stage.bare = m₂.stage.map Stage.bare := congrArg Machine.stage hsame
  rwa [hstage, Option.map_none, eq_comm, Option.map_eq_none_iff] at hstages

/-- Two setups differ at most in errors of bookkeeping. -/
structure SparedAlike (refusals : Nat → Option Fault) (s₁ s₂ : Setup) : Prop where
  left : s₁.faults.OnlyDisturbs refusals
  right : s₂.faults.OnlyDisturbs refusals
  spared : s₁.sparing refusals = s₂.sparing refusals

namespace SparedAlike

theorem symm (h : SparedAlike refusals s₁ s₂) : SparedAlike refusals s₂ s₁ :=
  ⟨h.right, h.left, h.spared.symm⟩

theorem bound_eq (h : SparedAlike refusals s₁ s₂) (level : Level) : bound s₁ level = bound s₂ level :=
  calc bound s₁ level = bound (s₁.sparing refusals) level := rfl
    _ = bound (s₂.sparing refusals) level := by rw [h.spared]
    _ = bound s₂ level := rfl

theorem turn (h : SparedAlike refusals s₁ s₂) (hsame : m₁.bare = m₂.bare)
    (hstages : stage₁.bare = stage₂.bare) (id : Nat) (rest : List Nat) :
    (m₁.turn s₁ stage₁ id rest).bare = (m₂.turn s₂ stage₂ id rest).bare := by
  rw [bare_turn h.left, bare_turn h.right, h.spared, hsame, hstages]

theorem dispatchOne (h : SparedAlike refusals s₁ s₂) (hsame : m₁.bare = m₂.bare)
    (hstages : stage₁.bare = stage₂.bare) (t : TaskId) (rest : List TaskId) :
    ((dispatchOne s₁ m₁ stage₁ t rest).1.withStage (dispatchOne s₁ m₁ stage₁ t rest).2).bare =
      ((dispatchOne s₂ m₂ stage₂ t rest).1.withStage (dispatchOne s₂ m₂ stage₂ t rest).2).bare := by
  have hdispatched : Machine.dispatchOne s₁ m₁.bare stage₁.bare t rest =
      Machine.dispatchOne s₂ m₂.bare stage₂.bare t rest := by
    show Machine.dispatchOne (s₁.sparing refusals) _ _ _ _ =
      Machine.dispatchOne (s₂.sparing refusals) _ _ _ _
    rw [h.spared, hsame, hstages]
  rw [dispatchOne_bare, dispatchOne_bare, Prod.mk.injEq] at hdispatched
  exact congrArg₂ withStage hdispatched.1 hdispatched.2

end SparedAlike

/-- **What one execution can do by a move, the other one can, too**, and it looks the same. -/
theorem SoleMove.exists_alike (h : SparedAlike refusals s₁ s₂) (hsame : m₁.bare = m₂.bare)
    (hm : SoleMove s₁ m₁ m₁') : ∃ m₂', SoleMove s₂ m₂ m₂' ∧ m₁'.bare = m₂'.bare := by
  obtain ⟨hmove, -⟩ := id hm
  cases hmove with
  | @begin level rest hstage hlevels =>
      have hlevels₂ : m₂.levels = level :: rest := (congrArg Machine.levels hsame).symm.trans hlevels
      refine ⟨_, ⟨.begin (stage_eq_none_of_bare_eq hsame hstage) hlevels₂,
        Or.inl (world_beginLevel m₂ level rest)⟩, ?_⟩
      rw [← beginLevel_bare, hsame, beginLevel_bare]
  | @dispatch stage₁ t rest hstage hwaiting hgo hroom =>
      obtain ⟨stage₂, hstage₂, hlooks⟩ := exists_stage_of_bare_eq hsame hstage
      rw [hlooks.flights, hlooks.level, h.bound_eq] at hroom
      exact ⟨_, ⟨.dispatch hstage₂ (hlooks.waiting ▸ hwaiting) (hlooks.stopped ▸ hgo) hroom,
        Or.inl (OnlyRecords.dispatchOne s₂ m₂ stage₂ t rest).world⟩,
        h.dispatchOne hsame hlooks.bare t rest⟩
  | @turn stage₁ id hstage hactive =>
      obtain ⟨stage₂, hstage₂, hlooks⟩ := exists_stage_of_bare_eq hsame hstage
      rw [hlooks.active] at hactive ⊢
      exact ⟨_, ⟨.turn hstage₂ hactive, Or.inr ⟨stage₂, id, hstage₂, rfl⟩⟩,
        h.turn hsame hlooks.bare id _⟩
  | @tick stage₁ due hstage =>
      obtain ⟨stage₂, hstage₂, hlooks⟩ := exists_stage_of_bare_eq hsame hstage
      exact ⟨_, ⟨.tick due hstage₂, Or.inl rfl⟩,
        congrArg₂ (fun m stage => Machine.tick m stage due) hsame hlooks.bare⟩
  | @settle stage₁ hstage hflights hend =>
      obtain ⟨stage₂, hstage₂, hlooks⟩ := exists_stage_of_bare_eq hsame hstage
      have hflights₂ : stage₂.flights = [] := by
        rw [← List.length_eq_zero_iff, ← hlooks.flights, hflights, List.length_nil]
      rw [hlooks.waiting, hlooks.stopped] at hend
      refine ⟨_, ⟨.settle hstage₂ hflights₂ hend, Or.inl (OnlyRecords.settle m₂ stage₂).world⟩, ?_⟩
      rw [← settle_bare, hsame, hlooks.bare, settle_bare]
  | @surroundings world hcalls =>
      rcases turn_or_eq_of_sole hm with ⟨stage₁, id, hstage, hactive, hturn⟩ | rfl
      · obtain ⟨stage₂, hstage₂, hlooks⟩ := exists_stage_of_bare_eq hsame hstage
        rw [hlooks.active] at hactive hturn
        refine ⟨_, ⟨.turn hstage₂ hactive, Or.inr ⟨stage₂, id, hstage₂, rfl⟩⟩, ?_⟩
        rw [hturn]
        exact h.turn hsame hlooks.bare id _
      · exact ⟨m₂, ⟨Move.surroundings rfl, Or.inl rfl⟩, hsame⟩

theorem SoleInterleaving.exists_alike (h : SparedAlike refusals s₁ s₂) (hsame : m₁.bare = m₂.bare)
    (hm : SoleInterleaving s₁ m₁ m₁') :
    ∃ m₂', SoleInterleaving s₂ m₂ m₂' ∧ m₁'.bare = m₂'.bare := by
  induction hm with
  | refl => exact ⟨m₂, .refl, hsame⟩
  | tail _ hlast ih =>
      obtain ⟨m₂', hm₂, hsame'⟩ := ih
      obtain ⟨m₂'', hlast₂, hsame''⟩ := hlast.exists_alike h hsame'
      exact ⟨m₂'', hm₂.tail hlast₂, hsame''⟩

end Machine

/-! ## Outcomes -/

/-- What comes of an execution apart from its books. -/
structure Execution.Outcome where
  result : RunResult
  workflow : Workflow
  pool : Pool
  /-- All attempts with their agents and times, the latest first. -/
  calls : List Call

def Execution.outcome (x : Execution) : Execution.Outcome :=
  ⟨x.result, x.workflow, x.world.pool, x.world.calls⟩

def Machine.outcome (s : Setup) (m : Machine) : Execution.Outcome :=
  ⟨m.result s, m.workflow, m.world.pool, m.world.calls⟩

namespace Engine

variable {e e' : Engine}

/-- The same engine without errors of bookkeeping. -/
def sparing (refusals : Nat → Option Fault) (e : Engine) : Engine :=
  { e with faults := .sparing refusals }

/-- **Some execution of a schedule ends with an outcome**, while nobody else uses the pool or the memory
    service. -/
def MayEndWith (e : Engine) (w : Workflow) (schedule : Schedule) (world : World)
    (o : Execution.Outcome) : Prop :=
  ∃ m, SoleInterleaving (e.setup w schedule) (Machine.start w schedule world) m ∧ m.isDone = true ∧
    m.outcome (e.setup w schedule) = o

theorem MayEndWith.of_sparedAlike {o : Execution.Outcome}
    (hspared : SparedAlike refusals (e.setup w schedule) (e'.setup w schedule))
    (h : e.MayEndWith w schedule world o) : e'.MayEndWith w schedule world o := by
  obtain ⟨m, hm, hdone, rfl⟩ := h
  obtain ⟨m', hm', hsame⟩ := hm.exists_alike hspared rfl
  refine ⟨m', hm', ?_, ?_⟩
  · rw [← isDone_bare, ← hsame, isDone_bare, hdone]
  · calc m'.outcome (e'.setup w schedule)
        = m'.bare.outcome ((e'.setup w schedule).sparing refusals) := rfl
      _ = m.bare.outcome ((e.setup w schedule).sparing refusals) := by rw [hsame, hspared.spared]
      _ = m.outcome (e.setup w schedule) := rfl

/-- The steps of an execution come to the same without errors of bookkeeping. -/
theorem outcome_execute (hfaults : e.faults.OnlyDisturbs refusals) (fuel : Nat) (w : Workflow)
    (schedule : Schedule) (world : World) :
    (e.execute fuel w schedule world).map Execution.outcome =
      ((e.sparing refusals).execute fuel w schedule world).map Execution.outcome := by
  have hbare (e : Engine) : (e.execute fuel w schedule world).map Execution.outcome =
      ((Machine.run (e.setup w schedule) fuel (Machine.start w schedule world)).map bare).map
        (outcome (e.setup w schedule)) := by
    rw [execute, Option.map_map, Option.map_map]
    rfl
  have hspared : ((e.sparing refusals).setup w schedule).faults.OnlyDisturbs refusals :=
    FaultPattern.onlyDisturbs_sparing refusals
  rw [hbare, hbare, bare_run (s := e.setup w schedule) hfaults, bare_run hspared]
  rfl

end Engine

/-- **Errors of bookkeeping change no outcome.** Whatever calls of the memory service fail, except for
    the opening of sessions: executions of a schedule can end with just the same outcomes as if none of
    these calls failed, in whatever order flights take their turns; and executions by steps, with or
    without a new plan, end with the same outcome. -/
theorem Engine.outcomes_ignore_bookkeeping {e : Engine} (hfaults : e.faults.OnlyDisturbs refusals)
    (w : Workflow) (schedule : Schedule) (world : World) :
    (∀ o, e.MayEndWith w schedule world o ↔ (e.sparing refusals).MayEndWith w schedule world o) ∧
    ∀ fuel,
      (e.run fuel w world).map (Option.map Execution.outcome) =
        ((e.sparing refusals).run fuel w world).map (Option.map Execution.outcome) ∧
      (e.runPlan fuel w schedule world).map (Option.map Execution.outcome) =
        ((e.sparing refusals).runPlan fuel w schedule world).map (Option.map Execution.outcome) := by
  have hspared : SparedAlike refusals (e.setup w schedule) ((e.sparing refusals).setup w schedule) :=
    ⟨hfaults, FaultPattern.onlyDisturbs_sparing refusals, rfl⟩
  refine ⟨fun o => ⟨.of_sparedAlike hspared, .of_sparedAlike hspared.symm⟩, fun fuel => ⟨?_, ?_⟩⟩
  · unfold Engine.run
    cases w.plan world.pool with
    | error error => simp only [Except.map]
    | ok schedule => exact congrArg Except.ok (outcome_execute hfaults fuel w schedule world)
  · unfold Engine.runPlan
    split
    · cases schedule.verify world.pool with
      | error error => simp only [Except.map]
      | ok _ => exact congrArg Except.ok (outcome_execute hfaults fuel w schedule world)
    · simp only [Except.map]

/-- An engine whose memory service opens sessions, and does nothing else. -/
def engineUnrecorded : Engine :=
  { runner := fun _ _ => ⟨[.pause (.ofMillis 5)], .succeed ⟨none, []⟩⟩
    faults := fun _ call => if call = .createSession then none else some (.unavailable "no disk") }

theorem onlyDisturbs_engineUnrecorded : engineUnrecorded.faults.OnlyDisturbs fun _ => none where
  sessions before := rfl
  errors before call text hcall := by
    simp [engineUnrecorded, hcall]

/-- Nothing is recorded and no session is closed, and yet both tasks are done. -/
theorem outcomes_ignore_bookkeeping_pipeline :
    ∃ x, engineUnrecorded.run 40 pipeline { pool := lonePool } = .ok (some x) ∧
      x.world.memory.records = [] ∧ x.world.memory.openSessions = 2 ∧ x.result.success = true ∧
      (engineUnrecorded.run 40 pipeline { pool := lonePool }).map (Option.map Execution.outcome) =
        ((engineUnrecorded.sparing fun _ => none).run 40 pipeline { pool := lonePool }).map
          (Option.map Execution.outcome) := by
  obtain ⟨schedule, -⟩ : ∃ schedule, pipeline.plan lonePool = .ok schedule := ⟨_, rfl⟩
  have h := (Engine.outcomes_ignore_bookkeeping onlyDisturbs_engineUnrecorded pipeline schedule
    { pool := lonePool }).2 40
  exact ⟨_, rfl, rfl, rfl, rfl, h.1⟩

end Foreman
