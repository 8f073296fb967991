import Foreman.Proofs.Run.Course

/-!
# `Foreman.Proofs.Run.Bare` — flights without their books

A flight tells the memory service what it does: it creates and updates a record, merges and closes its
session, and stores an episode. It needs an answer only when it opens a session. Whatever else fails,
the flight goes on as if it had not: without a record it still takes the step in which it would have
updated it, and does nothing there.

To show this, worlds and flights are looked at without their books (`World.bare`, `Flight.bare`):
without records, without episodes, without what was done to sessions. Of the memory service, only how
many sessions there are and whether it refuses new ones is left; of its calls, only those that create a
session. Everything that a flight does in one activity looks the same from there, with errors of
bookkeeping or without them (`Flight.bare_resume`).

## Contents
- `bare`: worlds, flights and machines without their books.
- **`FaultPattern.OnlyDisturbs`** and `sparing`: errors of bookkeeping, and no such errors.
- **`Harmless`** operations, and `bareOut_consult`: calls whose answer does not matter.
- `bareOut_createSession`: the call whose answer matters.
- **`Flight.bare_resume`**.
-/

namespace Foreman

open Machine

variable {α : Type} {s s₁ s₂ : Setup} {world world₁ world₂ : World} {job : Job} {f f₁ f₂ : Flight}
  {agent : AgentId} {faults : FaultPattern} {refusals : Nat → Option Fault}

/-! ## Without the books -/

/-- The service without records and episodes, and without what was done to its sessions. -/
def Memory.bare (memory : Memory) : Memory :=
  { sessions := List.replicate memory.sessions.length default
    refusesSessions := memory.refusesSessions }

/-- The world without the books. -/
def World.bare (world : World) : World :=
  { world with
    memory := world.memory.bare
    memoryCalls := world.memoryCalls.filter fun call => call = .createSession }

/-- What a flight holds without its record. -/
def Engagement.bare (e : Engagement) : Engagement := { e with record := none }

def Opening.bare : Opening → Opening
  | .record => .record
  | .mark _ => .mark none
  | .session _ => .session none

def Closing.bare : Closing → Closing
  | .merge _ session => .merge none session
  | .close _ session => .close none session
  | .store _ => .store none
  | .sign _ => .sign none

def Phase.bare : Phase → Phase
  | .seeking => .seeking
  | .claiming agent => .claiming agent
  | .opening agent step => .opening agent step.bare
  | .calling e attempt delay => .calling e.bare attempt delay
  | .working e attempt delay rest ending => .working e.bare attempt delay rest ending
  | .returned e attempt delay answer => .returned e.bare attempt delay answer
  | .rested e attempt delay => .rested e.bare attempt delay
  | .closing agent step u => .closing agent step.bare u

def Flight.bare (f : Flight) : Flight := { f with phase := f.phase.bare }

def Next.bare : Next → Next
  | .atOnce f => .atOnce f.bare
  | .again f => .again f.bare
  | .sleep due f => .sleep due f.bare
  | .wait due f => .wait due f.bare
  | .land r leased => .land r leased

/-- What a flight comes to, and the world, without the books. -/
def bareOut (out : Next × World) : Next × World := (out.1.bare, out.2.bare)

def Stage.bare (stage : Stage) : Stage :=
  { stage with flights := stage.flights.map fun e => (e.1, e.2.bare) }

/-- **An execution without its books.** -/
def Machine.bare (m : Machine) : Machine :=
  { m with world := m.world.bare, stage := m.stage.map Stage.bare }

@[simp] theorem Memory.bare_bare (memory : Memory) : memory.bare.bare = memory.bare := by
  simp [bare]

@[simp] theorem World.bare_bare (world : World) : world.bare.bare = world.bare := by
  simp [bare]

@[simp] theorem Opening.bare_bare (step : Opening) : step.bare.bare = step.bare := by
  cases step <;> rfl

@[simp] theorem Closing.bare_bare (step : Closing) : step.bare.bare = step.bare := by
  cases step <;> rfl

@[simp] theorem Phase.bare_bare (phase : Phase) : phase.bare.bare = phase.bare := by
  cases phase <;> simp [bare, Engagement.bare]

@[simp] theorem Flight.bare_bare (f : Flight) : f.bare.bare = f.bare := by
  simp [bare]

@[simp] theorem Next.bare_bare (next : Next) : next.bare.bare = next.bare := by
  cases next <;> simp [bare]

theorem Memory.bare_eq_iff {memory₁ memory₂ : Memory} : memory₁.bare = memory₂.bare ↔
    memory₁.sessions.length = memory₂.sessions.length ∧
      memory₁.refusesSessions = memory₂.refusesSessions := by
  constructor
  · intro h
    have hlength := congrArg (fun memory : Memory => memory.sessions.length) h
    have hrefuses := congrArg (fun memory : Memory => memory.refusesSessions) h
    exact ⟨by simpa [bare] using hlength, hrefuses⟩
  · rintro ⟨hlength, hrefuses⟩
    rw [bare, bare, hlength, hrefuses]

theorem World.bare_eq_iff : world₁.bare = world₂.bare ↔ world₁.pool = world₂.pool ∧
    world₁.memory.bare = world₂.memory.bare ∧ world₁.contention = world₂.contention ∧
      world₁.calls = world₂.calls ∧
        world₁.memoryCalls.filter (fun call => call = .createSession) =
          world₂.memoryCalls.filter fun call => call = .createSession := by
  rw [bare, bare, World.mk.injEq]

@[simp] theorem Stage.bare_bare (stage : Stage) : stage.bare.bare = stage.bare := by
  simp [bare, Function.comp_def]

@[simp] theorem Machine.bare_bare (m : Machine) : m.bare.bare = m.bare := by
  simp [bare, Function.comp_def]

@[simp] theorem bareOut_bareOut (out : Next × World) : bareOut (bareOut out) = bareOut out := by
  simp [bareOut]

/-! ## Errors of bookkeeping -/

/-- **Faults that disturb only the bookkeeping, and only by errors**: they never panic, except perhaps
    when a session is created, and whether that fails depends only on how many were to be created. -/
structure FaultPattern.OnlyDisturbs (faults : FaultPattern) (refusals : Nat → Option Fault) : Prop where
  sessions : ∀ before, faults before .createSession = refusals (before.count .createSession)
  errors : ∀ before call text, call ≠ .createSession → faults before call ≠ some (.panic text)

/-- The same faults when sessions are created, and no others. -/
def FaultPattern.sparing (refusals : Nat → Option Fault) : FaultPattern := fun before call =>
  if call = .createSession then refusals (before.count .createSession) else none

theorem FaultPattern.onlyDisturbs_sparing (refusals : Nat → Option Fault) :
    (sparing refusals).OnlyDisturbs refusals where
  sessions before := if_pos rfl
  errors before call text hcall := by
    rw [sparing, if_neg hcall]
    nofun

/-- What an execution is given, without errors of bookkeeping. -/
def Setup.sparing (refusals : Nat → Option Fault) (s : Setup) : Setup :=
  { s with faults := .sparing refusals }

theorem World.count_bare (world : World) : world.bare.memoryCalls.count .createSession =
    world.memoryCalls.count .createSession := List.count_filter (by simp)

/-- The same fault, if any, meets the next session to be created. -/
theorem FaultPattern.OnlyDisturbs.congr {faults₁ faults₂ : FaultPattern}
    (h₁ : faults₁.OnlyDisturbs refusals) (h₂ : faults₂.OnlyDisturbs refusals)
    (hworld : world₁.bare = world₂.bare) :
    faults₁ world₁.memoryCalls .createSession = faults₂ world₂.memoryCalls .createSession := by
  rw [h₁.sessions, h₂.sessions, ← World.count_bare world₁, hworld, World.count_bare]

/-! ## Calls whose answer does not matter -/

/-- An operation of the memory service that touches nothing but the books. -/
def Harmless (op : Memory → Except MemoryError (α × Memory)) : Prop :=
  ∀ memory a memory', op memory = .ok (a, memory') → memory'.bare = memory.bare

namespace Memory

theorem bare_setSession (memory : Memory) (h : Handle) (session : Session) :
    (memory.setSession h session).bare = memory.bare := by
  cases h with
  | issued n => simp [setSession, bare]
  | foreign text => rfl

theorem bare_setRecord (memory : Memory) (h : Handle) (record : Record) :
    (memory.setRecord h record).bare = memory.bare := by
  cases h <;> rfl

theorem harmless_updateRecord (record : Handle) (status : RecordStatus) (metadata : RecordMetadata) :
    Harmless fun m => (m.updateRecord record status metadata).map fun m => ((), m) := by
  intro memory a memory' heq
  dsimp only [updateRecord] at heq
  split at heq
  · cases heq
  · cases heq
    exact bare_setRecord ..

theorem harmless_mergeSession (session : Handle) (strategy : MergeStrategy) :
    Harmless fun m => m.mergeSession session strategy := by
  intro memory a memory' heq
  dsimp only [mergeSession] at heq
  split at heq
  · cases heq
  · split at heq
    · cases heq
    · cases heq
      exact bare_setSession ..

theorem harmless_closeSession (session : Handle) (owner : AgentId) :
    Harmless fun m => (m.closeSession session owner).map fun m => ((), m) := by
  intro memory a memory' heq
  dsimp only [closeSession] at heq
  split at heq
  · cases heq
  · split at heq
    · cases heq
      exact bare_setSession ..
    · cases heq

end Memory

/-- A call that creates no session is not seen. -/
theorem World.bare_called (world : World) {call : MemoryCall} (hcall : call ≠ .createSession) :
    (world.called call).bare = world.bare := by
  simp [called, bare, hcall]

namespace Flight

/-- **A call whose answer does not matter** looks like nothing at all. -/
theorem bareOut_consult {call : MemoryCall} {op : Memory → Except MemoryError (α × Memory)}
    {next : Except MemoryError α → Next} {looks : Next} (hfaults : s.faults.OnlyDisturbs refusals)
    (hcall : call ≠ .createSession) (hop : Harmless op) (hnext : ∀ answer, (next answer).bare = looks)
    (f : Flight) (agent : AgentId) (world : World) :
    bareOut (f.consult s agent call op next world) = (looks, world.bare) := by
  have hcalled := world.bare_called hcall
  have hconsulted := consulted s f agent call op next world
  generalize f.consult s agent call op next world = out at hconsulted ⊢
  cases hconsulted with
  | cutOff hfault => exact absurd hfault (hfaults.errors _ _ _ hcall)
  | refused _ _ => exact Prod.ext (hnext _) hcalled
  | done _ hok =>
      refine Prod.ext (hnext _) ?_
      rw [← hcalled]
      simp only [bareOut, World.bare, hop _ _ _ hok, World.called]

/-- What a step on the way to the end looks like. -/
def closed (f : Flight) (agent : AgentId) (u : Upshot) : Closing → Next
  | .merge _ session => .atOnce (f.enter (.closing agent (.close none session) u))
  | .close _ _ => .atOnce (f.enter (.closing agent (.store none) u))
  | .store _ => .atOnce (f.enter (.closing agent (.sign none) u))
  | .sign _ => .land (f.resultOf agent u) (some agent)

/-- **The end of a flight looks the same**, whatever becomes of merge, close, episode and record. -/
theorem bareOut_closeUp (hfaults : s.faults.OnlyDisturbs refusals) (now : Nat) (f : Flight)
    (agent : AgentId) (u : Upshot) (step : Closing) (world : World) :
    bareOut (f.closeUp s now agent u step world) = (f.closed agent u step, world.bare) := by
  cases step with
  | merge record session =>
      exact bareOut_consult hfaults (by decide) (Memory.harmless_mergeSession _ _) (fun _ => rfl) f
        agent world
  | close record session =>
      exact bareOut_consult hfaults (by decide) (Memory.harmless_closeSession _ _) (fun _ => rfl) f
        agent world
  | store record =>
      refine bareOut_consult hfaults (by decide) (fun memory a memory' heq => ?_) (fun _ => rfl) f
        agent world
      cases heq
      rfl
  | sign record =>
      cases record with
      | none => rfl
      | some record =>
          exact bareOut_consult hfaults (by decide) (Memory.harmless_updateRecord _ _ _) (fun _ => rfl) f
            agent world

/-! ## The call whose answer matters -/

/-- **A session is opened, or refused, in the same way** in worlds that look the same. -/
theorem bareOut_createSession {next₁ next₂ : Except MemoryError Handle → Next}
    (h₁ : s₁.faults.OnlyDisturbs refusals) (h₂ : s₂.faults.OnlyDisturbs refusals)
    (hworld : world₁.bare = world₂.bare) (hjob : f₁.job = f₂.job)
    (hnext : ∀ answer, (next₁ answer).bare = (next₂ answer).bare) (owner : AgentId)
    (scope : SessionScope) :
    bareOut (f₁.consult s₁ agent .createSession (fun m => m.createSession owner scope) next₁ world₁) =
      bareOut (f₂.consult s₂ agent .createSession (fun m => m.createSession owner scope) next₂
        world₂) := by
  obtain ⟨hpool, hmemory, hcontention, hcalls, hmemoryCalls⟩ := World.bare_eq_iff.mp hworld
  have hcreated : (MemoryCall.createSession :: world₁.memoryCalls).filter
      (fun call => call = .createSession) = (MemoryCall.createSession :: world₂.memoryCalls).filter
        fun call => call = .createSession := by
    simpa using hmemoryCalls
  have hafter : World.bare { world₁ with memoryCalls := .createSession :: world₁.memoryCalls } =
      World.bare { world₂ with memoryCalls := .createSession :: world₂.memoryCalls } :=
    World.bare_eq_iff.mpr ⟨hpool, hmemory, hcontention, hcalls, hcreated⟩
  unfold consult ask
  rw [h₁.congr h₂ hworld, hjob]
  cases s₂.faults world₂.memoryCalls .createSession with
  | some fault =>
      cases fault with
      | panic text => exact Prod.ext rfl hafter
      | unavailable reason => exact Prod.ext (hnext _) hafter
  | none =>
      obtain ⟨hlength, hrefuses⟩ := Memory.bare_eq_iff.mp hmemory
      unfold Memory.createSession
      dsimp only
      rw [hrefuses, hlength]
      cases world₂.memory.refusesSessions with
      | true => exact Prod.ext (hnext _) hafter
      | false =>
          exact Prod.ext (hnext _) (World.bare_eq_iff.mpr
            ⟨hpool, Memory.bare_eq_iff.mpr ⟨by simp [hlength], rfl⟩, hcontention, hcalls, hcreated⟩)

/-- **A flight with an agent goes on in the same way**, or is refused a session in the same way, whatever
    becomes of its record. -/
theorem bareOut_openUp (hfaults : s.faults.OnlyDisturbs refusals) (now : Nat) (f : Flight)
    (agent : AgentId) (step : Opening) (world : World) :
    bareOut (f.openUp s now agent step world) =
      bareOut (f.bare.openUp (s.sparing refusals) now agent step.bare world.bare) := by
  have hspared : (s.sparing refusals).faults.OnlyDisturbs refusals :=
    FaultPattern.onlyDisturbs_sparing refusals
  cases step with
  | record =>
      have hcreate : Harmless fun m : Memory =>
          Except.ok (m.createRecord (definitionOf s f.job)) := fun memory a memory' heq => by
        cases heq
        rfl
      have hlooks (g : Flight) (answer : Except MemoryError Handle) :
          Next.bare (.atOnce (g.enter (.opening agent (.mark answer.toOption)))) =
            .atOnce (g.enter (.opening agent (.mark none))) := rfl
      have hcall : MemoryCall.createRecord ≠ .createSession := by decide
      have hseen := bareOut_consult hspared hcall hcreate (hlooks f.bare) f.bare agent world.bare
      rw [World.bare_bare] at hseen
      exact (bareOut_consult hfaults hcall hcreate (hlooks f) f agent world).trans hseen.symm
  | mark record =>
      have hseen : bareOut (f.openUp s now agent (.mark record) world) =
          (.atOnce (f.enter (.opening agent (.session none))), world.bare) := by
        cases record with
        | none => rfl
        | some record =>
            exact bareOut_consult hfaults (by decide) (Memory.harmless_updateRecord _ _ _) (fun _ => rfl) f
              agent world
      exact hseen.trans (Prod.ext rfl (World.bare_bare world).symm)
  | session record =>
      refine bareOut_createSession hfaults hspared (World.bare_bare world).symm rfl (fun answer => ?_) _ _
      cases answer <;> rfl

end Flight

/-! ## Activities -/

namespace World

theorem claim_bare (world : World) (agent : AgentId) (task : TaskId) :
    world.bare.claim agent task =
      ((world.claim agent task).1, (world.claim agent task).2.bare) := by
  unfold claim
  rw [show world.bare.contention = world.contention from rfl,
    show world.bare.pool = world.pool from rfl]
  cases world.contention with
  | succ n => rfl
  | zero => cases world.pool.assign agent task <;> rfl

theorem claimPlanned_bare (world : World) (job : Job) : world.bare.claimPlanned job =
    ((world.claimPlanned job).1, (world.claimPlanned job).2.bare) := by
  unfold claimPlanned
  cases job.planned with
  | none => rfl
  | some agent =>
      dsimp only
      rw [claim_bare]
      cases world.claim agent job.task with
      | mk claimed after => cases claimed <;> rfl

@[simp] theorem pool_bare (world : World) : world.bare.pool = world.pool := rfl

end World

namespace Flight

/-- An attempt does not look at the books. -/
theorem workOn_bare (now : Nat) (f : Flight) (e : Engagement) (attempt : Nat) (delay : Duration)
    (ending : Ending) (course : List Activity) (world : World) :
    workOn now f.bare e.bare attempt delay ending course world.bare =
      bareOut (workOn now f e attempt delay ending course world) := by
  induction course generalizing world with
  | nil => rfl
  | cons activity rest ih =>
      cases activity with
      | pause length =>
          unfold workOn
          split
          · exact ih world
          · rfl
      | act action =>
          rw [workOn, workOn, ← ih]
          congr 1
          cases action <;> rfl

/-- **One activity of a flight looks the same** without its books and without errors of bookkeeping. -/
theorem bare_resume (hfaults : s.faults.OnlyDisturbs refusals) (now : Nat) (f : Flight)
    (world : World) : bareOut (f.resume s now world) =
      bareOut (f.bare.resume (s.sparing refusals) now world.bare) := by
  have hspared : (s.sparing refusals).faults.OnlyDisturbs refusals :=
    FaultPattern.onlyDisturbs_sparing refusals
  obtain ⟨job, startedAt, phase⟩ := f
  cases phase with
  | seeking =>
      show bareOut (resume s now _ world) =
        bareOut (resume (s.sparing refusals) now ⟨job, startedAt, .seeking⟩ world.bare)
      unfold resume
      dsimp only
      rw [World.claimPlanned_bare]
      cases world.claimPlanned job with
      | mk claimed after =>
          cases claimed with
          | some agent => exact Prod.ext rfl (World.bare_bare after).symm
          | none =>
              dsimp only
              rw [World.pool_bare]
              cases after.pool.findSuitable job.requirements with
              | some found => exact Prod.ext rfl (World.bare_bare after).symm
              | none =>
                  dsimp only
                  split <;> exact Prod.ext rfl (World.bare_bare after).symm
  | claiming agent =>
      show bareOut (resume s now _ world) =
        bareOut (resume (s.sparing refusals) now ⟨job, startedAt, .claiming agent⟩ world.bare)
      unfold resume
      dsimp only
      rw [World.claim_bare]
      cases world.claim agent job.task with
      | mk claimed after => cases claimed <;> exact Prod.ext rfl (World.bare_bare after).symm
  | opening agent step => exact bareOut_openUp hfaults now ⟨job, startedAt, _⟩ agent step world
  | calling e attempt delay =>
      have hwork := workOn_bare now ⟨job, startedAt, .calling e attempt delay⟩ e attempt delay
        (s.runner world.calls (callOf s now ⟨job, startedAt, .calling e attempt delay⟩ e attempt)).ending
        (s.runner world.calls (callOf s now ⟨job, startedAt, .calling e attempt delay⟩ e attempt)).course
        { world with
          calls := callOf s now ⟨job, startedAt, .calling e attempt delay⟩ e attempt :: world.calls }
      exact (bareOut_bareOut _).symm.trans (congrArg bareOut hwork.symm)
  | working e attempt delay rest ending =>
      have hwork := workOn_bare now ⟨job, startedAt, .working e attempt delay rest ending⟩ e attempt
        delay ending rest world
      exact (bareOut_bareOut _).symm.trans (congrArg bareOut hwork.symm)
  | rested e attempt delay => exact Prod.ext rfl (World.bare_bare world).symm
  | returned e attempt delay answer =>
      cases answer with
      | ok output => exact Prod.ext rfl (World.bare_bare world).symm
      | error error =>
          show bareOut (resume s now _ world) = bareOut (resume (s.sparing refusals) now
            ⟨job, startedAt, .returned e.bare attempt delay (.error error)⟩ world.bare)
          unfold resume
          dsimp only
          rw [show (s.sparing refusals).config = s.config from rfl,
            show (s.sparing refusals).maxAttempts = s.maxAttempts from rfl]
          cases s.config.retry.decide error attempt s.maxAttempts delay with
          | giveUp => exact Prod.ext rfl (World.bare_bare world).symm
          | retryAfter wait =>
              dsimp only
              split <;> exact Prod.ext rfl (World.bare_bare world).symm
  | closing agent step u =>
      have hseen := bareOut_closeUp hspared now ⟨job, startedAt, .closing agent step.bare u⟩ agent u
        step.bare world.bare
      rw [World.bare_bare] at hseen
      refine (bareOut_closeUp hfaults now ⟨job, startedAt, _⟩ agent u step world).trans (Eq.trans ?_
        hseen.symm)
      cases step <;> rfl

end Flight

end Foreman
