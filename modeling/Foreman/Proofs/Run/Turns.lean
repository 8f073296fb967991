import Foreman.Proofs.Run.Flights
import Foreman.Run
import Mathlib.Data.List.Nodup

/-!
# `Foreman.Proofs.Run.Turns` — what a turn of a flight does

A turn resumes one flight of a level. Then the flight goes on, at once or in line or after some sleep, or
it lands; in that case the agent that it holds is handed back, and everyone who waits for a release wakes
up. `Turned` lists these possibilities with the machine that each of them leads to. Nothing else about
turns needs the definition of `Machine.turn`.

## Contents
- `Stage.roster` and `Stage.attended`: who is in flight, and who will be resumed.
- `Stage.Orderly`: flights have different numbers, and none is forgotten.
- `World.handBack`: what a release comes to.
- **`Turned`** and `turned`.
-/

namespace Foreman

variable {s : Setup} {m : Machine} {stage : Stage} {n : Nat} {rest : List TaskId}

/-! ## Flights of a level -/

namespace Stage

/-- The flights by number, with their tasks. -/
def roster (stage : Stage) : List (Nat × TaskId) :=
  stage.flights.map fun e => (e.1, e.2.job.task)

/-- The flights that are active or will wake up. -/
def attended (stage : Stage) : List Nat := stage.active ++ stage.asleep.map Sleeper.flight

/-- The level without a flight, whose result is in. -/
def landing (stage : Stage) (id : Nat) (r : TaskResult) : Stage :=
  { stage with
    active := stage.active.erase id
    flights := stage.flights.filter (·.1 ≠ id)
    landed := stage.landed ++ [r] }

theorem roster_landing (stage : Stage) (id : Nat) (r : TaskResult) :
    (stage.landing id r).roster = stage.roster.filter (·.1 ≠ id) := by
  simp [landing, roster, List.filter_map, Function.comp_def]

/-- The level with a new flight. -/
def boarding (stage : Stage) (f : Flight) (rest : List TaskId) : Stage :=
  { stage with
    waiting := rest
    flights := stage.flights ++ [(stage.nextFlight, f)]
    nextFlight := stage.nextFlight + 1
    active := stage.active ++ [stage.nextFlight] }

theorem roster_boarding (stage : Stage) (f : Flight) (rest : List TaskId) :
    (stage.boarding f rest).roster = stage.roster ++ [(stage.nextFlight, f.job.task)] := by
  simp [boarding, roster]

/-- **Flights have different numbers, and none is forgotten.** -/
structure Orderly (stage : Stage) : Prop where
  nodup : (stage.roster.map Prod.fst).Nodup
  numbered : ∀ e ∈ stage.roster, e.1 < stage.nextFlight
  attended : ∀ e ∈ stage.roster, e.1 ∈ stage.attended

theorem Orderly.distinct (h : stage.Orderly) : (stage.flights.map Prod.fst).Nodup := by
  simpa [Stage.roster, Function.comp_def] using h.nodup

/-- A dispatched flight has a new number and lines up for its first turn. -/
theorem Orderly.boarding (h : stage.Orderly) (f : Flight) (rest : List TaskId) :
    (stage.boarding f rest).Orderly := by
  have hmem : ∀ e ∈ (stage.boarding f rest).roster,
      e ∈ stage.roster ∨ e = (stage.nextFlight, f.job.task) := by
    simp [roster_boarding]
  refine ⟨?_, fun e he => ?_, fun e he => ?_⟩
  · rw [roster_boarding, List.map_append, List.nodup_append]
    refine ⟨h.nodup, by simp, ?_⟩
    rintro n hn _ hnew rfl
    obtain ⟨e, he, rfl⟩ := List.mem_map.mp hn
    exact Nat.ne_of_lt (h.numbered e he) (by simpa using hnew)
  · rcases hmem e he with he | rfl
    · exact Nat.lt_succ_of_lt (h.numbered e he)
    · exact Nat.lt_succ_self _
  · simp only [Stage.attended, Stage.boarding, List.mem_append, List.mem_singleton]
    rcases hmem e he with he | rfl
    · exact (List.mem_append.mp (h.attended e he)).imp_left Or.inl
    · exact Or.inl (Or.inr rfl)

end Stage

/-! ## How a flight goes on -/

namespace Next

/-- The flight, if it goes on. -/
def flight? : Next → Option Flight
  | .atOnce f | .again f | .sleep _ f | .wait _ f => some f
  | .land .. => none

/-- The active flights after the turn of the flight of a number, given the others: who goes on at once is
    the first of them, and who lines up is the last one. -/
def queue (n : Nat) (others : List Nat) : Next → List Nat
  | .atOnce _ => n :: others
  | .again _ => others ++ [n]
  | _ => others

/-- The flight of a number, if it falls asleep. -/
def sleepers (n : Nat) : Next → List Sleeper
  | .sleep due _ => [⟨n, due, false⟩]
  | .wait due _ => [⟨n, due, true⟩]
  | _ => []

variable {next : Next} {f : Flight} {job : Job}

/-- A flight that goes on keeps its job. -/
theorem About.job_eq (h : next.About job) (hnext : next.flight? = some f) : f.job = job := by
  cases next with
  | land r leased => cases hnext
  | atOnce f' | again f' | sleep due f' | wait due f' =>
      obtain rfl := Option.some.inj hnext
      exact h

theorem lease_of_flight? (hnext : next.flight? = some f) : next.lease = f.phase.lease := by
  cases next with
  | land r leased => cases hnext
  | atOnce f' | again f' | sleep due f' | wait due f' =>
      obtain rfl := Option.some.inj hnext
      rfl

theorem course_of_flight? (hnext : next.flight? = some f) : next.course = f.phase.course := by
  cases next with
  | land r leased => cases hnext
  | atOnce f' | again f' | sleep due f' | wait due f' =>
      obtain rfl := Option.some.inj hnext
      rfl

/-- The others stay active. -/
theorem subset_queue (n : Nat) (others : List Nat) (next : Next) : others ⊆ next.queue n others := by
  cases next with
  | atOnce f' => exact List.subset_cons_self n others
  | again f' => exact List.subset_append_left others [n]
  | sleep due f' | wait due f' | land r leased => exact List.Subset.refl others

/-- A flight that goes on is active or falls asleep. -/
theorem mem_queue_or_sleepers (n : Nat) (others : List Nat) (hnext : next.flight? = some f) :
    n ∈ next.queue n others ∨ ∃ z ∈ next.sleepers n, z.flight = n := by
  cases next with
  | land r leased => cases hnext
  | atOnce f' | again f' => exact Or.inl (by simp [queue])
  | sleep due f' | wait due f' => exact Or.inr (by simp [sleepers])

end Next

/-- The world after the agent of a flight, if it holds one, was given back, and the note about it if
    that was refused. -/
def World.handBack (w : World) (task : TaskId) : Option AgentId → World × List Event
  | none => (w, [])
  | some agent =>
    match w.pool.release agent task with
    | .ok pool => ({ w with pool }, [])
    | .error e => (w, [.releaseRefused e])

theorem World.handBack_of_ok {w : World} {agent : AgentId} {task : TaskId} {pool : Pool}
    (h : w.pool.release agent task = .ok pool) :
    w.handBack task (some agent) = ({ w with pool }, []) := by
  rw [handBack, h]

/-- Giving an agent back releases it, or does nothing. -/
theorem World.handBack_world (w : World) (task : TaskId) (leased : Option AgentId) :
    (w.handBack task leased).1 = w ∨ ∃ agent pool, w.pool.release agent task = .ok pool ∧
      (w.handBack task leased).1 = { w with pool } := by
  cases leased with
  | none => exact Or.inl rfl
  | some agent =>
      unfold handBack
      dsimp only
      cases hrelease : w.pool.release agent task with
      | ok pool => exact Or.inr ⟨agent, pool, hrelease, rfl⟩
      | error e => exact Or.inl rfl

theorem World.calls_handBack (w : World) (task : TaskId) (leased : Option AgentId) :
    (w.handBack task leased).1.calls = w.calls := by
  rcases w.handBack_world task leased with hsame | ⟨agent, pool, -, hreleased⟩
  · rw [hsame]
  · rw [hreleased]

theorem World.handBack_events (w : World) (task : TaskId) (leased : Option AgentId) :
    (w.handBack task leased).2 = [] ∨ ∃ e, (w.handBack task leased).2 = [.releaseRefused e] := by
  cases leased with
  | none => exact Or.inl rfl
  | some agent =>
      unfold handBack
      dsimp only
      cases w.pool.release agent task with
      | ok pool => exact Or.inl rfl
      | error e => exact Or.inr ⟨e, rfl⟩

namespace Machine

/-! ## Turns -/

/-- The flights of the current level. -/
def flights (m : Machine) : List (Nat × Flight) := (m.stage.map Stage.flights).getD []

/-- The results of the current level. -/
def landed (m : Machine) : List TaskResult := (m.stage.map Stage.landed).getD []

theorem flights_of_stage (hstage : m.stage = some stage) : m.flights = stage.flights := by
  rw [flights, hstage]
  rfl

theorem landed_of_stage (hstage : m.stage = some stage) : m.landed = stage.landed := by
  rw [landed, hstage]
  rfl

theorem flights_of_stage_none (hstage : m.stage = none) : m.flights = [] := by
  rw [flights, hstage]
  rfl

theorem landed_of_stage_none (hstage : m.stage = none) : m.landed = [] := by
  rw [landed, hstage]
  rfl

/-- The flights after one of them was replaced. -/
theorem mem_setFlight {f : Flight} {e : Nat × Flight} (h : e ∈ (setFlight stage n f).flights) :
    e = (n, f) ∨ e ∈ stage.flights ∧ e.1 ≠ n := by
  obtain ⟨e', he', heq⟩ := List.mem_map.mp h
  split at heq
  · exact Or.inl heq.symm
  · next hne =>
      subst heq
      exact Or.inr ⟨he', hne⟩

/-- The machine after a turn, with a new world, level, and events. -/
def after (m : Machine) (world : World) (stage : Stage) (events : List Event) : Machine :=
  { m with world, stage := some stage, journal := events ++ m.journal }

/-- The level after an agent was given back, if there was one. -/
def wakeAfter (stage : Stage) (leased : Option AgentId) : Stage :=
  if leased.isSome then wake stage Sleeper.onRelease else stage

theorem roster_wakeAfter (stage : Stage) (leased : Option AgentId) :
    (wakeAfter stage leased).roster = stage.roster := by
  unfold wakeAfter
  split <;> rfl

theorem flights_wakeAfter (stage : Stage) (leased : Option AgentId) :
    (wakeAfter stage leased).flights = stage.flights := by
  unfold wakeAfter
  split <;> rfl

theorem landed_wakeAfter (stage : Stage) (leased : Option AgentId) :
    (wakeAfter stage leased).landed = stage.landed := by
  unfold wakeAfter
  split <;> rfl

/-- **What the machine is after a turn** of the flight of a number. -/
inductive Turned (s : Setup) (m : Machine) (stage : Stage) (n : Nat) : Machine → Prop
  /-- There is no such flight. -/
  | absent (habsent : ∀ f, (n, f) ∉ stage.flights) :
      Turned s m stage n (m.after m.world { stage with active := stage.active.erase n } [])
  /-- The flight goes on, perhaps after a call of the runner. -/
  | goesOn {f f' : Flight} {next : Next} {world : World} {events : List Event}
      (hmem : (n, f) ∈ stage.flights) (hresume : f.resume s m.clock m.world = (next, world))
      (hnext : next.flight? = some f')
      (hcalls : events = [] ∧ world.calls = m.world.calls ∨ ∃ call : Call,
        call.task = f.job.task ∧ events = [.called call] ∧ world.calls = call :: m.world.calls) :
      Turned s m stage n (m.after world { setFlight stage n f' with
        active := next.queue n (stage.active.erase n)
        asleep := stage.asleep ++ next.sleepers n } events)
  /-- The flight lands, and what it holds is given back. -/
  | lands {f : Flight} {r : TaskResult} {leased : Option AgentId} {world : World}
      (hmem : (n, f) ∈ stage.flights)
      (hresume : f.resume s m.clock m.world = (.land r leased, world)) :
      Turned s m stage n (m.after (world.handBack f.job.task leased).1
        (wakeAfter (stage.landing n r) leased)
        (.landed r :: (world.handBack f.job.task leased).2))

theorem noteCalls_of_same {world : World} (h : world.calls = m.world.calls) :
    noteCalls { m with world } m.world.calls = { m with world } := by
  simp [noteCalls, h]

theorem noteCalls_of_cons {world : World} {call : Call} (h : world.calls = call :: m.world.calls) :
    noteCalls { m with world } m.world.calls =
      { m with world, journal := .called call :: m.journal } := by
  simp [noteCalls, h]

/-- The call that a flight has made, if any, is noted. -/
theorem exists_noteCalls {f : Flight} {next : Next} {world : World}
    (h : f.Resumes m.world (next, world)) :
    ∃ events, noteCalls { m with world } m.world.calls =
        { m with world, journal := events ++ m.journal } ∧
      (events = [] ∧ world.calls = m.world.calls ∨ next.isLand = false ∧ ∃ call : Call,
        call.task = f.job.task ∧ events = [.called call] ∧ world.calls = call :: m.world.calls) := by
  rcases h.calls with hsame | ⟨hland, call, htask, hcons⟩
  · exact ⟨[], noteCalls_of_same hsame, Or.inl ⟨rfl, hsame⟩⟩
  · exact ⟨[.called call], noteCalls_of_cons hcons, Or.inr ⟨hland, call, htask, rfl, hcons⟩⟩

/-- Giving an agent back changes the pool, wakes flights, and may note a refusal. -/
theorem giveBack_eq (m : Machine) (stage : Stage) (agent : AgentId) (t : TaskId) :
    giveBack m stage agent t =
      ({ m with
          world := (m.world.handBack t (some agent)).1
          journal := (m.world.handBack t (some agent)).2 ++ m.journal },
        wake stage Sleeper.onRelease) := by
  unfold giveBack World.handBack
  dsimp only
  cases m.world.pool.release agent t <;> rfl

/-- **Every turn.** -/
theorem turned (s : Setup) (m : Machine) (stage : Stage) (n : Nat) :
    Turned s m stage n (m.turn s stage n (stage.active.erase n)) := by
  unfold turn
  dsimp only
  cases hfind : stage.flights.find? (·.1 = n) with
  | none =>
      exact .absent fun f hmem => by simpa using List.find?_eq_none.mp hfind (n, f) hmem
  | some entry =>
      obtain ⟨id, f⟩ := entry
      obtain rfl : id = n := by simpa using List.find?_some hfind
      have hmem : (id, f) ∈ stage.flights := List.mem_of_find?_eq_some hfind
      have hresumes := Flight.resumes_resume s m.clock f m.world
      dsimp only
      cases hresume : f.resume s m.clock m.world with
      | mk next world =>
          rw [hresume] at hresumes
          obtain ⟨events, hnote, hevents⟩ := exists_noteCalls hresumes
          dsimp only
          rw [hnote]
          cases next with
          | atOnce f' | again f' | sleep due f' | wait due f' =>
              have hgoes := Turned.goesOn hmem hresume rfl (hevents.imp_right And.right)
              simp only [Next.queue, Next.sleepers, List.append_nil] at hgoes
              exact hgoes
          | land r leased =>
              -- a flight that ends has made no call
              obtain ⟨rfl, -⟩ := hevents.resolve_right fun h => by cases h.1
              have hlands := Turned.lands hmem hresume
              cases leased with
              | none => exact hlands
              | some agent =>
                  dsimp only
                  rw [giveBack_eq]
                  exact hlands

/-- **A flight after a turn** was there before, or has just had its turn and goes on. -/
theorem mem_flights_turn {e : Nat × Flight}
    (he : e ∈ (m.turn s stage n (stage.active.erase n)).flights) :
    e ∈ stage.flights ∨ ∃ f next world, (n, f) ∈ stage.flights ∧ e.1 = n ∧
      f.resume s m.clock m.world = (next, world) ∧ next.flight? = some e.2 := by
  have hturned := turned s m stage n
  generalize m.turn s stage n (stage.active.erase n) = m' at hturned he
  cases hturned with
  | absent habsent => exact Or.inl he
  | goesOn hmem hresume hnext hcalls =>
      rcases mem_setFlight he with rfl | ⟨hold, -⟩
      · exact Or.inr ⟨_, _, _, hmem, rfl, hresume, hnext⟩
      · exact Or.inl hold
  | lands hmem hresume =>
      rw [flights, after, Option.map_some, Option.getD_some, flights_wakeAfter] at he
      exact Or.inl (List.mem_filter.mp he).1

/-- A turn changes nothing but the world, the level and the journal. -/
theorem exists_after (s : Setup) (m : Machine) (stage : Stage) (n : Nat) :
    ∃ world stage' events, m.turn s stage n (stage.active.erase n) = m.after world stage' events := by
  have hturned := turned s m stage n
  generalize m.turn s stage n (stage.active.erase n) = m' at hturned ⊢
  cases hturned <;> exact ⟨_, _, _, rfl⟩

end Machine

end Foreman
