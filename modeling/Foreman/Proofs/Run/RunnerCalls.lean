import Foreman.Proofs.Run.Sessions
import Foreman.Proofs.Run.Timing
import Mathlib.Order.Bounds.Defs

/-!
# `Foreman.Proofs.Run.RunnerCalls` — results tell of all calls of the runner

As long as no call of the memory service panics, a result tells all about the attempts of its task
(`Attempted`): they are those from the first one to the one that has decided, made one after another by
the agent of the result in one session, and the result says what the last one came to. There are none
just if the task never had an agent and a session. And since each call of the runner belongs to a task
with a result, the attempts of all results make up the calls (`RunnerCalls`). The number of attempts in a
result is that of the calls, as long as it fits in 32 bits (`AttemptsSummed`).

## Contents
- **`Attempted`**, and `Told.attempted`: one task.
- `sumOf_countP`: counting by key.
- **`RunnerCalls`** and **`Engine.runner_calls_are_told`**: all tasks.
-/

namespace Foreman

open Machine

variable {w : Workflow} {s : Setup} {m m₁ m₂ : Machine} {schedule : Schedule} {world : World}
  {g : Engagement} {as before : List Attempt} {a : Attempt} {r : TaskResult} {past : List Machine}
  {t : TaskId} {first : List Call}

/-! ## One task -/

/-- **A result tells of all attempts of its task**, of which at most a number is allowed. -/
structure Attempted (most : Nat) (as : List Attempt) (r : TaskResult) : Prop where
  numbers : as.map (fun a => a.call.attempt) = List.range' 1 r.attempts
  apart : as.Pairwise fun a b => a.endsAt ≤ b.call.startedAt
  engaged : ∃ session, ∀ a ∈ as, r.agent = some a.call.agent ∧ a.call.session = session
  least : 0 < r.attempts →
    IsLeast {i | i = most ∨ ∃ a ∈ as, a.call.attempt = i ∧ a.isFinal = true} r.attempts
  report : ∀ a ∈ as, a.call.attempt = r.attempts → r.report = Report.ofAnswer r.attempts a.answer
  /-- Without an attempt there was no agent, or no session. -/
  unattempted : r.attempts = 0 →
    (r.agent = none ∧ ∃ requirements, r.report = Report.ofAnswer 0 (.error (noAgentError requirements))) ∨
    (r.agent.isSome = true ∧ ∃ error : MemoryError, r.report = Report.ofAnswer 0
      (.error (.serviceUnavailable ("could not open workspace: " ++ error.message))))

/-- The numbers of attempts in a row. -/
theorem InRow.number (h : InRow g (before ++ [a])) :
    a.call.attempt = before.length + 1 ∧ ∀ b ∈ before, b.call.attempt ≤ before.length := by
  have hnumbers := h.numbers
  rw [List.map_append, List.length_append, List.length_singleton, List.range'_concat] at hnumbers
  obtain ⟨hbefore, hlast⟩ := List.append_inj hnumbers (by simp)
  refine ⟨by simpa [Nat.add_comm] using hlast, fun b hb => ?_⟩
  have hmem := List.mem_map_of_mem (f := fun a : Attempt => a.call.attempt) hb
  rw [hbefore, List.mem_range'_1] at hmem
  omega

/-- **The attempt that decides** is the last one. -/
theorem Decided.attempted {most : Nat} (h : Decided most g a as) (hagent : r.agent = some g.agent)
    (hreport : r.report = Report.ofAnswer as.length a.answer) : Attempted most as r := by
  cases h with
  | @intro before hlatest hlast =>
      obtain ⟨hnumber, hearlier⟩ := hlatest.inRow.number
      have hattempts : r.attempts = before.length + 1 := by
        rw [TaskResult.attempts_of_report hreport, List.length_append, List.length_singleton]
      have hwithin := hlatest.within
      constructor
      case numbers =>
        rw [hlatest.inRow.numbers, hattempts, List.length_append, List.length_singleton]
      case apart => exact hlatest.inRow.apart
      case engaged =>
        refine ⟨g.session, fun b hb => ?_⟩
        obtain ⟨hb, hsession⟩ := hlatest.inRow.engaged b hb
        exact ⟨hb ▸ hagent, hsession⟩
      case least =>
        refine fun _ => ⟨?_, fun i hi => ?_⟩
        · rcases hlast with hfinal | hmost
          · exact Or.inr ⟨a, by simp, hnumber.trans hattempts.symm, hfinal⟩
          · exact Or.inl (hattempts.trans hmost)
        · rcases hi with rfl | ⟨b, hb, rfl, hfinal⟩
          · omega
          · rcases List.mem_append.mp hb with hb | hb
            · cases hfinal.symm.trans (hlatest.unfinal b hb)
            · rw [List.mem_singleton.mp hb, hnumber, hattempts]
      case report =>
        intro b hb hcount
        rcases List.mem_append.mp hb with hb | hb
        · have hle := hearlier b hb
          omega
        · rw [List.mem_singleton.mp hb, hattempts, hreport, List.length_append, List.length_singleton]
      case unattempted => exact fun hnone => by omega

/-- **Unless it was cut off**, a result tells of all attempts. -/
theorem Told.attempted (h : Told s (fun _ => False) as r) : Attempted s.maxAttempts as r := by
  have hempty : r.attempts = 0 → as = [] → ((r.agent = none ∧
      ∃ requirements, r.report = Report.ofAnswer 0 (.error (noAgentError requirements))) ∨
      (r.agent.isSome = true ∧ ∃ error : MemoryError, r.report = Report.ofAnswer 0
        (.error (.serviceUnavailable ("could not open workspace: " ++ error.message))))) →
      Attempted s.maxAttempts as r := by
    rintro hattempts rfl hwhy
    refine ⟨by rw [hattempts]; rfl, List.Pairwise.nil, ⟨.issued 0, by simp⟩, ?_, by simp, fun _ => hwhy⟩
    rw [hattempts]
    exact fun hpos => absurd hpos (Nat.lt_irrefl 0)
  cases h with
  | unserved hnone hagent hreport =>
      exact hempty (TaskResult.attempts_of_report hreport) hnone (Or.inl ⟨hagent, _, hreport⟩)
  | refused hnone hagent hreport =>
      exact hempty (TaskResult.attempts_of_report hreport) hnone (Or.inr ⟨hagent, _, hreport⟩)
  | decided hdecided hagent hreport => exact hdecided.attempted hagent hreport
  | cutOff hcut _ _ _ => exact hcut.elim

/-! ## Counting by key -/

/-- Counted key by key, all elements are counted. -/
theorem sumOf_countP {α β : Type} [DecidableEq β] (key : α → β) {keys : List β} (hnodup : keys.Nodup)
    {xs : List α} (hall : ∀ x ∈ xs, key x ∈ keys) :
    sumOf (fun k => xs.countP fun x => decide (key x = k)) keys = xs.length := by
  induction keys generalizing xs with
  | nil =>
      obtain rfl : xs = [] := List.eq_nil_iff_forall_not_mem.mpr fun x hx => by simpa using hall x hx
      rfl
  | cons k keys ih =>
      obtain ⟨hk, hnodup⟩ := List.nodup_cons.mp hnodup
      let others := xs.filter fun x => decide (key x ≠ k)
      have hothers : sumOf (fun k' => others.countP fun x => decide (key x = k')) keys =
          others.length := by
        refine ih hnodup fun x hx => ?_
        obtain ⟨hx, hne⟩ := List.mem_filter.mp hx
        exact (List.mem_cons.mp (hall x hx)).resolve_left (of_decide_eq_true hne)
      have hsame : ∀ k' ∈ keys, xs.countP (fun x => decide (key x = k')) =
          others.countP fun x => decide (key x = k') := by
        intro k' hk'
        rw [List.countP_filter]
        refine List.countP_congr fun x _ => ?_
        have hne : k' ≠ k := fun heq => hk (heq ▸ hk')
        simp only [Bool.and_eq_true, decide_eq_true_eq]
        exact ⟨fun heq => ⟨heq, heq ▸ hne⟩, And.left⟩
      have hlength := List.length_eq_countP_add_countP (fun x => decide (key x = k)) (l := xs)
      simp only [decide_eq_true_eq] at hlength
      rw [sumOf, sumOf_congr hsame, hothers, ← List.countP_eq_length_filter]
      exact hlength.symm

/-! ## All tasks -/

/-- **Results tell of all calls of the runner** in an execution that has passed some moments. -/
structure RunnerCalls (e : Engine) (w : Workflow) (first : List Call) (past : List Machine)
    (m : Machine) : Prop where
  calls : m.world.calls = m.calls ++ first
  attempted : ∀ t r, m.results.find? t = some r →
    Attempted (Nat.max w.metadata.maxAttempts 1) (attemptsOf e.runner first m.calls t) r
  /-- There was no attempt just if the task never had an agent and a session. -/
  unengaged : ∀ t r, m.results.find? t = some r →
    (r.attempts = 0 ↔ ∀ m₁ ∈ past, ∀ g, ¬ m₁.Engages t g)
  reported : ∀ call ∈ m.calls, ∃ r, m.results.find? call.task = some r
  sessions : ∀ c ∈ m.calls, ∀ c' ∈ m.calls, c.session = c'.session → c.task = c'.task
  /-- No attempt starts while another one of the task is under way. -/
  sequential : ∀ later m₂ m₁ earlier call, past = later ++ m₂ :: m₁ :: earlier →
    m₂.calls = call :: m₁.calls → m₁.atWork call.task = false
  /-- The attempts of all tasks are summed up, and the sum counts all calls. -/
  metrics : ∀ s, AttemptsSummed (m.result s)
  total : sumOf TaskResult.attempts m.results.values = m.calls.length

/-- The task of a flight that is to call the runner is not in an attempt. -/
theorem Filed.not_atWork {e : Nat × Flight} {attempt : Nat} {delay : Duration} (h : Filed m)
    (horderly : m.Orderly) (he : e ∈ m.flights) (hphase : e.2.phase = .calling g attempt delay) :
    m.atWork e.2.job.task = false := by
  obtain hnone | ⟨stage, hstage⟩ := Option.eq_none_or_eq_some m.stage
  · rw [flights_of_stage_none hnone] at he
    cases he
  · rw [atWork, flights_of_stage hstage, List.any_eq_false]
    rw [flights_of_stage hstage] at he
    intro e' he' hwork
    obtain ⟨htask, hworking⟩ := Bool.and_eq_true_iff.mp hwork
    by_cases hid : e'.1 = e.1
    · obtain rfl : e' = e := List.inj_on_of_nodup_map (horderly stage hstage).distinct he' he hid
      rw [hphase] at hworking
      cases hworking
    · exact Logged.task_ne h hstage he he' hid (of_decide_eq_true htask)

namespace Engine

variable {e : Engine} {fuel : Nat} {x : Execution}

/-- An execution that has ended, in whatever order of moves. -/
theorem runnerCalls_of_isDone (hnodup : (tasksOf schedule.levels).Nodup)
    (hm : CalmPassage (e.setup w schedule) (Machine.start w schedule world) past m)
    (hdone : m.isDone = true) : RunnerCalls e w world.calls past m := by
  have hmost := e.maxAttempts_pos w schedule
  obtain ⟨horderly, hfiled, hlogged⟩ := logged_of_moves hmost hnodup hm.moves
  obtain ⟨hperm, hnamed⟩ := hfiled.results_perm hdone
  have hend : m.stage = none ∧ m.levels = [] := by simpa [isDone] using hdone
  have hflights := flights_of_stage_none hend.1
  have hattempted : ∀ r ∈ m.landings, Attempted (Nat.max w.metadata.maxAttempts 1)
      (attemptsOf e.runner world.calls m.calls r.task) r := fun r hr => (hlogged.landed r hr).attempted
  have hcount : ∀ r ∈ m.landings, r.attempts =
      m.calls.countP fun call => decide (call.task = r.task) := by
    intro r hr
    have hlength := congrArg List.length (hattempted r hr).numbers
    rw [List.length_map, List.length_range', length_attemptsOf] at hlength
    exact hlength.symm
  have hknown : ∀ call ∈ m.calls, call.task ∈ m.landings.map TaskResult.task := fun call hcall => by
    simpa [Machine.airborne, hflights] using hlogged.known call hcall
  have hresult : ∀ {t r}, m.results.find? t = some r → r ∈ m.landings ∧ r.task = t := fun hr => by
    obtain rfl := hnamed _ _ hr
    exact ⟨(hfiled.mem_landings_iff hdone).mpr hr, rfl⟩
  constructor
  case calls => exact hlogged.calls
  case attempted =>
    intro t r hr
    obtain ⟨hlanded, rfl⟩ := hresult hr
    exact hattempted r hlanded
  case unengaged =>
    intro t r hr
    obtain ⟨hlanded, rfl⟩ := hresult hr
    rw [hcount r hlanded, List.countP_eq_zero]
    constructor
    · intro hnone m₁ hm₁ g hengages
      rcases hm.called_of_engaged hmost hnodup hm₁ hengages with ⟨e, he, -⟩ | ⟨call, hcall, htask⟩
      · -- at the end, nobody is in flight
        rw [hflights] at he
        cases he
      · exact hnone call hcall (decide_eq_true htask)
    · intro hnone call hcall htask
      obtain ⟨m₁, hm₁, g, hengages⟩ := hm.engaged_of_called call hcall
      exact hnone m₁ hm₁ g (of_decide_eq_true htask ▸ hengages)
  case reported =>
    intro call hcall
    obtain ⟨r, hr, htask⟩ := List.mem_map.mp (hknown call hcall)
    exact ⟨r, htask ▸ (hfiled.mem_landings_iff hdone).mp hr⟩
  case sessions =>
    intro c hc c' hc' hsession
    exact hm.sessionsApart.apart c.task c'.task c'.session (Or.inl ⟨c, hc, rfl, hsession⟩)
      (Or.inl ⟨c', hc', rfl, rfl⟩)
  case sequential =>
    intro later m₂ m₁ earlier call hpast hcall
    obtain ⟨hbefore, hmove⟩ := hm.exists_move hpast
    obtain ⟨horderly₁, hfiled₁, -⟩ := logged_of_moves hmost hnodup hbefore.moves
    rcases hmove.move.called with hsame | ⟨e, he, g, attempt, delay, hphase, hcons⟩
    · exact absurd (hsame.symm.trans hcall) (List.cons_ne_self _ _).symm
    · rw [(List.cons.inj (hcall.symm.trans hcons)).1]
      exact hfiled₁.not_atWork horderly₁ he hphase
  case metrics => exact fun s => attemptsSummed_result s m
  case total =>
    have hnodup : (m.landings.map TaskResult.task).Nodup := by
      obtain ⟨filed, -, hfiled, hdistinct⟩ := hfiled.landings
      rw [landed_of_stage_none hend.1, List.append_nil] at hfiled
      exact (hfiled.map _).nodup_iff.mpr (List.nodup_append.mp hdistinct).1
    rw [← sumOf_perm _ hperm, sumOf_congr hcount, ← sumOf_countP Call.task hnodup hknown, sumOf_map]

theorem exists_passage_of_execute (hnodup : (tasksOf schedule.levels).Nodup)
    (hx : e.execute fuel w schedule world = some x)
    (hcalm : ∀ text, ¬ Panicked e.faults world.memoryCalls x.world.memoryCalls text) :
    ∃ past m, CalmPassage (e.setup w schedule) (Machine.start w schedule world) past m ∧
      x = { result := m.result (e.setup w schedule), workflow := m.workflow, world := m.world } ∧
      RunnerCalls e w world.calls past m := by
  obtain ⟨m, hsteps, hdone, rfl⟩ := Engine.exists_machine_of_execute hx
  obtain ⟨past, hpassage⟩ := SoleInterleaving.exists_calmPassage
    (sole_of_steps (orderly_of_stage_none rfl) hsteps) hcalm
  exact ⟨past, m, hpassage, rfl, runnerCalls_of_isDone hnodup hpassage hdone⟩

end Engine

/-- **Results tell of all calls of the runner**, as long as no call of the memory service panics and no
    session is forgotten. Everybody may use the pool and the memory service, and attempts may do so,
    too. Once an execution of levels that do not repeat a task has ended, in whatever order flights have
    taken their turns: the attempts of a task are those from the first to the one that has decided, one
    after another, by the agent of the result and in a session that no other task has used; the result
    says what the last one came to, and has counted them; there are none just if the task never had an
    agent and a session; and all results together have counted all calls, a sum that is made in 32 bits.
    So it is after a run, and after the execution of an earlier plan, if the log of the memory service
    has no panic. -/
theorem Engine.runner_calls_are_told (e : Engine) (w : Workflow) (world : World) :
    (∀ schedule past m, (tasksOf schedule.levels).Nodup →
      CalmPassage (e.setup w schedule) (Machine.start w schedule world) past m → m.isDone = true →
      RunnerCalls e w world.calls past m) ∧
    (∀ fuel x, e.run fuel w world = .ok (some x) →
      (∀ text, ¬ Panicked e.faults world.memoryCalls x.world.memoryCalls text) →
      ∃ schedule past m, w.plan world.pool = .ok schedule ∧
        CalmPassage (e.setup w schedule) (Machine.start w schedule world) past m ∧
        x = { result := m.result (e.setup w schedule), workflow := m.workflow, world := m.world } ∧
        RunnerCalls e w world.calls past m) ∧
    ∀ schedule fuel x, (tasksOf schedule.levels).Nodup →
      e.runPlan fuel w schedule world = .ok (some x) →
      (∀ text, ¬ Panicked e.faults world.memoryCalls x.world.memoryCalls text) →
      ∃ past m, CalmPassage (e.setup w schedule) (Machine.start w schedule world) past m ∧
        x = { result := m.result (e.setup w schedule), workflow := m.workflow, world := m.world } ∧
        RunnerCalls e w world.calls past m := by
  refine ⟨fun schedule past m => runnerCalls_of_isDone, fun fuel x hrun hcalm => ?_,
    fun schedule fuel x hnodup hrun hcalm =>
      exists_passage_of_execute hnodup (execute_of_runPlan hrun) hcalm⟩
  obtain ⟨schedule, hplan, hexecute⟩ := exists_execute_of_run hrun
  obtain ⟨past, m, hrest⟩ :=
    exists_passage_of_execute (layered_of_plan hplan).nodup hexecute hcalm
  exact ⟨schedule, past, m, hplan, hrest⟩

/-- One task succeeds in its second attempt, and the other one panics in its first. -/
theorem runner_calls_are_told_sharing :
    ∃ x, sharing.run 80 twins { pool := lonePool } = .ok (some x) ∧
      x.world.calls.map (fun call => (call.task, call.attempt)) =
        [("right", 1), ("left", 2), ("left", 1)] ∧
      x.result.metrics.attempts = 3 ∧
      ∃ schedule past m, twins.plan lonePool = .ok schedule ∧
        CalmPassage (sharing.setup twins schedule) (Machine.start twins schedule { pool := lonePool })
          past m ∧
        x = { result := m.result (sharing.setup twins schedule), workflow := m.workflow,
              world := m.world } ∧
        RunnerCalls sharing twins [] past m := by
  refine ⟨_, rfl, rfl, rfl, ?_⟩
  refine (Engine.runner_calls_are_told sharing twins { pool := lonePool }).2.1 80 _ rfl ?_
  -- this memory service has no faults
  rintro text ⟨call, before, -, -, hpanic⟩
  cases hpanic

end Foreman
