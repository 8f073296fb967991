import Foreman.Proofs.Allocation
import Foreman.Proofs.Run.Contracts
import Foreman.Proofs.Run.WakeUps

/-!
# `Foreman.Proofs.Run.Scripts` — runners that follow a script

A script says how each attempt of each task ends. A runner that follows it may take any time over an
attempt, but does nothing else meanwhile. If the memory service has no faults, then what becomes of a
task is settled by its own script and the number of attempts allowed: the attempt that decides, its
output or error, and the outcome (`Script.reportOf`). No agent, no delay and no other task enters into
it. This is a contract that every flight keeps (`kept_scripted`): a search for an agent never ends in
"impossible", since the schedule has shown every task to be covered and agents stay what they are; no call
of the memory service is cut off (`allows_consult`); and the attempts follow each other up to the one
that decides.

## Contents
- **`Script`**, **`Report`**, `deciding` and `Script.reportOf`.
- **`KeepsAccess`**: operations of the memory service that do not make it refuse sessions.
- **`scripted`**, the contract, with one lemma for each phase, and **`kept_scripted`**.
-/

namespace Foreman

open Machine

variable {α : Type} {w : Workflow} {s : Setup} {f : Flight} {world world' : World} {agent : AgentId}
  {schedule : Schedule}

/-! ## Scripts and reports -/

/-- How each attempt of each task ends; attempts are counted from one. -/
abbrev Script := TaskId → Nat → Ending

/-- An activity that only takes time. -/
def Activity.IsPause : Activity → Prop
  | .pause _ => True
  | .act _ => False

/-- **A runner that follows a script**: its attempts end as the script says, and only take time. -/
structure Runner.Follows (runner : Runner) (script : Script) : Prop where
  ending : ∀ before call, (runner before call).ending = script call.task call.attempt
  pauses : ∀ before call, ∀ activity ∈ (runner before call).course, activity.IsPause

/-- What became of a task, without the agent and the time that it took. -/
structure Report where
  outcome : TaskOutcome
  output : Option Value
  error : Option String
  attempts : Nat

/-- What a result says, apart from the agent and the time. -/
def TaskResult.report (r : TaskResult) : Report := ⟨r.outcome, r.output, r.error, r.attempts⟩

/-- What becomes of a task with the answer of its last attempt. -/
def Report.ofAnswer (attempts : Nat) : Except TaskError Output → Report
  | .ok output => ⟨.success, output.value, none, attempts⟩
  | .error e => ⟨e.outcome, none, some e.message, attempts⟩

/-- The attempt that decides, from a given one on: the first one that succeeds or fails for good, or the
    last one that is allowed. The first argument counts the attempts that are left after the given
    one. -/
def decidingFrom (answer : Nat → Except TaskError Output) : Nat → Nat → Nat
  | 0, attempt => attempt
  | left + 1, attempt =>
    match answer attempt with
    | .ok _ => attempt
    | .error e => if e.isRetryable then decidingFrom answer left (attempt + 1) else attempt

/-- The attempt that decides, of at most a given number. -/
def deciding (answer : Nat → Except TaskError Output) (most : Nat) : Nat :=
  decidingFrom answer (most - 1) 1

/-- **What becomes of a task by its script.** -/
def Script.reportOf (endings : Nat → Ending) (most : Nat) : Report :=
  let answer := fun attempt => Flight.answerOf (endings attempt)
  Report.ofAnswer (deciding answer most) (answer (deciding answer most))

theorem Flight.report_resultOf (f : Flight) (agent : AgentId) (u : Upshot) :
    (f.resultOf agent u).report = Report.ofAnswer u.attempts u.answer := by
  unfold resultOf
  split <;> next hanswer => rw [hanswer]; rfl

/-! ## Operations of the memory service -/

/-- An operation of the memory service that does not touch whether sessions are refused. -/
def KeepsAccess (op : Memory → Except MemoryError (α × Memory)) : Prop :=
  ∀ memory a memory', op memory = .ok (a, memory') →
    memory'.refusesSessions = memory.refusesSessions

namespace Memory

theorem keepsAccess_updateRecord (h : Handle) (status : RecordStatus) (metadata : RecordMetadata) :
    KeepsAccess fun memory => (memory.updateRecord h status metadata).map fun m => ((), m) := by
  intro memory a memory' heq
  dsimp only [updateRecord] at heq
  cases hrecord : memory.record? h with
  | none =>
      rw [hrecord] at heq
      cases heq
  | some record =>
      rw [hrecord] at heq
      cases heq
      exact refusesSessions_setRecord ..

theorem keepsAccess_closeSession (h : Handle) (owner : AgentId) :
    KeepsAccess fun memory => (memory.closeSession h owner).map fun m => ((), m) := by
  intro memory a memory' heq
  dsimp only [closeSession] at heq
  cases hsession : memory.session? h with
  | none =>
      rw [hsession] at heq
      cases heq
  | some session =>
      rw [hsession] at heq
      dsimp only at heq
      split at heq
      · cases heq
        exact refusesSessions_setSession ..
      · cases heq

theorem keepsAccess_mergeSession (h : Handle) (strategy : MergeStrategy) :
    KeepsAccess fun memory => memory.mergeSession h strategy := by
  intro memory a memory' heq
  dsimp only [mergeSession] at heq
  cases hsession : memory.session? h with
  | none =>
      rw [hsession] at heq
      cases heq
  | some session =>
      rw [hsession] at heq
      dsimp only at heq
      split at heq
      · cases heq
      · cases heq
        exact refusesSessions_setSession ..

theorem keepsAccess_createSession (owner : AgentId) (scope : SessionScope) :
    KeepsAccess fun memory => memory.createSession owner scope := by
  intro memory a memory' heq
  dsimp only [createSession] at heq
  split at heq
  · cases heq
  · cases heq
    rfl

theorem keepsAccess_ok {op : Memory → α × Memory}
    (h : ∀ memory, (op memory).2.refusesSessions = memory.refusesSessions) :
    KeepsAccess fun memory => .ok (op memory) := by
  intro memory a memory' heq
  have hpair : op memory = (a, memory') := Except.ok.inj heq
  rw [← h memory, hpair]

end Memory

/-! ## The contract -/

/-- The world of an execution by script: sessions can be opened, and every task of the workflow could be
    done by some agent. -/
structure World.Ready (w : Workflow) (world : World) : Prop where
  accepts : world.memory.refusesSessions = false
  covered : ∀ t k, w.task? t = some k → world.pool.canSatisfy k.requirements = true

theorem World.Ready.congr (h : World.Ready w world) (hagents : world.pool.SameAgents world'.pool)
    (haccepts : world'.memory.refusesSessions = false) : World.Ready w world' :=
  ⟨haccepts, fun t k hk => (hagents.canSatisfy_eq k.requirements).trans (h.covered t k hk)⟩

/-- A search changes what agents work on, and nothing else about them. -/
theorem World.Ready.searched {task : TaskId} {found : Option AgentId} (h : World.Ready w world)
    (hsearched : world.Searched task found world') : World.Ready w world' := by
  refine h.congr ?_ (by rw [hsearched.memory]; exact h.accepts)
  have hpool := hsearched.pool
  cases found with
  | none => exact hpool ▸ .refl _
  | some agent => exact .of_assign hpool

/-- The attempts before the given one have decided nothing. -/
def Undecided (endings : Nat → Ending) (most attempt : Nat) : Prop :=
  decidingFrom (fun i => Flight.answerOf (endings i)) (most - attempt) attempt =
    deciding (fun i => Flight.answerOf (endings i)) most

/-- **A phase of a flight by script.** -/
def Phase.Follows (endings : Nat → Ending) (most : Nat) : Phase → Prop
  | .seeking | .claiming _ | .opening _ _ => True
  | .calling _ attempt _ | .rested _ attempt _ => Undecided endings most attempt
  | .working _ attempt _ rest ending => Undecided endings most attempt ∧
      ending = endings attempt ∧ ∀ activity ∈ rest, activity.IsPause
  | .returned _ attempt _ answer => Undecided endings most attempt ∧
      answer = Flight.answerOf (endings attempt)
  | .closing _ _ u => Report.ofAnswer u.attempts u.answer = Script.reportOf endings most

/-- A flight by script, for a task of the workflow. -/
structure Flight.Follows (s : Setup) (w : Workflow) (script : Script) (f : Flight) : Prop where
  about : ∃ t k, w.task? t = some k ∧ f.job = jobOf s k
  phase : f.phase.Follows (script f.job.task) s.maxAttempts

/-- **What an execution by script comes to**: every result is that of the script. -/
def scripted (s : Setup) (w : Workflow) (script : Script) : Contract where
  world := World.Ready w
  flight := Flight.Follows s w script
  result r := r.report = Script.reportOf (script r.task) s.maxAttempts

variable {script : Script} {endings : Nat → Ending} {most attempt : Nat}

/-- An attempt that succeeds decides. -/
theorem Undecided.of_ok (h : Undecided endings most attempt) {output : Output}
    (hanswer : Flight.answerOf (endings attempt) = .ok output) :
    Report.ofAnswer attempt (Flight.answerOf (endings attempt)) = Script.reportOf endings most := by
  have hdecides : deciding (fun i => Flight.answerOf (endings i)) most = attempt := by
    rw [← h]
    cases most - attempt with
    | zero => rfl
    | succ left => simp only [decidingFrom, hanswer]
  rw [Script.reportOf, hdecides]

/-- An attempt that fails decides, unless it may be repeated. -/
theorem Undecided.of_error (h : Undecided endings most attempt) {e : TaskError}
    (hanswer : Flight.answerOf (endings attempt) = .error e)
    (hfinal : e.isRetryable = false ∨ most ≤ attempt) :
    Report.ofAnswer attempt (Flight.answerOf (endings attempt)) = Script.reportOf endings most := by
  have hdecides : deciding (fun i => Flight.answerOf (endings i)) most = attempt := by
    rw [← h]
    rcases hfinal with hfinal | hlast
    · cases most - attempt with
      | zero => rfl
      | succ left => simp only [decidingFrom, hanswer, hfinal, Bool.false_eq_true, if_false]
    · rw [Nat.sub_eq_zero_of_le hlast]
      rfl
  rw [Script.reportOf, hdecides]

/-- An attempt that may be repeated has decided nothing. -/
theorem Undecided.next (h : Undecided endings most attempt) {e : TaskError}
    (hanswer : Flight.answerOf (endings attempt) = .error e) (hretry : e.isRetryable = true)
    (hleft : attempt < most) : Undecided endings most (attempt + 1) := by
  unfold Undecided at h ⊢
  rw [← h, show most - attempt = (most - (attempt + 1)) + 1 by omega]
  simp only [decidingFrom, hanswer, hretry, if_true]

namespace Flight

/-- An attempt that only takes time pauses or returns, and changes nothing. -/
theorem workOn_of_pauses (now : Nat) (f : Flight) (e : Engagement) (attempt : Nat) (delay : Duration)
    (ending : Ending) {course : List Activity} (hcourse : ∀ activity ∈ course, activity.IsPause)
    (world : World) :
    workOn now f e attempt delay ending course world =
        (.again (f.enter (.returned e attempt delay (answerOf ending))), world) ∨
      ∃ due rest, rest ⊆ course ∧ workOn now f e attempt delay ending course world =
        (.sleep due (f.enter (.working e attempt delay rest ending)), world) := by
  induction course with
  | nil => exact Or.inl rfl
  | cons activity rest ih =>
      obtain ⟨hpause, hrest⟩ := List.forall_mem_cons.mp hcourse
      cases activity with
      | act action => cases hpause
      | pause length =>
          unfold workOn
          split
          · rcases ih hrest with hreturns | ⟨due, rest', hsub, hsleeps⟩
            · exact Or.inl hreturns
            · exact Or.inr ⟨due, rest', List.subset_cons_of_subset _ hsub, hsleeps⟩
          · exact Or.inr ⟨_, rest, List.subset_cons_self _ _, rfl⟩

/-- **An attempt by script.** -/
theorem allows_workOn (hf : f.Follows s w script) {e : Engagement} {attempt : Nat}
    (hundecided : Undecided (script f.job.task) s.maxAttempts attempt) (now : Nat) (delay : Duration)
    {course : List Activity} (hcourse : ∀ activity ∈ course, activity.IsPause)
    (hworld : World.Ready w world) :
    (scripted s w script).Allows
        (workOn now f e attempt delay (script f.job.task attempt) course world).1 ∧
      World.Ready w (workOn now f e attempt delay (script f.job.task attempt) course world).2 := by
  rcases workOn_of_pauses now f e attempt delay (script f.job.task attempt) hcourse world with
    hreturns | ⟨due, rest, hsub, hsleeps⟩
  · rw [hreturns]
    exact ⟨⟨hf.about, hundecided, rfl⟩, hworld⟩
  · rw [hsleeps]
    exact ⟨⟨hf.about, hundecided, rfl, fun activity ha => hcourse activity (hsub ha)⟩, hworld⟩

/-- **The search by script**: a flight waits, or gets an agent at last. -/
theorem allows_search {now : Nat} {out : Next × World} (hf : f.Follows s w script)
    (hsearches : f.Searches s now world out) (hworld : World.Ready w world) :
    (scripted s w script).Allows out.1 ∧ World.Ready w out.2 := by
  obtain ⟨t, k, hk, hjob⟩ := hf.about
  cases hsearches with
  | leased _ h | found _ h _ | lost _ h => exact ⟨⟨hf.about, trivial⟩, hworld.searched h⟩
  | busy _ h _ _ => exact ⟨hf, hworld.searched h⟩
  | impossible _ _ _ hcannot =>
      -- some agent covers the task
      have hrequirements : f.job.requirements = k.requirements := by rw [hjob]; rfl
      rw [hrequirements, hworld.covered t k hk] at hcannot
      cases hcannot

/-- **A call of the memory service without faults** is answered by the operation. -/
theorem allows_consult {call : MemoryCall} {op : Memory → Except MemoryError (α × Memory)}
    {next : Except MemoryError α → Next} (hfaults : s.faults = noFaults) (hop : KeepsAccess op)
    (hworld : World.Ready w world)
    (hnext : (scripted s w script).Allows (next ((op world.memory).map Prod.fst))) :
    (scripted s w script).Allows (f.consult s agent call op next world).1 ∧
      World.Ready w (f.consult s agent call op next world).2 := by
  rw [consult_of_noFaults hfaults]
  cases hcase : op world.memory with
  | error e =>
      rw [hcase] at hnext
      exact ⟨hnext, hworld.congr (.refl _) hworld.accepts⟩
  | ok out =>
      rw [hcase] at hnext
      exact ⟨hnext, hworld.congr (.refl _) ((hop _ _ _ hcase).trans hworld.accepts)⟩

/-- **The books are opened**, and there is a session. -/
theorem allows_openUp (hfaults : s.faults = noFaults) (hf : f.Follows s w script) (now : Nat)
    (agent : AgentId) (step : Opening) (hworld : World.Ready w world) :
    (scripted s w script).Allows (f.openUp s now agent step world).1 ∧
      World.Ready w (f.openUp s now agent step world).2 := by
  cases step with
  | record =>
      exact allows_consult hfaults (Memory.keepsAccess_ok fun _ => rfl) hworld ⟨hf.about, trivial⟩
  | mark record =>
      cases record with
      | none => exact ⟨⟨hf.about, trivial⟩, hworld⟩
      | some record =>
          exact allows_consult hfaults (Memory.keepsAccess_updateRecord record _ _) hworld
            ⟨hf.about, trivial⟩
  | session record =>
      refine allows_consult hfaults (Memory.keepsAccess_createSession agent _) hworld ?_
      rw [Memory.createSession, hworld.accepts]
      exact ⟨hf.about, rfl⟩

/-- **The books are closed**, and what they were closed with is reported. -/
theorem allows_closeUp (hfaults : s.faults = noFaults) (hf : f.Follows s w script) (now : Nat)
    (agent : AgentId) {u : Upshot}
    (hreport : Report.ofAnswer u.attempts u.answer = Script.reportOf (script f.job.task) s.maxAttempts)
    (step : Closing) (hworld : World.Ready w world) :
    (scripted s w script).Allows (f.closeUp s now agent u step world).1 ∧
      World.Ready w (f.closeUp s now agent u step world).2 := by
  have hresult : (f.resultOf agent u).report =
      Script.reportOf (script (f.resultOf agent u).task) s.maxAttempts := by
    rw [report_resultOf, task_resultOf, hreport]
  cases step with
  | merge record session =>
      exact allows_consult hfaults (Memory.keepsAccess_mergeSession session _) hworld
        ⟨hf.about, hreport⟩
  | close record session =>
      exact allows_consult hfaults (Memory.keepsAccess_closeSession session agent) hworld
        ⟨hf.about, hreport⟩
  | store record =>
      exact allows_consult hfaults (Memory.keepsAccess_ok fun _ => rfl) hworld ⟨hf.about, hreport⟩
  | sign record =>
      cases record with
      | none => exact ⟨hresult, hworld⟩
      | some record =>
          exact allows_consult hfaults (Memory.keepsAccess_updateRecord record _ _) hworld hresult

/-- **The answer of an attempt by script**: it is to be reported, or another attempt follows. -/
theorem allows_answer {now attempt : Nat} {e : Engagement} {delay : Duration}
    {answer : Except TaskError Output} {out : Next × World} (hf : f.Follows s w script)
    (hphase : f.phase = .returned e attempt delay answer)
    (hanswered : f.Answered s now e attempt delay answer world out) (hworld : World.Ready w world) :
    (scripted s w script).Allows out.1 ∧ World.Ready w out.2 := by
  have hfollows := hf.phase
  rw [hphase] at hfollows
  obtain ⟨hundecided, hanswer⟩ := hfollows
  cases hanswered with
  | counts hlast =>
      refine ⟨⟨hf.about, ?_⟩, hworld⟩
      show Report.ofAnswer attempt answer = _
      rw [hanswer]
      cases hcase : answer with
      | ok output => exact hundecided.of_ok (hanswer.symm.trans hcase)
      | error error =>
          have hover := RetryPolicy.over_of_giveUp (hlast error hcase)
          exact hundecided.of_error (hanswer.symm.trans hcase) hover
  | repeated herror hdecide | delayed herror hdecide =>
      obtain ⟨hretry, hleft, -⟩ := RetryPolicy.left_of_retryAfter hdecide
      exact ⟨⟨hf.about, hundecided.next (hanswer.symm.trans herror) hretry hleft⟩, hworld⟩

end Flight

/-- **Every flight keeps to the script.** -/
theorem kept_scripted (hfaults : s.faults = noFaults) (hrunner : s.runner.Follows script) :
    (scripted s w script).Kept s w where
  boards t k now hk := ⟨⟨t, k, hk, rfl⟩, trivial⟩
  resumes f now world hworld hf := by
    have hfollows := hf.phase
    have hacts := Flight.acts_resume s now f world
    generalize f.resume s now world = out at hacts ⊢
    cases hacts with
    | searches _ hsearches => exact Flight.allows_search hf hsearches hworld
    | opens _ => exact Flight.allows_openUp hfaults hf now _ _ hworld
    | closes hphase =>
        rw [hphase] at hfollows
        exact Flight.allows_closeUp hfaults hf now _ hfollows _ hworld
    | answered hphase hanswered => exact Flight.allows_answer hf hphase hanswered hworld
    | rests hphase =>
        rw [hphase] at hfollows
        exact ⟨⟨hf.about, hfollows⟩, hworld⟩
    | works hphase =>
        rw [hphase] at hfollows
        obtain ⟨hundecided, rfl, hrest⟩ := hfollows
        exact Flight.allows_workOn hf hundecided now _ hrest hworld
    | calls hphase =>
        rw [hphase] at hfollows
        rw [hrunner.ending]
        exact Flight.allows_workOn hf hfollows now _ (hrunner.pauses _ _)
          (hworld.congr (.refl _) hworld.accepts)
  handsBack world task leased hworld := by
    rcases world.handBack_world task leased with hsame | ⟨agent, pool, hrelease, hreleased⟩
    · rw [hsame]
      exact hworld
    · rw [hreleased]
      exact hworld.congr (.of_release hrelease) hworld.accepts

/-- A workflow that was planned for the agents of a world can be executed there. -/
theorem World.ready_of_plan (hplan : w.plan world.pool = .ok schedule)
    (haccepts : world.memory.refusesSessions = false) : World.Ready w world := by
  refine ⟨haccepts, fun t k hk => ?_⟩
  have ht : t ∈ tasksOf schedule.levels := by
    rw [(layered_of_plan hplan).mem_iff, ← Workflow.exists_statusOf_iff]
    exact ⟨k.status, Workflow.statusOf_eq_some_iff_task?.mpr ⟨k, hk, rfl⟩⟩
  obtain ⟨agent, view, hfind, -⟩ :=
    (allocates_of_schedule (isValid_of_plan hplan).2).all t ht k hk
  exact Pool.canSatisfy_of_findSuitable hfind

end Foreman
