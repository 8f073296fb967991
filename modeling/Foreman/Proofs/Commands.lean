import Foreman.Launch
import Foreman.Proofs.Run.RunnerCalls

/-!
# `Foreman.Proofs.Commands` — what tasks that are commands come to

A payload that has a command which can be handed to a process is an order (`Call.Orders`). The runner of
commands looks at nothing but the processes of orders (`commandRunner_congr`), so it can be replaced
together with them. Every other attempt fails at once and for good.

Whatever the processes do, an attempt only takes time, so what is shown of runners that leave the pool
alone is true of commands, too (`commandRunner_sparesPool`). It succeeds if its process ends with status
zero, and another attempt can follow only if its process did not end in time.

The program looks at processes only when it executes a plan, and if it ends well then, the last process of
every task has ended with status zero.

## Contents
- **`Call.Orders`** with `commandRunner_cases`: the two ways that an attempt can go.
- `commandRunner_congr`, `commandRunner_isPause`, `commandRunner_sparesPool`.
- **`commandRunner_succeeds_iff`** and **`commandRunner_retryable_iff`**: how attempts end.
- **`Workflow.Carried`** and `carried_of_success`: what an execution with success has done.
- **`launch_starts_nothing`** and **`launch_carries_out`**: what the program does with its surroundings.
-/

namespace Foreman

variable {processes other : Processes} {before : List Call} {c : Call} {o : Order} {task : TaskId}
  {processEnd : ProcessEnd}

/-! ## Orders -/

/-- An attempt orders a command: its payload has one, and it can be handed to a process. -/
def Call.Orders (c : Call) (o : Order) : Prop :=
  Order.ofPayload c.task c.payload = .ok o ∧ o.isPossible c = true

/-- There is at most one command that an attempt orders. -/
theorem Call.Orders.eq {o' : Order} (h : c.Orders o) (h' : c.Orders o') : o = o' :=
  Except.ok.inj (h.1.symm.trans h'.1)

theorem isRetryable_of_ofPayload {payload : Value} {e : TaskError}
    (h : Order.ofPayload task payload = .error e) : e.isRetryable = false := by
  unfold Order.ofPayload at h
  split at h
  · cases h
  · cases h
    rfl

/-- **The two ways that an attempt can go.** If it orders a command, it takes as long as the process and
    ends as the process does. Otherwise it fails at once, whatever the processes are, with an error that
    no further attempt mends. -/
theorem commandRunner_cases (c : Call) :
    (∃ o, c.Orders o ∧ ∀ processes before, commandRunner processes before c =
      { course := [.pause (processes before c o).2]
        ending := (processes before c o).1.ending c.task o }) ∨
    ((∀ o, ¬ c.Orders o) ∧ ∃ e : TaskError, e.isRetryable = false ∧
      ∀ processes before, commandRunner processes before c = { course := [], ending := .fail e }) := by
  unfold commandRunner
  cases hpayload : Order.ofPayload c.task c.payload with
  | error e =>
      refine .inr ⟨fun o ho => ?_, e, isRetryable_of_ofPayload hpayload, fun _ _ => rfl⟩
      cases hpayload.symm.trans ho.1
  | ok o =>
      by_cases hpossible : o.isPossible c = true
      · exact .inl ⟨o, ⟨hpayload, hpossible⟩, fun _ _ => if_pos hpossible⟩
      · refine .inr ⟨fun o' ho => ?_, _, rfl, fun _ _ => if_neg hpossible⟩
        cases hpayload.symm.trans ho.1
        exact hpossible ho.2

/-- **Commands are told by their processes**: runners whose processes agree on all orders are the same
    runner. -/
theorem commandRunner_congr (h : ∀ before c o, c.Orders o → processes before c o = other before c o) :
    commandRunner processes = commandRunner other := by
  funext before c
  obtain ⟨o, ho, hruns⟩ | ⟨-, e, -, hfails⟩ := commandRunner_cases c
  · rw [hruns processes, hruns other, h before c o ho]
  · rw [hfails processes, hfails other]

/-! ## The course of an attempt -/

/-- An attempt of a command does nothing to the surroundings of its execution but take time. -/
theorem commandRunner_isPause (processes : Processes) (before : List Call) (c : Call) :
    ∀ activity ∈ (commandRunner processes before c).course, activity.IsPause := by
  intro activity hactivity
  obtain ⟨o, -, hruns⟩ | ⟨-, e, -, hfails⟩ := commandRunner_cases c
  · rw [hruns] at hactivity
    obtain rfl := List.mem_singleton.mp hactivity
    trivial
  · rw [hfails] at hactivity
    cases hactivity

theorem Activity.IsPause.sparesPool {activity : Activity} (h : activity.IsPause) :
    activity.SparesPool := by
  cases activity with
  | pause length => trivial
  | act action => cases h

/-- **Commands leave the pool alone.** -/
theorem commandRunner_sparesPool (processes : Processes) : (commandRunner processes).SparesPool :=
  fun before c activity hactivity =>
    (commandRunner_isPause processes before c activity hactivity).sparesPool

/-! ## The end of an attempt -/

/-- A command that ended succeeds if its status is zero; otherwise it fails for good. -/
theorem CommandExit.concluded_cases (exit : CommandExit) :
    (exit.status = some 0 ∧ ∃ output, exit.concluded = .succeed output) ∨
      (exit.status ≠ some 0 ∧ ∃ text, exit.concluded = .fail (.agentFailure text)) := by
  unfold concluded
  split
  · next hzero => exact .inl ⟨hzero, _, rfl⟩
  · next hother => exact .inr ⟨hother, _, rfl⟩

theorem ProcessEnd.ending_succeeds_iff :
    (∃ output, processEnd.ending task o = .succeed output) ↔
      ∃ exit, processEnd = .exited exit ∧ exit.status = some 0 := by
  cases processEnd with
  | exited exit =>
      obtain ⟨hzero, output, hend⟩ | ⟨hother, text, hend⟩ := exit.concluded_cases
      · exact ⟨fun _ => ⟨exit, rfl, hzero⟩, fun _ => ⟨output, hend⟩⟩
      · refine ⟨fun ⟨_, hsucceed⟩ => ?_, fun ⟨_, heq, hzero⟩ => ?_⟩
        · cases hend.symm.trans hsucceed
        · cases heq
          exact absurd hzero hother
  | _ => exact ⟨nofun, nofun⟩

theorem ProcessEnd.ending_retryable_iff :
    (∃ e, processEnd.ending task o = .fail e ∧ e.isRetryable = true) ↔ processEnd = .late := by
  cases processEnd with
  | late => exact ⟨fun _ => rfl, fun _ => ⟨_, rfl, rfl⟩⟩
  | exited exit =>
      refine ⟨fun ⟨e, hfail, hretry⟩ => ?_, nofun⟩
      obtain ⟨-, output, hend⟩ | ⟨-, text, hend⟩ := exit.concluded_cases
      · cases hend.symm.trans hfail
      · cases hend.symm.trans hfail
        cases hretry
  | _ =>
      refine ⟨fun ⟨e, hfail, hretry⟩ => ?_, nofun⟩
      cases hfail
      cases hretry

/-- **An attempt of a command succeeds** exactly if it orders a command whose process ends with status
    zero. -/
theorem commandRunner_succeeds_iff :
    (∃ output, (commandRunner processes before c).ending = .succeed output) ↔
      ∃ o exit, c.Orders o ∧ (processes before c o).1 = .exited exit ∧ exit.status = some 0 := by
  obtain ⟨o, ho, hruns⟩ | ⟨hno, e, -, hfails⟩ := commandRunner_cases c
  · rw [hruns, ProcessEnd.ending_succeeds_iff]
    constructor
    · rintro ⟨exit, hexit, hzero⟩
      exact ⟨o, exit, ho, hexit, hzero⟩
    · rintro ⟨o', exit, ho', hexit, hzero⟩
      cases ho.eq ho'
      exact ⟨exit, hexit, hzero⟩
  · rw [hfails]
    exact ⟨nofun, fun ⟨o, _, ho, _⟩ => absurd ho (hno o)⟩

/-- **Another attempt of a command can follow** exactly if the command did not end in time. -/
theorem commandRunner_retryable_iff :
    (∃ e, (commandRunner processes before c).ending = .fail e ∧ e.isRetryable = true) ↔
      ∃ o, c.Orders o ∧ (processes before c o).1 = .late := by
  obtain ⟨o, ho, hruns⟩ | ⟨hno, e, hlasting, hfails⟩ := commandRunner_cases c
  · rw [hruns, ProcessEnd.ending_retryable_iff]
    constructor
    · intro hlate
      exact ⟨o, ho, hlate⟩
    · rintro ⟨o', ho', hlate⟩
      cases ho.eq ho'
      exact hlate
  · rw [hfails]
    refine ⟨fun ⟨e', hfail, hretry⟩ => ?_, fun ⟨o, ho, _⟩ => absurd ho (hno o)⟩
    cases hfail
    cases hlasting.symm.trans hretry

/-! ## Executions of commands -/

/-- **The commands of a workflow have been carried out**: for every task, a process was started whose
    command ended with status zero. All attempts are given, the latest first. -/
def Workflow.Carried (w : Workflow) (processes : Processes) (calls : List Call) : Prop :=
  ∀ t ∈ w.taskIds, ∃ before call o exit, call :: before <:+ calls ∧ call.task = t ∧ call.Orders o ∧
    (processes before call o).1 = .exited exit ∧ exit.status = some 0

/-- What the runner has chosen for an attempt depends on the attempts before it. -/
theorem exists_suffix_of_mem_attemptsOf {runner : Runner} {first made : List Call} {a : Attempt}
    (h : a ∈ attemptsOf runner first made task) : a.call.task = task ∧
      ∃ before, a.call :: before <:+ made ++ first ∧ a.behaviour = runner before a.call := by
  induction made with
  | nil => cases h
  | cons call earlier ih =>
      have hearlier : a ∈ attemptsOf runner first earlier task → a.call.task = task ∧
          ∃ before, a.call :: before <:+ call :: earlier ++ first ∧
            a.behaviour = runner before a.call := fun ha => by
        obtain ⟨htask, before, hsuffix, hchosen⟩ := ih ha
        exact ⟨htask, before, hsuffix.trans (List.suffix_cons _ _), hchosen⟩
      by_cases htask : call.task = task
      · rw [attemptsOf_cons_self htask] at h
        rcases List.mem_append.mp h with h | h
        · exact hearlier h
        · obtain rfl := List.mem_singleton.mp h
          exact ⟨htask, earlier ++ first, List.suffix_refl _, rfl⟩
      · rw [attemptsOf_cons_of_ne htask] at h
        exact hearlier h

/-- A success is the success of an attempt. -/
theorem Attempted.exists_success {most : Nat} {as : List Attempt} {r : TaskResult}
    (h : Attempted most as r) (hsuccess : r.report.outcome = .success) :
    ∃ a ∈ as, ∃ output, a.behaviour.ending = .succeed output := by
  have hpos : 0 < r.attempts := by
    by_contra hnone
    -- without an attempt there is an error
    obtain ⟨-, _, hreport⟩ | ⟨-, _, hreport⟩ := h.unattempted (Nat.eq_zero_of_not_pos hnone)
    · rw [hreport] at hsuccess
      cases hsuccess
    · rw [hreport] at hsuccess
      cases hsuccess
  have hnumber : r.attempts ∈ as.map fun a => a.call.attempt := by
    rw [h.numbers, List.mem_range'_1]
    omega
  obtain ⟨a, ha, hlast⟩ := List.mem_map.mp hnumber
  refine ⟨a, ha, ?_⟩
  rw [h.report a ha hlast] at hsuccess
  unfold Attempt.answer at hsuccess
  cases hending : a.behaviour.ending with
  | succeed output => exact ⟨output, rfl⟩
  | fail e =>
      rw [hending] at hsuccess
      cases e <;> cases hsuccess
  | panic text =>
      rw [hending] at hsuccess
      cases hsuccess

variable {w : Workflow} {config : ExecutorConfig} {fuel : Nat} {schedule : Schedule} {pool : Pool}
  {x : Execution}

/-- **An execution with success has carried out all commands.** -/
theorem carried_of_success (hplan : w.plan pool = .ok schedule)
    (hx : (commandEngine config processes).execute fuel w schedule { pool } = some x)
    (hsuccess : x.result.success = true) : w.Carried processes x.world.calls := by
  have hplanned : w.plan ({ pool } : World).pool = .ok schedule := hplan
  have hfinal := Engine.finalState_of_execute hplanned hx
  intro t ht
  have hcompleted := hfinal.success.mp hsuccess t ht
  obtain ⟨r, hr, hverdict⟩ := hfinal.exists_result hcompleted (Or.inl rfl)
  -- its memory service has no faults, so results tell of all attempts
  obtain ⟨past, m, -, rfl, hcalls⟩ :=
    Engine.exists_passage_of_execute (layered_of_plan hplan).nodup hx fun _ ⟨_, _, _, _, h⟩ => nomatch h
  obtain ⟨a, ha, output, hending⟩ :=
    (hcalls.attempted t r hr).exists_success (r.verdict_eq_iff.1.mp hverdict)
  obtain ⟨htask, before, hsuffix, hchosen⟩ := exists_suffix_of_mem_attemptsOf ha
  rw [hchosen] at hending
  obtain ⟨o, exit, horders, hexit, hzero⟩ := commandRunner_succeeds_iff.mp ⟨output, hending⟩
  refine ⟨before, a.call, o, exit, ?_, htask, horders, hexit, hzero⟩
  show a.call :: before <:+ m.world.calls
  rw [hcalls.calls]
  exact hsuffix

/-! ## The program -/

/-- **A program that only draws or plans starts no process**: what it prints and how it ends is the same
    among any processes. -/
theorem launch_starts_nothing (a : Arguments) (host : Host) (h : a.dot = true ∨ a.dryRun = true)
    (processes : (Processes → Option Execution) → Processes) (seconds : RunResult → String) :
    launch a { host with processes, seconds } = launch a host := by
  unfold launch
  cases WorkflowFile.load host.contents with
  | error e => rfl
  | ok f =>
      by_cases hdot : a.dot = true
      · simp only [if_pos hdot]
      · have hdry : a.dryRun = true := h.resolve_left hdot
        simp only [if_neg hdot, planAndRun, if_pos hdry]

theorem eq_of_checked {result result' : RunResult} (h : result.checked = .ok result') :
    result' = result := by
  unfold RunResult.checked at h
  split at h
  · exact (Except.ok.inj h).symm
  · cases h

/-- A plan whose execution is reported without an error has been carried out. -/
theorem runAndReport_carries_out {host : Host} (hplan : w.plan pool = .ok schedule)
    (h : (runAndReport host w schedule config pool).error = none) :
    ∃ execute calls, w.Carried (host.processes execute) calls := by
  unfold runAndReport at h
  split at h
  · cases h
  · cases h
  · next x hexecuted =>
    split at h
    · cases h
    · next result hchecked =>
      obtain rfl := eq_of_checked hchecked
      have hsuccess : x.result.success = true := by
        by_contra hnot
        simp [hnot] at h
      exact ⟨_, _, carried_of_success hplan (Engine.execute_of_runPlan hexecuted) hsuccess⟩

/-- **A program that runs a workflow and ends well has carried out all of its commands**, with processes
    that its surroundings gave it. -/
theorem launch_carries_out (a : Arguments) (host : Host) (hdot : a.dot = false) (hdry : a.dryRun = false)
    (h : (launch a host).error = none) :
    ∃ f execute calls, WorkflowFile.load host.contents = .ok f ∧
      f.toWorkflow.Carried (host.processes execute) calls := by
  unfold launch at h
  split at h
  · cases h
  · next f hload =>
    rw [if_neg (by simp [hdot])] at h
    unfold planAndRun at h
    dsimp only at h
    -- any refusal on the way to the execution would be reported
    split at h
    · cases h
    · split at h
      · cases h
      · split at h
        · cases h
        · cases h
        · next schedule hplan =>
          rw [if_neg (by simp [hdry])] at h
          obtain ⟨execute, calls, hcarried⟩ := runAndReport_carries_out hplan h
          exact ⟨f, execute, calls, hload, hcarried⟩

end Foreman
