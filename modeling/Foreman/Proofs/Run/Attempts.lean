import Foreman.Proofs.Run.CutOffs

/-!
# `Foreman.Proofs.Run.Attempts` — the attempts of a task

A flight makes its attempts one by one: they are numbered from one, all have its agent and its session,
and each starts after the one before has ended (`InRow`). None but the last one decides, and there are no
more than allowed (`Inconclusive`, `Latest`). In every phase a flight accounts for the attempts of its
task so far (`Phase.Accounts`), and when it lands, its result tells of them (`Told`). Both follow from
what one activity of a flight does (`Flight.tells_resume`).

A panic of the memory service may cut off the bookkeeping of a flight, before its first attempt or after
its last one, and then its result tells nothing of the attempts.

## Contents
- **`Attempt`**, and `attemptsOf`: the attempts of a task among the calls of the runner.
- **`InRow`**, `Inconclusive`, `Latest` and `Decided`; `Upshot.Sums`, **`Phase.Accounts`**, **`Told`** and
  `Next.Tells`.
- **`Flight.tells_resume`** for one activity.
-/

namespace Foreman

variable {s : Setup} {f : Flight} {w : World} {e : Engagement} {runner : Runner}
  {first made : List Call} {call : Call} {t : TaskId} {most now due : Nat}

/-! ## Attempts -/

/-- How long an activity takes. -/
def Activity.millis : Activity → Nat
  | .pause length => length.sleepMillis
  | .act _ => 0

/-- One attempt: the call of the runner, and what the runner chose to do. -/
structure Attempt where
  call : Call
  behaviour : Behaviour

namespace Attempt

variable {a : Attempt}

/-- What an attempt answers; a panic of the runner is an error of the system. -/
def answer (a : Attempt) : Except TaskError Output := Flight.answerOf a.behaviour.ending

/-- When an attempt ends, at the earliest. -/
def endsAt (a : Attempt) : Nat := a.call.startedAt + sumOf Activity.millis a.behaviour.course

/-- Whether no other attempt may follow: it succeeded, panicked, or failed with an error that is not
    transient. -/
def isFinal (a : Attempt) : Bool :=
  match a.behaviour.ending with
  | .succeed _ | .panic _ => true
  | .fail e => !e.isRetryable

theorem isFinal_of_ok {output : Output} (h : a.answer = .ok output) : a.isFinal = true := by
  unfold answer at h
  unfold isFinal
  cases hending : a.behaviour.ending with
  | succeed output' => rfl
  | panic text => rfl
  | fail e =>
      rw [hending] at h
      cases h

theorem isFinal_of_error {error : TaskError} (h : a.answer = .error error) :
    a.isFinal = !error.isRetryable := by
  unfold answer at h
  unfold isFinal
  cases hending : a.behaviour.ending with
  | succeed output => rw [hending] at h; cases h
  | panic text | fail e =>
      rw [hending] at h
      cases h
      rfl

theorem startedAt_le_endsAt (a : Attempt) : a.call.startedAt ≤ a.endsAt := Nat.le_add_right _ _

end Attempt

variable {as before : List Attempt} {a : Attempt}

/-- The attempts made after some first calls, as they followed each other. All calls are given with the
    latest first, as a runner sees them. -/
def attemptsAmong (runner : Runner) (first : List Call) : List Call → List Attempt
  | [] => []
  | call :: earlier => attemptsAmong runner first earlier ++ [⟨call, runner (earlier ++ first) call⟩]

/-- The attempts of a task. -/
def attemptsOf (runner : Runner) (first made : List Call) (t : TaskId) : List Attempt :=
  (attemptsAmong runner first made).filter fun a => decide (a.call.task = t)

theorem attemptsOf_cons_self (h : call.task = t) : attemptsOf runner first (call :: made) t =
    attemptsOf runner first made t ++ [⟨call, runner (made ++ first) call⟩] := by
  simp [attemptsOf, attemptsAmong, h]

theorem attemptsOf_cons_of_ne (h : call.task ≠ t) :
    attemptsOf runner first (call :: made) t = attemptsOf runner first made t := by
  simp [attemptsOf, attemptsAmong, h]

theorem map_call_attemptsAmong (runner : Runner) (first made : List Call) :
    (attemptsAmong runner first made).map Attempt.call = made.reverse := by
  induction made with
  | nil => rfl
  | cons call earlier ih => simp [attemptsAmong, ih]

/-- An attempt of a task is a call of its runner. -/
theorem mem_of_mem_attemptsOf (h : a ∈ attemptsOf runner first made t) :
    a.call ∈ made ∧ a.call.task = t := by
  obtain ⟨ha, htask⟩ := List.mem_filter.mp h
  have hcall := List.mem_map_of_mem (f := Attempt.call) ha
  rw [map_call_attemptsAmong, List.mem_reverse] at hcall
  exact ⟨hcall, of_decide_eq_true htask⟩

theorem attemptsOf_eq_nil (h : ∀ call ∈ made, call.task ≠ t) : attemptsOf runner first made t = [] := by
  refine List.eq_nil_iff_forall_not_mem.mpr fun a ha => ?_
  obtain ⟨hcall, htask⟩ := mem_of_mem_attemptsOf ha
  exact h _ hcall htask

/-- There is an attempt of a task for each call. -/
theorem length_attemptsOf (runner : Runner) (first made : List Call) (t : TaskId) :
    (attemptsOf runner first made t).length = made.countP fun call => decide (call.task = t) := by
  induction made with
  | nil => rfl
  | cons call earlier ih =>
      by_cases htask : call.task = t
      · rw [attemptsOf_cons_self htask, List.length_append, ih,
          List.countP_cons_of_pos (by simpa using htask)]
        rfl
      · rw [attemptsOf_cons_of_ne htask, ih, List.countP_cons_of_neg (by simpa using htask)]

/-! ## Attempts in a row -/

/-- **Attempts in a row**, with one agent and in one session. -/
structure InRow (e : Engagement) (as : List Attempt) : Prop where
  numbers : as.map (fun a => a.call.attempt) = List.range' 1 as.length
  engaged : ∀ a ∈ as, a.call.agent = e.agent ∧ a.call.session = e.session
  apart : as.Pairwise fun a b => a.endsAt ≤ b.call.startedAt

/-- **Attempts that have ended by some time** and have decided nothing, while another one is allowed. -/
structure Inconclusive (most due : Nat) (e : Engagement) (as : List Attempt) : Prop where
  inRow : InRow e as
  left : as.length < most
  unfinal : ∀ a ∈ as, a.isFinal = false
  ended : ∀ a ∈ as, a.endsAt ≤ due

/-- **The latest attempt**, after others that have decided nothing. -/
structure Latest (most : Nat) (e : Engagement) (before : List Attempt) (a : Attempt) : Prop where
  inRow : InRow e (before ++ [a])
  within : before.length < most
  unfinal : ∀ b ∈ before, b.isFinal = false

theorem InRow.snoc (h : InRow e as) (hnumber : a.call.attempt = as.length + 1)
    (hengaged : a.call.agent = e.agent ∧ a.call.session = e.session)
    (hapart : ∀ b ∈ as, b.endsAt ≤ a.call.startedAt) : InRow e (as ++ [a]) where
  numbers := by
    rw [List.map_append, h.numbers, List.length_append, List.length_singleton, List.range'_concat]
    simp [hnumber, Nat.add_comm]
  engaged b hb := by
    rcases List.mem_append.mp hb with hb | hb
    · exact h.engaged b hb
    · rw [List.mem_singleton.mp hb]
      exact hengaged
  apart := by
    rw [List.pairwise_append]
    refine ⟨h.apart, List.pairwise_singleton _ _, fun b hb c hc => ?_⟩
    rw [List.mem_singleton.mp hc]
    exact hapart b hb

theorem Inconclusive.start (hmost : 0 < most) : Inconclusive most now e [] :=
  ⟨⟨rfl, by simp, List.Pairwise.nil⟩, hmost, by simp, by simp⟩

theorem Inconclusive.mono (h : Inconclusive most now e as) (hle : now ≤ due) :
    Inconclusive most due e as :=
  ⟨h.inRow, h.left, h.unfinal, fun a ha => Nat.le_trans (h.ended a ha) hle⟩

/-- Another attempt is made. -/
theorem Inconclusive.latest (h : Inconclusive most now e as) (hnumber : a.call.attempt = as.length + 1)
    (hengaged : a.call.agent = e.agent ∧ a.call.session = e.session) (hstart : a.call.startedAt = now) :
    Latest most e as a :=
  ⟨h.inRow.snoc hnumber hengaged fun b hb => hstart ▸ h.ended b hb, h.left, h.unfinal⟩

/-- The latest attempt has ended and decided nothing, either. -/
theorem Latest.inconclusive (h : Latest most e before a) (hopen : a.isFinal = false)
    (hleft : before.length + 1 < most) (hend : a.endsAt ≤ now) :
    Inconclusive most now e (before ++ [a]) where
  inRow := h.inRow
  left := by simpa using hleft
  unfinal b hb := by
    rcases List.mem_append.mp hb with hb | hb
    · exact h.unfinal b hb
    · rw [List.mem_singleton.mp hb]
      exact hopen
  ended b hb := by
    rcases List.mem_append.mp hb with hb | hb
    · -- it had ended before the latest one started
      have hapart := (List.pairwise_append.mp h.inRow.apart).2.2 b hb a (List.mem_singleton.mpr rfl)
      exact Nat.le_trans hapart (Nat.le_trans a.startedAt_le_endsAt hend)
    · rw [List.mem_singleton.mp hb]
      exact hend

/-- Attempts up to one that decides, or that is the last one allowed. -/
inductive Decided (most : Nat) (e : Engagement) (a : Attempt) : List Attempt → Prop
  | intro {before : List Attempt} (hlatest : Latest most e before a)
      (hlast : a.isFinal = true ∨ before.length + 1 = most) : Decided most e a (before ++ [a])

/-! ## What flights and results say about attempts -/

/-- **What has come of a task tells of its attempts**: there was no session for it, or the last attempt
    counts. -/
inductive Upshot.Sums (most : Nat) (agent : AgentId) (as : List Attempt) (u : Upshot) : Prop
  | refused {error : MemoryError} (hnone : as = []) (hattempts : u.attempts = 0)
      (hanswer : u.answer = .error (Flight.noSessionError error))
  | decided {e : Engagement} {a : Attempt} (hagent : e.agent = agent) (hdecided : Decided most e a as)
      (hattempts : u.attempts = as.length) (hanswer : u.answer = a.answer)

/-- **A flight accounts for the attempts of its task**, of which at most a number is allowed. It goes on
    at the given time. -/
def Phase.Accounts (most due : Nat) (as : List Attempt) : Phase → Prop
  | .seeking | .claiming _ | .opening _ _ => as = []
  | .calling e attempt _ | .rested e attempt _ =>
    attempt = as.length + 1 ∧ Inconclusive most due e as
  | .working e attempt _ rest ending => ∃ before a, as = before ++ [a] ∧ attempt = before.length + 1 ∧
    Latest most e before a ∧ ending = a.behaviour.ending ∧
      a.endsAt ≤ due + sumOf Activity.millis rest
  | .returned e attempt _ answer => ∃ before a, as = before ++ [a] ∧ attempt = before.length + 1 ∧
    Latest most e before a ∧ answer = a.answer ∧ a.endsAt ≤ due
  | .closing agent _ u => u.Sums most agent as

theorem Phase.Accounts.mono {phase : Phase} (h : phase.Accounts most now as) (hle : now ≤ due) :
    phase.Accounts most due as := by
  cases phase with
  | seeking | claiming agent | opening agent step | closing agent step u => exact h
  | calling e attempt delay | rested e attempt delay => exact ⟨h.1, h.2.mono hle⟩
  | working e attempt delay rest ending =>
      obtain ⟨before, a, has, hattempt, hlatest, hending, hends⟩ := h
      exact ⟨before, a, has, hattempt, hlatest, hending, by omega⟩
  | returned e attempt delay answer =>
      obtain ⟨before, a, has, hattempt, hlatest, hanswer, hends⟩ := h
      exact ⟨before, a, has, hattempt, hlatest, hanswer, Nat.le_trans hends hle⟩

/-- As long as a flight has no agent, there are no attempts. -/
theorem Phase.Accounts.eq_nil {phase : Phase} (h : phase.Accounts most due as)
    (hfree : phase.lease = none) : as = [] := by
  cases phase with
  | seeking | claiming agent => exact h
  | opening agent step | calling e attempt delay | working e attempt delay rest ending
  | returned e attempt delay answer | rested e attempt delay | closing agent step u => cases hfree

theorem TaskResult.attempts_of_report {r : TaskResult} {attempts : Nat}
    {answer : Except TaskError Output} (h : r.report = Report.ofAnswer attempts answer) :
    r.attempts = attempts := by
  have hcount := congrArg Report.attempts h
  cases answer <;> exact hcount

theorem Flight.report_failedResult (job : Job) (error : TaskError) (attempts : Nat)
    (agent : Option AgentId) (duration : Duration) :
    (failedResult job error attempts agent duration).report =
      Report.ofAnswer attempts (.error error) := rfl

/-- **What a result tells of the attempts of its task.** Panics of the memory service outside the runner
    have texts with the property `cut`. -/
inductive Told (s : Setup) (cut : String → Prop) (as : List Attempt) (r : TaskResult) : Prop
  /-- There was no agent for it. -/
  | unserved {requirements : Requirements} (hnone : as = []) (hagent : r.agent = none)
      (hreport : r.report = Report.ofAnswer 0 (.error (noAgentError requirements)))
  /-- There was no session for it. -/
  | refused {error : MemoryError} (hnone : as = []) (hagent : r.agent.isSome = true)
      (hreport : r.report = Report.ofAnswer 0
        (.error (.serviceUnavailable ("could not open workspace: " ++ error.message))))
  /-- Its last attempt counts. -/
  | decided {e : Engagement} {a : Attempt} (hdecided : Decided s.maxAttempts e a as)
      (hagent : r.agent = some e.agent) (hreport : r.report = Report.ofAnswer as.length a.answer)
  /-- Its bookkeeping was cut off, before the first attempt or after the last one. -/
  | cutOff {text : String} (hcut : cut text) (hagent : r.agent = none)
      (hreport : r.report = Report.ofAnswer 0 (.error (.system (panicText "task" text))))
      (hwhen : as = [] ∨ ∃ e a, Decided s.maxAttempts e a as)

/-- **How a flight that goes on accounts for attempts, or what its result tells of them.** -/
def Next.Tells (s : Setup) (cut : String → Prop) (now : Nat) (as : List Attempt) : Next → Prop
  | .atOnce f | .again f => f.phase.Accounts s.maxAttempts now as
  | .sleep due f => f.phase.Accounts s.maxAttempts due as
  | .wait _ f => f.phase = .seeking ∧ as = []
  | .land r _ => Told s cut as r

/-! ## One activity of a flight -/

namespace Flight

variable {cut : String → Prop}

/-- **An attempt goes on**, until it pauses or returns. -/
theorem tells_workOn {attempt : Nat} (hattempt : attempt = before.length + 1)
    (hlatest : Latest s.maxAttempts e before a) (f : Flight) (delay : Duration)
    {course : List Activity} (hends : a.endsAt ≤ now + sumOf Activity.millis course) (w : World) :
    (workOn now f e attempt delay a.behaviour.ending course w).1.Tells s cut now (before ++ [a]) := by
  induction course generalizing w with
  | nil => exact ⟨before, a, rfl, hattempt, hlatest, rfl, hends⟩
  | cons activity rest ih =>
      cases activity with
      | act action =>
          refine ih ?_ _
          simpa [Activity.millis] using hends
      | pause length =>
          rw [sumOf, Activity.millis] at hends
          unfold workOn
          split
          · exact ih (by omega) w
          · exact ⟨before, a, rfl, hattempt, hlatest, rfl, by omega⟩

/-- **A search for an agent.** -/
theorem tells_search {out : Next × World} (hsearches : f.Searches s now w out) :
    out.1.Tells s cut now [] := by
  cases hsearches with
  | leased _ _ | found _ _ _ | lost _ _ => exact rfl
  | busy hphase _ _ _ => exact ⟨hphase, rfl⟩
  | impossible _ _ _ _ => exact .unserved rfl rfl (report_failedResult ..)

/-- **A call of the memory service**, before the first attempt or after the last one. -/
theorem tells_consult {α : Type} {call : MemoryCall} {op : Memory → Except MemoryError (α × Memory)}
    {next : Except MemoryError α → Next} {agent : AgentId}
    (hwhen : as = [] ∨ ∃ e a, Decided s.maxAttempts e a as)
    (hnext : ∀ answer, (next answer).Tells s cut now as)
    (hcut : ∀ text, Panicked s.faults w.memoryCalls
      (f.consult s agent call op next w).2.memoryCalls text → cut text) :
    (f.consult s agent call op next w).1.Tells s cut now as := by
  have hconsulted := consulted s f agent call op next w
  generalize f.consult s agent call op next w = out at hconsulted hcut ⊢
  cases hconsulted with
  | cutOff hfault => exact .cutOff (hcut _ (panicked_called hfault)) rfl rfl hwhen
  | refused _ _ | done _ _ => exact hnext _

/-- **The way to the first attempt.** -/
theorem tells_openUp (hmost : 0 < s.maxAttempts) (agent : AgentId) (step : Opening)
    (hcut : ∀ text, Panicked s.faults w.memoryCalls
      (f.openUp s now agent step w).2.memoryCalls text → cut text) :
    (f.openUp s now agent step w).1.Tells s cut now [] := by
  cases step with
  | record => exact tells_consult (Or.inl rfl) (fun _ => rfl) hcut
  | mark record =>
      cases record with
      | none => exact rfl
      | some record => exact tells_consult (Or.inl rfl) (fun _ => rfl) hcut
  | session record =>
      refine tells_consult (Or.inl rfl) (fun answer => ?_) hcut
      cases answer with
      | ok session => exact ⟨rfl, .start hmost⟩
      | error error => exact .refused rfl rfl rfl

/-- The result of a flight tells of its attempts. -/
theorem told_resultOf {agent : AgentId} {u : Upshot} (h : u.Sums s.maxAttempts agent as) :
    Told s cut as (f.resultOf agent u) := by
  have hagent := agent_resultOf f agent u
  have hreport := report_resultOf f agent u
  cases h with
  | refused hnone hattempts hanswer =>
      rw [hattempts, hanswer] at hreport
      exact .refused hnone (by rw [hagent]; rfl) hreport
  | decided heq hdecided hattempts hanswer =>
      rw [hattempts, hanswer] at hreport
      exact .decided hdecided (by rw [hagent, heq]) hreport

/-- **The way to the end.** -/
theorem tells_closeUp {agent : AgentId} {u : Upshot} (hsums : u.Sums s.maxAttempts agent as)
    (step : Closing) (hcut : ∀ text, Panicked s.faults w.memoryCalls
      (f.closeUp s now agent u step w).2.memoryCalls text → cut text) :
    (f.closeUp s now agent u step w).1.Tells s cut now as := by
  have hwhen : as = [] ∨ ∃ e a, Decided s.maxAttempts e a as := by
    cases hsums with
    | refused hnone _ _ => exact Or.inl hnone
    | decided _ hdecided _ _ => exact Or.inr ⟨_, _, hdecided⟩
  cases step with
  | merge record session => exact tells_consult hwhen (fun _ => hsums) hcut
  | close record session => exact tells_consult hwhen (fun _ => hsums) hcut
  | store record => exact tells_consult hwhen (fun _ => hsums) hcut
  | sign record =>
      cases record with
      | none => exact told_resultOf hsums
      | some record => exact tells_consult hwhen (fun _ => told_resultOf hsums) hcut

/-- **The answer of an attempt**: it counts, or another attempt follows. -/
theorem tells_answer {attempt : Nat} {delay : Duration} {out : Next × World}
    (hattempt : attempt = before.length + 1) (hlatest : Latest s.maxAttempts e before a)
    (hends : a.endsAt ≤ now) (hanswered : f.Answered s now e attempt delay a.answer w out) :
    out.1.Tells s cut now (before ++ [a]) := by
  have hlength : (before ++ [a]).length = before.length + 1 := by simp
  have hwithin := hlatest.within
  cases hanswered with
  | counts hlast =>
      refine .decided rfl (.intro hlatest ?_) (hattempt.trans hlength.symm) rfl
      cases hanswer : a.answer with
      | ok output => exact Or.inl (Attempt.isFinal_of_ok hanswer)
      | error error =>
          rcases RetryPolicy.over_of_giveUp (hlast error hanswer) with hlasting | hover
          · exact Or.inl (by rw [Attempt.isFinal_of_error hanswer, hlasting]; rfl)
          · exact Or.inr (by omega)
  | repeated hanswer hdecide | delayed hanswer hdecide =>
      obtain ⟨htransient, hleft, -⟩ := RetryPolicy.left_of_retryAfter hdecide
      have hopen := hlatest.inconclusive (by rw [Attempt.isFinal_of_error hanswer, htransient]; rfl)
        (hattempt ▸ hleft) hends
      exact ⟨by omega, hopen.mono (by omega)⟩

/-- **One activity of a flight.** It accounts for the attempts of its task before, makes at most one
    more, and accounts for them afterwards, or lands with a result that tells of them. -/
theorem tells_resume (hmost : 0 < s.maxAttempts) (hmade : w.calls = made ++ first)
    (hf : f.phase.Accounts s.maxAttempts now (attemptsOf s.runner first made f.job.task))
    (hcut : ∀ text, Panicked s.faults w.memoryCalls (f.resume s now w).2.memoryCalls text → cut text) :
    ∃ made', (f.resume s now w).2.calls = made' ++ first ∧
      (made' = made ∨ ∃ call : Call, call.task = f.job.task ∧ made' = call :: made) ∧
      (f.resume s now w).1.Tells s cut now (attemptsOf s.runner first made' f.job.task) := by
  have hacts := acts_resume s now f w
  generalize f.resume s now w = out at hacts hcut ⊢
  -- every activity but a call of the runner leaves the attempts as they are
  have hnone (hcalls : out.2.calls = w.calls)
      (htells : out.1.Tells s cut now (attemptsOf s.runner first made f.job.task)) :
      ∃ made', out.2.calls = made' ++ first ∧
        (made' = made ∨ ∃ call : Call, call.task = f.job.task ∧ made' = call :: made) ∧
        out.1.Tells s cut now (attemptsOf s.runner first made' f.job.task) :=
    ⟨made, hcalls.trans hmade, Or.inl rfl, htells⟩
  cases hacts with
  | searches hfree hsearches =>
      obtain ⟨found, h⟩ := hsearches.exists_searched
      refine hnone h.calls ?_
      rw [hf.eq_nil hfree]
      exact tells_search hsearches
  | opens hphase =>
      rw [hphase] at hf
      refine hnone (kept_openUp ..).world.calls ?_
      rw [show attemptsOf s.runner first made f.job.task = [] from hf]
      exact tells_openUp hmost _ _ hcut
  | @calls e attempt delay hphase =>
      rw [hphase] at hf
      let call := f.callOf s now e attempt
      have hlatest := hf.2.latest (a := ⟨call, s.runner (made ++ first) call⟩) hf.1 ⟨rfl, rfl⟩ rfl
      refine ⟨call :: made, ?_, Or.inr ⟨_, rfl, rfl⟩, ?_⟩
      · rw [(staysAtWork_workOn ..).calls, hmade]
        rfl
      · rw [attemptsOf_cons_self (show call.task = f.job.task from rfl), hmade]
        exact tells_workOn hf.1 hlatest f delay (Nat.le_refl _) _
  | works hphase =>
      rw [hphase] at hf
      obtain ⟨before, a, has, hattempt, hlatest, rfl, hends⟩ := hf
      refine hnone (staysAtWork_workOn ..).calls ?_
      rw [has]
      exact tells_workOn hattempt hlatest f _ hends w
  | answered hphase hanswered =>
      rw [hphase] at hf
      obtain ⟨before, a, has, hattempt, hlatest, rfl, hends⟩ := hf
      refine hnone (by rw [hanswered.world_eq]) ?_
      rw [has]
      exact tells_answer hattempt hlatest hends hanswered
  | rests hphase =>
      rw [hphase] at hf
      exact hnone rfl hf
  | closes hphase =>
      rw [hphase] at hf
      exact hnone (kept_closeUp ..).world.calls (tells_closeUp hf _ hcut)

end Flight

end Foreman
