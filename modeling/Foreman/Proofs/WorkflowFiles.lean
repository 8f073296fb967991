import Foreman.Proofs.Budget
import Foreman.Proofs.Numbers
import Foreman.WorkflowFile

/-!
# `Foreman.Proofs.WorkflowFiles` — what an accepted workflow file is good for

The check of a workflow file looks for flaws one by one. `WorkflowFile.WellFormed` says which files have
none, without reference to the search, and `WorkflowFile.Usable` what later stages can rely on: the pool
takes all agents, the executor gets settings that it can run with, and the workflow has each id once,
in ascending order, and no dependencies of undeclared tasks. So of the errors of validation some cannot
occur, and since times in a file are 64-bit seconds, the budget is below the greatest duration and a
valid workflow is scheduled without a sum out of range.

None of that is looked at again downstream. It follows from how the parts are made, each by one pass:
agents registered one by one (`exists_foldlM_register`), and tasks declared one by one (`Declares`).
-/

namespace Foreman

open Workflow

variable {f : WorkflowFile} {w : Workflow} {p : Pool} {agents : List AgentSpec} {t : TaskId}
  {ids : List TaskId} {budget : Duration}

/-! ## The check -/

/-- **A workflow file without flaws.** -/
structure WorkflowFile.WellFormed (f : WorkflowFile) : Prop where
  tasks : f.tasks.keys ≠ []
  /-- The id is not blank. -/
  id : ∃ c ∈ f.workflow.id.toList, isBlank c = false
  time : 1 ≤ f.workflow.timeoutSecs.toNat
  concurrency : 1 ≤ f.maxConcurrency
  /-- The multiplier is finite, and at least one. -/
  multiplier : ∃ q : ℚ, f.retry.multiplier.value? = some q ∧ 1 ≤ q
  delays : f.retry.initialDelayMs ≤ f.retry.maxDelayMs
  /-- No agent is declared twice. -/
  agents : (f.agents.map AgentSpec.id).Nodup
  capacities : ∀ a ∈ f.agents, 1 ≤ a.capacity

namespace WorkflowFile

theorem flawIf_eq_nil_iff {condition : Bool} {flaw : FileFlaw} :
    flawIf condition flaw = [] ↔ condition = false := by
  cases condition <;> simp [flawIf]

theorem agentFlaws_eq_nil_iff {seen : List AgentId} : agentFlaws seen agents = [] ↔
    (agents.map AgentSpec.id).Nodup ∧ ∀ a ∈ agents, a.id ∉ seen ∧ 1 ≤ a.capacity := by
  induction agents generalizing seen with
  | nil => simp [agentFlaws]
  | cons a rest ih =>
      rw [agentFlaws, List.append_eq_nil_iff, List.append_eq_nil_iff, flawIf_eq_nil_iff,
        flawIf_eq_nil_iff, ih, List.map_cons, List.nodup_cons, List.forall_mem_cons]
      have hseen : seen.contains a.id = false ↔ a.id ∉ seen := by simp
      have hcapacity : decide (a.capacity = 0) = false ↔ 1 ≤ a.capacity := by
        rw [decide_eq_false_iff_not, Nat.one_le_iff_ne_zero]
      rw [hseen, hcapacity]
      constructor
      · rintro ⟨⟨ha, hcap⟩, hnodup, hrest⟩
        refine ⟨⟨fun hmem => ?_, hnodup⟩, ⟨ha, hcap⟩, fun b hb => ?_⟩
        · obtain ⟨b, hb, heq⟩ := List.mem_map.mp hmem
          exact (hrest b hb).1 (heq ▸ List.mem_cons_self ..)
        · exact ⟨fun hmem => (hrest b hb).1 (List.mem_cons_of_mem _ hmem), (hrest b hb).2⟩
      · rintro ⟨⟨hnew, hnodup⟩, ha, hrest⟩
        refine ⟨ha, hnodup, fun b hb => ⟨fun hmem => ?_, (hrest b hb).2⟩⟩
        rcases List.mem_cons.mp hmem with heq | hmem
        · exact hnew (heq ▸ List.mem_map_of_mem hb)
        · exact (hrest b hb).1 hmem

/-- The check of the multiplier compares the number that it stands for. -/
theorem multiplierFlaw_eq_false_iff {x : Binary64} : (!x.isFinite || x.lt (.ofNat 1)) = false ↔
    ∃ q : ℚ, x.value? = some q ∧ 1 ≤ q := by
  rw [Bool.or_eq_false_iff, Bool.not_eq_false', Binary64.isFinite_iff]
  constructor
  · rintro ⟨⟨q, hq⟩, hlt⟩
    refine ⟨q, hq, not_lt.mp fun hless => ?_⟩
    rw [(Binary64.lt_iff hq Binary64.value?_ofNat_one).mpr hless] at hlt
    cases hlt
  · rintro ⟨q, hq, hle⟩
    exact ⟨⟨q, hq⟩, Bool.eq_false_iff.mpr fun hlt =>
      not_lt.mpr hle ((Binary64.lt_iff hq Binary64.value?_ofNat_one).mp hlt)⟩

theorem check_eq_ok_iff_wellFormed : f.check = .ok () ↔ f.WellFormed := by
  have htasks : f.tasks.isEmpty = false ↔ f.tasks.keys ≠ [] := by
    rw [NameMap.isEmpty, List.isEmpty_eq_false_iff, NameMap.keys, ne_eq, ne_eq, List.map_eq_nil_iff]
  have hid : f.workflow.id.toList.all isBlank = false ↔
      ∃ c ∈ f.workflow.id.toList, isBlank c = false := by
    simp
  have htime : decide (f.workflow.timeoutSecs = 0) = false ↔ 1 ≤ f.workflow.timeoutSecs.toNat := by
    rw [decide_eq_false_iff_not, Nat.one_le_iff_ne_zero, ne_eq, ← UInt64.toNat_inj, UInt64.toNat_zero]
  have hconcurrency : decide (f.maxConcurrency = 0) = false ↔ 1 ≤ f.maxConcurrency := by
    rw [decide_eq_false_iff_not, Nat.one_le_iff_ne_zero]
  have hdelays : decide (f.retry.maxDelayMs < f.retry.initialDelayMs) = false ↔
      f.retry.initialDelayMs ≤ f.retry.maxDelayMs := by
    rw [decide_eq_false_iff_not, UInt64.not_lt]
  have hagents : agentFlaws [] f.agents = [] ↔
      (f.agents.map AgentSpec.id).Nodup ∧ ∀ a ∈ f.agents, 1 ≤ a.capacity := by
    simp [agentFlaws_eq_nil_iff]
  simp only [check_eq_ok_iff, flaws, List.append_eq_nil_iff, flawIf_eq_nil_iff, htasks, hid, htime,
    hconcurrency, multiplierFlaw_eq_false_iff, hdelays, hagents]
  constructor
  · rintro ⟨⟨⟨⟨⟨⟨h₁, h₂⟩, h₃⟩, h₄⟩, h₅⟩, h₆⟩, h₇, h₈⟩
    exact ⟨h₁, h₂, h₃, h₄, h₅, h₆, h₇, h₈⟩
  · rintro ⟨h₁, h₂, h₃, h₄, h₅, h₆, h₇, h₈⟩
    exact ⟨⟨⟨⟨⟨⟨h₁, h₂⟩, h₃⟩, h₄⟩, h₅⟩, h₆⟩, h₇, h₈⟩

end WorkflowFile

/-! ## Agents -/

/-- **Agents with ids of their own are all registered**, and idle. -/
theorem exists_foldlM_register (hnodup : (agents.map AgentSpec.id).Nodup)
    (hnew : ∀ a ∈ agents, p.agents.find? a.id = none) :
    ∃ q, agents.foldlM Pool.register p = .ok q ∧ ∀ id agent, q.agents.find? id = some agent ↔
      p.agents.find? id = some agent ∨ ∃ a ∈ agents, a.id = id ∧ agent = { spec := a } := by
  induction agents generalizing p with
  | nil => exact ⟨p, rfl, fun _ _ => by simp⟩
  | cons a rest ih =>
      rw [List.map_cons, List.nodup_cons] at hnodup
      obtain ⟨hnone, hrest⟩ := List.forall_mem_cons.mp hnew
      have hunknown : p.agents.contains a.id = false := by rw [NameMap.contains, hnone, Option.isSome_none]
      obtain ⟨p', hp', hfind⟩ : ∃ p', p.register a = .ok p' ∧
          ∀ id, p'.agents.find? id = if id = a.id then some { spec := a } else p.agents.find? id := by
        refine ⟨_, by rw [Pool.register, hunknown]; rfl, fun id => ?_⟩
        exact NameMap.find?_insert ..
      have hnew' : ∀ b ∈ rest, p'.agents.find? b.id = none := by
        intro b hb
        have hne : b.id ≠ a.id := fun heq => hnodup.1 (heq ▸ List.mem_map_of_mem hb)
        rw [hfind, if_neg hne]
        exact hrest b hb
      obtain ⟨q, hq, hagents⟩ := ih hnodup.2 hnew'
      refine ⟨q, by rw [List.foldlM_cons, hp']; exact hq, fun id agent => ?_⟩
      rw [hagents, hfind, List.exists_mem_cons_iff, ← or_assoc]
      refine or_congr ?_ Iff.rfl
      by_cases hid : id = a.id
      · subst hid
        simp [hnone, eq_comm]
      · simp [hid, Ne.symm hid]

/-! ## The workflow of a file -/

/-- **What declaring tasks one by one comes to**: a workflow with the ids in that order, and with no
    dependencies of others. -/
structure Declares (ids : List TaskId) (budget : Duration) (w : Workflow) : Prop where
  taskIds : w.taskIds = ids
  keys : ∀ t ∈ w.dependencies.keys, t ∈ ids
  timeout : w.metadata.timeout = budget

theorem Declares.addTask (h : Declares ids budget w) (k : Task) (after : List TaskId) :
    Declares (ids ++ [k.id]) budget (w.addTask k after) := by
  refine ⟨by rw [taskIds_addTask, h.taskIds], fun t ht => ?_, by rw [metadata_addTask, h.timeout]⟩
  rcases mem_keys_of_addTask ht with rfl | ht
  · simp
  · exact List.mem_append_left _ (h.keys t ht)

theorem declares_toWorkflow (f : WorkflowFile) :
    Declares f.tasks.keys (.ofSecs f.workflow.timeoutSecs.toNat) f.toWorkflow := by
  have key : ∀ budget (entries : List (TaskId × TaskSection)) (ids : List TaskId) (w : Workflow),
      Declares ids budget w → Declares (ids ++ entries.map Prod.fst) budget (entries.foldl
        (fun w e => w.addTask (WorkflowFile.toTask e.1 e.2) e.2.after) w) := by
    intro budget entries
    induction entries with
    | nil => exact fun ids w h => by simpa using h
    | cons e entries ih =>
        intro ids w h
        have hstep := ih _ _ (h.addTask (WorkflowFile.toTask e.1 e.2) e.2.after)
        rw [List.append_assoc] at hstep
        exact hstep
  refine key _ f.tasks.entries [] _ ⟨rfl, fun t ht => ?_, rfl⟩
  cases ht

/-- Times in a file are below the greatest duration. -/
theorem ofSecs_toNat_ne_max (secs : UInt64) : Duration.ofSecs secs.toNat ≠ .max := by
  have hlt : secs.toNat < 2 ^ 64 := secs.toNat_lt
  have hexact : (Duration.ofSecs secs.toNat).nanos = secs.toNat * nanosPerSec :=
    Nat.min_eq_left (by unfold maxNanos nanosPerSec; omega)
  intro h
  have hnanos : secs.toNat * nanosPerSec = maxNanos := hexact.symm.trans (congrArg Duration.nanos h)
  unfold maxNanos nanosPerSec at hnanos
  omega

theorem ofMillis_le_ofMillis {m n : Nat} (h : m ≤ n) : Duration.ofMillis m ≤ .ofMillis n := by
  have hle : m * 1000000 ≤ n * 1000000 := Nat.mul_le_mul_right _ h
  exact Nat.le_min.mpr ⟨Nat.le_trans (Nat.min_le_left ..) hle, Nat.min_le_right ..⟩

/-! ## What can be relied on -/

/-- **What later stages can rely on** if a workflow file was accepted. -/
structure WorkflowFile.Usable (f : WorkflowFile) : Prop where
  /-- The pool registers just the agents of the file, and all of them are idle. -/
  pool : ∃ p, Pool.ofSpecs f.agents = .ok p ∧ ∀ id agent, p.agents.find? id = some agent ↔
    ∃ a ∈ f.agents, a.id = id ∧ agent = { spec := a }
  concurrency : 1 ≤ f.executorConfig.maxConcurrency
  delays : f.executorConfig.retry.initialDelay ≤ f.executorConfig.retry.maxDelay
  distinct : f.toWorkflow.taskIds.Nodup
  ascending : f.toWorkflow.taskIds.Pairwise (· < ·)
  /-- Only declared tasks wait for others. -/
  keys : ∀ t ∈ f.toWorkflow.dependencies.keys, t ∈ f.toWorkflow.taskIds
  noDuplicates : ∀ t, .duplicateTask t ∉ f.toWorkflow.validationErrors
  noUnknowns : ∀ t, .unknownTask t ∉ f.toWorkflow.validationErrors
  /-- No sum of durations leaves its range when a valid workflow is scheduled. -/
  sums : f.toWorkflow.isValid = true → ∀ p sum, f.toWorkflow.schedule p ≠ .error (.overflow sum)

theorem WorkflowFile.WellFormed.usable (h : f.WellFormed) : f.Usable := by
  have hw := declares_toWorkflow f
  have hdistinct : f.toWorkflow.taskIds.Nodup := hw.taskIds ▸ f.tasks.nodup_keys
  refine ⟨?_, h.concurrency, ofMillis_le_ofMillis (UInt64.le_iff_toNat_le.mp h.delays), hdistinct,
    hw.taskIds ▸ f.tasks.ascending, hw.taskIds ▸ hw.keys, fun t ht => ?_, fun t ht => ?_,
    fun hvalid p => ?_⟩
  · obtain ⟨p, hp, hagents⟩ := exists_foldlM_register (p := .empty) h.agents fun a _ => rfl
    exact ⟨p, hp, fun id agent => (hagents id agent).trans (or_iff_right nofun)⟩
  · have hrepeated := mem_validationErrors_duplicateTask.mp ht
    rw [repeatedIds_of_nodup hdistinct] at hrepeated
    cases hrepeated
  · obtain ⟨hkey, hunknown⟩ := mem_validationErrors_unknownTask.mp ht
    exact hunknown (hw.taskIds ▸ hw.keys t hkey)
  · have hvalid := wellFormed_of_isValid hvalid
    exact schedule_of_weightsFit hvalid.acyclic
      (hvalid.weightsFit (hw.timeout ▸ ofSecs_toNat_ne_max f.workflow.timeoutSecs)) p

/-- **Accepted workflow files are well-formed downstream.** The check accepts just the files without
    flaws, and then later stages can rely on what they do not check again. -/
theorem check_accepts_usable_files (f : WorkflowFile) :
    (f.check = .ok () ↔ f.WellFormed) ∧ (f.check = .ok () → f.Usable) :=
  ⟨WorkflowFile.check_eq_ok_iff_wellFormed, fun h =>
    (WorkflowFile.check_eq_ok_iff_wellFormed.mp h).usable⟩

/-- A file with one agent, in which a test is declared before the build that it waits for. -/
def buildAndTest : WorkflowFile :=
  { agents := [{ id := "ada", capabilities := .ofList ["rust"] }]
    tasks := .ofList [("test", { capabilities := ["rust"], durationSecs := 60, after := ["build"] }),
      ("build", { capabilities := ["rust"], durationSecs := 300 })] }

theorem check_accepts_usable_files_buildAndTest : buildAndTest.check = .ok () ∧
    buildAndTest.WellFormed ∧ buildAndTest.Usable ∧ buildAndTest.toWorkflow.isValid = true ∧
      buildAndTest.toWorkflow.taskIds = ["build", "test"] := by
  have hcheck : buildAndTest.check = .ok () := by decide +kernel
  obtain ⟨hiff, husable⟩ := check_accepts_usable_files buildAndTest
  exact ⟨hcheck, hiff.mp hcheck, husable hcheck, by decide +kernel, by decide +kernel⟩

end Foreman
