import Foreman.Proofs.Run.Course

/-!
# `Foreman.Proofs.Run.DependencySafety` — no task is called before what it waits for is done

The journal of an execution lists calls and landings, the latest first. `DependencySafe` says of a
whole journal that a task is called only after successful landings of everything it waits for, and
that none of those is called again.

The invariant behind it (`Traced`) ties the journal to the statuses: a completed task has landed as a
success, and what has landed has an outcome or a result in the current level. A task that is called is
in flight, hence it has not landed, and the levels before its own, which hold everything it waits for,
are completed.
-/

namespace Foreman

open Machine

variable {w : Workflow} {s : Setup} {m m' : Machine} {levels : List Level} {journal : List Event}
  {schedule : Schedule} {world : World} {t d : TaskId}

/-! ## Safe journals -/

/-- The call that an event notes. -/
def Event.call? : Event → Option Call
  | .called call => some call
  | _ => none

/-- **Dependency safety.** Whenever a task was called, everything it waits for had landed as a
    success before, and was not called after that landing. -/
def DependencySafe (w : Workflow) (journal : List Event) : Prop :=
  ∀ after call before, journal = after ++ .called call :: before →
    ∀ d ∈ w.dependenciesOf call.task,
      ∃ between r earlier, before = between ++ .landed r :: earlier ∧
        r.task = d ∧ r.isSuccess = true ∧
          ∀ c, .called c ∈ after ++ .called call :: between → c.task ≠ d

/-- What a call finds in the journal: everything its task waits for has landed as a success, and the
    task itself has not landed. -/
structure Cleared (w : Workflow) (call : Call) (before : List Event) : Prop where
  waited : ∀ d ∈ w.dependenciesOf call.task,
    ∃ r, .landed r ∈ before ∧ r.task = d ∧ r.isSuccess = true
  unlanded : ∀ r, .landed r ∈ before → r.task ≠ call.task

/-- A journal is safe if every call was cleared. -/
theorem dependencySafe_of_cleared
    (h : ∀ call before, .called call :: before <:+ journal → Cleared w call before) :
    DependencySafe w journal := by
  intro after call before hjournal d hd
  obtain ⟨r, hr, hrd, hsuccess⟩ := (h call before ⟨after, hjournal.symm⟩).waited d hd
  obtain ⟨between, earlier, hbefore⟩ := List.append_of_mem hr
  refine ⟨between, r, earlier, hbefore, hrd, hsuccess, fun c hc => ?_⟩
  obtain ⟨newer, older, hsplit⟩ := List.append_of_mem hc
  -- a later call of `d` would have found this landing in the journal
  have hsuffix : .called c :: (older ++ .landed r :: earlier) <:+ journal := by
    refine ⟨newer, ?_⟩
    calc newer ++ .called c :: (older ++ .landed r :: earlier)
        = (after ++ .called call :: between) ++ .landed r :: earlier := by rw [hsplit]; simp
      _ = journal := by rw [hjournal, hbefore]; simp
  exact fun hcd => (h c _ hsuffix).unlanded r (by simp) (hrd.trans hcd.symm)

/-! ## The journal and the statuses -/

/-- **What the journal says about the execution**; `first` are the calls made before it. -/
structure Traced (w : Workflow) (first : List Call) (m : Machine) : Prop where
  calls : m.world.calls = m.journal.filterMap Event.call? ++ first
  completed : ∀ t, m.workflow.outcomeOf t = some .completed →
    ∃ r, .landed r ∈ m.journal ∧ r.task = t ∧ r.isSuccess = true
  noted : ∀ r ∈ m.landed, .landed r ∈ m.journal
  landings : ∀ r, .landed r ∈ m.journal →
    m.workflow.outcomeOf r.task ≠ none ∨ r.task ∈ m.landed.map TaskResult.task
  cleared : ∀ call before, .called call :: before <:+ m.journal → Cleared w call before

theorem Traced.quiet {first : List Call} (h : Traced w first m) (hq : Quiet m m') :
    Traced w first m' := by
  obtain ⟨_, hjournal, hcalls, hlanded, _, houtcomes⟩ := hq
  refine ⟨?_, fun t ht => ?_, ?_, fun r hr => ?_, ?_⟩
  · rw [hcalls, hjournal, h.calls]
  · rw [houtcomes] at ht
    exact hjournal ▸ h.completed t ht
  · rw [hlanded, hjournal]
    exact h.noted
  · rw [houtcomes, hlanded]
    exact h.landings r (hjournal ▸ hr)
  · rw [hjournal]
    exact h.cleared

/-- The results of a level were noted when they landed. -/
theorem Traced.takes {first : List Call} (h : Traced w first m) (ht : Takes m m') :
    Traced w first m' := by
  obtain ⟨_, hjournal, hcalls, hlanded, htaken, hothers⟩ := ht
  refine ⟨?_, fun t ht => ?_, ?_, fun r hr => Or.inl ?_, ?_⟩
  · rw [hcalls, hjournal, h.calls]
  · rw [hjournal]
    by_cases hmem : t ∈ m.landed.map TaskResult.task
    · obtain ⟨r, hr, rfl⟩ := List.mem_map.mp hmem
      rw [(htaken r hr).2] at ht
      refine ⟨r, h.noted r hr, rfl, ?_⟩
      cases hsuccess : r.isSuccess with
      | true => rfl
      | false => simp [TaskResult.verdict, hsuccess] at ht
    · rw [(hothers t hmem).2] at ht
      exact h.completed t ht
  · simp [hlanded]
  · rw [hjournal] at hr
    by_cases hmem : r.task ∈ m.landed.map TaskResult.task
    · obtain ⟨r', hr', heq⟩ := List.mem_map.mp hmem
      rw [← heq, (htaken r' hr').2]
      exact Option.some_ne_none _
    · rw [(hothers r.task hmem).2]
      exact (h.landings r hr).resolve_right hmem
  · rw [hjournal]
    exact h.cleared

/-- A task in flight may be called: the levels before its own hold all it waits for, and it has not
    landed. -/
theorem Traced.cleared_airborne {first : List Call} {past : List Level} {stage : Stage} {id : Nat}
    {call : Call} (h : Traced w first m) (hvalid : w.WellFormed) (hl : Layered w levels)
    (hduring : During levels past stage m) (hroster : (id, call.task) ∈ stage.roster) :
    Cleared w call m.journal := by
  have hair : call.task ∈ stage.airborne := List.mem_map.mpr ⟨_, hroster, rfl⟩
  have hmem : call.task ∈ stage.level.tasks := hduring.underway.parts.mem_iff.mp (by simp [hair])
  refine ⟨fun d hd => h.completed d ?_, fun r hr heq => ?_⟩
  · have hpast := hl.below _ _ _ hduring.split _ hmem d (hvalid.waitsFor_of_mem hd)
    simp [Workflow.outcomeOf, hduring.done d hpast, TaskStatus.isOutcome]
  · -- a task in flight has no outcome, and no result in its level
    rcases h.landings r hr with houtcome | hlanded
    · have hrunning := hduring.underway.running r.task (List.mem_append_right _ (heq ▸ hair))
      exact houtcome (Workflow.outcomeOf_eq_none hrunning rfl)
    · have hnow : m.landed = stage.landed := by rw [landed, hduring.current]; rfl
      have hnodup := hduring.underway.nodup_parts (hl.apart hduring.split).1
      have hdisj := (List.nodup_append.mp (List.nodup_append.mp hnodup).1).2.2
      rw [hnow] at hlanded
      exact hdisj r.task hlanded r.task (heq ▸ hair) rfl

/-- Events without a call are passed over when looking for calls. -/
theorem called_suffix_of_append {events before : List Event} {call : Call}
    (hnone : ∀ c, .called c ∉ events) (h : .called call :: before <:+ events ++ journal) :
    .called call :: before <:+ journal := by
  induction events with
  | nil => exact h
  | cons e events ih =>
      rcases List.suffix_cons_iff.mp h with heq | h
      · cases heq
        exact absurd (by simp) (hnone call)
      · exact ih (fun c hc => hnone c (List.mem_cons_of_mem e hc)) h

/-- A flight goes on after a call. -/
theorem Traced.called {first : List Call} {stage' : Stage} {call : Call} (h : Traced w first m)
    (hcleared : Cleared w call m.journal) (hlanded : stage'.landed = m.landed)
    (hcalls : world.calls = call :: m.world.calls) :
    Traced w first (m.after world stage' [.called call]) := by
  have hsame : (m.after world stage' [.called call]).landed = m.landed := hlanded
  refine ⟨?_, fun t ht => ?_, fun r hr => ?_, fun r hr => ?_, fun c before hsuffix => ?_⟩
  · show world.calls = _
    rw [hcalls, h.calls]
    rfl
  · obtain ⟨r, hr, hrt⟩ := h.completed t ht
    exact ⟨r, List.mem_cons_of_mem _ hr, hrt⟩
  · exact List.mem_cons_of_mem _ (h.noted r (hsame ▸ hr))
  · rw [hsame]
    exact h.landings r (by simpa [after] using hr)
  · rcases List.suffix_cons_iff.mp hsuffix with heq | hsuffix
    · cases heq
      exact hcleared
    · exact h.cleared c before hsuffix

/-- A flight lands. -/
theorem Traced.lands {first : List Call} {stage' : Stage} {events : List Event} {r : TaskResult}
    (h : Traced w first m) (hlanded : stage'.landed = m.landed ++ [r])
    (hevents : events = [.landed r] ∨ ∃ e, events = [.landed r, .releaseRefused e])
    (hcalls : world.calls = m.world.calls) : Traced w first (m.after world stage' events) := by
  have hsame : (m.after world stage' events).landed = m.landed ++ [r] := hlanded
  have hnocall : ∀ c, .called c ∉ events := by rcases hevents with rfl | ⟨e, rfl⟩ <;> simp
  have hcall? : events.filterMap Event.call? = [] := by rcases hevents with rfl | ⟨e, rfl⟩ <;> rfl
  have hmem : ∀ r', .landed r' ∈ events ↔ r' = r := by rcases hevents with rfl | ⟨e, rfl⟩ <;> simp
  refine ⟨?_, fun t ht => ?_, fun r' hr' => ?_, fun r' hr' => ?_, fun c before hsuffix => ?_⟩
  · show world.calls = (events ++ m.journal).filterMap Event.call? ++ first
    rw [hcalls, h.calls, List.filterMap_append, hcall?, List.nil_append]
  · obtain ⟨r', hr', hrt⟩ := h.completed t ht
    exact ⟨r', List.mem_append_right _ hr', hrt⟩
  · rw [hsame, List.mem_append, List.mem_singleton] at hr'
    rcases hr' with hr' | rfl
    · exact List.mem_append_right _ (h.noted r' hr')
    · exact List.mem_append_left _ ((hmem r').mpr rfl)
  · rw [hsame, List.map_append, List.mem_append]
    rcases List.mem_append.mp hr' with hr' | hr'
    · rw [(hmem r').mp hr']
      exact Or.inr (Or.inr (by simp))
    · exact (h.landings r' hr').imp_right Or.inl
  · exact h.cleared c before (called_suffix_of_append hnocall hsuffix)

theorem Traced.turn {first : List Call} {past : List Level} {stage stage' : Stage} {id : Nat}
    {events : List Event} (h : Traced w first m) (hvalid : w.WellFormed) (hl : Layered w levels)
    (hduring : During levels past stage m)
    (hturn : GoesOn m stage id world stage' events ∨ ∃ r, Lands m stage id world stage' events r) :
    Traced w first (m.after world stage' events) := by
  have hnow : m.landed = stage.landed := by rw [landed, hduring.current]; rfl
  rcases hturn with ⟨_, hlanded, ⟨rfl, hcalls⟩ | ⟨call, hroster, rfl, hcalls⟩⟩ |
    ⟨r, _, _, hlanded, hevents, hcalls⟩
  · exact h.quiet ⟨rfl, rfl, hcalls, hlanded.trans hnow.symm, rfl, fun _ => rfl⟩
  · exact h.called (h.cleared_airborne hvalid hl hduring hroster) (hlanded.trans hnow.symm) hcalls
  · exact h.lands (by rw [hlanded, hnow]) hevents hcalls

/-! ## All along -/

theorem traced_start (hl : Layered w schedule.levels) :
    Traced w world.calls (Machine.start w schedule world) := by
  refine ⟨rfl, fun t ht => ?_, fun _ hr => absurd hr (by simp [start, landed]),
    fun _ hr => absurd hr (by simp [start]), fun _ _ hsuffix => absurd hsuffix (by simp [start])⟩
  have hsound : Sound w schedule.levels (Machine.start w schedule world) := sound_start hl
  cases ht.symm.trans (hsound.books.verdicts t).symm

theorem Traced.move {first : List Call} (h : Traced w first m) (hvalid : w.WellFormed)
    (hl : Layered w levels) (hsound : Sound w levels m) (hm : Move s m m') : Traced w first m' := by
  cases (hsound.effect hl hm).1 with
  | quiet hquiet => exact h.quiet hquiet
  | takes htakes => exact h.takes htakes
  | turn stage id world stage' events hstage heq hturn =>
      obtain ⟨past, hduring⟩ := hsound.standing.exists_during hstage
      rw [heq]
      exact h.turn hvalid hl hduring hturn

theorem traced_of_interleaving (hvalid : w.WellFormed) (hl : Layered w schedule.levels)
    (hm : Interleaving s (Machine.start w schedule world) m) : Traced w world.calls m := by
  have hboth := hm.invariant (P := fun m => Sound w schedule.levels m ∧ Traced w world.calls m)
    ⟨sound_start hl, traced_start hl⟩ fun _ _ h hmove =>
      ⟨h.1.move hl hmove, h.2.move hvalid hl h.1 hmove⟩
  exact hboth.2

/-- A safe journal, with all calls made since the execution began. -/
structure SafelyCalled (w : Workflow) (world : World) (m : Machine) : Prop where
  safe : DependencySafe w m.journal
  all : m.world.calls = m.journal.filterMap Event.call? ++ world.calls

theorem safelyCalled_of_interleaving (hplan : w.plan world.pool = .ok schedule)
    (hm : Interleaving s (Machine.start w schedule world) m) : SafelyCalled w world m := by
  have hvalid := Workflow.wellFormed_of_isValid (isValid_of_plan hplan).1
  have h := traced_of_interleaving hvalid (layered_of_plan hplan) hm
  exact ⟨dependencySafe_of_cleared h.cleared, h.calls⟩

/-- **Dependency safety of execution.** After planning, whatever the pool, the configuration, the
    faults of the memory service and the runner are: in whatever order flights take their turns, and
    whatever happens to pool and memory meanwhile, no task is called before everything it waits for
    has landed as a success, and none of that is called again. The same holds at every moment of an
    execution by steps. -/
theorem Engine.calls_are_dependency_safe (e : Engine) (hplan : w.plan world.pool = .ok schedule) :
    (∀ m, Interleaving (e.setup w schedule) (Machine.start w schedule world) m →
      SafelyCalled w world m) ∧
    ∀ m, Steps (e.setup w schedule) (Machine.start w schedule world) m → SafelyCalled w world m := by
  refine ⟨fun m => safelyCalled_of_interleaving hplan, fun m hm => ?_⟩
  exact safelyCalled_of_interleaving hplan (interleaving_of_steps (orderly_of_stage_none rfl) hm)

/-- The test is called after the build has landed. -/
theorem calls_are_dependency_safe_pipeline :
    ∃ schedule m, pipeline.plan lonePool = .ok schedule ∧
      Machine.run ((engineFailing []).setup pipeline schedule) 30
        (Machine.start pipeline schedule { pool := lonePool }) = some m ∧
      m.world.calls.map Call.task = ["test", "build"] ∧
      SafelyCalled pipeline { pool := lonePool } m := by
  refine ⟨_, _, rfl, rfl, rfl, ?_⟩
  exact (Engine.calls_are_dependency_safe (engineFailing []) rfl).2 _
    (steps_of_run (show Machine.run _ 30 _ = some _ from rfl)).1

end Foreman
