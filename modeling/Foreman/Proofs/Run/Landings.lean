import Foreman.Proofs.Maps
import Foreman.Proofs.Run.StalePlans

/-!
# `Foreman.Proofs.Run.Landings` — the results are the landings

Results are noted in the journal when flights land, and taken into the final result when their level
ends, in the order of the level. Whatever the levels are, as long as they do not repeat a task, nothing
is lost or replaced on the way: when an execution has ended, its results are those of all landings
(`Filed.results_perm`). It does not matter whether the executed workflow is the one that the levels were
made for.

## Contents
- `Machine.landings`: all results so far; `Move.landings_eq_or_turn`.
- `Machine.unfiled`: the tasks whose results are not taken yet.
- **`Filed`**, with one lemma for each kind of move, and `Filed.results_perm`.
-/

namespace Foreman

open Machine

variable {w : Workflow} {s : Setup} {m m' : Machine} {stage stage' : Stage} {level : Level}
  {schedule : Schedule} {world : World} {r : TaskResult} {t : TaskId} {rest : List TaskId}

/-! ## Landings -/

/-- The result of a landing. -/
def Event.result? : Event → Option TaskResult
  | .landed r => some r
  | _ => none

namespace Machine

/-- All results so far, in the order of landing. -/
def landings (m : Machine) : List TaskResult := m.journal.reverse.filterMap Event.result?

theorem landings_append {events : List Event} (h : m'.journal = events ++ m.journal) :
    m'.landings = m.landings ++ events.reverse.filterMap Event.result? := by
  rw [landings, landings, h, List.reverse_append, List.filterMap_append]

/-- Notes about illegal steps are no landings. -/
theorem OnlyRecords.landings_eq (h : OnlyRecords m m') : m'.landings = m.landings := by
  obtain ⟨steps, hjournal⟩ := h.journal
  have hnone : steps.reverse.filterMap (Event.result? ∘ Event.illegalStep) = [] :=
    List.filterMap_eq_nil_iff.mpr fun _ _ => rfl
  rw [landings_append hjournal, ← List.map_reverse, List.filterMap_map, hnone, List.append_nil]

theorem landings_beginLevel (m : Machine) (level : Level) (rest : List Level) :
    (m.beginLevel level rest).landings = m.landings := by
  unfold beginLevel
  split
  · rfl
  · exact (OnlyRecords.cancel level.tasks m).landings_eq

/-- Nobody lands, unless a flight has its turn. -/
theorem Move.landings_eq_or_turn (hm : Move s m m') : m'.landings = m.landings ∨
    ∃ stage id, m.stage = some stage ∧ m' = m.turn s stage id (stage.active.erase id) := by
  cases hm with
  | turn hstage _ => exact Or.inr ⟨_, _, hstage, rfl⟩
  | @begin level rest _ _ => exact Or.inl (landings_beginLevel m level rest)
  | @dispatch stage t rest _ _ _ _ => exact Or.inl (OnlyRecords.dispatchOne s m stage t rest).landings_eq
  | @settle stage _ _ _ => exact Or.inl (OnlyRecords.settle m stage).landings_eq
  | tick _ _ | surroundings _ => exact Or.inl rfl

/-! ## Taking results -/

theorem results_setStatus (m : Machine) (t : TaskId) (a : TaskStatus) :
    (m.setStatus t a).results = m.results := by
  unfold setStatus
  split <;> rfl

/-- Results are taken whatever the statuses are. -/
theorem results_foldl_takeResult (rs : List TaskResult) (m : Machine) :
    (rs.foldl takeResult m).results = collected m.results rs := by
  induction rs generalizing m with
  | nil => rfl
  | cons r rs ih =>
      have htaken : (m.takeResult r).results = m.results.insert r.task r :=
        congrArg (fun results : NameMap TaskResult => results.insert r.task r) (results_setStatus m _ _)
      rw [List.foldl_cons, ih, htaken]
      rfl

theorem levels_settle (m : Machine) (stage : Stage) : (m.settle stage).levels = m.levels := by
  rw [settle_eq]
  exact foldl_keeps Machine.levels levels_takeResult stage.results { m with stage := none }

theorem results_settle (m : Machine) (stage : Stage) :
    (m.settle stage).results = collected m.results stage.results := by
  rw [settle_eq, results_foldl_takeResult]

end Machine

/-- Results of different tasks are all there, once they are collected. -/
theorem values_collected_perm {rs : List TaskResult} (hnodup : (rs.map TaskResult.task).Nodup) :
    (collected ∅ rs).values.Perm rs := by
  have hcollected : collected ∅ rs = .ofList (rs.map fun r => (r.task, r)) := by
    rw [collected, NameMap.ofList, List.foldl_map]
    rfl
  have hkeys : ((rs.map fun r => (r.task, r)).map Prod.fst).Nodup := by
    rwa [List.map_map]
  have hvalues := (NameMap.entries_ofList_perm hkeys).map Prod.snd
  rwa [List.map_map, show Prod.snd ∘ (fun r : TaskResult => (r.task, r)) = id from rfl, List.map_id,
    ← hcollected] at hvalues

/-! ## Results that are not taken yet -/

/-- The tasks of the level under way and of all later ones. -/
def Machine.unfiled (m : Machine) : List TaskId :=
  (m.stage.map fun stage => stage.landedTasks ++ stage.airborne ++ stage.waiting).getD [] ++
    tasksOf m.levels

theorem Machine.unfiled_of_stage (hstage : m.stage = some stage) : m.unfiled =
    stage.landedTasks ++ stage.airborne ++ stage.waiting ++ tasksOf m.levels := by
  rw [unfiled, hstage]
  rfl

theorem Machine.unfiled_of_stage_none (hstage : m.stage = none) : m.unfiled = tasksOf m.levels := by
  rw [unfiled, hstage]
  rfl

/-- **Every landing is filed or was in the level under way**, and all these are of different tasks, none
    of which is still to be dispatched or in flight. -/
structure Filed (m : Machine) : Prop where
  landings : ∃ filed : List TaskResult, m.results = collected ∅ filed ∧
    m.landings.Perm (filed ++ m.landed) ∧ (filed.map TaskResult.task ++ m.unfiled).Nodup

namespace Filed

/-- Nobody lands, and no results are taken. -/
theorem of_subperm (h : Filed m) (hresults : m'.results = m.results)
    (hlandings : m'.landings = m.landings) (hlanded : m'.landed = m.landed)
    (hunfiled : m'.unfiled.Subperm m.unfiled) : Filed m' := by
  obtain ⟨filed, hfiled, hperm, hnodup⟩ := h.landings
  refine ⟨filed, hresults.trans hfiled, by rwa [hlandings, hlanded], ?_⟩
  obtain ⟨l, hl, hsub⟩ := hunfiled
  exact (hl.append_left _).nodup_iff.mp (hnodup.sublist (hsub.append_left _))

theorem start (hnodup : (tasksOf schedule.levels).Nodup) : Filed (Machine.start w schedule world) :=
  ⟨[], rfl, List.Perm.refl _, hnodup⟩

/-- A level begins, or is cancelled. -/
theorem begin {later : List Level} (h : Filed m) (hstage : m.stage = none)
    (hlevels : m.levels = level :: later) : Filed (m.beginLevel level later) := by
  have hunfiled : m.unfiled = level.tasks ++ tasksOf later := by
    rw [unfiled_of_stage_none hstage, hlevels, tasksOf_cons]
  have hlandings := landings_beginLevel m level later
  have hlanded := (flights_beginLevel hstage level later).2.trans (landed_of_stage_none hstage).symm
  refine h.of_subperm ?_ hlandings hlanded ?_
  · unfold beginLevel
    split
    · rfl
    · exact foldl_keeps Machine.results (fun m t => results_setStatus m t .cancelled) level.tasks m
  · rw [hunfiled]
    unfold beginLevel
    split
    · exact (List.Perm.refl _).subperm
    · have hnone := (OnlyRecords.cancel level.tasks m).stage.trans hstage
      rw [unfiled_of_stage_none (m := { (_ : Machine) with levels := later, cancelled := _ }) hnone]
      exact (List.sublist_append_right _ _).subperm

/-- A task is dispatched, or skipped if there is none of that id. -/
theorem dispatch (h : Filed m) (hstage : m.stage = some stage) (hwaiting : stage.waiting = t :: rest) :
    Filed ((dispatchOne s m stage t rest).1.withStage (dispatchOne s m stage t rest).2) := by
  have hrecords := OnlyRecords.dispatchOne s m stage t rest
  have hunfiled := unfiled_of_stage hstage
  have hlanded := landed_of_stage hstage
  cases hk : m.workflow.task? t with
  | none =>
      rw [dispatchOne_of_none hk]
      refine h.of_subperm rfl rfl hlanded.symm ?_
      rw [hunfiled, hwaiting]
      exact (((List.sublist_cons_self t rest).append_left _).append_right _).subperm
  | some k =>
      obtain rfl : k.id = t := Workflow.id_of_task? hk
      rw [dispatchOne_of_some hk] at hrecords ⊢
      have hlevels : ((m.setStatus k.id .scheduled).setStatus k.id .running).levels = m.levels :=
        (levels_setStatus _ _ _).trans (levels_setStatus _ _ _)
      refine h.of_subperm ((results_setStatus _ _ _).trans (results_setStatus _ _ _))
        hrecords.landings_eq hlanded.symm (List.Perm.subperm (List.Perm.of_eq ?_))
      rw [hunfiled, unfiled_of_stage (m := withStage _ _) rfl, Stage.Underway.airborne_boarding, hwaiting]
      simp [withStage, hlevels, Stage.boarding, Stage.landedTasks, jobOf]

/-- A flight of the level has its turn. -/
theorem turn (h : Filed m) (hstage : m.stage = some stage) (horderly : stage.Orderly) (id : Nat) :
    Filed (m.turn s stage id (stage.active.erase id)) := by
  obtain ⟨world, stage', events, heq, hsame, hturn⟩ := turn_cases s m horderly id
  have hunfiled := unfiled_of_stage hstage
  have hlanded := landed_of_stage hstage
  have hunfiled' : (m.after world stage' events).unfiled =
      stage'.landedTasks ++ stage'.airborne ++ stage.waiting ++ tasksOf m.levels := by
    rw [unfiled_of_stage (m := m.after world stage' events) rfl, hsame.waiting]
    rfl
  rw [heq]
  rcases hturn with hgoes | ⟨r, hland⟩
  · refine h.of_subperm rfl ?_ (hgoes.landed.trans hlanded.symm) (List.Perm.subperm (List.Perm.of_eq ?_))
    · -- a call is no landing
      rcases hgoes.calls with ⟨rfl, -⟩ | ⟨call, -, rfl, -⟩
      · rfl
      · exact (landings_append rfl).trans (List.append_nil _)
    · rw [hunfiled, hunfiled', Stage.landedTasks, Stage.airborne, hgoes.landed, hgoes.roster]
      rfl
  · obtain ⟨filed, hfiled, hperm, hnodup⟩ := h.landings
    have hlandings : (m.after world stage' events).landings = m.landings ++ [r] := by
      rw [landings_append rfl]
      rcases hland.events with rfl | ⟨e, rfl⟩ <;> rfl
    refine ⟨filed, hfiled, ?_, ?_⟩
    · rw [hlandings, show (m.after world stage' events).landed = stage'.landed from rfl, hland.landed,
        ← List.append_assoc, ← hlanded]
      exact hperm.append_right [r]
    · have hflown := ((hland.flown_perm horderly).append_right stage.waiting).append_right
        (tasksOf m.levels)
      rw [hunfiled', (hflown.append_left _).nodup_iff, ← hunfiled]
      exact hnodup

/-- The level ends, and its results are taken. -/
theorem settle (h : Filed m) (hstage : m.stage = some stage) : Filed (m.settle stage) := by
  obtain ⟨filed, hfiled, hperm, hnodup⟩ := h.landings
  have hrecords := OnlyRecords.settle m stage
  have hnone : (m.settle stage).stage = none := hrecords.stage
  refine ⟨filed ++ stage.results, ?_, ?_, ?_⟩
  · rw [results_settle, hfiled, collected, collected, collected, List.foldl_append]
  · rw [hrecords.landings_eq, landed_of_stage_none hnone, List.append_nil]
    rw [landed_of_stage hstage] at hperm
    exact hperm.trans (stage.results_perm.symm.append_left _)
  · rw [unfiled_of_stage_none hnone, levels_settle, List.map_append, List.append_assoc]
    rw [unfiled_of_stage hstage] at hnodup
    have htasks := (stage.results_perm.map TaskResult.task).append_right (tasksOf m.levels)
    rw [(htasks.append_left _).nodup_iff]
    refine hnodup.sublist (List.Sublist.append_left ?_ _)
    rw [List.append_assoc, List.append_assoc]
    exact (List.sublist_append_of_sublist_right (List.sublist_append_right _ _)).append_left _

/-- **Every move.** -/
theorem move (horderly : m.Orderly) (h : Filed m) (hm : Move s m m') : Filed m' := by
  cases hm with
  | begin hstage hlevels => exact h.begin hstage hlevels
  | dispatch hstage hwaiting _ _ => exact h.dispatch hstage hwaiting
  | @turn stage id hstage _ => exact h.turn hstage (horderly _ hstage) id
  | tick due hstage =>
      refine h.of_subperm rfl rfl (landed_of_stage hstage).symm (List.Perm.subperm (List.Perm.of_eq ?_))
      rw [unfiled_of_stage hstage]
      rfl
  | settle hstage _ _ => exact h.settle hstage
  | surroundings _ => exact h.of_subperm rfl rfl rfl (List.Perm.refl _).subperm

/-- **At the end, the results are the landings**, each under the name of its task. -/
theorem results_perm (h : Filed m) (hdone : m.isDone = true) :
    m.landings.Perm m.results.values ∧ ∀ t r, m.results.find? t = some r → r.task = t := by
  obtain ⟨filed, hfiled, hperm, hnodup⟩ := h.landings
  have hend : m.stage = none ∧ m.levels = [] := by simpa [isDone] using hdone
  have htasks : (filed.map TaskResult.task).Nodup := (List.nodup_append.mp hnodup).1
  rw [landed_of_stage_none hend.1, List.append_nil] at hperm
  rw [hfiled]
  refine ⟨hperm.trans (values_collected_perm htasks).symm, fun t r hr => ?_⟩
  by_cases ht : t ∈ filed.map TaskResult.task
  · obtain ⟨r', hr', rfl⟩ := List.mem_map.mp ht
    rw [find?_collected htasks hr'] at hr
    rw [← Option.some.inj hr]
  · rw [find?_collected_of_not_mem ht] at hr
    cases hr

end Filed

theorem filed_of_interleaving (hnodup : (tasksOf schedule.levels).Nodup)
    (hm : Interleaving s (Machine.start w schedule world) m) : Filed m :=
  (hm.invariant (P := fun m => m.Orderly ∧ Filed m) ⟨orderly_of_stage_none rfl, .start hnodup⟩
    fun _ _ h hmove => ⟨h.1.move hmove, h.2.move h.1 hmove⟩).2

end Foreman
