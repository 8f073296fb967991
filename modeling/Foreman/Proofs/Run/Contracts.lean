import Foreman.Proofs.Run.Course

/-!
# `Foreman.Proofs.Run.Contracts` — from one flight to all of them

Many properties of an execution are properties of its flights one by one: of the world that a flight
finds, of the flight itself, and of the result with which it lands. A `Contract` states such properties.
If every flight keeps it by itself, from one activity to the next (`Contract.Kept`), then it holds all
along, for all flights and all results (`Contract.Holds`), whatever the order in which flights take
their turns.
-/

namespace Foreman

open Machine

variable {w : Workflow} {s : Setup} {m m' : Machine} {levels : List Level} {stage : Stage}
  {schedule : Schedule} {world : World} {c : Contract} {n : Nat}

/-- What the world, the flights and the results of an execution are to be like. -/
structure Contract where
  world : World → Prop
  flight : Flight → Prop
  result : TaskResult → Prop

namespace Contract

/-- A flight goes on, or ends, as it should. -/
def Allows (c : Contract) : Next → Prop
  | .atOnce f | .again f | .sleep _ f | .wait _ f => c.flight f
  | .land r _ => c.result r

theorem Allows.flight {next : Next} {f : Flight} (h : c.Allows next)
    (hnext : next.flight? = some f) : c.flight f := by
  cases next with
  | land r leased => cases hnext
  | atOnce f' | again f' | sleep due f' | wait due f' =>
      obtain rfl := Option.some.inj hnext
      exact h

/-- **Every flight of a workflow keeps to a contract**: when it is dispatched, from one activity to the
    next, and when it gives back its agent. -/
structure Kept (c : Contract) (s : Setup) (w : Workflow) : Prop where
  boards : ∀ t k now, w.task? t = some k →
    c.flight { job := jobOf s k, startedAt := now, phase := .seeking }
  resumes : ∀ f now world, c.world world → c.flight f →
    c.Allows (f.resume s now world).1 ∧ c.world (f.resume s now world).2
  handsBack : ∀ world task leased, c.world world → c.world (world.handBack task leased).1

/-- **A contract holds** at some moment of an execution. -/
structure Holds (c : Contract) (m : Machine) : Prop where
  world : c.world m.world
  flights : ∀ e ∈ m.flights, c.flight e.2
  landed : ∀ r ∈ m.landed, c.result r
  results : ∀ t r, m.results.find? t = some r → c.result r

namespace Holds

theorem start (hworld : c.world world) : c.Holds (Machine.start w schedule world) :=
  ⟨hworld, fun _ he => (by cases he), fun _ hr => (by cases hr), fun _ _ hr => (by cases hr)⟩

theorem of_stage (h : c.Holds m) (hstage : m.stage = some stage) :
    (∀ e ∈ stage.flights, c.flight e.2) ∧ ∀ r ∈ stage.landed, c.result r :=
  ⟨flights_of_stage hstage ▸ h.flights, landed_of_stage hstage ▸ h.landed⟩

/-- A turn. -/
theorem turn (hkept : c.Kept s w) (h : c.Holds m) (hstage : m.stage = some stage) (n : Nat) :
    c.Holds (m.turn s stage n (stage.active.erase n)) := by
  obtain ⟨hflights, hlanded⟩ := h.of_stage hstage
  have hturned := turned s m stage n
  generalize m.turn s stage n (stage.active.erase n) = after at hturned ⊢
  cases hturned with
  | absent habsent => exact ⟨h.world, hflights, hlanded, h.results⟩
  | @goesOn f f' next world events hmem hresume hnext hcalls =>
      have hresumes := hkept.resumes f m.clock m.world h.world (hflights _ hmem)
      rw [hresume] at hresumes
      refine ⟨hresumes.2, ?_, hlanded, h.results⟩
      intro e he
      rcases mem_setFlight he with rfl | ⟨hold, -⟩
      · exact hresumes.1.flight hnext
      · exact hflights e hold
  | @lands f r leased world hmem hresume =>
      have hresumes := hkept.resumes f m.clock m.world h.world (hflights _ hmem)
      rw [hresume] at hresumes
      refine ⟨hkept.handsBack _ _ _ hresumes.2, ?_, ?_, h.results⟩
      · intro e he
        rw [Machine.flights, after, Option.map_some, Option.getD_some, flights_wakeAfter] at he
        exact hflights e (List.mem_filter.mp he).1
      · intro r' hr'
        rw [Machine.landed, after, Option.map_some, Option.getD_some, landed_wakeAfter] at hr'
        rcases List.mem_append.mp hr' with hr' | hr'
        · exact hlanded r' hr'
        · rw [List.mem_singleton.mp hr']
          exact hresumes.1

/-- What is not a turn concerns flights, results and books only as it should. -/
theorem results_of_effect (h : c.Holds m) (heffect : Effect m m') :
    ∀ t r, m'.results.find? t = some r → c.result r := by
  cases heffect with
  | quiet hquiet => exact hquiet.results ▸ h.results
  | turn stage id world stage' events _ heq _ => exact heq ▸ h.results
  | takes htakes =>
      intro t r hr
      by_cases ht : t ∈ m.landed.map TaskResult.task
      · obtain ⟨r', hr', rfl⟩ := List.mem_map.mp ht
        rw [(htakes.taken r' hr').1] at hr
        rw [← Option.some.inj hr]
        exact h.landed r' hr'
      · rw [(htakes.others t ht).1] at hr
        exact h.results t r hr

/-- Whatever else happens, flights that have just been dispatched are as they should be. -/
theorem elsewhere (hkept : c.Kept s w) (hsame : m.workflow.resetStatuses = w.resetStatuses)
    (h : c.Holds m) {dispatched : List (Nat × Flight)} (hno : NoTurn s m m' dispatched)
    (hworld : c.world m'.world) (hresults : ∀ t r, m'.results.find? t = some r → c.result r) :
    c.Holds m' := by
  refine ⟨hworld, fun e he => ?_, fun r hr => h.landed r (hno.landed hr), hresults⟩
  rcases List.mem_append.mp (hno.flights ▸ he) with hold | hnew
  · exact h.flights e hold
  · obtain ⟨t, k, hk, hfresh⟩ := hno.fresh e hnew
    -- what the flight is to know of its task does not depend on the status
    obtain ⟨k₀, hk₀, hreset⟩ := Workflow.exists_task?_of_reset hsame hk
    have hjob : jobOf s k = jobOf s k₀ :=
      (congrArg (jobOf s) hreset.symm : jobOf s { k with status := .pending } = _)
    rw [hfresh, hjob]
    exact hkept.boards t k₀ m.clock hk₀

/-- **Every move**, as long as the surroundings keep to the contract. -/
theorem move (hkept : c.Kept s w) (hl : Layered w levels) (hsound : Sound w levels m)
    (h : c.Holds m) (hm : Move s m m')
    (hworld : c.world m'.world ∨ ∃ stage id, m.stage = some stage ∧
      m' = m.turn s stage id (stage.active.erase id)) : c.Holds m' := by
  rcases hworld with hworld | ⟨stage, id, hstage, rfl⟩
  · rcases hm.noTurn_or_turn with ⟨dispatched, hno⟩ | ⟨stage, id, hstage, rfl⟩
    · have hresults := h.results_of_effect (hsound.effect hl hm).1
      exact h.elsewhere hkept hsound.books.same hno hworld hresults
    · exact h.turn hkept hstage id
  · exact h.turn hkept hstage id

end Holds

/-- **A contract that every flight keeps holds all along**, if it asks nothing of the world. -/
theorem holds_of_interleaving (hkept : c.Kept s w) (hfree : ∀ world, c.world world)
    (hl : Layered w schedule.levels) (hm : Interleaving s (Machine.start w schedule world) m) :
    c.Holds m := by
  have hboth := hm.invariant (P := fun m => Sound w schedule.levels m ∧ c.Holds m)
    ⟨sound_start hl, .start (hfree world)⟩ fun _ _ h hmove =>
      ⟨h.1.move hl hmove, h.2.move hkept hl h.1 hmove (Or.inl (hfree _))⟩
  exact hboth.2

/-- **A contract that every flight keeps holds all along** while nobody else uses the pool or the memory
    service. -/
theorem holds_of_sole (hkept : c.Kept s w) (hworld : c.world world)
    (hl : Layered w schedule.levels) (hm : SoleInterleaving s (Machine.start w schedule world) m) :
    c.Holds m := by
  induction hm with
  | refl => exact .start hworld
  | tail hmoves hlast ih =>
      have hsound := sound_of_interleaving hl (SoleInterleaving.interleaving hmoves)
      refine ih.move hkept hl hsound hlast.move (hlast.world.imp_left fun hsame => ?_)
      rw [hsame]
      exact ih.world

end Contract

end Foreman
