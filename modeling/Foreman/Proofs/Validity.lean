import Foreman.Collection.Sum
import Foreman.Proofs.CycleSearch

/-!
# `Foreman.Proofs.Validity` — what it means for a workflow to be valid

Validation collects the errors of four checks. `WellFormed` says what the checks look for without
reference to how they do it, and `isValid_iff_wellFormed` that nothing else is accepted or refused.
Each check has one lemma on when it finds nothing; the one for cycles is
`CycleSearch.cycleErrors_eq_nil_iff`.
-/

namespace Foreman
namespace Workflow

variable {w : Workflow}

/-- **A workflow in which nothing is wrong.** -/
structure WellFormed (w : Workflow) : Prop where
  acyclic : ¬ w.Cyclic
  /-- No id is declared twice. -/
  distinct : w.taskIds.Nodup
  /-- Both ends of every entry of the dependency map are declared, also where the entry is empty. -/
  declared : ∀ t ds, w.dependencies.find? t = some ds → t ∈ w.taskIds ∧ ∀ d ∈ ds, d ∈ w.taskIds
  equipped : ∀ t ∈ w.tasks, t.capabilities ≠ ∅ ∧ 1 ≤ t.resources.cores
  /-- The exact sum of the estimates, capped at the greatest duration, fits the budget. -/
  affordable : min (sumOf (fun t => t.estimate.nanos) w.tasks) maxNanos ≤ w.metadata.timeout.nanos

/-- In a well-formed workflow everything that a task waits for is declared. -/
theorem WellFormed.waitsFor_of_mem {t d : TaskId} (h : w.WellFormed) (hd : d ∈ w.dependenciesOf t) :
    w.WaitsFor t d := by
  have hmem := hd
  unfold dependenciesOf at hd
  cases hfind : w.dependencies.find? t with
  | none =>
      rw [hfind] at hd
      exact absurd hd NameSet.not_mem_empty
  | some ds =>
      rw [hfind] at hd
      obtain ⟨ht, hds⟩ := h.declared t ds hfind
      exact ⟨ht, hds d hd, hmem⟩

/-- With distinct ids, every task is found under its own. -/
theorem task?_of_mem {k : Task} (hnodup : w.taskIds.Nodup) (hk : k ∈ w.tasks) :
    w.task? k.id = some k := by
  obtain ⟨k', hk'⟩ := exists_task?_of_mem (List.mem_map_of_mem hk)
  rw [hk', List.inj_on_of_nodup_map hnodup (mem_of_task? hk') hk (id_of_task? hk')]

/-! ## One lemma per check -/

theorem repeatedIds_eq_nil_iff {seen : NameSet} {ts : List TaskId} :
    repeatedIds seen ts = [] ↔ ts.Nodup ∧ ∀ t ∈ ts, t ∉ seen := by
  induction ts generalizing seen with
  | nil => simp [repeatedIds]
  | cons t ts ih =>
      simp only [repeatedIds, NameSet.contains_eq_true]
      by_cases ht : t ∈ seen
      · simp [ht]
      · rw [if_neg ht, ih, List.nodup_cons]
        constructor
        · rintro ⟨hnodup, hfresh⟩
          refine ⟨⟨fun hmem => hfresh t hmem (by simp), hnodup⟩, fun u hu => ?_⟩
          rcases List.mem_cons.mp hu with rfl | hu
          · exact ht
          · exact fun hseen => hfresh u hu (by simp [hseen])
        · rintro ⟨⟨hnotin, hnodup⟩, hfresh⟩
          refine ⟨hnodup, fun u hu hins => ?_⟩
          rcases NameSet.mem_insert.mp hins with rfl | hseen
          · exact hnotin hu
          · exact hfresh u (List.mem_cons_of_mem t hu) hseen

theorem repeatedIds_of_nodup {ts : List TaskId} (h : ts.Nodup) : repeatedIds ∅ ts = [] :=
  repeatedIds_eq_nil_iff.mpr ⟨h, fun _ _ => NameSet.not_mem_empty⟩

/-- What the check of references reports: repeated ids, and entries with an undeclared end. -/
theorem mem_referenceErrors_iff {e : ValidationError} : e ∈ w.referenceErrors ↔
    (∃ t ∈ repeatedIds ∅ w.taskIds, e = .duplicateTask t) ∨
      ∃ t ds, w.dependencies.find? t = some ds ∧ (t ∉ w.taskIds ∧ e = .unknownTask t ∨
        ∃ d ∈ ds, d ∉ w.taskIds ∧ e = .dependencyNotFound t d) := by
  have hkey : ∀ t, e ∈ (if (NameSet.ofList w.taskIds).contains t then []
      else [ValidationError.unknownTask t]) ↔ t ∉ w.taskIds ∧ e = .unknownTask t := by
    intro t
    by_cases ht : t ∈ w.taskIds <;> simp [ht]
  have hvalue : ∀ t (ds : NameSet), e ∈ (ds.toList.filter
      fun d => !(NameSet.ofList w.taskIds).contains d).map (ValidationError.dependencyNotFound t) ↔
      ∃ d ∈ ds, d ∉ w.taskIds ∧ e = .dependencyNotFound t d := by
    intro t ds
    simp only [List.mem_map, List.mem_filter, and_assoc, Bool.not_eq_true', ← Bool.not_eq_true,
      NameSet.contains_eq_true, NameSet.mem_ofList, eq_comm (a := e)]
    rfl
  unfold referenceErrors
  rw [List.mem_append, List.mem_map, List.mem_flatMap]
  refine or_congr (exists_congr fun t => and_congr_right fun _ => eq_comm) ?_
  simp only [Prod.exists, NameMap.mem_entries_iff, List.mem_append, hkey, hvalue]

theorem referenceErrors_eq_nil_iff : w.referenceErrors = [] ↔
    w.taskIds.Nodup ∧ ∀ t ds, w.dependencies.find? t = some ds →
      t ∈ w.taskIds ∧ ∀ d ∈ ds, d ∈ w.taskIds := by
  rw [List.eq_nil_iff_forall_not_mem]
  constructor
  · intro h
    have hrepeated : repeatedIds ∅ w.taskIds = [] := List.eq_nil_iff_forall_not_mem.mpr fun t ht =>
      h _ (mem_referenceErrors_iff.mpr (Or.inl ⟨t, ht, rfl⟩))
    refine ⟨(repeatedIds_eq_nil_iff.mp hrepeated).1, fun t ds hds => ⟨?_, fun d hd => ?_⟩⟩
    · exact Classical.not_not.mp fun ht =>
        h _ (mem_referenceErrors_iff.mpr (Or.inr ⟨t, ds, hds, Or.inl ⟨ht, rfl⟩⟩))
    · exact Classical.not_not.mp fun hnot =>
        h _ (mem_referenceErrors_iff.mpr (Or.inr ⟨t, ds, hds, Or.inr ⟨d, hd, hnot, rfl⟩⟩))
  · rintro ⟨hnodup, hdeclared⟩ e he
    rcases mem_referenceErrors_iff.mp he with ⟨t, ht, -⟩ | ⟨t, ds, hds, ⟨ht, -⟩ | ⟨d, hd, hnot, -⟩⟩
    · rw [repeatedIds_of_nodup hnodup] at ht
      cases ht
    · exact ht (hdeclared t ds hds).1
    · exact hnot ((hdeclared t ds hds).2 d hd)

theorem requirementErrors_eq_nil_iff : w.requirementErrors = [] ↔
    ∀ t ∈ w.tasks, t.capabilities ≠ ∅ ∧ 1 ≤ t.resources.cores := by
  unfold requirementErrors
  rw [List.flatMap_eq_nil_iff]
  refine forall₂_congr fun t _ => ?_
  rw [List.append_eq_nil_iff]
  refine and_congr ?_ ?_
  · have hempty : t.capabilities.isEmpty = true ↔ t.capabilities = ∅ := NameSet.isEmpty_eq_true
    by_cases h : t.capabilities = ∅
    · rw [if_pos (hempty.mpr h)]
      exact iff_of_false (List.cons_ne_nil _ _) (not_not_intro h)
    · rw [if_neg (mt hempty.mp h)]
      exact iff_of_true rfl h
  · rcases Nat.eq_zero_or_pos t.resources.cores with h | h
    · simp [h]
    · exact iff_of_true (if_neg (Nat.ne_of_gt h)) h

/-- Saturating addition in a row stops at the greatest duration just as one exact sum does. -/
theorem nanos_foldl_satAdd (ts : List Task) (acc : Duration) :
    (ts.foldl (fun acc t => acc.satAdd t.estimate) acc).nanos =
      min (acc.nanos + sumOf (fun t => t.estimate.nanos) ts) maxNanos := by
  induction ts generalizing acc with
  | nil => simpa using acc.le_max
  | cons t ts ih =>
      rw [List.foldl_cons, ih, Duration.nanos_satAdd, sumOf, ← Nat.add_assoc]
      have hmin : Nat.min (acc.nanos + t.estimate.nanos) maxNanos =
          min (acc.nanos + t.estimate.nanos) maxNanos := rfl
      omega

theorem nanos_totalEstimate (w : Workflow) :
    w.totalEstimate.nanos = min (sumOf (fun t => t.estimate.nanos) w.tasks) maxNanos := by
  rw [totalEstimate, nanos_foldl_satAdd]
  exact congrArg (min · maxNanos) (Nat.zero_add _)

theorem budgetErrors_eq_nil_iff : w.budgetErrors = [] ↔
    min (sumOf (fun t => t.estimate.nanos) w.tasks) maxNanos ≤ w.metadata.timeout.nanos := by
  unfold budgetErrors
  rw [← nanos_totalEstimate]
  by_cases h : w.metadata.timeout < w.totalEstimate
  · rw [if_pos h]
    simpa using Duration.lt_def.mp h
  · rw [if_neg h]
    simpa using Nat.le_of_not_lt fun hlt => h (Duration.lt_def.mpr hlt)

/-! ## Which check reports what -/

theorem exists_of_mem_requirementErrors {e : ValidationError} (h : e ∈ w.requirementErrors) :
    ∃ t reason, e = .invalidRequirements t reason := by
  simp only [requirementErrors, List.mem_flatMap, List.mem_append] at h
  obtain ⟨t, -, h | h⟩ := h
  all_goals
    split at h
    · exact ⟨t.id, _, List.mem_singleton.mp h⟩
    · cases h

theorem exists_of_mem_budgetErrors {e : ValidationError} (h : e ∈ w.budgetErrors) :
    ∃ required budget, e = .timeoutTooShort required budget := by
  unfold budgetErrors at h
  split at h
  · exact ⟨_, _, List.mem_singleton.mp h⟩
  · cases h

/-- Errors of other kinds come from the search for cycles or from the references. -/
theorem mem_validationErrors_iff {e : ValidationError}
    (hreq : ∀ t reason, e ≠ .invalidRequirements t reason)
    (hbudget : ∀ required budget, e ≠ .timeoutTooShort required budget) :
    e ∈ w.validationErrors ↔ e ∈ w.cycleErrors ∨ e ∈ w.referenceErrors := by
  have hreq' : e ∉ w.requirementErrors := fun h => by
    obtain ⟨t, reason, he⟩ := exists_of_mem_requirementErrors h
    exact hreq t reason he
  have hbudget' : e ∉ w.budgetErrors := fun h => by
    obtain ⟨required, budget, he⟩ := exists_of_mem_budgetErrors h
    exact hbudget required budget he
  simp [validationErrors, hreq', hbudget']

/-- Only the search reports cycles. -/
theorem mem_validationErrors_cycleDetected {t : TaskId} {path : List TaskId} :
    .cycleDetected t path ∈ w.validationErrors ↔ .cycleDetected t path ∈ w.cycleErrors := by
  rw [mem_validationErrors_iff (by nofun) (by nofun), mem_referenceErrors_iff]
  simp

/-- Repeated ids are reported, and nothing else is reported as one. -/
theorem mem_validationErrors_duplicateTask {t : TaskId} :
    .duplicateTask t ∈ w.validationErrors ↔ t ∈ repeatedIds ∅ w.taskIds := by
  have hcycle : .duplicateTask t ∉ w.cycleErrors := fun h => by
    obtain ⟨_, _, he, _⟩ := CycleSearch.isSimpleCycle_of_mem h
    cases he
  rw [mem_validationErrors_iff (by nofun) (by nofun), or_iff_right hcycle, mem_referenceErrors_iff]
  simp

/-- An undeclared key of the dependency map is reported, and nothing else is reported as one. -/
theorem mem_validationErrors_unknownTask {t : TaskId} :
    .unknownTask t ∈ w.validationErrors ↔ t ∈ w.dependencies.keys ∧ t ∉ w.taskIds := by
  have hcycle : .unknownTask t ∉ w.cycleErrors := fun h => by
    obtain ⟨_, _, he, _⟩ := CycleSearch.isSimpleCycle_of_mem h
    cases he
  rw [mem_validationErrors_iff (by nofun) (by nofun), or_iff_right hcycle, mem_referenceErrors_iff,
    NameMap.mem_keys_iff]
  simp

/-- Some cycle is reported exactly if there is one. -/
theorem cycleDetected_iff_cyclic :
    (∃ t path, .cycleDetected t path ∈ w.validationErrors) ↔ w.Cyclic := by
  constructor
  · rintro ⟨t, path, hmem⟩
    exact (CycleSearch.isSimpleCycle_of_mem (mem_validationErrors_cycleDetected.mp hmem)).cyclic
  · intro hcyc
    have hne : w.cycleErrors ≠ [] := fun h => CycleSearch.cycleErrors_eq_nil_iff.mp h hcyc
    obtain ⟨e, he⟩ := List.exists_mem_of_ne_nil _ hne
    obtain ⟨t, body, rfl, _⟩ := CycleSearch.isSimpleCycle_of_mem he
    exact ⟨t, body ++ [t], mem_validationErrors_cycleDetected.mpr he⟩

/-! ## All checks together -/

/-- The errors are empty exactly if nothing is wrong. -/
theorem validationErrors_eq_nil_iff : w.validationErrors = [] ↔ w.WellFormed := by
  simp only [validationErrors, List.append_eq_nil_iff, CycleSearch.cycleErrors_eq_nil_iff,
    referenceErrors_eq_nil_iff, requirementErrors_eq_nil_iff, budgetErrors_eq_nil_iff]
  constructor
  · rintro ⟨⟨⟨hacyc, hnodup, hdecl⟩, hequip⟩, hafford⟩
    exact ⟨hacyc, hnodup, hdecl, hequip, hafford⟩
  · intro h
    exact ⟨⟨⟨h.acyclic, h.distinct, h.declared⟩, h.equipped⟩, h.affordable⟩

theorem wellFormed_of_isValid (h : w.isValid = true) : w.WellFormed :=
  validationErrors_eq_nil_iff.mp (List.isEmpty_iff.mp h)

/-- **Validation is exact.** It accepts the well-formed workflows and no others, and among its errors
    is a cycle exactly if the known graph has one. -/
theorem isValid_iff_wellFormed (w : Workflow) :
    (w.isValid = true ↔ w.WellFormed) ∧
      ((∃ t path, .cycleDetected t path ∈ w.validationErrors) ↔ w.Cyclic) :=
  ⟨List.isEmpty_iff.trans validationErrors_eq_nil_iff, cycleDetected_iff_cyclic⟩

end Workflow
end Foreman
