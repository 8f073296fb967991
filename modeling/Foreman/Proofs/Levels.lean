import Foreman.Proofs.CycleAgreement
import Mathlib.Data.List.Nodup

/-!
# `Foreman.Proofs.Levels` — the levels of a plan are layers

What an execution needs from the levels of a schedule, and all it needs: together they hold every
declared task exactly once, and what a task waits for sits in the levels before its own (`Layered`).
Both follow from the numbers that `levelNumbers` gives out along a topological order. Each is that of
`levelAbove` in the finished table (`find?_levelNumbers`), so it is greater than those of the
dependencies of the task (`exists_number`), and no greater than it has to be
(`number_eq_zero_or_succ`).
-/

namespace Foreman

open Workflow

variable {w : Workflow} {t u d : TaskId} {order : List TaskId} {mode : ExecutionMode}

/-- The tasks of some levels, level by level. -/
def tasksOf (levels : List Level) : List TaskId := levels.flatMap Level.tasks

@[simp] theorem tasksOf_nil : tasksOf [] = [] := rfl

@[simp] theorem tasksOf_cons (level : Level) (levels : List Level) :
    tasksOf (level :: levels) = level.tasks ++ tasksOf levels := List.flatMap_cons

@[simp] theorem tasksOf_append (xs ys : List Level) :
    tasksOf (xs ++ ys) = tasksOf xs ++ tasksOf ys := List.flatMap_append

/-- **Levels that hold every declared task once, and above everything it waits for.** -/
structure Layered (w : Workflow) (levels : List Level) : Prop where
  nodup : (tasksOf levels).Nodup
  mem_iff : ∀ t, t ∈ tasksOf levels ↔ t ∈ w.taskIds
  below : ∀ past level later, levels = past ++ level :: later → ∀ t ∈ level.tasks,
    ∀ d, w.WaitsFor t d → d ∈ tasksOf past

/-! ## Numbers along an order -/

theorem le_foldl_max (ns : List Nat) (acc : Nat) :
    acc ≤ ns.foldl Nat.max acc ∧ ∀ n ∈ ns, n ≤ ns.foldl Nat.max acc := by
  induction ns generalizing acc with
  | nil => exact ⟨Nat.le_refl _, fun n hn => absurd hn (by simp)⟩
  | cons m ns ih =>
      obtain ⟨hacc, hns⟩ := ih (Nat.max acc m)
      refine ⟨Nat.le_trans (Nat.le_max_left acc m) hacc, fun n hn => ?_⟩
      rcases List.mem_cons.mp hn with rfl | hn
      · exact Nat.le_trans (Nat.le_max_right acc n) hacc
      · exact hns n hn

theorem le_greatest {ns : List Nat} {n : Nat} (h : n ∈ ns) : n ≤ greatest ns :=
  (le_foldl_max ns 0).2 n h

/-- The greatest element is one of them, or zero. -/
theorem greatest_eq_zero_or_mem (ns : List Nat) : greatest ns = 0 ∨ greatest ns ∈ ns := by
  have key : ∀ (ns : List Nat) (a : Nat), ns.foldl Nat.max a = a ∨ ns.foldl Nat.max a ∈ ns := by
    intro ns
    induction ns with
    | nil => exact fun _ => Or.inl rfl
    | cons n ns ih =>
        intro a
        rw [List.foldl_cons]
        rcases ih (Nat.max a n) with h | h
        · rw [h]
          rcases Nat.le_total a n with hle | hle
          · exact Or.inr (by simp [show Nat.max a n = n from Nat.max_eq_right hle])
          · exact Or.inl (Nat.max_eq_left hle)
        · exact Or.inr (List.mem_cons_of_mem n h)
  exact key ns 0

theorem levelNumbers_snoc (g : Graph) (order : List TaskId) (t : TaskId) :
    levelNumbers g (order ++ [t]) =
      (levelNumbers g order).insert t (levelAbove g (levelNumbers g order) t) := by
  simp [levelNumbers]

theorem levelAbove_insert {g : Graph} {numbers : NameMap Nat} (h : u ∉ g.dependenciesOf t) (n : Nat) :
    levelAbove g (numbers.insert u n) t = levelAbove g numbers t := by
  have hsame : ∀ d ∈ g.dependenciesOf t, (numbers.insert u n).find? d = numbers.find? d := by
    intro d hd
    rw [NameMap.find?_insert, if_neg fun heq : d = u => h (heq ▸ hd)]
  rw [levelAbove, List.filterMap_congr hsame, levelAbove]

/-- **The numbers of a topological order solve their own equation.** Induction on the order from its
    end: a later task changes neither the number of an earlier one nor those it is made of. -/
theorem find?_levelNumbers (hnodup : order.Nodup) (hord : Ordered w order) (ht : t ∈ order) :
    (levelNumbers (Graph.ofWorkflow w) order).find? t =
      some (levelAbove (Graph.ofWorkflow w) (levelNumbers (Graph.ofWorkflow w) order) t) := by
  induction order using List.reverseRecOn generalizing t with
  | nil => cases ht
  | append_singleton order u ih =>
      have hu : u ∉ order := fun hmem =>
        (List.nodup_append.mp hnodup).2.2 u hmem u (by simp) rfl
      -- no task of the order waits for the last one
      have hfree : u ∉ (Graph.ofWorkflow w).dependenciesOf t := by
        intro hmem
        obtain ⟨before, after, heq⟩ := List.append_of_mem ht
        have hbefore : u ∈ before := hord before t after heq u (mem_dependenciesOf_iff.mp hmem)
        rcases List.eq_nil_or_concat after with rfl | ⟨after, v, rfl⟩
        · exact hu ((List.append_inj' heq rfl).1 ▸ hbefore)
        · have heq' : order ++ [u] = (before ++ t :: after) ++ [v] := by simpa using heq
          exact hu ((List.append_inj' heq' rfl).1 ▸ List.mem_append_left _ hbefore)
      rw [levelNumbers_snoc, levelAbove_insert hfree, NameMap.find?_insert]
      rcases List.mem_append.mp ht with ht | ht
      · rw [if_neg fun heq : t = u => hu (heq ▸ ht)]
        exact ih (List.nodup_append.mp hnodup).1 hord.left ht
      · obtain rfl : t = u := by simpa using ht
        rw [if_pos rfl]

theorem Ordered.mem_of_waitsFor (hord : Ordered w order) (ht : t ∈ order) (hd : w.WaitsFor t d) :
    d ∈ order := by
  obtain ⟨before, after, rfl⟩ := List.append_of_mem ht
  exact List.mem_append_left _ (hord before t after rfl d hd)

/-- **Every task of the order has a number, greater than those of its dependencies.** -/
theorem exists_number (hnodup : order.Nodup) (hord : Ordered w order) (ht : t ∈ order) :
    ∃ n, (levelNumbers (Graph.ofWorkflow w) order).find? t = some n ∧
      ∀ d, w.WaitsFor t d →
        ∃ m < n, (levelNumbers (Graph.ofWorkflow w) order).find? d = some m := by
  refine ⟨_, find?_levelNumbers hnodup hord ht, fun d hd => ?_⟩
  have hm := find?_levelNumbers hnodup hord (hord.mem_of_waitsFor ht hd)
  refine ⟨_, le_greatest (List.mem_map.mpr ⟨_, ?_, rfl⟩), hm⟩
  exact List.mem_filterMap.mpr ⟨d, mem_dependenciesOf_iff.mpr hd, hm⟩

/-- **A number is no greater than it has to be**: it is zero, or just above that of a dependency. -/
theorem number_eq_zero_or_succ {n : Nat} (hnodup : order.Nodup) (hord : Ordered w order)
    (ht : t ∈ order) (hn : (levelNumbers (Graph.ofWorkflow w) order).find? t = some n) :
    n = 0 ∨ ∃ d m, w.WaitsFor t d ∧ n = m + 1 ∧
      (levelNumbers (Graph.ofWorkflow w) order).find? d = some m := by
  rw [find?_levelNumbers hnodup hord ht, Option.some_inj] at hn
  rw [← hn]
  refine (greatest_eq_zero_or_mem _).imp_right fun hmem => ?_
  obtain ⟨m, hm, heq⟩ := List.mem_map.mp hmem
  obtain ⟨d, hd, hfind⟩ := List.mem_filterMap.mp hm
  exact ⟨d, m, mem_dependenciesOf_iff.mp hd, heq.symm, hfind⟩

/-! ## Levels as layers -/

/-- A task is in the level that its number names, and in no other. -/
theorem mem_level_iff {level : Level}
    (hlevel : level ∈ computeLevels (Graph.ofWorkflow w) order mode) :
    t ∈ level.tasks ↔ t ∈ w.taskIds ∧
      (levelNumbers (Graph.ofWorkflow w) order).find? t = some level.index := by
  obtain ⟨i, _, rfl⟩ := List.mem_map.mp hlevel
  simp

/-- The levels are as many as are needed for every number. -/
theorem number_lt_count {g : Graph} {n : Nat} (h : (levelNumbers g order).find? t = some n) :
    n < greatest ((levelNumbers g order).values.map (· + 1)) := by
  have hval : n ∈ (levelNumbers g order).values :=
    List.mem_map.mpr ⟨(t, n), NameMap.mem_entries_iff.mpr h, rfl⟩
  exact le_greatest (List.mem_map.mpr ⟨n, hval, rfl⟩)

/-- There is a level for every number. -/
theorem exists_level {n : Nat}
    (h : (levelNumbers (Graph.ofWorkflow w) order).find? t = some n) :
    ∃ level ∈ computeLevels (Graph.ofWorkflow w) order mode, level.index = n :=
  ⟨_, List.mem_map.mpr ⟨n, List.mem_range.mpr (number_lt_count h), rfl⟩, rfl⟩

theorem pairwise_index (g : Graph) (order : List TaskId) (mode : ExecutionMode) :
    (computeLevels g order mode).Pairwise fun a b => a.index < b.index := by
  rw [← List.pairwise_map, index_computeLevels]
  exact List.pairwise_lt_range

theorem nodup_tasks {level : Level}
    (hlevel : level ∈ computeLevels (Graph.ofWorkflow w) order mode) : level.tasks.Nodup := by
  obtain ⟨i, _, rfl⟩ := List.mem_map.mp hlevel
  exact (nodup_distinct _).filter _

/-- No task is in two levels, or twice in one. -/
theorem nodup_tasksOf_computeLevels (w : Workflow) (order : List TaskId) (mode : ExecutionMode) :
    (tasksOf (computeLevels (Graph.ofWorkflow w) order mode)).Nodup := by
  refine List.nodup_flatMap.mpr ⟨fun level => nodup_tasks, ?_⟩
  refine List.Pairwise.imp_of_mem ?_ (pairwise_index _ order mode)
  intro a b ha hb hlt t hta htb
  have hia := ((mem_level_iff ha).mp hta).2
  have hib := ((mem_level_iff hb).mp htb).2
  rw [hia] at hib
  exact Nat.ne_of_lt hlt (Option.some.inj hib)

/-- The tasks with numbers are those in the levels. -/
theorem mem_tasksOf_computeLevels : t ∈ tasksOf (computeLevels (Graph.ofWorkflow w) order mode) ↔
    t ∈ w.taskIds ∧ ∃ n, (levelNumbers (Graph.ofWorkflow w) order).find? t = some n := by
  constructor
  · intro ht
    obtain ⟨level, hlevel, ht⟩ := List.mem_flatMap.mp ht
    obtain ⟨hdeclared, hn⟩ := (mem_level_iff hlevel).mp ht
    exact ⟨hdeclared, _, hn⟩
  · rintro ⟨hdeclared, n, hn⟩
    obtain ⟨level, hlevel, rfl⟩ := exists_level hn
    exact List.mem_flatMap.mpr ⟨level, hlevel, (mem_level_iff hlevel).mpr ⟨hdeclared, hn⟩⟩

/-- **The levels of a topological order are layers.** -/
theorem layered_computeLevels (h : IsOrder w order) :
    Layered w (computeLevels (Graph.ofWorkflow w) order mode) := by
  refine ⟨nodup_tasksOf_computeLevels w order mode, fun t => ?_, ?_⟩
  · refine mem_tasksOf_computeLevels.trans (and_iff_left_of_imp fun ht => ?_)
    obtain ⟨n, hn, _⟩ := exists_number h.nodup h.ordered ((h.mem_iff t).mpr ht)
    exact ⟨n, hn⟩
  · intro past level later heq t ht d hd
    have hmem : level ∈ computeLevels (Graph.ofWorkflow w) order mode := by rw [heq]; simp
    obtain ⟨n, hn, hdeps⟩ := exists_number h.nodup h.ordered ((h.mem_iff t).mpr hd.1)
    obtain ⟨m, hm, hfind⟩ := hdeps d hd
    obtain rfl : level.index = n := by
      have hindex := ((mem_level_iff hmem).mp ht).2
      rw [hn] at hindex
      exact (Option.some.inj hindex).symm
    -- the level of the dependency has the smaller number, so it stands before
    obtain ⟨lower, hlower, rfl⟩ := exists_level hfind
    have hd' : d ∈ lower.tasks := (mem_level_iff hlower).mpr ⟨hd.2.1, hfind⟩
    have hpair := pairwise_index (Graph.ofWorkflow w) order mode
    rw [heq] at hpair hlower
    have hpair := (List.pairwise_append.mp hpair).2.1
    rcases List.mem_append.mp hlower with hpast | hrest
    · exact List.mem_flatMap.mpr ⟨lower, hpast, hd'⟩
    · rcases List.mem_cons.mp hrest with rfl | hlater
      · exact absurd hm (Nat.lt_irrefl _)
      · exact absurd hm (Nat.lt_asymm (List.rel_of_pairwise_cons hpair hlater))

/-! ## Plans -/

/-- What a successful schedule was made of. -/
theorem exists_order_of_schedule {p : Pool} {schedule : Schedule}
    (h : w.schedule p = .ok schedule) :
    ∃ order, (Graph.ofWorkflow w).topologicalOrder = .ok order ∧
      schedule.levels = computeLevels (Graph.ofWorkflow w) order w.metadata.mode := by
  unfold Workflow.schedule at h
  dsimp only at h
  split at h
  · cases h
  · next order horder =>
      split at h
      · cases h
      · split at h
        · cases h
        · cases h
          exact ⟨order, horder, rfl⟩

/-- A planned workflow passed validation. -/
theorem isValid_of_plan {p : Pool} {schedule : Schedule} (h : w.plan p = .ok schedule) :
    w.isValid = true ∧ w.schedule p = .ok schedule := by
  unfold Workflow.plan at h
  split at h
  · next hvalid => exact ⟨hvalid, h⟩
  · cases h

/-- **The levels of a schedule are layers**, validated or not. -/
theorem layered_of_schedule {p : Pool} {schedule : Schedule} (h : w.schedule p = .ok schedule) :
    Layered w schedule.levels := by
  obtain ⟨order, horder, hlevels⟩ := exists_order_of_schedule h
  rw [hlevels]
  exact layered_computeLevels (isOrder_of_topologicalOrder horder)

theorem layered_of_plan {p : Pool} {schedule : Schedule} (h : w.plan p = .ok schedule) :
    Layered w schedule.levels :=
  layered_of_schedule (isValid_of_plan h).2

end Foreman
