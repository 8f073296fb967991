import Foreman.Proofs.CriticalPath

/-!
# `Foreman.Proofs.Depths` — levels are depths in the known graph

Level numbers are filled in along some topological order, and the tasks are then grouped in the order of
their declaration. What comes out depends on neither: the level of a task is its `Depth`, the number of
edges on the longest chain that ends in it. `ByDepth` says so without orders and tables.

A numbering that puts dependencies strictly below is `Stratified`. No chain is longer than such a
numbering allows (`Chain.length_le`), so depths are the least one. The numbers of an order are stratified,
and each is zero or just above that of a dependency; so they are depths, they leave no gaps, and the
greatest one is that of the longest chain of all.
-/

namespace Foreman

open Workflow

variable {w : Workflow} {t d u : TaskId} {ts order : List TaskId} {mode : ExecutionMode}
  {P : List TaskId → Prop} {m n i : Nat} {number : TaskId → Nat}

/-! ## Depths -/

namespace Workflow

/-- **`n` is the number of tasks on the longest chain with a property.** -/
structure LongestChain (w : Workflow) (P : List TaskId → Prop) (n : Nat) : Prop where
  bound : ∀ ts, w.Chain ts → P ts → ts.length ≤ n
  attained : ∃ ts, w.Chain ts ∧ P ts ∧ ts.length = n

/-- **The depth of a task**: the longest chain that ends in it has `n` edges. -/
def Depth (w : Workflow) (t : TaskId) (n : Nat) : Prop :=
  w.LongestChain (fun ts => ts.getLast? = some t) (n + 1)

/-- Numbers that put what a task waits for strictly below it. -/
def Stratified (w : Workflow) (number : TaskId → Nat) : Prop :=
  ∀ t d, w.WaitsFor t d → number d < number t

theorem LongestChain.unique (hm : w.LongestChain P m) (hn : w.LongestChain P n) : m = n := by
  obtain ⟨us, hus, hPu, hlenu⟩ := hm.attained
  obtain ⟨vs, hvs, hPv, hlenv⟩ := hn.attained
  have hle := hn.bound us hus hPu
  have hge := hm.bound vs hvs hPv
  omega

theorem Depth.unique (hm : w.Depth t m) (hn : w.Depth t n) : m = n :=
  Nat.succ.inj (LongestChain.unique hm hn)

/-- Only a declared task has a depth. -/
theorem Depth.declared (h : w.Depth t n) : t ∈ w.taskIds := by
  obtain ⟨ts, hts, hlast, -⟩ := h.attained
  exact hts.declared t (List.mem_of_getLast? hlast)

/-- A chain and one task more. -/
theorem Chain.snoc_iff : w.Chain (ts ++ [t]) ↔
    t ∈ w.taskIds ∧ w.Chain ts ∧ (ts = [] ∨ w.EndsBelow t ts) := by
  constructor
  · intro h
    have ht : t ∈ w.taskIds := h.declared t (by simp)
    exact ⟨ht, ((Chain.through_iff ht).mp h).1⟩
  · rintro ⟨ht, hts⟩
    exact (Chain.through_iff ht).mpr ⟨hts, .nil w, Or.inl rfl⟩

/-- **No chain is longer than a stratified numbering allows.** -/
theorem Chain.length_le (h : w.Stratified number) (hts : w.Chain (ts ++ [t])) :
    ts.length ≤ number t := by
  induction ts using List.reverseRecOn generalizing t with
  | nil => exact Nat.zero_le _
  | append_singleton ts d ih =>
      obtain ⟨-, hchain, hbelow⟩ := Chain.snoc_iff.mp hts
      obtain ⟨d', hwaits, hlast⟩ := hbelow.resolve_left (by simp)
      obtain rfl : d = d' := by simpa using hlast
      have hle := ih hchain
      have hlt := h t d hwaits
      rw [List.length_append, List.length_singleton]
      omega

/-- **The depths are the least stratified numbering.** -/
theorem Depth.le (hdepth : w.Depth t n) (h : w.Stratified number) : n ≤ number t := by
  obtain ⟨ts, hts, hlast, hlen⟩ := hdepth.attained
  obtain ⟨init, rfl⟩ := List.getLast?_eq_some_iff.mp hlast
  have hle := hts.length_le h
  rw [List.length_append, List.length_singleton] at hlen
  omega

end Workflow

/-! ## Numbers are depths -/

/-- The number of a task in the table of an order. -/
def numberOf (w : Workflow) (order : List TaskId) (t : TaskId) : Nat :=
  ((levelNumbers (Graph.ofWorkflow w) order).find? t).getD 0

/-- Only the tasks of the order get a number. -/
theorem mem_of_number {g : Graph} (h : (levelNumbers g order).find? t = some n) : t ∈ order := by
  induction order using List.reverseRecOn with
  | nil => cases h
  | append_singleton order u ih =>
      rw [levelNumbers_snoc, NameMap.find?_insert] at h
      split at h
      · next heq => simp [heq]
      · exact List.mem_append_left _ (ih h)

theorem stratified_numberOf (h : IsOrder w order) : w.Stratified (numberOf w order) := by
  intro t d hd
  obtain ⟨n, hn, hdeps⟩ := exists_number h.nodup h.ordered ((h.mem_iff t).mpr hd.1)
  obtain ⟨m, hm, hfind⟩ := hdeps d hd
  rw [numberOf, numberOf, hn, hfind]
  exact hm

/-- There is a chain that a number counts: down from dependency to dependency, each just below. -/
theorem exists_chain_of_number (h : IsOrder w order)
    (hn : (levelNumbers (Graph.ofWorkflow w) order).find? t = some n) :
    ∃ ts, w.Chain (ts ++ [t]) ∧ ts.length = n := by
  induction n generalizing t with
  | zero =>
      have ht : t ∈ w.taskIds := (h.mem_iff t).mp (mem_of_number hn)
      exact ⟨[], Chain.snoc_iff.mpr ⟨ht, .nil w, Or.inl rfl⟩, rfl⟩
  | succ n ih =>
      have hzero := number_eq_zero_or_succ h.nodup h.ordered (mem_of_number hn) hn
      obtain ⟨d, m, hd, heq, hm⟩ := hzero.resolve_left (Nat.succ_ne_zero n)
      obtain rfl : n = m := Nat.succ.inj heq
      obtain ⟨ts, hts, hlen⟩ := ih hm
      refine ⟨ts ++ [d], Chain.snoc_iff.mpr ⟨hd.1, hts, Or.inr ⟨d, hd, by simp⟩⟩, ?_⟩
      rw [List.length_append, hlen, List.length_singleton]

/-- **The numbers of a topological order are the depths.** -/
theorem depth_of_number (h : IsOrder w order)
    (hn : (levelNumbers (Graph.ofWorkflow w) order).find? t = some n) : w.Depth t n := by
  refine ⟨fun ts hts hlast => ?_, ?_⟩
  · obtain ⟨init, rfl⟩ := List.getLast?_eq_some_iff.mp hlast
    have hle := hts.length_le (stratified_numberOf h)
    rw [numberOf, hn, Option.getD_some] at hle
    rw [List.length_append, List.length_singleton]
    omega
  · obtain ⟨ts, hts, hlen⟩ := exists_chain_of_number h hn
    exact ⟨ts ++ [t], hts, by simp, by simp [hlen]⟩

theorem find?_levelNumbers_iff (h : IsOrder w order) :
    (levelNumbers (Graph.ofWorkflow w) order).find? t = some n ↔ w.Depth t n := by
  refine ⟨depth_of_number h, fun hdepth => ?_⟩
  obtain ⟨m, hm, -⟩ := exists_number h.nodup h.ordered ((h.mem_iff t).mpr hdepth.declared)
  rw [hm, hdepth.unique (depth_of_number h hm)]

/-- Below a task there is one of each lesser depth. -/
theorem exists_depth_of_le (h : IsOrder w order) (hdepth : w.Depth t n) (hi : i ≤ n) :
    ∃ u, w.Depth u i := by
  induction n generalizing t with
  | zero => exact ⟨t, Nat.le_zero.mp hi ▸ hdepth⟩
  | succ n ih =>
      rcases Nat.lt_or_eq_of_le hi with hlt | rfl
      · have hn := (find?_levelNumbers_iff h).mpr hdepth
        have hzero := number_eq_zero_or_succ h.nodup h.ordered (mem_of_number hn) hn
        obtain ⟨d, m, -, heq, hm⟩ := hzero.resolve_left (Nat.succ_ne_zero n)
        obtain rfl : n = m := Nat.succ.inj heq
        exact ih (depth_of_number h hm) (Nat.le_of_lt_succ hlt)
      · exact ⟨t, hdepth⟩

/-! ## Levels by depth -/

/-- **What the levels of a plan are**, whatever order they were made along. -/
structure ByDepth (w : Workflow) (mode : ExecutionMode) (levels : List Level) : Prop where
  /-- There are as many levels as there are tasks on the longest chain. -/
  count : w.LongestChain (fun _ => True) levels.length
  indices : levels.map Level.index = List.range levels.length
  /-- The tasks of a level are those of its depth. -/
  mem_iff : ∀ level ∈ levels, ∀ t, t ∈ level.tasks ↔ w.Depth t level.index
  /-- Tasks of one level stand in the order of their declaration. -/
  declaration : ∀ level ∈ levels, level.tasks.Pairwise fun a b => w.taskIds.idxOf a < w.taskIds.idxOf b
  nonempty : ∀ level ∈ levels, level.tasks ≠ []
  parallel : ∀ level ∈ levels, level.parallel = true ↔ mode = .parallel ∧ 1 < level.tasks.length

/-- There are as many levels as there are tasks on the longest chain. -/
theorem longestChain_computeLevels (h : IsOrder w order) :
    w.LongestChain (fun _ => True) (computeLevels (Graph.ofWorkflow w) order mode).length := by
  rw [computeLevels, List.length_map, List.length_range]
  refine ⟨fun ts hts _ => ?_, ?_⟩
  · rcases List.eq_nil_or_concat' ts with rfl | ⟨init, t, rfl⟩
    · exact Nat.zero_le _
    · -- the chain ends in a task, and the number of that task is one of the table
      have ht : t ∈ order := (h.mem_iff t).mpr (Chain.snoc_iff.mp hts).1
      obtain ⟨n, hn, -⟩ := exists_number h.nodup h.ordered ht
      exact Nat.le_trans ((depth_of_number h hn).bound _ hts (by simp)) (number_lt_count hn)
  · rcases greatest_eq_zero_or_mem
      ((levelNumbers (Graph.ofWorkflow w) order).values.map (· + 1)) with hzero | hmem
    · exact ⟨[], .nil w, trivial, hzero.symm⟩
    · obtain ⟨n, hvalue, heq⟩ := List.mem_map.mp hmem
      obtain ⟨⟨t, n'⟩, hentry, rfl⟩ := List.mem_map.mp hvalue
      have hn := NameMap.mem_entries_iff.mp hentry
      obtain ⟨ts, hts, -, hlen⟩ := (depth_of_number h hn).attained
      exact ⟨ts, hts, trivial, hlen.trans heq⟩

/-- The longest chain passes through all depths. -/
theorem Workflow.LongestChain.exists_depth (hlongest : w.LongestChain (fun _ => True) n)
    (h : IsOrder w order) (hi : i < n) : ∃ u, w.Depth u i := by
  obtain ⟨ts, hts, -, hlen⟩ := hlongest.attained
  obtain ⟨init, t, rfl⟩ := (List.eq_nil_or_concat' ts).resolve_left
    (List.ne_nil_of_length_pos (by omega))
  obtain ⟨m, hm, -⟩ := exists_number h.nodup h.ordered ((h.mem_iff t).mpr (Chain.snoc_iff.mp hts).1)
  have hle := (depth_of_number h hm).bound _ hts (by simp)
  exact exists_depth_of_le h (depth_of_number h hm) (by omega)

/-- **Levels are made by depth**, along whatever topological order. -/
theorem byDepth_computeLevels (h : IsOrder w order) :
    ByDepth w mode (computeLevels (Graph.ofWorkflow w) order mode) := by
  have hmem : ∀ level ∈ computeLevels (Graph.ofWorkflow w) order mode, ∀ t,
      t ∈ level.tasks ↔ w.Depth t level.index := by
    intro level hlevel t
    rw [mem_level_iff hlevel, find?_levelNumbers_iff h]
    exact and_iff_right_of_imp Depth.declared
  refine ⟨longestChain_computeLevels h, index_computeLevels .., hmem, ?_, ?_, ?_⟩
  · rintro level hlevel
    obtain ⟨i, -, rfl⟩ := List.mem_map.mp hlevel
    exact (pairwise_idxOf_distinct _).filter _
  · intro level hlevel hnil
    have hindex : level.index < (computeLevels (Graph.ofWorkflow w) order mode).length := by
      rw [← List.mem_range, ← index_computeLevels]
      exact List.mem_map_of_mem hlevel
    obtain ⟨u, hu⟩ := (longestChain_computeLevels h).exists_depth h hindex
    have hmem' := (hmem level hlevel u).mpr hu
    rw [hnil] at hmem'
    cases hmem'
  · intro level hlevel
    obtain ⟨i, -, rfl⟩ := List.mem_map.mp hlevel
    exact (Bool.and_eq_true_iff).trans (and_congr decide_eq_true_iff decide_eq_true_iff)

/-! ## Where tasks are placed -/

/-- **Where levels place tasks.** Every task once, above everything it waits for and just above some of
    it, and no higher than any other placement with that property. -/
structure PlacedByDepth (w : Workflow) (levels : List Level) : Prop where
  once : (tasksOf levels).Nodup
  all : ∀ t, t ∈ tasksOf levels ↔ t ∈ w.taskIds
  below : ∀ level ∈ levels, ∀ t ∈ level.tasks, ∀ d, w.WaitsFor t d →
    ∃ lower ∈ levels, d ∈ lower.tasks ∧ lower.index < level.index
  justBelow : ∀ level ∈ levels, ∀ t ∈ level.tasks, (∃ d, w.WaitsFor t d) →
    ∃ d, w.WaitsFor t d ∧ ∃ lower ∈ levels, d ∈ lower.tasks ∧ lower.index + 1 = level.index
  least : ∀ number, w.Stratified number →
    ∀ level ∈ levels, ∀ t ∈ level.tasks, level.index ≤ number t

theorem placedByDepth_computeLevels (h : IsOrder w order) :
    PlacedByDepth w (computeLevels (Graph.ofWorkflow w) order mode) := by
  have hlayered : Layered w (computeLevels (Graph.ofWorkflow w) order mode) := layered_computeLevels h
  -- whatever has a number stands in the level of that number
  have hlower : ∀ d m, (levelNumbers (Graph.ofWorkflow w) order).find? d = some m →
      ∃ lower ∈ computeLevels (Graph.ofWorkflow w) order mode, d ∈ lower.tasks ∧ lower.index = m := by
    intro d m hm
    obtain ⟨lower, hlower, hindex⟩ := exists_level hm
    have hd : d ∈ w.taskIds := (h.mem_iff d).mp (mem_of_number hm)
    exact ⟨lower, hlower, (mem_level_iff hlower).mpr ⟨hd, hindex ▸ hm⟩, hindex⟩
  have hbelow : ∀ level ∈ computeLevels (Graph.ofWorkflow w) order mode, ∀ t ∈ level.tasks,
      ∀ d, w.WaitsFor t d → ∃ lower ∈ computeLevels (Graph.ofWorkflow w) order mode,
        d ∈ lower.tasks ∧ lower.index < level.index := by
    intro level hlevel t ht d hd
    have hn := ((mem_level_iff hlevel).mp ht).2
    obtain ⟨n, hn', hdeps⟩ := exists_number h.nodup h.ordered (mem_of_number hn)
    obtain rfl : level.index = n := Option.some.inj (hn.symm.trans hn')
    obtain ⟨m, hlt, hm⟩ := hdeps d hd
    obtain ⟨lower, hmem, hin, rfl⟩ := hlower d m hm
    exact ⟨lower, hmem, hin, hlt⟩
  refine ⟨hlayered.nodup, hlayered.mem_iff, hbelow, ?_, ?_⟩
  · rintro level hlevel t ht ⟨d, hd⟩
    have hn := ((mem_level_iff hlevel).mp ht).2
    rcases number_eq_zero_or_succ h.nodup h.ordered (mem_of_number hn) hn with hzero | hsucc
    · obtain ⟨lower, -, -, hlt⟩ := hbelow level hlevel t ht d hd
      omega
    · obtain ⟨d, m, hd, heq, hm⟩ := hsucc
      obtain ⟨lower, hmem, hin, rfl⟩ := hlower d m hm
      exact ⟨d, hd, lower, hmem, hin, heq.symm⟩
  · intro number hnumber level hlevel t ht
    exact (depth_of_number h ((mem_level_iff hlevel).mp ht).2).le hnumber

/-- **Levels are longest-chain depths.** Along every topological order and in every mode, there are as
    many levels as there are tasks on the longest dependency chain, numbered from zero; none is empty,
    and each holds the tasks whose longest chain has as many edges, in the order of their declaration.
    So every task is placed once, above all and just above some of what it waits for, and as low as it
    can be. -/
theorem computeLevels_follow_depths (h : IsOrder w order) (mode : ExecutionMode) :
    ByDepth w mode (computeLevels (Graph.ofWorkflow w) order mode) ∧
      PlacedByDepth w (computeLevels (Graph.ofWorkflow w) order mode) :=
  ⟨byDepth_computeLevels h, placedByDepth_computeLevels h⟩

/-- The fork, along the order in which the long way comes first. -/
theorem computeLevels_follow_depths_fork :
    ∃ levels, computeLevels (Graph.ofWorkflow fork) ["start", "long", "short", "end"] .parallel = levels ∧
      levels.map Level.tasks = [["start"], ["short", "long"], ["end"]] ∧
      levels.map Level.parallel = [false, true, false] ∧
      ByDepth fork .parallel levels ∧ PlacedByDepth fork levels :=
  ⟨_, rfl, by decide +kernel, by decide +kernel,
    computeLevels_follow_depths isOrder_fork.2 .parallel⟩

end Foreman
