import Foreman.Proofs.Adjacency
import Foreman.Proofs.Depths

/-!
# `Foreman.Proofs.AnyOrder` — planning along any list of ids

Levels and critical paths are meant to be made along a topological order, but both are computed from any
list. Tasks may be missing from it, stand in it before what they wait for or several times, and ids may
be foreign to the graph; the graph may have cycles. Numbers of levels then exceed the number of tasks, and
times of different rounds are mixed in one table.

`bucketLevels` and `strictCriticalPath` are the two computations with look-ups that can fail: a task is put
into a bucket only if there is one, and a table is read only where it has an entry. They never fail there
and come to what `computeLevels` and `computeCriticalPath` come to (`bucketLevels_eq`,
`strictCriticalPath_eq`). What is left to fail is a sum of durations out of its range, and `SumOverflows`
says which sums are computed.
-/

namespace Foreman

open Workflow

variable {g : Graph} {w : Workflow} {numbers : NameMap Nat} {t u : TaskId}
  {durations starts : NameMap Duration} {total : Duration} {order placed ts : List TaskId}
  {mode : ExecutionMode} {n count : Nat}

/-! ## Look-ups that can fail -/

/-- What can go wrong when planning relies on its tables. -/
inductive TableFault where
  /-- A task is to be put into a bucket that does not exist. -/
  | noBucket (task : TaskId) (number : Nat)
  /-- A table has no entry for a task. -/
  | noEntry (task : TaskId)
  /-- A sum leaves its range. -/
  | overflow (sum : Overflow)
  deriving DecidableEq

/-- Puts a task into the bucket of its number; a task without a number goes into none. -/
def putTask (numbers : NameMap Nat) (buckets : List (List TaskId)) (t : TaskId) :
    Except TableFault (List (List TaskId)) :=
  match numbers.find? t with
  | none => .ok buckets
  | some n =>
    if n < buckets.length then .ok (buckets.modify n (· ++ [t])) else .error (.noBucket t n)

/-- The levels of an order, made by putting one task after the other into as many buckets as the greatest
    number asks for. -/
def bucketLevels (g : Graph) (order : List TaskId) (mode : ExecutionMode) :
    Except TableFault (List Level) := do
  let numbers := levelNumbers g order
  let count := greatest (numbers.values.map (· + 1))
  let buckets ← g.tasks.foldlM (putTask numbers) (List.replicate count [])
  return buckets.mapIdx fun index tasks =>
    { index, tasks, parallel := decide (mode = .parallel) && decide (1 < tasks.length) }

/-- The entry of a table for a task that must have one. -/
def entryOf (table : NameMap Duration) (t : TaskId) : Except TableFault Duration :=
  match table.find? t with
  | some d => .ok d
  | none => .error (.noEntry t)

/-- When a task ends that starts as the table says. -/
def strictEnd (durations starts : NameMap Duration) (t : TaskId) : Except TableFault Duration := do
  let start ← entryOf starts t
  (addDurations start (durationIn durations t)).mapError .overflow

/-- The timing of a task that has entries in both tables. -/
def strictTiming (durations starts finishes : NameMap Duration) (t : TaskId) :
    Except TableFault (TaskId × Timing) := do
  let start ← entryOf starts t
  let finish ← entryOf finishes t
  return (t, {
    earliestStart := start
    latestFinish := finish
    slack := (finish.satSub start).satSub (durationIn durations t) })

/-- The critical path of an order, made by reading the tables for one task after the other. -/
def strictCriticalPath (g : Graph) (order : List TaskId) (durations : NameMap Duration) :
    Except TableFault CriticalPath := do
  let starts ← (earliestStarts g durations order).mapError .overflow
  let total ← longest <$> order.mapM (strictEnd durations starts)
  let rows ← order.mapM (strictTiming durations starts (latestFinishes g durations total order))
  let critical := rows.filter fun e => e.2.slack = .zero
  return {
    tasks := (sortBy (fun e => e.2.earliestStart.nanos) critical).map Prod.fst
    duration := total
    timings := .ofList rows }

/-! ## Buckets -/

/-- An id has a number just if it stands in the list. -/
theorem exists_number_iff : (∃ n, (levelNumbers g order).find? t = some n) ↔ t ∈ order := by
  refine ⟨fun ⟨_, hn⟩ => mem_of_number hn, fun ht => ?_⟩
  induction order using List.reverseRecOn with
  | nil => cases ht
  | append_singleton order u ih =>
      rw [levelNumbers_snoc, NameMap.find?_insert]
      by_cases htu : t = u
      · exact ⟨_, if_pos htu⟩
      · rw [if_neg htu]
        exact ih ((List.mem_append.mp ht).resolve_right (by simpa using htu))

/-- Some tasks by their numbers below a bound. -/
def bucketsOf (numbers : NameMap Nat) (count : Nat) (ts : List TaskId) : List (List TaskId) :=
  (List.range count).map fun i => ts.filter fun t => numbers.find? t = some i

/-- There is a bucket for a task whose number is below the bound. -/
theorem putTask_bucketsOf (h : ∀ n, numbers.find? t = some n → n < count) (ts : List TaskId) :
    putTask numbers (bucketsOf numbers count ts) t = .ok (bucketsOf numbers count (ts ++ [t])) := by
  rw [putTask]
  cases hn : numbers.find? t with
  | none => simp [bucketsOf, hn]
  | some n =>
      have hbucket : n < (bucketsOf numbers count ts).length := by simpa [bucketsOf] using h n hn
      dsimp only
      rw [if_pos hbucket]
      refine congrArg _ (List.ext_getElem (by simp [bucketsOf]) fun i _ _ => ?_)
      by_cases hi : n = i <;> simp [bucketsOf, hn, hi]

/-- Putting tasks with numbers below the bound into their buckets never fails. -/
theorem foldlM_putTask (h : ∀ t n, numbers.find? t = some n → n < count) (done ts : List TaskId) :
    ts.foldlM (putTask numbers) (bucketsOf numbers count done) =
      .ok (bucketsOf numbers count (done ++ ts)) := by
  induction ts generalizing done with
  | nil => simp [pure, Except.pure]
  | cons t ts ih =>
      have hrest := ih (done ++ [t])
      rw [List.append_assoc, List.singleton_append] at hrest
      rw [List.foldlM_cons, putTask_bucketsOf (h t)]
      exact hrest

/-- **No task is put into a bucket that does not exist.** -/
theorem bucketLevels_eq (g : Graph) (order : List TaskId) (mode : ExecutionMode) :
    bucketLevels g order mode = .ok (computeLevels g order mode) := by
  have hempty : ∀ count, List.replicate count [] = bucketsOf (levelNumbers g order) count [] := by
    intro count
    simp [bucketsOf]
  rw [bucketLevels, hempty, foldlM_putTask fun t n => number_lt_count]
  refine congrArg Except.ok (List.ext_getElem (by simp [bucketsOf, computeLevels]) fun i _ _ => ?_)
  simp [bucketsOf, computeLevels]

/-- **What levels hold** along any list: what is both in the graph and in the list. -/
structure GroupsOrder (w : Workflow) (order : List TaskId) (levels : List Level) : Prop where
  indices : levels.map Level.index = List.range levels.length
  once : (tasksOf levels).Nodup
  mem_iff : ∀ t, t ∈ tasksOf levels ↔ t ∈ w.taskIds ∧ t ∈ order
  declaration : ∀ level ∈ levels, InDeclarationOrder w level.tasks

theorem groupsOrder_computeLevels (w : Workflow) (order : List TaskId) (mode : ExecutionMode) :
    GroupsOrder w order (computeLevels (Graph.ofWorkflow w) order mode) := by
  refine ⟨index_computeLevels .., nodup_tasksOf_computeLevels .., fun t => ?_, fun level hlevel => ?_⟩
  · rw [mem_tasksOf_computeLevels, exists_number_iff]
  · obtain ⟨i, -, rfl⟩ := List.mem_map.mp hlevel
    exact .of_sublist List.filter_sublist

/-- Tasks that wait for each other, along a list with a repetition and a foreign id. -/
example : (computeLevels (Graph.ofWorkflow
    ((({ id := "wf", name := "wf" } : Workflow).addTask { id := "a", name := "a" } ["b"]).addTask
      { id := "b", name := "b" } ["a"])) ["ghost", "a", "b", "a"] .sequential).map Level.tasks =
    [[], ["b"], ["a"]] := by decide

/-! ## Tables -/

/-- A task has an earliest start just if it stands in the list. -/
theorem exists_start_iff (h : earliestStarts g durations order = .ok starts) :
    (∃ d, starts.find? t = some d) ↔ t ∈ order := by
  induction order using List.reverseRecOn generalizing starts with
  | nil =>
      cases h
      exact iff_of_false (fun ⟨_, hd⟩ => nomatch hd) List.not_mem_nil
  | append_singleton order u ih =>
      obtain ⟨before, l, hbefore, -, rfl⟩ := earliestStarts_snoc_eq_ok_iff.mp h
      rw [NameMap.find?_insert, List.mem_append, List.mem_singleton]
      by_cases htu : t = u
      · simp [htu]
      · simp [htu, ih hbefore]

/-- A task has a latest finish just if it stands in the list. -/
theorem exists_finish_iff :
    (∃ f, (latestFinishes g durations total order).find? t = some f) ↔ t ∈ order := by
  induction order with
  | nil => exact iff_of_false (fun ⟨_, hf⟩ => nomatch hf) List.not_mem_nil
  | cons u order ih =>
      rw [latestFinishes_cons, NameMap.find?_insert, List.mem_cons]
      by_cases htu : t = u
      · simp [htu]
      · simp [htu, ih]

/-- Nothing has to be finished after the end. By induction on the list: the finish of a task is one of
    its dependents', less some time, or the end. -/
theorem finish_le {f : Duration}
    (h : (latestFinishes g durations total order).find? t = some f) : f ≤ total := by
  induction order generalizing t f with
  | nil => cases h
  | cons u order ih =>
      rw [latestFinishes_cons, NameMap.find?_insert] at h
      split at h
      · cases h
        rcases (shortestOf_spec total _).2 with ⟨-, hnone⟩ | hmem
        · exact Nat.le_of_eq (congrArg Duration.nanos hnone)
        · obtain ⟨d, -, hd⟩ := List.mem_map.mp hmem
          have hfinish : ((latestFinishes g durations total order).find? d).getD total ≤ total := by
            cases hfind : (latestFinishes g durations total order).find? d with
            | none => exact Nat.le_refl _
            | some f => exact ih hfind
          rw [latestFinish, ← hd]
          exact Nat.le_trans (Nat.sub_le _ _) hfinish
      · exact ih h

theorem entryOf_eq {table : NameMap Duration} (h : ∃ d, table.find? t = some d) :
    entryOf table t = .ok (durationIn table t) := by
  obtain ⟨d, hd⟩ := h
  rw [entryOf, durationIn, hd]
  rfl

/-- Two traversals that differ in how they report errors. -/
theorem mapM_mapError {α β ε ε' : Type} {f : α → Except ε β} {f' : α → Except ε' β} {φ : ε → ε'}
    {xs : List α} (h : ∀ x ∈ xs, f' x = (f x).mapError φ) :
    xs.mapM f' = (xs.mapM f).mapError φ := by
  induction xs with
  | nil => rfl
  | cons x xs ih =>
      rw [List.mapM_cons, List.mapM_cons, h x (List.mem_cons_self ..),
        ih fun y hy => h y (List.mem_cons_of_mem x hy)]
      cases f x with
      | error e => rfl
      | ok y => cases xs.mapM f <;> rfl

/-- **No table is read where it has no entry.** -/
theorem strictCriticalPath_eq (g : Graph) (order : List TaskId) (durations : NameMap Duration) :
    strictCriticalPath g order durations =
      (computeCriticalPath g order durations).mapError .overflow := by
  rw [computeCriticalPath_eq, strictCriticalPath]
  cases hstarts : earliestStarts g durations order with
  | error o => rfl
  | ok starts =>
      have hstart : ∀ t ∈ order, entryOf starts t = .ok (durationIn starts t) := fun t ht =>
        entryOf_eq ((exists_start_iff hstarts).mpr ht)
      have hends : order.mapM (strictEnd durations starts) =
          (order.mapM (earliestEnd durations starts)).mapError .overflow := by
        refine mapM_mapError fun t ht => ?_
        rw [strictEnd, hstart t ht]
        rfl
      have hrows : ∀ total,
          order.mapM (strictTiming durations starts (latestFinishes g durations total order)) =
            .ok (order.map fun t =>
              (t, timingOf durations starts (latestFinishes g durations total order) t)) := by
        refine fun total => mapM_of_ok fun t ht => ?_
        rw [strictTiming, hstart t ht, entryOf_eq (exists_finish_iff.mpr ht)]
        rfl
      show (longest <$> order.mapM (strictEnd durations starts) >>= _) =
        ((longest <$> order.mapM (earliestEnd durations starts)).map _).mapError _
      rw [hends]
      cases order.mapM (earliestEnd durations starts) with
      | error o => rfl
      | ok ends =>
          show (order.mapM (strictTiming durations starts
            (latestFinishes g durations (longest ends) order)) >>= _) = _
          rw [hrows]
          show Except.ok _ = Except.ok _
          rw [List.filter_map, sortBy_map, List.map_map]
          simp [pathOf, tabulate, Function.comp_def]

/-- **What a critical path says** along any list. -/
structure TimesOrder (order : List TaskId) (path : CriticalPath) : Prop where
  keys : ∀ t, t ∈ path.timings.keys ↔ t ∈ order
  /-- A task is critical just if the slack that is recorded for it is zero. -/
  critical : ∀ t, t ∈ path.tasks ↔ ∃ timing, path.timings.find? t = some timing ∧ timing.slack = .zero
  /-- It is listed as often as it stands in the list. -/
  count : ∀ t ∈ path.tasks, path.tasks.count t = order.count t
  inTime : ∀ t timing, path.timings.find? t = some timing → timing.latestFinish ≤ path.duration

theorem timesOrder_of_criticalPath {path : CriticalPath}
    (h : computeCriticalPath g order durations = .ok path) : TimesOrder order path := by
  obtain ⟨starts, total, -, -, rfl⟩ := computeCriticalPath_eq_ok_iff.mp h
  refine ⟨fun t => mem_keys_pathOf, fun t => mem_tasks_pathOf, fun t ht => ?_, fun t timing h => ?_⟩
  · have hzero := (List.mem_filter.mp (mem_sortBy.mp ht)).2
    exact ((sortBy_perm _ _).count_eq t).trans (List.count_filter hzero)
  · rw [find?_pathOf] at h
    split at h
    · next ht =>
        cases h
        have hentry : ∃ f, (latestFinishes g durations total order).find? t = some f :=
          exists_finish_iff.mpr ht
        obtain ⟨f, hf⟩ := hentry
        have hlatest : durationIn (latestFinishes g durations total order) t = f := by
          rw [durationIn, hf, Option.getD_some]
        show durationIn (latestFinishes g durations total order) t ≤ total
        rw [hlatest]
        exact finish_le hf
    · cases h

/-! ## Sums out of range -/

/-- The end of a task that starts as early as it can would be out of range. -/
def EndOverflows (durations starts : NameMap Duration) (t : TaskId) : Prop :=
  maxNanos < (durationIn starts t).nanos + (durationIn durations t).nanos

/-- **A sum out of range among those that are computed along a list.** The ends of all dependencies of an
    id are computed once the ids before it have their starts, and in the end those of all ids. -/
def SumOverflows (g : Graph) (durations : NameMap Duration) (order : List TaskId) : Prop :=
  (∃ before u after starts, order = before ++ u :: after ∧
    earliestStarts g durations before = .ok starts ∧
    ∃ d ∈ g.dependenciesOf u, EndOverflows durations starts d) ∨
  ∃ starts, earliestStarts g durations order = .ok starts ∧ ∃ t ∈ order, EndOverflows durations starts t

/-- The latest of some ends fails just for one that is out of range. -/
theorem longest_end_eq_error_iff {us : List TaskId} {o : Overflow} :
    longest <$> us.mapM (earliestEnd durations starts) = .error o ↔
      o = .durations ∧ ∃ u ∈ us, EndOverflows durations starts u := by
  have herror : ∀ o, us.mapM (earliestEnd durations starts) = .error o →
      o = .durations ∧ ∃ u ∈ us, EndOverflows durations starts u := by
    intro o h
    obtain ⟨u, hu, hend⟩ := exists_of_mapM_eq_error h
    obtain ⟨ho, hlt⟩ := addDurations_eq_error_iff.mp hend
    exact ⟨ho, u, hu, hlt⟩
  cases hends : us.mapM (earliestEnd durations starts) with
  | error o' =>
      obtain ⟨rfl, hover⟩ := herror o' hends
      constructor
      · intro h
        cases h
        exact ⟨rfl, hover⟩
      · rintro ⟨rfl, -⟩
        rfl
  | ok ends =>
      refine iff_of_false (fun h => nomatch h) ?_
      rintro ⟨-, u, hu, hlt⟩
      obtain ⟨l, hl⟩ := exists_of_mapM_eq_ok hends u hu
      have hfail : earliestEnd durations starts u = .error .durations :=
        addDurations_eq_error_iff.mpr ⟨rfl, hlt⟩
      rw [hfail] at hl
      cases hl

/-- Starts that cannot be computed stay so when the list goes on. -/
theorem earliestStarts_append_eq_error {o : Overflow} (h : earliestStarts g durations placed = .error o)
    (after : List TaskId) : earliestStarts g durations (placed ++ after) = .error o := by
  rw [earliestStarts, List.foldlM_append, ← earliestStarts, h]
  rfl

/-- The forward pass fails just for a sum out of range. By induction on the list from its end. -/
theorem earliestStarts_eq_error_iff {o : Overflow} :
    earliestStarts g durations order = .error o ↔
      o = .durations ∧ ∃ before u after starts, order = before ++ u :: after ∧
        earliestStarts g durations before = .ok starts ∧
        ∃ d ∈ g.dependenciesOf u, EndOverflows durations starts d := by
  constructor
  · intro h
    induction order using List.reverseRecOn with
    | nil => cases h
    | append_singleton order u ih =>
        rw [earliestStarts_snoc] at h
        cases hstarts : earliestStarts g durations order with
        | error o' =>
            rw [hstarts] at h
            cases h
            obtain ⟨ho, before, v, after, starts, rfl, hover⟩ := ih hstarts
            exact ⟨ho, before, v, after ++ [u], starts, by simp, hover⟩
        | ok starts =>
            rw [hstarts] at h
            cases hl : earliestStart g durations starts u with
            | error o' =>
                simp only [Except.bind, hl, Except.map] at h
                cases h
                obtain ⟨ho, hover⟩ := longest_end_eq_error_iff.mp hl
                exact ⟨ho, order, u, [], starts, rfl, hstarts, hover⟩
            | ok l => simp [Except.bind, hl, Except.map] at h
  · rintro ⟨rfl, before, u, after, starts, rfl, hstarts, hover⟩
    have hl : earliestStart g durations starts u = .error .durations :=
      longest_end_eq_error_iff.mpr ⟨rfl, hover⟩
    have hfail : earliestStarts g durations (before ++ [u]) = .error .durations := by
      rw [earliestStarts_snoc, hstarts]
      show Except.map _ (earliestStart g durations starts u) = _
      rw [hl]
      rfl
    have hrest := earliestStarts_append_eq_error hfail after
    rwa [List.append_assoc, List.singleton_append] at hrest

/-- **A critical path fails just for a sum of durations out of range.** -/
theorem computeCriticalPath_eq_error_iff {o : Overflow} :
    computeCriticalPath g order durations = .error o ↔
      o = .durations ∧ SumOverflows g durations order := by
  rw [computeCriticalPath_eq, SumOverflows]
  cases hstarts : earliestStarts g durations order with
  | error o' =>
      obtain ⟨rfl, hover⟩ := earliestStarts_eq_error_iff.mp hstarts
      constructor
      · intro h
        cases h
        exact ⟨rfl, Or.inl hover⟩
      · rintro ⟨rfl, -⟩
        rfl
  | ok starts =>
      have hforward : ¬ ∃ before u after starts, order = before ++ u :: after ∧
          earliestStarts g durations before = .ok starts ∧
          ∃ d ∈ g.dependenciesOf u, EndOverflows durations starts d := fun hover => by
        rw [earliestStarts_eq_error_iff.mpr ⟨rfl, hover⟩] at hstarts
        cases hstarts
      have hends : (makespan durations starts order).map (pathOf g order durations starts) = .error o ↔
          makespan durations starts order = .error o := by
        cases makespan durations starts order <;> simp [Except.map]
      show (makespan durations starts order).map _ = _ ↔ _
      rw [hends, makespan, longest_end_eq_error_iff, or_iff_right hforward]
      simp

/-! ## Results -/

/-- **Planning is total on any list of ids**, topological or not, with repetitions or foreign ids, along
    any graph. Levels are made without missing a bucket. They are numbered from zero, and together they
    hold what is both in the graph and in the list, once and in the order of declaration. Critical paths
    are made without missing an entry. The ids with timings are those of the list, the critical ones
    among them those without slack, and nothing has to be finished after the end. What can fail is a sum
    of durations that is out of range, and then there is one. -/
theorem planning_is_total (w : Workflow) (order : List TaskId) (mode : ExecutionMode)
    (durations : NameMap Duration) :
    (bucketLevels (Graph.ofWorkflow w) order mode = .ok (computeLevels (Graph.ofWorkflow w) order mode) ∧
      GroupsOrder w order (computeLevels (Graph.ofWorkflow w) order mode)) ∧
    strictCriticalPath (Graph.ofWorkflow w) order durations =
      (computeCriticalPath (Graph.ofWorkflow w) order durations).mapError .overflow ∧
    ((∃ path, computeCriticalPath (Graph.ofWorkflow w) order durations = .ok path ∧
        TimesOrder order path) ∨
      computeCriticalPath (Graph.ofWorkflow w) order durations = .error .durations ∧
        SumOverflows (Graph.ofWorkflow w) durations order) := by
  refine ⟨⟨bucketLevels_eq .., groupsOrder_computeLevels ..⟩, strictCriticalPath_eq .., ?_⟩
  cases hpath : computeCriticalPath (Graph.ofWorkflow w) order durations with
  | error o =>
      obtain ⟨rfl, hover⟩ := computeCriticalPath_eq_error_iff.mp hpath
      exact Or.inr ⟨rfl, hover⟩
  | ok path => exact Or.inl ⟨path, rfl, timesOrder_of_criticalPath hpath⟩

end Foreman
