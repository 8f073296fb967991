import Foreman.Proofs.Chains
import Foreman.Proofs.Levels

/-!
# `Foreman.Proofs.CriticalPath` — timings are quantities of longest chains

The critical path is computed by two passes along a topological order. `OfChains` says what comes out
of them, without passes and without an order: every duration is a greatest weight of chains, or what
it leaves of the total.

* **Forward**: the earliest start of a task is the weight of the heaviest chain that ends below it
  (`exists_earliestStarts`, by induction on the order from its end). No sum leaves its range, since
  every sum is the weight of a chain.
* **Backward**: the latest finish and the heaviest chain that starts above a task add up to the total
  (`latestFinishes_spec`, by induction on the order from its beginning). So no difference is cut off.

That determines all timings, hence they do not depend on the order (`OfChains.sameUpToTies`).
-/

namespace Foreman

open Workflow

variable {w : Workflow} {durations starts finishes : NameMap Duration} {total : Duration}
  {t u d : TaskId} {us order placed before after : List TaskId} {n : Nat}
  {P : TaskId → List TaskId → Prop}

/-! ## Greatest and least durations -/

theorem nanos_longest (ds : List Duration) : (longest ds).nanos = greatest (ds.map Duration.nanos) := by
  have key : ∀ (ds : List Duration) (a : Duration),
      (ds.foldl Duration.maxOf a).nanos = (ds.map Duration.nanos).foldl Nat.max a.nanos := by
    intro ds
    induction ds with
    | nil => exact fun _ => rfl
    | cons d ds ih =>
        intro a
        have hmax : (Duration.maxOf a d).nanos = Nat.max a.nanos d.nanos := by
          unfold Duration.maxOf
          split
          · next hle => exact (Nat.max_eq_right hle).symm
          · next hle => exact (Nat.max_eq_left (Nat.le_of_not_le hle)).symm
        rw [List.foldl_cons, ih, hmax, List.map_cons, List.foldl_cons]
  exact key ds .zero

theorem foldl_min_spec (ds : List Duration) (a : Duration) :
    (∀ d ∈ a :: ds, ds.foldl Duration.min a ≤ d) ∧ ds.foldl Duration.min a ∈ a :: ds := by
  induction ds generalizing a with
  | nil => exact ⟨fun d hd => by simp [List.mem_singleton.mp hd, Duration.le_def], by simp⟩
  | cons b ds ih =>
      obtain ⟨hle, hmem⟩ := ih (Duration.min a b)
      have hmin := hle (Duration.min a b) (List.mem_cons_self ..)
      rw [List.foldl_cons]
      refine ⟨fun d hd => ?_, ?_⟩
      · rcases List.mem_cons.mp hd with rfl | hd
        · exact Nat.le_trans hmin (Duration.min_le_left ..)
        · rcases List.mem_cons.mp hd with rfl | hd
          · exact Nat.le_trans hmin (Duration.min_le_right ..)
          · exact hle d (List.mem_cons_of_mem _ hd)
      · rcases List.mem_cons.mp hmem with h | h
        · rw [h, Duration.min]
          split <;> simp
        · simp [h]

/-- The least of some durations is one of them, or the bound if there is none. -/
theorem shortestOf_spec (bound : Duration) (ds : List Duration) :
    (∀ d ∈ ds, shortestOf bound ds ≤ d) ∧ (ds = [] ∧ shortestOf bound ds = bound ∨
      shortestOf bound ds ∈ ds) := by
  cases ds with
  | nil => exact ⟨fun d hd => absurd hd (by simp), Or.inl ⟨rfl, rfl⟩⟩
  | cons d ds => exact ⟨(foldl_min_spec ds d).1, Or.inr (foldl_min_spec ds d).2⟩

/-- The heaviest chain of several kinds. -/
theorem Heaviest.sup {f : TaskId → Nat} (h : ∀ u ∈ us, Heaviest w durations (P u) (f u))
    (hle : ∀ u ∈ us, f u ≤ n) (hmem : n = 0 ∨ ∃ u ∈ us, f u = n) :
    Heaviest w durations (fun ts => ∃ u ∈ us, P u ts) n := by
  refine ⟨?_, ?_⟩
  · rintro ts hts ⟨u, hu, hP⟩
    exact Nat.le_trans ((h u hu).bound ts hts hP) (hle u hu)
  · rcases hmem with hzero | ⟨u, hu, rfl⟩
    · exact Or.inl hzero
    · refine (h u hu).attained.imp_right ?_
      rintro ⟨ts, hts, hP, heq⟩
      exact ⟨ts, hts, ⟨u, hu, hP⟩, heq⟩

/-- Each chain that ends somewhere ends in a declared task, and all do but the empty one. -/
theorem Heaviest.all (horder : ∀ t, t ∈ order ↔ t ∈ w.taskIds)
    (h : Heaviest w durations (fun ts => ∃ u ∈ order, ts.getLast? = some u) n) :
    Heaviest w durations (fun _ => True) n := by
  refine ⟨fun ts hts _ => ?_, h.attained.imp_right fun ⟨ts, hts, _, heq⟩ => ⟨ts, hts, trivial, heq⟩⟩
  rcases List.eq_nil_or_concat' ts with rfl | ⟨init, u, rfl⟩
  · exact Nat.zero_le n
  · exact h.bound _ hts ⟨u, (horder u).mpr (hts.declared u (by simp)), by simp⟩

/-! ## Forward -/

/-- Weights of chains are durations. -/
def WeightsFit (w : Workflow) (durations : NameMap Duration) : Prop :=
  ∀ ts, w.Chain ts → weight durations ts ≤ maxNanos

/-- If all tasks together fit, so do all chains. -/
theorem weightsFit_of_le (hacyc : ¬ w.Cyclic) (h : weight durations (distinct w.taskIds) ≤ maxNanos) :
    WeightsFit w durations := fun _ hts => Nat.le_trans (hts.weight_le hacyc) h

theorem Heaviest.le_maxNanos {P : List TaskId → Prop} (hfit : WeightsFit w durations)
    (h : Heaviest w durations P n) : n ≤ maxNanos := by
  rcases h.attained with rfl | ⟨ts, hts, _, rfl⟩
  · exact Nat.zero_le _
  · exact hfit ts hts

theorem addDurations_of_le {a b : Duration} (h : a.nanos + b.nanos ≤ maxNanos) :
    addDurations a b = .ok (a.satAdd b) := by
  have hsome : a.add? b = some (a.satAdd b) :=
    Duration.add?_eq_some_iff.mpr (Nat.min_eq_left h)
  rw [addDurations, hsome]

/-- A sum of durations is exact, unless it leaves its range. -/
theorem addDurations_eq_ok_iff {a b c : Duration} :
    addDurations a b = .ok c ↔ c.nanos = a.nanos + b.nanos := by
  rw [← Duration.add?_eq_some_iff, addDurations]
  cases a.add? b <;> simp

theorem addDurations_eq_error_iff {a b : Duration} {o : Overflow} :
    addDurations a b = .error o ↔ o = .durations ∧ maxNanos < a.nanos + b.nanos := by
  rw [← Duration.add?_eq_none_iff, addDurations]
  cases a.add? b <;> simp [eq_comm]

theorem mapM_of_ok {α β ε : Type} {f : α → Except ε β} {g : α → β} {xs : List α}
    (h : ∀ x ∈ xs, f x = .ok (g x)) : xs.mapM f = .ok (xs.map g) := by
  induction xs with
  | nil => rfl
  | cons x xs ih =>
      rw [List.mapM_cons, h x (List.mem_cons_self ..),
        ih fun y hy => h y (List.mem_cons_of_mem x hy)]
      rfl

/-- The table has the heaviest chain below each of the tasks. -/
def StartsOf (w : Workflow) (durations starts : NameMap Duration) (us : List TaskId) : Prop :=
  ∀ u ∈ us, u ∈ w.taskIds ∧ Heaviest w durations (w.EndsBelow u) (durationIn starts u).nanos

/-- An end that is in range is an exact sum, and so the heaviest chain that ends in the task. -/
theorem earliestEnd_spec {l : Duration} (hu : u ∈ w.taskIds)
    (h : Heaviest w durations (w.EndsBelow u) (durationIn starts u).nanos)
    (hl : earliestEnd durations starts u = .ok l) :
    Heaviest w durations (fun ts => ts.getLast? = some u) l.nanos := by
  rw [addDurations_eq_ok_iff.mp hl]
  exact h.endsIn hu

/-- **The latest of some ends** is the heaviest chain that ends in one of the tasks. -/
theorem longest_end_spec {ends : TaskId → Duration} (h : StartsOf w durations starts us)
    (hends : ∀ u ∈ us, earliestEnd durations starts u = .ok (ends u)) :
    longest <$> us.mapM (earliestEnd durations starts) = .ok (longest (us.map ends)) ∧
      Heaviest w durations (fun ts => ∃ u ∈ us, ts.getLast? = some u)
        (longest (us.map ends)).nanos := by
  refine ⟨by rw [mapM_of_ok hends]; rfl, ?_⟩
  refine Heaviest.sup (fun u hu => earliestEnd_spec (h u hu).1 (h u hu).2 (hends u hu))
    (fun u hu => ?_) ?_
  · rw [nanos_longest, List.map_map]
    exact le_greatest (List.mem_map.mpr ⟨u, hu, rfl⟩)
  · rw [nanos_longest, List.map_map]
    exact (greatest_eq_zero_or_mem _).imp_right List.mem_map.mp

/-- If weights of chains are durations, all ends are in range. -/
theorem exists_longest_end (hfit : WeightsFit w durations) (h : StartsOf w durations starts us) :
    ∃ l, longest <$> us.mapM (earliestEnd durations starts) = .ok l ∧
      Heaviest w durations (fun ts => ∃ u ∈ us, ts.getLast? = some u) l.nanos := by
  have hends : ∀ u ∈ us, earliestEnd durations starts u =
      .ok ((durationIn starts u).satAdd (durationIn durations u)) := fun u hu =>
    addDurations_of_le (((h u hu).2.endsIn (h u hu).1).le_maxNanos hfit)
  exact ⟨_, longest_end_spec h hends⟩

theorem exists_of_mapM_eq_ok {α β ε : Type} {f : α → Except ε β} {xs : List α} {ys : List β}
    (h : xs.mapM f = .ok ys) : ∀ x ∈ xs, ∃ y, f x = .ok y := by
  induction xs generalizing ys with
  | nil => exact fun x hx => absurd hx (by simp)
  | cons x xs ih =>
      rw [List.mapM_cons] at h
      cases hx : f x with
      | error e =>
          rw [hx] at h
          cases h
      | ok y =>
          cases hxs : xs.mapM f with
          | error e =>
              rw [hx, hxs] at h
              cases h
          | ok rest => exact List.forall_mem_cons.mpr ⟨⟨y, hx⟩, ih hxs⟩

theorem exists_of_mapM_eq_error {α β ε : Type} {f : α → Except ε β} {xs : List α} {e : ε}
    (h : xs.mapM f = .error e) : ∃ x ∈ xs, f x = .error e := by
  induction xs with
  | nil => cases h
  | cons x xs ih =>
      rw [List.mapM_cons] at h
      cases hx : f x with
      | error e' =>
          rw [hx] at h
          cases h
          exact ⟨x, List.mem_cons_self .., hx⟩
      | ok y =>
          cases hxs : xs.mapM f with
          | error e' =>
              rw [hx, hxs] at h
              cases h
              obtain ⟨x', hmem, hx'⟩ := ih hxs
              exact ⟨x', List.mem_cons_of_mem x hmem, hx'⟩
          | ok rest =>
              rw [hx, hxs] at h
              cases h

/-- Conversely, what was computed is exact, whether or not all weights of chains are durations. -/
theorem heaviest_of_longest_end {l : Duration} (h : StartsOf w durations starts us)
    (hl : longest <$> us.mapM (earliestEnd durations starts) = .ok l) :
    Heaviest w durations (fun ts => ∃ u ∈ us, ts.getLast? = some u) l.nanos := by
  cases hmapM : us.mapM (earliestEnd durations starts) with
  | error e =>
      rw [hmapM] at hl
      cases hl
  | ok ends =>
      have hends : ∀ u ∈ us, earliestEnd durations starts u =
          .ok ((durationIn starts u).satAdd (durationIn durations u)) := by
        intro u hu
        obtain ⟨e, he⟩ := exists_of_mapM_eq_ok hmapM u hu
        exact addDurations_of_le (addDurations_eq_ok_iff.mp he ▸ e.le_max)
      obtain ⟨hl', hheaviest⟩ := longest_end_spec h hends
      rw [Except.ok.inj (hl.symm.trans hl')]
      exact hheaviest

theorem StartsOf.dependencies (h : StartsOf w durations starts placed)
    (ht : ∀ d, w.WaitsFor t d → d ∈ placed) :
    StartsOf w durations starts ((Graph.ofWorkflow w).dependenciesOf t) := fun d hd =>
  h d (ht d (mem_dependenciesOf_iff.mp hd))

/-- Chains that end in a dependency of a task are those that end below it. -/
theorem Heaviest.below (h : Heaviest w durations
      (fun ts => ∃ u ∈ (Graph.ofWorkflow w).dependenciesOf t, ts.getLast? = some u) n) :
    Heaviest w durations (w.EndsBelow t) n := by
  refine h.congr fun ts _ => ?_
  simp only [mem_dependenciesOf_iff, EndsBelow]

/-- A task starts when the heaviest chain below it ends. -/
theorem exists_earliestStart (hfit : WeightsFit w durations) (h : StartsOf w durations starts placed)
    (ht : ∀ d, w.WaitsFor t d → d ∈ placed) :
    ∃ l, earliestStart (Graph.ofWorkflow w) durations starts t = .ok l ∧
      Heaviest w durations (w.EndsBelow t) l.nanos := by
  obtain ⟨l, hl, hheaviest⟩ := exists_longest_end hfit (h.dependencies ht)
  exact ⟨l, hl, hheaviest.below⟩

theorem earliestStarts_snoc (g : Graph) (durations : NameMap Duration) (placed : List TaskId)
    (t : TaskId) : earliestStarts g durations (placed ++ [t]) =
      (earliestStarts g durations placed).bind fun starts =>
        (earliestStart g durations starts t).map (starts.insert t) := by
  rw [earliestStarts, List.foldlM_append, ← earliestStarts]
  cases earliestStarts g durations placed with
  | error o => rfl
  | ok starts =>
      show (List.foldlM (fun starts t => starts.insert t <$> earliestStart g durations starts t)
        starts [t] : Except Overflow (NameMap Duration)) = _
      rw [List.foldlM_cons]
      show _ = (earliestStart g durations starts t).map (starts.insert t)
      cases earliestStart g durations starts t <;> rfl

/-- The starts of one task more, if they can be computed. -/
theorem earliestStarts_snoc_eq_ok_iff {g : Graph} :
    earliestStarts g durations (placed ++ [t]) = .ok starts ↔
      ∃ before l, earliestStarts g durations placed = .ok before ∧
        earliestStart g durations before t = .ok l ∧ starts = before.insert t l := by
  rw [earliestStarts_snoc]
  cases earliestStarts g durations placed with
  | error o => simp [Except.bind]
  | ok before =>
      cases hl : earliestStart g durations before t with
      | error o => simp [Except.bind, Except.map, hl]
      | ok l => simp [Except.bind, Except.map, hl, eq_comm]

/-- A start for one more task. -/
theorem StartsOf.snoc {l : Duration} (h : StartsOf w durations starts placed) (hnew : t ∉ placed)
    (ht : t ∈ w.taskIds) (hl : Heaviest w durations (w.EndsBelow t) l.nanos) :
    StartsOf w durations (starts.insert t l) (placed ++ [t]) := by
  intro u hu
  rw [durationIn, NameMap.find?_insert]
  rcases List.mem_append.mp hu with hu | hu
  · rw [if_neg fun heq : u = t => hnew (heq ▸ hu)]
    exact h u hu
  · obtain rfl : u = t := by simpa using hu
    rw [if_pos rfl]
    exact ⟨ht, hl⟩

/-- **The forward pass.** -/
theorem exists_earliestStarts (hfit : WeightsFit w durations) (hord : Ordered w placed)
    (hnodup : placed.Nodup) (hsub : placed ⊆ w.taskIds) :
    ∃ starts, earliestStarts (Graph.ofWorkflow w) durations placed = .ok starts ∧
      StartsOf w durations starts placed := by
  induction placed using List.reverseRecOn with
  | nil => exact ⟨∅, rfl, fun _ hu => absurd hu (by simp)⟩
  | append_singleton placed t ih =>
      obtain ⟨hnodup', _, hnew⟩ := List.nodup_append.mp hnodup
      obtain ⟨hsub', ht⟩ := List.append_subset.mp hsub
      obtain ⟨starts, hstarts, h⟩ := ih hord.left hnodup' hsub'
      obtain ⟨l, hl, hheaviest⟩ := exists_earliestStart hfit h (hord placed t [] rfl)
      refine ⟨_, earliestStarts_snoc_eq_ok_iff.mpr ⟨starts, l, hstarts, hl, rfl⟩, ?_⟩
      exact h.snoc (fun hmem => hnew t hmem t (by simp) rfl) (by simpa using ht) hheaviest

/-- Conversely, starts that were computed are exact. -/
theorem startsOf_of_earliestStarts (hord : Ordered w placed) (hnodup : placed.Nodup)
    (hsub : placed ⊆ w.taskIds)
    (h : earliestStarts (Graph.ofWorkflow w) durations placed = .ok starts) :
    StartsOf w durations starts placed := by
  induction placed using List.reverseRecOn generalizing starts with
  | nil => exact fun _ hu => absurd hu (by simp)
  | append_singleton placed t ih =>
      obtain ⟨hnodup', _, hnew⟩ := List.nodup_append.mp hnodup
      obtain ⟨hsub', ht⟩ := List.append_subset.mp hsub
      obtain ⟨before, l, hbefore, hl, rfl⟩ := earliestStarts_snoc_eq_ok_iff.mp h
      have hstarts := ih hord.left hnodup' hsub' hbefore
      refine hstarts.snoc (fun hmem => hnew t hmem t (by simp) rfl) (by simpa using ht) ?_
      exact (heaviest_of_longest_end (hstarts.dependencies (hord placed t [] rfl)) hl).below

/-! ## Backward -/

/-- The latest finish of a task in the table and the heaviest chain above it make up the total. -/
def FinishOf (w : Workflow) (durations : NameMap Duration) (total : Duration)
    (finishes : NameMap Duration) (t : TaskId) : Prop :=
  ∃ f n, finishes.find? t = some f ∧ Heaviest w durations (w.StartsAbove t) n ∧
    f.nanos + n = total.nanos

/-- A task that is finished in time can be started in time: there is room for it. -/
theorem FinishOf.exists_room (htotal : Heaviest w durations (fun _ => True) total.nanos)
    (hu : u ∈ w.taskIds) (h : FinishOf w durations total finishes u) :
    ∃ f, finishes.find? u = some f ∧ durationIn durations u ≤ f ∧
      Heaviest w durations (fun ts => ts.head? = some u)
        (total.nanos - (f.satSub (durationIn durations u)).nanos) := by
  obtain ⟨f, n, hf, hheaviest, hsum⟩ := h
  have hstart := hheaviest.startsIn hu
  have hle : (durationIn durations u).nanos + n ≤ total.nanos := by
    rcases hstart.attained with hzero | ⟨ts, hts, _, heq⟩
    · omega
    · exact heq ▸ htotal.bound ts hts trivial
  have hroom : (durationIn durations u).nanos ≤ f.nanos := by omega
  have heq : total.nanos - (f.satSub (durationIn durations u)).nanos =
      (durationIn durations u).nanos + n := by
    rw [Duration.nanos_satSub]
    omega
  exact ⟨f, hf, hroom, heq ▸ hstart⟩

/-- A task has to be finished when the heaviest chain above it has to start. -/
theorem latestFinish_spec (htotal : Heaviest w durations (fun _ => True) total.nanos)
    (h : ∀ u, w.WaitsFor u t → FinishOf w durations total finishes u) :
    ∃ n, Heaviest w durations (w.StartsAbove t) n ∧
      (latestFinish (Graph.ofWorkflow w) durations total finishes t).nanos + n = total.nanos := by
  have hroom : ∀ u ∈ (Graph.ofWorkflow w).dependentsOf t, Heaviest w durations
      (fun ts => ts.head? = some u) (total.nanos -
        (((finishes.find? u).getD total).satSub (durationIn durations u)).nanos) ∧
      (((finishes.find? u).getD total).satSub (durationIn durations u)).nanos ≤ total.nanos := by
    intro u hu
    have hwaits := mem_dependentsOf_iff.mp hu
    have hfinish := h u hwaits
    obtain ⟨f, hf, _, hheaviest⟩ := hfinish.exists_room htotal hwaits.1
    obtain ⟨f', _, hf', _, hsum⟩ := hfinish
    obtain rfl : f = f' := Option.some.inj (hf.symm.trans hf')
    rw [hf, Option.getD_some]
    refine ⟨hheaviest, ?_⟩
    rw [Duration.nanos_satSub]
    omega
  obtain ⟨hleast, hmem⟩ := shortestOf_spec total (((Graph.ofWorkflow w).dependentsOf t).map fun u =>
    ((finishes.find? u).getD total).satSub (durationIn durations u))
  have hle : (latestFinish (Graph.ofWorkflow w) durations total finishes t).nanos ≤ total.nanos := by
    rcases hmem with ⟨_, heq⟩ | hmem
    · exact Nat.le_of_eq (congrArg Duration.nanos heq)
    · obtain ⟨u, hu, heq⟩ := List.mem_map.mp hmem
      exact (congrArg Duration.nanos heq) ▸ (hroom u hu).2
  refine ⟨total.nanos - (latestFinish (Graph.ofWorkflow w) durations total finishes t).nanos, ?_,
    by omega⟩
  refine (Heaviest.sup (fun u hu => (hroom u hu).1) (fun u hu => ?_) ?_).congr fun ts _ => ?_
  · -- the first dependent to start leaves the longest rest
    exact Nat.sub_le_sub_left (hleast _ (List.mem_map.mpr ⟨u, hu, rfl⟩)) _
  · rcases hmem with ⟨_, heq⟩ | hmem
    · exact Or.inl (by rw [latestFinish, heq, Nat.sub_self])
    · obtain ⟨u, hu, heq⟩ := List.mem_map.mp hmem
      exact Or.inr ⟨u, hu, by rw [latestFinish, ← heq]⟩
  · simp only [mem_dependentsOf_iff, StartsAbove]

theorem latestFinishes_cons (g : Graph) (durations : NameMap Duration) (total : Duration) (t : TaskId)
    (after : List TaskId) : latestFinishes g durations total (t :: after) =
      (latestFinishes g durations total after).insert t
        (latestFinish g durations total (latestFinishes g durations total after) t) := by
  simp [latestFinishes]

/-- **The backward pass.** -/
theorem latestFinishes_spec (htotal : Heaviest w durations (fun _ => True) total.nanos)
    (horder : IsOrder w (before ++ after)) : ∀ t ∈ after, FinishOf w durations total
      (latestFinishes (Graph.ofWorkflow w) durations total after) t := by
  induction after generalizing before with
  | nil => exact fun _ ht => absurd ht (by simp)
  | cons t after ih =>
      have hnext : IsOrder w ((before ++ [t]) ++ after) := by simpa using horder
      have hrest := ih hnext
      have hfinish := latestFinish_spec htotal fun u hu => hrest u (horder.mem_after hu)
      have hnew : t ∉ after := (List.nodup_cons.mp (List.nodup_append.mp horder.nodup).2.1).1
      intro u hu
      rw [latestFinishes_cons, FinishOf, NameMap.find?_insert]
      rcases List.mem_cons.mp hu with rfl | hu
      · obtain ⟨n, hheaviest, hsum⟩ := hfinish
        exact ⟨_, n, if_pos rfl, hheaviest, hsum⟩
      · rw [if_neg fun heq : u = t => hnew (heq ▸ hu)]
        exact hrest u hu

/-! ## Tables -/

/-- The critical path that the tables of both passes make. -/
def pathOf (g : Graph) (order : List TaskId) (durations starts : NameMap Duration) (total : Duration) :
    CriticalPath :=
  let timing := timingOf durations starts (latestFinishes g durations total order)
  { tasks := sortBy (fun t => (timing t).earliestStart.nanos)
      (order.filter fun t => (timing t).slack = .zero)
    duration := total
    timings := tabulate timing order }

variable {g : Graph} {path : CriticalPath}

theorem computeCriticalPath_eq (g : Graph) (order : List TaskId) (durations : NameMap Duration) :
    computeCriticalPath g order durations =
      (earliestStarts g durations order).bind fun starts =>
        (makespan durations starts order).map (pathOf g order durations starts) := by
  rw [computeCriticalPath]
  cases earliestStarts g durations order with
  | error o => rfl
  | ok starts =>
      show (makespan durations starts order >>= _) = (makespan durations starts order).map _
      cases makespan durations starts order <;> rfl

theorem computeCriticalPath_eq_ok_iff : computeCriticalPath g order durations = .ok path ↔
    ∃ starts total, earliestStarts g durations order = .ok starts ∧
      makespan durations starts order = .ok total ∧ path = pathOf g order durations starts total := by
  rw [computeCriticalPath_eq]
  cases earliestStarts g durations order with
  | error o => simp [Except.bind]
  | ok starts =>
      cases htotal : makespan durations starts order with
      | error o => simp [Except.bind, Except.map, htotal]
      | ok total => simp [Except.bind, Except.map, htotal, eq_comm]

theorem find?_pathOf : (pathOf g order durations starts total).timings.find? t =
    if t ∈ order then
      some (timingOf durations starts (latestFinishes g durations total order) t)
    else none := find?_tabulate _ _ _

theorem mem_keys_pathOf :
    t ∈ (pathOf g order durations starts total).timings.keys ↔ t ∈ order := by
  rw [NameMap.mem_keys_iff, find?_pathOf]
  split <;> simp [*]

/-- The critical tasks are those whose recorded slack is zero. -/
theorem mem_tasks_pathOf : t ∈ (pathOf g order durations starts total).tasks ↔
    ∃ timing, (pathOf g order durations starts total).timings.find? t = some timing ∧
      timing.slack = .zero := by
  rw [pathOf, mem_sortBy, List.mem_filter, ← pathOf, find?_pathOf]
  split <;> simp [*]

/-! ## Results -/

/-- **What a timing says about chains**, if the heaviest one takes `total`. -/
structure Timing.OfChains (w : Workflow) (durations : NameMap Duration) (total : Duration) (t : TaskId)
    (timing : Timing) : Prop where
  earliestStart : Heaviest w durations (w.EndsBelow t) timing.earliestStart.nanos
  latestFinish : ∃ n, Heaviest w durations (w.StartsAbove t) n ∧
    timing.latestFinish.nanos + n = total.nanos
  slack : ∃ n, Heaviest w durations (t ∈ ·) n ∧ timing.slack.nanos + n = total.nanos
  sum : timing.earliestStart.nanos + (durationIn durations t).nanos + timing.slack.nanos =
    timing.latestFinish.nanos
  inTime : timing.latestFinish ≤ total

/-- The earliest start of a task, in nanoseconds. -/
def CriticalPath.startOf (path : CriticalPath) (t : TaskId) : Nat :=
  ((path.timings.find? t).map fun timing => timing.earliestStart.nanos).getD 0

/-- **A critical path in terms of chains.** -/
structure CriticalPath.OfChains (w : Workflow) (durations : NameMap Duration) (path : CriticalPath) :
    Prop where
  duration : Heaviest w durations (fun _ => True) path.duration.nanos
  keys : ∀ t, t ∈ path.timings.keys ↔ t ∈ w.taskIds
  timings : ∀ t timing, path.timings.find? t = some timing →
    timing.OfChains w durations path.duration t
  critical : ∀ t, t ∈ path.tasks ↔ ∃ timing, path.timings.find? t = some timing ∧ timing.slack = .zero
  nodup : path.tasks.Nodup
  ascending : path.tasks.Pairwise fun a b => path.startOf a ≤ path.startOf b

/-- **No difference is cut off at zero** when a critical path is computed along an order: in the
    backward pass, every dependent has its entry and fits below it, and so does every task between
    its earliest start and its latest finish. -/
structure NeverCutOff (w : Workflow) (durations : NameMap Duration) (order : List TaskId)
    (path : CriticalPath) : Prop where
  backward : ∀ before t after, order = before ++ t :: after →
    ∀ u ∈ (Graph.ofWorkflow w).dependentsOf t, ∃ f,
      (latestFinishes (Graph.ofWorkflow w) durations path.duration after).find? u = some f ∧
        durationIn durations u ≤ f
  slack : ∀ t timing, path.timings.find? t = some timing →
    timing.earliestStart ≤ timing.latestFinish ∧
      durationIn durations t ≤ timing.latestFinish.satSub timing.earliestStart

/-- The same result up to the order of critical tasks with the same earliest start. -/
structure CriticalPath.SameUpToTies (p q : CriticalPath) : Prop where
  duration : p.duration = q.duration
  timings : p.timings = q.timings
  tasks : p.tasks.Perm q.tasks
  starts : p.tasks.map p.startOf = q.tasks.map q.startOf

/-- The tables of both passes make a timing. -/
theorem timingOf_ofChains (htotal : Heaviest w durations (fun _ => True) total.nanos)
    (ht : t ∈ w.taskIds)
    (hstart : Heaviest w durations (w.EndsBelow t) (durationIn starts t).nanos)
    (hfinish : FinishOf w durations total finishes t) :
    (timingOf durations starts finishes t).OfChains w durations total t := by
  obtain ⟨f, n, hf, habove, hsum⟩ := hfinish
  have hthrough := hstart.through ht habove
  -- the heaviest chain through the task is no heavier than the heaviest of all
  have hle : (durationIn starts t).nanos + (durationIn durations t).nanos + n ≤ total.nanos := by
    rcases hthrough.attained with hzero | ⟨ts, hts, _, heq⟩
    · omega
    · exact heq ▸ htotal.bound ts hts trivial
  have hlatest : (timingOf durations starts finishes t).latestFinish = f := by
    simp [timingOf, durationIn, hf]
  have hslack : (timingOf durations starts finishes t).slack.nanos =
      f.nanos - (durationIn starts t).nanos - (durationIn durations t).nanos := by
    rw [← hlatest]
    rfl
  refine ⟨hstart, ⟨n, habove, by rw [hlatest]; exact hsum⟩, ⟨_, hthrough, ?_⟩, ?_, ?_⟩
  · rw [hslack]
    omega
  · show (durationIn starts t).nanos + _ + _ = _
    rw [hslack, hlatest]
    omega
  · rw [hlatest, Duration.le_def]
    omega

/-- The two passes end, and give a critical path in terms of chains without cutting anything off. -/
theorem exists_criticalPath (hfit : WeightsFit w durations) (horder : IsOrder w order) :
    ∃ path, computeCriticalPath (Graph.ofWorkflow w) order durations = .ok path ∧
      path.OfChains w durations ∧ NeverCutOff w durations order path := by
  obtain ⟨starts, hstarts, hstart⟩ := exists_earliestStarts hfit horder.ordered horder.nodup
    fun t ht => (horder.mem_iff t).mp ht
  obtain ⟨total, htotal, hlast⟩ := exists_longest_end hfit hstart
  have hall := hlast.all horder.mem_iff
  have hpass : ∀ before after, order = before ++ after → ∀ u ∈ after, FinishOf w durations total
      (latestFinishes (Graph.ofWorkflow w) durations total after) u := by
    rintro before after rfl
    exact latestFinishes_spec hall horder
  have htiming : ∀ t ∈ order, (timingOf durations starts (latestFinishes (Graph.ofWorkflow w)
      durations total order) t).OfChains w durations total t := fun t ht =>
    timingOf_ofChains hall (hstart t ht).1 (hstart t ht).2 (hpass [] order rfl t ht)
  have hsome : ∀ t timing,
      (pathOf (Graph.ofWorkflow w) order durations starts total).timings.find? t = some timing →
        timing.OfChains w durations total t := by
    intro t timing h
    rw [find?_pathOf] at h
    split at h
    · next ht =>
        cases h
        exact htiming t ht
    · cases h
  refine ⟨_, computeCriticalPath_eq_ok_iff.mpr ⟨starts, total, hstarts, htotal, rfl⟩,
    ⟨hall, fun t => mem_keys_pathOf.trans (horder.mem_iff t), hsome, fun t => mem_tasks_pathOf, ?_, ?_⟩,
    fun before t after heq u hu => ?_, fun t timing h => ?_⟩
  · exact (sortBy_perm _ _).nodup_iff.mpr (horder.nodup.filter _)
  · refine (sortBy_ascending _ _).imp_of_mem fun {a b} ha hb hab => ?_
    have hmem : ∀ t ∈ (pathOf (Graph.ofWorkflow w) order durations starts total).tasks, t ∈ order :=
      fun t ht => (List.mem_filter.mp (mem_sortBy.mp ht)).1
    simpa [CriticalPath.startOf, find?_pathOf, hmem a ha, hmem b hb] using hab
  · have hwaits := mem_dependentsOf_iff.mp hu
    subst heq
    have hfinish := hpass (before ++ [t]) after (by simp) u (horder.mem_after hwaits)
    obtain ⟨f, hf, hroom, _⟩ := hfinish.exists_room hall hwaits.1
    exact ⟨f, hf, hroom⟩
  · have hsum := (hsome t timing h).sum
    simp only [Duration.le_def, Duration.nanos_satSub]
    omega

/-- **A critical path that was computed takes as long as the heaviest chain**, whether or not all weights
    of chains are durations. -/
theorem heaviest_of_criticalPath (horder : IsOrder w order)
    (h : computeCriticalPath (Graph.ofWorkflow w) order durations = .ok path) :
    Heaviest w durations (fun _ => True) path.duration.nanos := by
  obtain ⟨starts, total, hstarts, htotal, rfl⟩ := computeCriticalPath_eq_ok_iff.mp h
  have hstart := startsOf_of_earliestStarts horder.ordered horder.nodup
    (fun t ht => (horder.mem_iff t).mp ht) hstarts
  exact (heaviest_of_longest_end hstart htotal).all horder.mem_iff

/-- Chains determine a timing. -/
theorem Timing.OfChains.unique {a b : Timing} (ha : a.OfChains w durations total t)
    (hb : b.OfChains w durations total t) : a = b := by
  obtain ⟨start, finish, slack⟩ := a
  obtain ⟨start', finish', slack'⟩ := b
  obtain ⟨hstart, ⟨n, hn, hfinish⟩, ⟨m, hm, hslack⟩, _, _⟩ := ha
  obtain ⟨hstart', ⟨n', hn', hfinish'⟩, ⟨m', hm', hslack'⟩, _, _⟩ := hb
  obtain rfl := hn.unique hn'
  obtain rfl := hm.unique hm'
  obtain rfl : start = start' := Duration.ext_nanos (hstart.unique hstart')
  obtain rfl : finish = finish' :=
    Duration.ext_nanos (Nat.add_right_cancel (hfinish.trans hfinish'.symm))
  obtain rfl : slack = slack' :=
    Duration.ext_nanos (Nat.add_right_cancel (hslack.trans hslack'.symm))
  rfl

namespace CriticalPath.OfChains

variable {p q : CriticalPath}

/-- Chains determine the duration. -/
theorem duration_eq (hp : p.OfChains w durations) (hq : q.OfChains w durations) :
    p.duration = q.duration :=
  Duration.ext_nanos (hp.duration.unique hq.duration)

/-- Chains determine the timings. -/
theorem timings_eq (hp : p.OfChains w durations) (hq : q.OfChains w durations) :
    p.timings = q.timings := by
  refine NameMap.ext_find? fun t => ?_
  by_cases ht : t ∈ w.taskIds
  · obtain ⟨a, ha⟩ := NameMap.mem_keys_iff.mp ((hp.keys t).mpr ht)
    obtain ⟨b, hb⟩ := NameMap.mem_keys_iff.mp ((hq.keys t).mpr ht)
    have hchains := hp.timings t a ha
    rw [hp.duration_eq hq] at hchains
    rw [ha, hb, hchains.unique (hq.timings t b hb)]
  · rw [NameMap.find?_eq_none_iff.mpr fun h => ht ((hp.keys t).mp h),
      NameMap.find?_eq_none_iff.mpr fun h => ht ((hq.keys t).mp h)]

/-- **Chains determine a critical path** up to the order of ties. -/
theorem sameUpToTies (hp : p.OfChains w durations) (hq : q.OfChains w durations) :
    p.SameUpToTies q := by
  have htimings := hp.timings_eq hq
  have hstartOf : p.startOf = q.startOf := by
    funext t
    rw [startOf, htimings, startOf]
  have htasks : p.tasks.Perm q.tasks := by
    refine (List.perm_ext_iff_of_nodup hp.nodup hq.nodup).mpr fun t => ?_
    rw [hp.critical, hq.critical, htimings]
  refine ⟨hp.duration_eq hq, htimings, htasks, ?_⟩
  -- both lists of starts are ascending
  have hpstarts : (p.tasks.map p.startOf).Pairwise (· ≤ ·) := List.pairwise_map.mpr hp.ascending
  have hqstarts : (q.tasks.map q.startOf).Pairwise (· ≤ ·) := List.pairwise_map.mpr hq.ascending
  refine List.Perm.eq_of_pairwise (fun a b _ _ hab hba => Nat.le_antisymm hab hba) hpstarts hqstarts ?_
  rw [hstartOf]
  exact htasks.map _

end CriticalPath.OfChains

/-- **Critical-path timings are longest-path quantities.** For every topological order and all
    durations for which the weights of chains are durations: the computation succeeds and cuts
    nothing off, its duration and timings are the greatest weights of chains that `OfChains` names,
    and it gives the same along every other topological order, up to the order of critical tasks
    with the same earliest start. -/
theorem computeCriticalPath_measures_chains (hfit : WeightsFit w durations)
    (horder : IsOrder w order) :
    ∃ path, computeCriticalPath (Graph.ofWorkflow w) order durations = .ok path ∧
      path.OfChains w durations ∧ NeverCutOff w durations order path ∧
        ∀ order', IsOrder w order' → ∃ path',
          computeCriticalPath (Graph.ofWorkflow w) order' durations = .ok path' ∧
            path'.SameUpToTies path := by
  obtain ⟨path, hpath, hchains, hexact⟩ := exists_criticalPath hfit horder
  refine ⟨path, hpath, hchains, hexact, fun order' horder' => ?_⟩
  obtain ⟨path', hpath', hchains', _⟩ := exists_criticalPath hfit horder'
  exact ⟨path', hpath', hchains'.sameUpToTies hchains⟩

/-! ## A fork -/

/-- A short and a long way from a start to an end. -/
def fork : Workflow :=
  (((({ id := "fork", name := "Fork" } : Workflow).addTask
    { id := "start", name := "Start", estimate := .ofSecs 1 } []).addTask
    { id := "short", name := "Short", estimate := .ofSecs 2 } ["start"]).addTask
    { id := "long", name := "Long", estimate := .ofSecs 5 } ["start"]).addTask
    { id := "end", name := "End", estimate := .ofSecs 1 } ["short", "long"]

/-- The short way comes first in the order of declaration, and the long way may come first. -/
theorem isOrder_fork : IsOrder fork ["start", "short", "long", "end"] ∧
    IsOrder fork ["start", "long", "short", "end"] := by
  refine ⟨isOrder_of_topologicalOrder rfl, by decide, fun t => ?_, ?_⟩
  · show _ ↔ t ∈ ["start", "short", "long", "end"]
    simp only [List.mem_cons, List.not_mem_nil, or_false]
    tauto
  · have hopen : ∀ (placed : List TaskId) (t : TaskId),
        (∀ d ∈ (Graph.ofWorkflow fork).dependenciesOf t, d ∈ placed) →
        ∀ d, fork.WaitsFor t d → d ∈ placed := fun _ _ h d hd => h d (mem_dependenciesOf_iff.mpr hd)
    have hnil : Ordered fork [] := fun before t after heq => by cases before <;> cases heq
    exact (((hnil.snoc (hopen _ "start" (by decide))).snoc (hopen _ "long" (by decide))).snoc
      (hopen _ "short" (by decide))).snoc (hopen _ "end" (by decide))

/-- The fork takes seven seconds, and the short way has slack. -/
theorem computeCriticalPath_measures_chains_fork :
    ∃ path, computeCriticalPath (Graph.ofWorkflow fork) ["start", "short", "long", "end"]
        fork.estimates = .ok path ∧
      path.tasks = ["start", "long", "end"] ∧ path.duration = .ofSecs 7 ∧
      path.timings.find? "short" = some ⟨.ofSecs 1, .ofSecs 6, .ofSecs 3⟩ ∧
      path.OfChains fork fork.estimates ∧
      ∃ path', computeCriticalPath (Graph.ofWorkflow fork) ["start", "long", "short", "end"]
        fork.estimates = .ok path' ∧ path'.SameUpToTies path := by
  have hfit : WeightsFit fork fork.estimates := fun ts hts =>
    Nat.le_trans (hts.weight_le isOrder_fork.1.acyclic) (by decide)
  obtain ⟨path, hpath, hchains, _, hsame⟩ :=
    computeCriticalPath_measures_chains hfit isOrder_fork.1
  refine ⟨path, hpath, ?_, ?_, ?_, hchains, hsame _ isOrder_fork.2⟩
  all_goals
    obtain rfl : _ = path := Except.ok.inj hpath
    rfl

end Foreman
