import Foreman.Workflow

/-!
# `Foreman.Graph` — the known dependency graph of a workflow

The graph has one node per distinct declared id, in the order of first declaration, and an edge for
every dependency whose two ends are declared. Dependencies on undeclared ids are dropped, so the
graph is consistent even for a workflow that failed validation.

## Contents
- `distinct`: the elements of a list in the order of their first occurrence.
- **`Graph`** with `ofWorkflow`, `dependenciesOf`, `dependentsOf`; nodes are wired up one after another.
- What wiring comes to: `find?_wire` for one task, `find?_nodes_ofWorkflow` for all.
- The view of its edges: `mem_dependenciesOf`, `mem_dependentsOf`.
-/

namespace Foreman

/-! ## First occurrences -/

/-- Each element once, in the order of first occurrence. -/
def distinct : List String → List String
  | [] => []
  | x :: xs => x :: (distinct xs).filter (· ≠ x)

@[simp] theorem mem_distinct {xs : List String} {a : String} : a ∈ distinct xs ↔ a ∈ xs := by
  induction xs with
  | nil => simp [distinct]
  | cons x xs ih =>
    by_cases h : a = x <;> simp [distinct, h, ih]

theorem nodup_distinct (xs : List String) : (distinct xs).Nodup := by
  induction xs with
  | nil => exact List.nodup_nil
  | cons x xs ih =>
    refine List.nodup_cons.mpr ⟨by simp, ih.filter _⟩

/-- A list without repetitions is its own list of first occurrences. -/
theorem distinct_of_nodup {xs : List String} (h : xs.Nodup) : distinct xs = xs := by
  induction xs with
  | nil => rfl
  | cons x xs ih =>
    have hx := List.nodup_cons.mp h
    simp only [distinct, ih hx.2]
    congr 1
    refine List.filter_eq_self.mpr fun a ha => ?_
    have : a ≠ x := fun e => hx.1 (e ▸ ha)
    simp [this]

/-! ## The graph -/

/-- The neighbours of one task, both lists in declaration order. -/
structure Neighbours where
  /-- Tasks that must finish before this one can run. -/
  dependencies : List TaskId := []
  /-- Tasks that wait for this one. -/
  dependents : List TaskId := []
  deriving DecidableEq

/-- Adjacency lists keyed by task id. -/
structure Graph where
  /-- Ids in the order of first declaration. -/
  tasks : List TaskId
  nodes : NameMap Neighbours
  deriving DecidableEq

/-- The map that stores a value for each listed key. -/
def tabulate {β : Type} (f : String → β) (keys : List String) : NameMap β :=
  .ofList (keys.map fun k => (k, f k))

theorem find?_tabulate {β : Type} (f : String → β) (keys : List String) (k : String) :
    (tabulate f keys).find? k = if k ∈ keys then some (f k) else none := by
  have key : ∀ (keys : List String) (m : NameMap β),
      ((keys.map fun k => (k, f k)).foldl (fun m e => m.insert e.1 e.2) m).find? k =
        if k ∈ keys then some (f k) else m.find? k := by
    intro keys
    induction keys with
    | nil => intro m; simp
    | cons x xs ih =>
      intro m
      simp only [List.map_cons, List.foldl_cons, ih, NameMap.find?_insert, List.mem_cons]
      by_cases h : k ∈ xs
      · simp [h]
      · by_cases hx : k = x
        · subst hx; simp [h]
        · simp [h, hx]
  simpa [tabulate, NameMap.ofList] using key keys NameMap.empty

namespace Graph

/-- Enters a task among the dependents of one of its dependencies. -/
def addDependent (t : TaskId) (nodes : NameMap Neighbours) (d : TaskId) : NameMap Neighbours :=
  nodes.modify d fun n => { n with dependents := n.dependents ++ [t] }

/-- Wires up one task: it is entered with each of its known dependencies and keeps the list of them. A
    task that waits for itself is entered with itself. -/
def wire (w : Workflow) (tasks : List TaskId) (nodes : NameMap Neighbours) (t : TaskId) :
    NameMap Neighbours :=
  let waits := w.dependenciesOf t
  let dependencies := tasks.filter (· ∈ waits)
  (dependencies.foldl (addDependent t) nodes).modify t fun n => { n with dependencies }

/-- The known dependency graph of a workflow: nodes for all tasks, which are then wired up in
    declaration order. -/
def ofWorkflow (w : Workflow) : Graph :=
  let tasks := distinct w.taskIds
  { tasks, nodes := tasks.foldl (wire w tasks) (tabulate (fun _ => {}) tasks) }

/-- Number of tasks. -/
def size (g : Graph) : Nat := g.tasks.length

/-- Whether there is no task. -/
def isEmpty (g : Graph) : Bool := g.tasks.isEmpty

/-- Whether an id is a task of the graph. -/
def contains (g : Graph) (t : TaskId) : Bool := g.nodes.contains t

/-- The tasks that a task waits for; an unknown id waits for none. -/
def dependenciesOf (g : Graph) (t : TaskId) : List TaskId :=
  ((g.nodes.find? t).map Neighbours.dependencies).getD []

/-- The tasks that wait for a task; none wait for an unknown id. -/
def dependentsOf (g : Graph) (t : TaskId) : List TaskId :=
  ((g.nodes.find? t).map Neighbours.dependents).getD []

@[simp] theorem tasks_ofWorkflow (w : Workflow) : (ofWorkflow w).tasks = distinct w.taskIds := rfl

/-! ## What wiring comes to -/

/-- A task is entered once with each of some other tasks. -/
theorem find?_foldl_addDependent {ds : List TaskId} (hnodup : ds.Nodup) (t : TaskId)
    (nodes : NameMap Neighbours) (u : TaskId) :
    (ds.foldl (addDependent t) nodes).find? u = (nodes.find? u).map fun n =>
      { n with dependents := n.dependents ++ if u ∈ ds then [t] else [] } := by
  induction ds generalizing nodes with
  | nil => simp
  | cons d ds ih =>
    obtain ⟨hd, hnodup⟩ := List.nodup_cons.mp hnodup
    rw [List.foldl_cons, ih hnodup, addDependent, NameMap.find?_modify]
    by_cases hu : u = d
    · subst hu
      simp [hd, Function.comp_def]
    · simp [hu]

/-- What wiring one task changes: its own dependencies, and the dependents of each of them. -/
theorem find?_wire (w : Workflow) {tasks : List TaskId} (hnodup : tasks.Nodup)
    (nodes : NameMap Neighbours) (t u : TaskId) :
    (wire w tasks nodes t).find? u = (nodes.find? u).map fun n =>
      { dependencies := if u = t then tasks.filter (· ∈ w.dependenciesOf t) else n.dependencies
        dependents := n.dependents ++ if u ∈ tasks ∧ u ∈ w.dependenciesOf t then [t] else [] } := by
  rw [wire, NameMap.find?_modify, find?_foldl_addDependent (hnodup.filter _)]
  by_cases hu : u = t
  · subst hu
    simp [Function.comp_def]
  · simp [hu]

/-- What wiring some tasks in turn comes to. -/
theorem find?_foldl_wire (w : Workflow) {tasks : List TaskId} (hnodup : tasks.Nodup)
    (ts : List TaskId) (nodes : NameMap Neighbours) (u : TaskId) :
    (ts.foldl (wire w tasks) nodes).find? u = (nodes.find? u).map fun n =>
      { dependencies := if u ∈ ts then tasks.filter (· ∈ w.dependenciesOf u) else n.dependencies
        dependents := n.dependents ++ ts.filter fun t => u ∈ tasks ∧ u ∈ w.dependenciesOf t } := by
  induction ts generalizing nodes with
  | nil => simp
  | cons t ts ih =>
    rw [List.foldl_cons, ih, find?_wire w hnodup, Option.map_map]
    congr 1
    funext n
    -- the task that is wired may be `u` itself, wait for `u`, do both, or neither
    by_cases hut : u = t <;> by_cases hwaits : u ∈ tasks ∧ u ∈ w.dependenciesOf t <;>
      simp_all

/-- What stands in the node of a task once all tasks are wired up. -/
theorem find?_nodes_ofWorkflow (w : Workflow) (t : TaskId) :
    (ofWorkflow w).nodes.find? t =
      if t ∈ w.taskIds then
        some { dependencies := (distinct w.taskIds).filter (· ∈ w.dependenciesOf t)
               dependents := (distinct w.taskIds).filter (t ∈ w.dependenciesOf ·) }
      else none := by
  rw [ofWorkflow, find?_foldl_wire w (nodup_distinct _), find?_tabulate]
  by_cases ht : t ∈ w.taskIds <;> simp [ht]

theorem dependenciesOf_ofWorkflow (w : Workflow) (t : TaskId) :
    (ofWorkflow w).dependenciesOf t =
      if t ∈ w.taskIds then (distinct w.taskIds).filter (· ∈ w.dependenciesOf t) else [] := by
  rw [dependenciesOf, find?_nodes_ofWorkflow]
  split <;> rfl

theorem dependentsOf_ofWorkflow (w : Workflow) (t : TaskId) :
    (ofWorkflow w).dependentsOf t =
      if t ∈ w.taskIds then (distinct w.taskIds).filter (t ∈ w.dependenciesOf ·) else [] := by
  rw [dependentsOf, find?_nodes_ofWorkflow]
  split <;> rfl

/-- Both lists keep the order of first declaration and repeat nothing. -/
theorem dependenciesOf_sublist (w : Workflow) (t : TaskId) :
    ((ofWorkflow w).dependenciesOf t).Sublist (distinct w.taskIds) := by
  rw [dependenciesOf_ofWorkflow]
  split
  · exact List.filter_sublist
  · exact List.nil_sublist _

theorem dependentsOf_sublist (w : Workflow) (t : TaskId) :
    ((ofWorkflow w).dependentsOf t).Sublist (distinct w.taskIds) := by
  rw [dependentsOf_ofWorkflow]
  split
  · exact List.filter_sublist
  · exact List.nil_sublist _

/-- An edge of the graph is a dependency of the workflow between two declared tasks. -/
theorem mem_dependenciesOf {w : Workflow} {t d : TaskId} :
    d ∈ (ofWorkflow w).dependenciesOf t ↔
      t ∈ w.taskIds ∧ d ∈ w.taskIds ∧ d ∈ w.dependenciesOf t := by
  rw [dependenciesOf_ofWorkflow]
  by_cases h : t ∈ w.taskIds <;> simp [h]

theorem mem_dependentsOf {w : Workflow} {t d : TaskId} :
    t ∈ (ofWorkflow w).dependentsOf d ↔
      t ∈ w.taskIds ∧ d ∈ w.taskIds ∧ d ∈ w.dependenciesOf t := by
  rw [dependentsOf_ofWorkflow]
  by_cases h : d ∈ w.taskIds <;> simp [h]

end Graph

end Foreman
