import Foreman.Graph

/-!
# `Foreman.Graph.Levels` — tasks that may run side by side

A task sits one level above the highest of its dependencies, so all dependencies of a level are in
earlier levels.

## Contents
- **`Level`**.
- `levelNumbers`: the level of each id of an order.
- `computeLevels`: the tasks of the graph, grouped by level in declaration order.
-/

namespace Foreman

/-- Tasks whose dependencies all sit in earlier levels. -/
structure Level where
  index : Nat
  /-- In declaration order. -/
  tasks : List TaskId
  /-- Whether all tasks are dispatched together. -/
  parallel : Bool
  deriving DecidableEq, Inhabited

/-- The greatest element; zero for the empty list. -/
def greatest (ns : List Nat) : Nat := ns.foldl Nat.max 0

/-- The level of a task, from the levels of the tasks before it: one above the highest dependency
    that has a level. -/
def levelAbove (g : Graph) (numbers : NameMap Nat) (t : TaskId) : Nat :=
  greatest (((g.dependenciesOf t).filterMap numbers.find?).map (· + 1))

/-- The level of every id of an order. -/
def levelNumbers (g : Graph) (order : List TaskId) : NameMap Nat :=
  order.foldl (fun numbers t => numbers.insert t (levelAbove g numbers t)) ∅

/-- Groups the tasks of an order into levels. An order that is not topological gets levels too; its
    foreign ids count for the number of levels but are in none of them. -/
def computeLevels (g : Graph) (order : List TaskId) (mode : ExecutionMode) : List Level :=
  let numbers := levelNumbers g order
  let count := greatest (numbers.values.map (· + 1))
  (List.range count).map fun i =>
    let tasks := g.tasks.filter fun t => numbers.find? t = some i
    { index := i, tasks, parallel := decide (mode = .parallel) && decide (1 < tasks.length) }

/-- Levels are numbered in their order. -/
theorem index_computeLevels (g : Graph) (order : List TaskId) (mode : ExecutionMode) :
    (computeLevels g order mode).map Level.index =
      List.range (computeLevels g order mode).length := by
  simp [computeLevels, Function.comp_def]

end Foreman
