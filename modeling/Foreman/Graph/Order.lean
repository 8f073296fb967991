import Foreman.Graph
import Foreman.Schedule.Error

/-!
# `Foreman.Graph.Order` — topological order

Tasks are released one after another: first those without dependencies, in declaration order, then
each task as soon as the last of its dependencies has been placed. What can never be released waits
for a cycle.

## Contents
- **`Release`**: the state of the procedure, with the steps `Release.drop` and `Release.next`.
- `Graph.topologicalOrder`: the order, or the tasks that a cycle holds back.
-/

namespace Foreman

/-- How far the release of tasks has come. -/
structure Release where
  /-- For each task the number of its dependencies that are not placed yet. -/
  missing : NameMap Nat
  /-- Released tasks that are not placed yet, in the order of their release. -/
  ready : List TaskId
  /-- Tasks placed so far. -/
  placed : List TaskId

namespace Release

/-- The start: tasks without dependencies are released. -/
def start (g : Graph) : Release :=
  { missing := tabulate (fun t => (g.dependenciesOf t).length) g.tasks
    ready := g.tasks.filter fun t => (g.dependenciesOf t).isEmpty
    placed := [] }

/-- One dependency of `t` has been placed; a task that misses no other is released. -/
def drop (r : Release) (t : TaskId) : Release :=
  match r.missing.find? t with
  | none => r
  | some n =>
    { r with
      missing := r.missing.insert t (n - 1)
      ready := if n - 1 = 0 then r.ready ++ [t] else r.ready }

/-- Places the first released task. -/
def next (g : Graph) (r : Release) : Release :=
  match r.ready with
  | [] => r
  | t :: rest =>
    (g.dependentsOf t).foldl drop { r with ready := rest, placed := r.placed ++ [t] }

/-- Places a number of tasks. -/
def run (g : Graph) : Nat → Release → Release
  | 0, r => r
  | n + 1, r => run g n (next g r)

/-- Nothing changes once no task is released. -/
theorem run_of_ready_nil {g : Graph} {r : Release} (h : r.ready = []) (n : Nat) :
    run g n r = r := by
  induction n with
  | zero => rfl
  | succ n ih => simp [run, next, h, ih]

end Release

namespace Graph

/-- All tasks, every task after its dependencies; or, with a cycle, the tasks that are held back.
    Each task is placed at most once, so as many steps as there are tasks are enough. -/
def topologicalOrder (g : Graph) : Except SchedulingError (List TaskId) :=
  let final := Release.run g g.size (Release.start g)
  if final.placed.length = g.size then .ok final.placed
  else
    .error (.cycleDetected (g.tasks.filter fun t => ((final.missing.find? t).getD 0) > 0))

end Graph

end Foreman
