import Foreman.Collection.Sorting
import Foreman.Graph
import Foreman.Overflow

/-!
# `Foreman.Graph.CriticalPath` — the longest chain of estimated work

With unlimited agents a workflow cannot end before its longest dependency chain. One pass forward
finds the earliest start of each task, one pass backward the latest finish that does not delay the
end; a task without slack between them is critical.

## Contents
- **`Timing`**, **`CriticalPath`**.
- **Forward**: `earliestStart`, `earliestStarts`, `makespan`.
- **Backward**: `latestFinish`, `latestFinishes`.
- `computeCriticalPath`, which fails only if a sum of durations leaves its range.
-/

namespace Foreman

/-- When one task can run, given unlimited agents. -/
structure Timing where
  earliestStart : Duration
  latestFinish : Duration
  slack : Duration
  deriving DecidableEq

/-- The result of the analysis. -/
structure CriticalPath where
  /-- Tasks without slack, by earliest start. -/
  tasks : List TaskId
  /-- The length of the longest dependency chain. -/
  duration : Duration
  timings : NameMap Timing
  deriving DecidableEq

/-- Whether a task is critical. -/
def CriticalPath.contains (p : CriticalPath) (t : TaskId) : Bool := p.tasks.contains t

/-- The greatest of some durations; zero if there is none. -/
def longest (ds : List Duration) : Duration := ds.foldl Duration.maxOf .zero

/-- The least of some durations, none of them above the bound; the bound if there is none. -/
def shortestOf (bound : Duration) : List Duration → Duration
  | [] => bound
  | d :: ds => ds.foldl Duration.min d

/-- The duration stored for a task; a task without one takes no time. -/
def durationIn (durations : NameMap Duration) (t : TaskId) : Duration :=
  (durations.find? t).getD .zero

/-- The exact sum of two durations. -/
def addDurations (a b : Duration) : Except Overflow Duration :=
  match a.add? b with
  | some c => .ok c
  | none => .error .durations

/-! ## Forward -/

/-- When a task ends that starts as early as it can. -/
def earliestEnd (durations starts : NameMap Duration) (t : TaskId) : Except Overflow Duration :=
  addDurations (durationIn starts t) (durationIn durations t)

/-- A task starts when the last of its dependencies ends. -/
def earliestStart (g : Graph) (durations starts : NameMap Duration) (t : TaskId) :
    Except Overflow Duration :=
  longest <$> (g.dependenciesOf t).mapM (earliestEnd durations starts)

/-- The earliest starts of the tasks of an order. -/
def earliestStarts (g : Graph) (durations : NameMap Duration) (order : List TaskId) :
    Except Overflow (NameMap Duration) :=
  order.foldlM (fun starts t => starts.insert t <$> earliestStart g durations starts t) ∅

/-- When the last task of an order ends. -/
def makespan (durations starts : NameMap Duration) (order : List TaskId) :
    Except Overflow Duration :=
  longest <$> order.mapM (earliestEnd durations starts)

/-! ## Backward -/

/-- A task must be finished when the first of its dependents has to start. -/
def latestFinish (g : Graph) (durations : NameMap Duration) (total : Duration)
    (finishes : NameMap Duration) (t : TaskId) : Duration :=
  shortestOf total ((g.dependentsOf t).map fun d =>
    ((finishes.find? d).getD total).satSub (durationIn durations d))

/-- The latest finishes of the tasks of an order. -/
def latestFinishes (g : Graph) (durations : NameMap Duration) (total : Duration)
    (order : List TaskId) : NameMap Duration :=
  order.reverse.foldl
    (fun finishes t => finishes.insert t (latestFinish g durations total finishes t)) ∅

/-! ## The analysis -/

/-- The timing of a task from the tables of both passes. -/
def timingOf (durations starts finishes : NameMap Duration) (t : TaskId) : Timing :=
  let start := durationIn starts t
  let finish := durationIn finishes t
  { earliestStart := start
    latestFinish := finish
    slack := (finish.satSub start).satSub (durationIn durations t) }

/-- The critical path of a graph whose tasks are given in topological order. Critical tasks that can
    start at the same time stay in that order. -/
def computeCriticalPath (g : Graph) (order : List TaskId) (durations : NameMap Duration) :
    Except Overflow CriticalPath := do
  let starts ← earliestStarts g durations order
  let total ← makespan durations starts order
  let finishes := latestFinishes g durations total order
  let timing := timingOf durations starts finishes
  let critical := order.filter fun t => (timing t).slack = .zero
  return {
    tasks := sortBy (fun t => (timing t).earliestStart.nanos) critical
    duration := total
    timings := tabulate timing order }

end Foreman
