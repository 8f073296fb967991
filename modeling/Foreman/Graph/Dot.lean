import Foreman.Graph

/-!
# `Foreman.Graph.Dot` — the dependency graph as Graphviz text

Nodes are numbered in declaration order and labelled with their ids; an edge points from a dependency
to the task that waits for it.

## Contents
- `dotLabel`: an id as it stands between the quotes of a label.
- `Graph.dot`: the whole text.
-/

namespace Foreman

/-- How a character stands in a label: quotes and backslashes are escaped, and a line break is the
    mark for a left-justified line. -/
def dotChar (c : Char) : List Char :=
  if c = '"' ∨ c = '\\' then ['\\', c]
  else if c = '\n' then ['\\', 'l']
  else [c]

/-- An id as it stands between the quotes of a label. -/
def dotLabel (s : String) : String := String.ofList (s.toList.flatMap dotChar)

namespace Graph

/-- The line of one node. -/
def dotNode (index : Nat) (id : TaskId) : String :=
  "    " ++ toString index ++ " [ label = \"" ++ dotLabel id ++ "\" ]\n"

/-- The line of one edge. -/
def dotEdge (source target : Nat) : String :=
  "    " ++ toString source ++ " -> " ++ toString target ++ " [ ]\n"

/-- The edges by node numbers: for each task in order, one per dependency in order. -/
def numberedEdges (g : Graph) : List (Nat × Nat) :=
  g.tasks.flatMap fun t =>
    (g.dependenciesOf t).map fun d => (g.tasks.idxOf d, g.tasks.idxOf t)

/-- The graph as Graphviz text. -/
def dot (g : Graph) : String :=
  "digraph \x7b\n" ++ String.join (g.tasks.zipIdx.map fun (t, i) => dotNode i t) ++
    String.join (g.numberedEdges.map fun (s, t) => dotEdge s t) ++ "\x7d\n"

end Graph

end Foreman
