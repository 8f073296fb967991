import Foreman.Graph.Dot
import Foreman.Proofs.Waiting
import Foreman.Text.Digits

/-!
# `Foreman.Proofs.DotText` — the text of a graph can be read back

The text that is written for a graph has one line for each node and one for each edge, and an edge names
its ends by the numbers of their nodes. Ids are arbitrary texts: they may hold quotes, backslashes, line
breaks, or what looks like a line of an edge.

## Contents
- **Reading**: `DotLine.read?` for a line, `readDot` for a text. A reader knows nothing of the graph; it
  refuses whatever is no line of such a text.
- **Reading what is written**: `readDot_dot`, the lines of a graph are read back from its text.
- **What lines say**: `idsOf` and `edgesOf`, where numbers are looked up among the nodes. `Depicts` says
  that they are those of a workflow, so that two workflows with the same text have the same known graph.
-/

namespace Foreman

open Workflow

variable {g : Graph} {w : Workflow} {t d id : TaskId}

/-! ## Reading -/

/-- What a line of the text of a graph says. -/
inductive DotLine where
  | opening
  | node (number : Nat) (id : TaskId)
  | edge (source target : Nat)
  | closing
  deriving DecidableEq

/-- Reads a label up to its closing quote. A backslash stands before a quote, before a backslash, and
    before the letter that marks a line break. -/
def readLabel : List Char → Option (List Char × List Char)
  | '"' :: rest => some ([], rest)
  | '\\' :: '"' :: rest => (readLabel rest).map fun e => ('"' :: e.1, e.2)
  | '\\' :: '\\' :: rest => (readLabel rest).map fun e => ('\\' :: e.1, e.2)
  | '\\' :: 'l' :: rest => (readLabel rest).map fun e => ('\n' :: e.1, e.2)
  | '\\' :: _ => none
  | c :: rest => (readLabel rest).map fun e => (c :: e.1, e.2)
  | [] => none

/-- Reads a number of at least one digit. -/
def readNumeral (cs : List Char) : Option (Nat × List Char) :=
  let ds := cs.takeWhile Char.isDigit
  if ds.isEmpty then none else some (digitsValue ds, cs.drop ds.length)

namespace DotLine

/-- The first line. -/
def head : List Char := "digraph \x7b".toList

/-- What stands before every node and edge. -/
def indent : List Char := "    ".toList

/-- What stands between the number of a node and its label. -/
def labelMark : List Char := " [ label = \"".toList

/-- What stands after the closing quote of a label. -/
def nodeEnd : List Char := " ]".toList

/-- What stands between the ends of an edge. -/
def arrow : List Char := " -> ".toList

/-- What stands after the ends of an edge. -/
def edgeEnd : List Char := " [ ]".toList

/-- The last line. -/
def foot : List Char := "\x7d".toList

/-- Reads the label of a node. -/
def readNode (number : Nat) (cs : List Char) : Option DotLine := do
  let (id, rest) ← readLabel cs
  if rest = nodeEnd then some (.node number (String.ofList id)) else none

/-- Reads the target of an edge. -/
def readEdge (source : Nat) (cs : List Char) : Option DotLine := do
  let (target, rest) ← readNumeral (← arrow.isPrefixOf? cs)
  if rest = edgeEnd then some (.edge source target) else none

/-- Reads a line without its end. -/
def read? (cs : List Char) : Option DotLine :=
  if cs = head then some .opening
  else if cs = foot then some .closing
  else do
    let (number, rest) ← readNumeral (← indent.isPrefixOf? cs)
    match labelMark.isPrefixOf? rest with
    | some rest => readNode number rest
    | none => readEdge number rest

end DotLine

/-- Reads a text of lines, each with its end. -/
def readDot (text : String) : Option (List DotLine) :=
  let parts := text.toList.splitOn '\n'
  if parts.getLast? = some [] then parts.dropLast.mapM DotLine.read? else none

/-! ## Reading what is written -/

/-- How a line is written, without its end. -/
def DotLine.text : DotLine → List Char
  | .opening => head
  | .node n id =>
    indent ++ ((toString n).toList ++ (labelMark ++ (id.toList.flatMap dotChar ++ '"' :: nodeEnd)))
  | .edge source target =>
    indent ++ ((toString source).toList ++ (arrow ++ ((toString target).toList ++ edgeEnd)))
  | .closing => foot

/-- The lines of a graph. -/
def Graph.dotLines (g : Graph) : List DotLine :=
  .opening :: (g.tasks.zipIdx.map fun e => .node e.2 e.1) ++
    (g.numberedEdges.map fun e => .edge e.1 e.2) ++ [.closing]

theorem toList_dotNode (n : Nat) (id : TaskId) :
    (Graph.dotNode n id).toList = (DotLine.node n id).text ++ ['\n'] := by
  have hend : "\" ]\n".toList = '"' :: DotLine.nodeEnd ++ ['\n'] := rfl
  simp only [Graph.dotNode, String.toList_append, dotLabel, String.toList_ofList, hend, DotLine.text,
    List.append_assoc]
  rfl

theorem toList_dotEdge (source target : Nat) :
    (Graph.dotEdge source target).toList = (DotLine.edge source target).text ++ ['\n'] := by
  have hend : " [ ]\n".toList = DotLine.edgeEnd ++ ['\n'] := rfl
  simp only [Graph.dotEdge, String.toList_append, hend, DotLine.text, List.append_assoc]
  rfl

/-- The text of a graph is that of its lines. -/
theorem toList_dot (g : Graph) : g.dot.toList = g.dotLines.flatMap fun l => l.text ++ ['\n'] := by
  have hopening : "digraph \x7b\n".toList = DotLine.opening.text ++ ['\n'] := rfl
  have hclosing : "\x7d\n".toList = DotLine.closing.text ++ ['\n'] := rfl
  simp only [Graph.dot, Graph.dotLines, String.toList_append, String.toList_join, List.flatMap_map,
    toList_dotNode, toList_dotEdge, hopening, hclosing, List.cons_append, List.flatMap_cons,
    List.flatMap_append, List.flatMap_nil, List.append_nil, List.append_assoc]

theorem readLabel_cons {c : Char} (hquote : c ≠ '"') (hslash : c ≠ '\\') (rest : List Char) :
    readLabel (c :: rest) = (readLabel rest).map fun e => (c :: e.1, e.2) := by
  rw [readLabel.eq_def]
  split <;> simp_all

/-- A label is read back, whatever follows its closing quote. -/
theorem readLabel_dotChar (cs rest : List Char) :
    readLabel (cs.flatMap dotChar ++ '"' :: rest) = some (cs, rest) := by
  induction cs with
  | nil => rfl
  | cons c cs ih =>
      rw [List.flatMap_cons, List.append_assoc]
      by_cases hquote : c = '"'
      · subst hquote
        simp [dotChar, readLabel, ih]
      by_cases hslash : c = '\\'
      · subst hslash
        simp [dotChar, readLabel, ih]
      by_cases hbreak : c = '\n'
      · subst hbreak
        simp [dotChar, readLabel, ih]
      · simp [dotChar, hquote, hslash, hbreak, readLabel_cons, ih]

/-- A number is read back in front of anything that does not go on with a digit. -/
theorem readNumeral_toString (n : Nat) {rest : List Char} (h : rest.takeWhile Char.isDigit = []) :
    readNumeral ((toString n).toList ++ rest) = some (n, rest) := by
  have hpadded : (toString n).toList = (padded 0 n).toList := by
    rw [toList_padded]
    simp
  have hdigits : ((padded 0 n).toList ++ rest).takeWhile Char.isDigit = (padded 0 n).toList := by
    rw [List.takeWhile_append_of_pos fun c hc => isDigit_of_mem_padded hc, h, List.append_nil]
  rw [hpadded, readNumeral, hdigits, isEmpty_padded, digitsValue_padded, List.drop_left]
  rfl

namespace DotLine

theorem isPrefixOf?_append (mark rest : List Char) : mark.isPrefixOf? (mark ++ rest) = some rest :=
  List.isPrefixOf?_eq_some_iff_append_eq.mpr rfl

/-- A statement starts with blanks and a number; the mark after it tells a node from an edge. -/
theorem read?_statement (n : Nat) {rest : List Char} (h : rest.takeWhile Char.isDigit = []) :
    read? (indent ++ ((toString n).toList ++ rest)) =
      match labelMark.isPrefixOf? rest with
      | some rest => readNode n rest
      | none => readEdge n rest := by
  have hhead : ∀ cs, indent ++ cs ≠ head := fun cs h => nomatch congrArg List.head? h
  have hfoot : ∀ cs, indent ++ cs ≠ foot := fun cs h => nomatch congrArg List.head? h
  rw [read?, if_neg (hhead _), if_neg (hfoot _), isPrefixOf?_append]
  simp only [Option.bind_eq_bind, Option.bind_some, readNumeral_toString n h]

/-- **Every line is read back.** -/
theorem read?_text (line : DotLine) : read? line.text = some line := by
  cases line with
  | opening => rfl
  | closing => rfl
  | node n id =>
      rw [text, read?_statement n rfl, isPrefixOf?_append]
      simp only [readNode, readLabel_dotChar, Option.bind_eq_bind, Option.bind_some, if_true,
        String.ofList_toList]
  | edge source target =>
      have hmark : ∀ rest, labelMark.isPrefixOf? (arrow ++ rest) = none := fun rest => rfl
      have htarget : readNumeral ((toString target).toList ++ edgeEnd) = some (target, edgeEnd) :=
        readNumeral_toString target rfl
      rw [text, read?_statement source rfl, hmark]
      simp only [readEdge, isPrefixOf?_append, htarget, Option.bind_eq_bind, Option.bind_some, if_true]

/-- No line has a line break in it. -/
theorem break_notMem_text (line : DotLine) : '\n' ∉ line.text := by
  have hnumber : ∀ n : Nat, '\n' ∉ (toString n).toList := by
    intro n hmem
    rw [Nat.toString_eq_repr, Nat.toList_repr] at hmem
    exact absurd (Nat.isDigit_of_mem_toDigits (by decide) (Nat.le_refl 10) hmem) (by decide)
  have hlabel : ∀ cs : List Char, '\n' ∉ cs.flatMap dotChar := by
    intro cs hmem
    obtain ⟨c, -, hc⟩ := List.mem_flatMap.mp hmem
    unfold dotChar at hc
    split at hc
    · next h => rcases h with rfl | rfl <;> simp at hc
    · split at hc
      · simp at hc
      · next h => exact h (List.mem_singleton.mp hc).symm
  cases line with
  | opening => decide
  | closing => decide
  | node n id =>
      simp only [text, List.mem_append, hnumber, hlabel, false_or]
      decide
  | edge source target =>
      simp only [text, List.mem_append, hnumber, false_or]
      decide

end DotLine

/-- Lines with their ends are told apart. -/
theorem splitOn_lines (ls : List DotLine) :
    (ls.flatMap fun l => l.text ++ ['\n']).splitOn '\n' = ls.map DotLine.text ++ [[]] := by
  induction ls with
  | nil => rfl
  | cons l ls ih =>
      rw [List.flatMap_cons, List.append_assoc, List.singleton_append,
        List.splitOn_append_cons_self_of_not_mem l.break_notMem_text, ih]
      rfl

/-- **The lines of a graph are read back from its text.** -/
theorem readDot_dot (g : Graph) : readDot g.dot = some g.dotLines := by
  have hread : ∀ ls : List DotLine, (ls.map DotLine.text).mapM DotLine.read? = some ls := by
    intro ls
    induction ls with
    | nil => rfl
    | cons l ls ih => rw [List.map_cons, List.mapM_cons, l.read?_text, ih]; rfl
  rw [readDot, toList_dot, splitOn_lines, List.getLast?_concat, List.dropLast_concat]
  exact hread g.dotLines

/-! ## What lines say -/

/-- The id on the first node line with a number. -/
def idOf? (lines : List DotLine) (n : Nat) : Option TaskId :=
  lines.findSome? fun
    | .node number id => if number = n then some id else none
    | _ => none

/-- The ids on node lines. -/
def idsOf (lines : List DotLine) : List TaskId :=
  lines.filterMap fun
    | .node _ id => some id
    | _ => none

/-- What edge lines join: the id on the node line of the source, and that on the one of the target. -/
def edgesOf (lines : List DotLine) : List (TaskId × TaskId) :=
  lines.filterMap fun
    | .edge source target => do return (← idOf? lines source, ← idOf? lines target)
    | _ => none

/-- **The lines of a text depict the known graph of a workflow.** -/
structure Depicts (w : Workflow) (lines : List DotLine) : Prop where
  /-- There is a node line for each declared id, in the order of first declaration. -/
  ids : idsOf lines = distinct w.taskIds
  /-- A node line bears the place of its id. -/
  numbers : ∀ n id, .node n id ∈ lines ↔ (distinct w.taskIds)[n]? = some id
  /-- Edge lines join dependencies to what waits for them. -/
  edges : ∀ d t, (d, t) ∈ edgesOf lines ↔ w.WaitsFor t d
  /-- No edge has two lines. -/
  edges_nodup : (edgesOf lines).Nodup
  opening : lines.head? = some .opening
  closing : lines.getLast? = some .closing
  /-- Nothing else is said. -/
  length : lines.length = (idsOf lines).length + (edgesOf lines).length + 2

/-- The edges of a graph from dependencies to what waits for them. -/
def Graph.edges (g : Graph) : List (TaskId × TaskId) :=
  g.tasks.flatMap fun t => (g.dependenciesOf t).map fun d => (d, t)

theorem numberedEdges_eq (g : Graph) :
    g.numberedEdges = g.edges.map fun e => (g.tasks.idxOf e.1, g.tasks.idxOf e.2) := by
  simp [Graph.numberedEdges, Graph.edges, List.map_flatMap, Function.comp_def]

theorem mem_edges_ofWorkflow : (d, t) ∈ (Graph.ofWorkflow w).edges ↔ w.WaitsFor t d := by
  have htask : w.WaitsFor t d → t ∈ w.taskIds := fun h => h.1
  simpa [Graph.edges, mem_dependenciesOf_iff] using htask

theorem nodup_edges_ofWorkflow (w : Workflow) : (Graph.ofWorkflow w).edges.Nodup := by
  refine List.nodup_flatMap.mpr ⟨fun t _ => ?_, ?_⟩
  · have hnodup := (nodup_distinct _).sublist (Graph.dependenciesOf_sublist w t)
    exact hnodup.map fun a b hab => (Prod.mk.inj hab).1
  · refine (nodup_distinct w.taskIds).imp fun {t u} hne e het heu => ?_
    obtain ⟨d, -, rfl⟩ := List.mem_map.mp het
    obtain ⟨d', -, heq⟩ := List.mem_map.mp heu
    exact hne (Prod.mk.inj heq).2.symm

/-- Numbers are looked up among nodes that are numbered from some number on. -/
theorem idOf?_nodes {ids : List TaskId} {n : Nat} (h : ids[n]? = some id) (start : Nat)
    (rest : List DotLine) :
    idOf? ((ids.zipIdx start).map (fun e => .node e.2 e.1) ++ rest) (start + n) = some id := by
  induction ids generalizing n start with
  | nil => cases h
  | cons a ids ih =>
      cases n with
      | zero =>
          obtain rfl : a = id := by simpa using h
          simp [idOf?]
      | succ n =>
          have hskip : start ≠ start + (n + 1) := by omega
          have hrest := ih (by simpa using h) (start + 1)
          rw [show start + 1 + n = start + (n + 1) by omega] at hrest
          simpa [idOf?, hskip] using hrest

theorem idOf?_dotLines (h : t ∈ g.tasks) : idOf? g.dotLines (g.tasks.idxOf t) = some t := by
  have hnodes := idOf?_nodes (List.getElem?_idxOf h) 0
    ((g.numberedEdges.map fun e => .edge e.1 e.2) ++ [.closing])
  rw [Nat.zero_add] at hnodes
  rw [← hnodes]
  simp [idOf?, Graph.dotLines]

theorem idsOf_dotLines (g : Graph) : idsOf g.dotLines = g.tasks := by
  simp [idsOf, Graph.dotLines, List.filterMap_map]

/-- An edge line joins the ids that its numbers stand for. -/
theorem edgesOf_dotLines (w : Workflow) :
    edgesOf (Graph.ofWorkflow w).dotLines = (Graph.ofWorkflow w).edges := by
  generalize hg : Graph.ofWorkflow w = g
  have hids : ∀ e ∈ g.edges, idOf? g.dotLines (g.tasks.idxOf e.1) = some e.1 ∧
      idOf? g.dotLines (g.tasks.idxOf e.2) = some e.2 := by
    rintro ⟨d, t⟩ he
    rw [← hg, mem_edges_ofWorkflow] at he
    rw [← hg]
    exact ⟨idOf?_dotLines (mem_distinct.mpr he.2.1), idOf?_dotLines (mem_distinct.mpr he.1)⟩
  have hedges : edgesOf g.dotLines = g.edges.filterMap fun e => do
      return (← idOf? g.dotLines (g.tasks.idxOf e.1), ← idOf? g.dotLines (g.tasks.idxOf e.2)) := by
    rw [edgesOf]
    generalize idOf? g.dotLines = look
    simp [Graph.dotLines, numberedEdges_eq, List.filterMap_map, Function.comp_def]
  rw [hedges, List.filterMap_congr (g := some) fun e he => ?_, List.filterMap_some]
  simp [hids e he]

/-- **The lines of a graph depict it.** -/
theorem depicts_dotLines (w : Workflow) : Depicts w (Graph.ofWorkflow w).dotLines where
  ids := idsOf_dotLines _
  numbers n id := by
    rw [← Graph.tasks_ofWorkflow]
    generalize Graph.ofWorkflow w = g
    simp only [Graph.dotLines, List.cons_append, List.mem_cons, List.mem_append, List.mem_map,
      reduceCtorEq, false_or, and_false, exists_false, or_false, List.not_mem_nil]
    constructor
    · rintro ⟨⟨a, i⟩, he, heq⟩
      cases heq
      simpa using List.mem_zipIdx_iff_getElem?.mp he
    · intro h
      exact ⟨(id, n), List.mem_zipIdx_iff_getElem?.mpr (by simpa using h), rfl⟩
  edges d t := by rw [edgesOf_dotLines, mem_edges_ofWorkflow]
  edges_nodup := by
    rw [edgesOf_dotLines]
    exact nodup_edges_ofWorkflow w
  opening := rfl
  closing := List.getLast?_concat
  length := by
    rw [idsOf_dotLines, edgesOf_dotLines]
    simp [Graph.dotLines, numberedEdges_eq]
    omega

/-- What the lines depict is determined by them. -/
theorem Depicts.sameGraph {w' : Workflow} {lines : List DotLine} (h : Depicts w lines)
    (h' : Depicts w' lines) :
    distinct w.taskIds = distinct w'.taskIds ∧ ∀ t d, w.WaitsFor t d ↔ w'.WaitsFor t d :=
  ⟨h.ids.symm.trans h'.ids, fun t d => (h.edges d t).symm.trans (h'.edges d t)⟩

/-! ## Results -/

/-- **The text of a graph determines it.** Whatever the ids are, the text can be read line by line, and
    the lines say nothing but this: each declared id has one node line, in the order of first
    declaration, and each dependency between declared ids has one edge line that points from the
    dependency to the task that waits for it. So workflows with the same text declare the same ids in
    the same order and have the same edges. -/
theorem text_determines_graph (w w' : Workflow) :
    (∃ lines, readDot (Graph.ofWorkflow w).dot = some lines ∧ Depicts w lines) ∧
      ((Graph.ofWorkflow w).dot = (Graph.ofWorkflow w').dot →
        distinct w.taskIds = distinct w'.taskIds ∧ ∀ t d, w.WaitsFor t d ↔ w'.WaitsFor t d) := by
  refine ⟨⟨_, readDot_dot _, depicts_dotLines w⟩, fun htext => ?_⟩
  have hlines : (Graph.ofWorkflow w).dotLines = (Graph.ofWorkflow w').dotLines := by
    have hread := readDot_dot (Graph.ofWorkflow w)
    rw [htext, readDot_dot] at hread
    exact (Option.some.inj hread).symm
  exact (depicts_dotLines w).sameGraph (hlines ▸ depicts_dotLines w')

/-- Ids that look like parts of the text, with a wait for nothing that is declared. -/
def awkward : Workflow :=
  (({ id := "awkward", name := "Awkward" } : Workflow).addTask { id := "say \"no\"\n0 -> 1", name := "A" }
    ["ghost"]).addTask { id := "\\l", name := "B" } ["say \"no\"\n0 -> 1"]

/-- The same ids and edges, with one of them declared again. -/
def awkwardAgain : Workflow :=
  ((({ id := "again", name := "Again" } : Workflow).addTask { id := "say \"no\"\n0 -> 1", name := "A" }
    []).addTask { id := "\\l", name := "B" } ["say \"no\"\n0 -> 1"]).addTask { id := "\\l", name := "C" } []

/-- Both are written as the same text, in which the line break of the first id does not end a line. -/
theorem text_determines_graph_awkward :
    (Graph.ofWorkflow awkward).dot = (Graph.ofWorkflow awkwardAgain).dot ∧
      (∃ lines, readDot (Graph.ofWorkflow awkward).dot = some lines ∧ Depicts awkward lines ∧
        lines.length = 5) ∧
      (∀ t d, awkward.WaitsFor t d ↔ awkwardAgain.WaitsFor t d) := by
  have htext : (Graph.ofWorkflow awkward).dot = (Graph.ofWorkflow awkwardAgain).dot :=
    congrArg Graph.dot (by decide +kernel)
  obtain ⟨⟨lines, hread, hdepicts⟩, hsame⟩ := text_determines_graph awkward awkwardAgain
  refine ⟨htext, ⟨lines, hread, hdepicts, ?_⟩, (hsame htext).2⟩
  obtain rfl : _ = lines := Option.some.inj ((readDot_dot _).symm.trans hread)
  decide +kernel

end Foreman
