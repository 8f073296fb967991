import Foreman.Shell.Difference
import Foreman.Text.Octets

/-!
# `Foreman.Shell.Utility.SideBySide` — two texts in two columns

Lines that belong together stand side by side, with a mark between them if they differ. Lines are cut
where their column ends.

## Contents
- **`SideLayout`**: the columns; `tabTo` goes from a place to another one, `halfLine` cuts a line.
- `SideLayout.row`: two lines, or one alone.
- `sideBySideText`: two texts with the changes between them.
-/

namespace Foreman.Shell.Utility

/-- How texts stand side by side. -/
structure SideLayout where
  width : Nat := 130
  tab : Nat := 8
  expandsTabs : Bool := false
  /-- Whether common lines stand in the left column only. -/
  isLeftOnly : Bool := false
  hidesCommon : Bool := false

namespace SideLayout

/-- Where the second column would begin, if both columns had room. -/
def offset (o : SideLayout) : Nat :=
  let t := if o.expandsTabs then 1 else o.tab
  let n := o.width / 2 + (t + 3) / 2 + (o.width % 2) * ((t + 3) % 2)
  n - n % t

/-- The width of a column. -/
def half (o : SideLayout) : Nat := min (o.offset - 3) (o.width - o.offset)

/-- Where the second column begins. -/
def secondStart (o : SideLayout) : Nat := if o.half = 0 then o.width else o.offset

/-- Tabs from a place to another one. -/
def tabs (o : SideLayout) : Nat → Nat → Nat → Octets
  | 0, place, last => List.replicate (last - place) ' '
  | fuel + 1, place, last =>
    let stop := place + o.tab - place % o.tab
    if stop ≤ last then '\t' :: o.tabs fuel stop last else List.replicate (last - place) ' '

/-- Blanks from a place to another one. -/
def tabTo (o : SideLayout) (place last : Nat) : Octets :=
  if o.expandsTabs then List.replicate (last - place) ' ' else o.tabs last place last

/-- A line cut at the end of its column, and how wide it is. The places are those in the line and those
    that are shown. -/
def halfLine (o : SideLayout) (start : Nat) : Nat → Nat → Octets → Octets × Nat
  | _, shown, [] | _, shown, '\n' :: _ => ([], shown)
  | place, shown, c :: rest =>
    let add (front : Octets) (next : Octets × Nat) : Octets × Nat := (front ++ next.1, next.2)
    if c = '\t' then
      let stop := place + o.tab - place % o.tab
      if place ≠ shown then o.halfLine start stop shown rest
      else if o.expandsTabs then
        let last := max shown (min stop o.half)
        add (List.replicate (last - shown) ' ') (o.halfLine start stop last rest)
      else if stop < o.half then add ['\t'] (o.halfLine start stop stop rest)
      else o.halfLine start stop shown rest
    else if c = '\r' then add ('\r' :: o.tabTo 0 start) (o.halfLine start 0 0 rest)
    else if c = '\x08' then
      if place = 0 then o.halfLine start 0 shown rest
      else if place - 1 < o.half then
        if shown ≤ place - 1 then
          add (List.replicate (place - 1 - shown) ' ') (o.halfLine start (place - 1) (place - 1) rest)
        else add ['\x08'] (o.halfLine start (place - 1) (place - 1) rest)
      else o.halfLine start (place - 1) shown rest
    else if c < ' ' ∨ '~' < c then
      if place < o.half then add [c] (o.halfLine start place shown rest)
      else o.halfLine start place shown rest
    else if place < o.half then add [c] (o.halfLine start (place + 1) (place + 1) rest)
    else o.halfLine start (place + 1) shown rest

/-- Whether a line has an end. -/
def isEnded (line : Octets) : Bool := line.getLast? = some '\n'

/-- Two lines with a mark between them, or one alone. -/
def row (o : SideLayout) (left : Option Octets) (mark : Char) (right : Option Octets) : Octets :=
  let (front, place) := match left with
    | some line => o.halfLine 0 0 0 line
    | none => ([], 0)
  let isLeftEnded := left.any isEnded
  let (middle, place) : Octets × Nat :=
    if mark = ' ' then ([], place)
    else
      let stop := (o.half + o.secondStart - 1) / 2
      let mark := if mark = '|' ∧ isLeftEnded ≠ right.any isEnded then
        (if isLeftEnded then '/' else '\\') else mark
      (o.tabTo place stop ++ [mark], max place stop + 1)
  let back : Octets := match right with
    | some line =>
      if line.head? = some '\n' then []
      else o.tabTo place o.secondStart ++ (o.halfLine (max place o.secondStart) 0 0 line).1
    | none => []
  front ++ middle ++ back ++ if isLeftEnded ∨ right.any isEnded then ['\n'] else []

/-- Lines in pairs; the lines that one side has more stand alone, with a mark of their own. -/
def rows (o : SideLayout) (both left right : Char) : List Octets → List Octets → Octets
  | x :: xs, y :: ys => o.row (some x) both (some y) ++ o.rows both left right xs ys
  | xs, [] => xs.flatMap fun x => o.row (some x) left none
  | [], ys => ys.flatMap fun y => o.row none right (some y)

/-- Common lines. -/
def common (o : SideLayout) (xs ys : List Octets) : Octets :=
  if o.hidesCommon then []
  else if o.isLeftOnly then xs.flatMap fun x => o.row (some x) '(' none
  else o.rows ' ' '(' ')' xs ys

end SideLayout

/-- Two texts with the changes between them, from a line of each on. -/
def sideBySideText (o : SideLayout) (first second : List Octets) (i j : Nat) : List Change → Octets
  | [] => o.common (first.drop i) (second.drop j)
  | c :: rest =>
    o.common ((first.take c.first).drop i) ((second.take c.second).drop j) ++
      o.rows '|' '<' '>' ((first.drop c.first).take c.deleted) ((second.drop c.second).take c.inserted) ++
      sideBySideText o first second (c.first + c.deleted) (c.second + c.inserted) rest

end Foreman.Shell.Utility
