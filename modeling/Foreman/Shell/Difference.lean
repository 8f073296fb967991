/-!
# `Foreman.Shell.Difference` — how two texts differ

Lines are compared by numbers: equal lines have the same number. A line that has no counterpart in the other
text is marked, with as few marks as possible. Runs of marks are then moved to where they look best: behind
equal lines, and beside runs of marks in the other text.

## Contents
- **`Box`**: parts of two texts; `Box.middle`, a place where the best path through them goes.
- `marks`: which lines have no counterpart, and `shiftRuns`.
- **`Change`**: lines that are replaced; `changes`.
-/

namespace Foreman.Shell

/-- Parts of two texts: from a line to a line of each. -/
structure Box where
  firstStart : Nat
  firstEnd : Nat
  secondStart : Nat
  secondEnd : Nat

namespace Box

/-- How many lines there are in both parts. -/
def size (b : Box) : Nat := (b.firstEnd - b.firstStart) + (b.secondEnd - b.secondStart)

/-- Where lines from two places on are no longer equal. -/
def slideDown (x y : Array Nat) (b : Box) : Nat → Nat → Nat → Nat
  | 0, i, _ => i
  | fuel + 1, i, j =>
    if i < b.firstEnd ∧ j < b.secondEnd ∧ x[i]? = y[j]? then slideDown x y b fuel (i + 1) (j + 1) else i

/-- Where lines in front of two places are no longer equal. -/
def slideUp (x y : Array Nat) (b : Box) : Nat → Nat → Nat → Nat
  | 0, i, _ => i
  | fuel + 1, i, j =>
    if b.firstStart < i ∧ b.secondStart < j ∧ x[i - 1]? = y[j - 1]? then
      slideUp x y b fuel (i - 1) (j - 1)
    else i

/-- The furthest places that paths with some number of marks reach, by the difference of the places in
    the two texts. -/
structure Front where
  places : Array Int
  least : Int
  most : Int

/-- The place of a difference among all that are possible. -/
def index (b : Box) (d : Int) : Nat := (d - (b.firstStart : Int) + b.secondEnd + 1).toNat

/-- The place that a front has reached for a difference. -/
def reached (b : Box) (f : Front) (d : Int) : Int := f.places.getD (b.index d) 0

/-- A front in which one more mark is allowed; beyond its ends nothing is reached. -/
def widened (b : Box) (f : Front) (unreached : Int) : Front :=
  let lowest : Int := (b.firstStart : Int) - b.secondEnd
  let highest : Int := (b.firstEnd : Int) - b.secondStart
  let f : Front :=
    if lowest < f.least then
      { f with least := f.least - 1, places := f.places.set! (b.index (f.least - 2)) unreached }
    else { f with least := f.least + 1 }
  if f.most < highest then
    { f with most := f.most + 1, places := f.places.set! (b.index (f.most + 2)) unreached }
  else { f with most := f.most - 1 }

/-- Lets paths from the start go on, for a number of differences down from one of them. The result is
    the place where one of them meets a path from the end. -/
def goDown (x y : Array Nat) (b : Box) (back : Front) (canMeet : Bool) :
    Nat → Int → Front → Except (Nat × Nat) Front
  | 0, _, f => .ok f
  | fuel + 1, d, f =>
    if d < f.least then .ok f
    else
      let low := b.reached f (d - 1)
      let high := b.reached f (d + 1)
      let begins := if low < high then high else low + 1
      let i := b.slideDown x y b.size begins.toNat (begins - d).toNat
      if canMeet ∧ back.least ≤ d ∧ d ≤ back.most ∧ b.reached back d ≤ i then
        .error (i, ((i : Int) - d).toNat)
      else goDown x y b back canMeet fuel (d - 2) { f with places := f.places.set! (b.index d) i }

/-- Lets paths from the end go on. -/
def goUp (x y : Array Nat) (b : Box) (front : Front) (canMeet : Bool) :
    Nat → Int → Front → Except (Nat × Nat) Front
  | 0, _, f => .ok f
  | fuel + 1, d, f =>
    if d < f.least then .ok f
    else
      let low := b.reached f (d - 1)
      let high := b.reached f (d + 1)
      let begins := if low < high then low else high - 1
      let i := b.slideUp x y b.size begins.toNat (begins - d).toNat
      if canMeet ∧ front.least ≤ d ∧ d ≤ front.most ∧ (i : Int) ≤ b.reached front d then
        .error (i, ((i : Int) - d).toNat)
      else goUp x y b front canMeet fuel (d - 2) { f with places := f.places.set! (b.index d) i }

/-- Lets paths from both ends go on until they meet. -/
def meet (x y : Array Nat) (b : Box) (isOdd : Bool) : Nat → Front → Front → Nat × Nat
  | 0, _, _ => (b.firstEnd, b.secondEnd)
  | fuel + 1, front, back =>
    let front := b.widened front (-1)
    match b.goDown x y back isOdd (b.size + 2) front.most front with
    | .error place => place
    | .ok front =>
      let back := b.widened back (b.firstEnd + b.secondEnd + 1)
      match b.goUp x y front (!isOdd) (b.size + 2) back.most back with
      | .error place => place
      | .ok back => meet x y b isOdd fuel front back

/-- A place in the middle of a path with the fewest marks. -/
def middle (x y : Array Nat) (b : Box) : Nat × Nat :=
  let start : Int := (b.firstStart : Int) - b.secondStart
  let finish : Int := (b.firstEnd : Int) - b.secondEnd
  let places : Array Int := Array.replicate (b.size + 3) 0
  b.meet x y ((start - finish) % 2 ≠ 0) (b.size + 1)
    ⟨places.set! (b.index start) b.firstStart, start, start⟩
    ⟨places.set! (b.index finish) b.firstEnd, finish, finish⟩

end Box

/-- Marks lines of two texts. -/
abbrev Marks : Type := Array Bool × Array Bool

/-- Marks some lines in a row. -/
def marked (m : Array Bool) (first last : Nat) : Array Bool :=
  (List.range (last - first)).foldl (fun (m : Array Bool) k => m.set! (first + k) true) m

/-- Marks the lines of two parts that have no counterpart. -/
def compareWithin (x y : Array Nat) : Nat → Box → Marks → Marks
  | 0, _, m => m
  | fuel + 1, b, m =>
    let i := b.slideDown x y b.size b.firstStart b.secondStart
    let b := { b with firstStart := i, secondStart := b.secondStart + (i - b.firstStart) }
    let i := b.slideUp x y b.size b.firstEnd b.secondEnd
    let b := { b with firstEnd := i, secondEnd := b.secondEnd - (b.firstEnd - i) }
    if b.firstStart = b.firstEnd then (m.1, marked m.2 b.secondStart b.secondEnd)
    else if b.secondStart = b.secondEnd then (marked m.1 b.firstStart b.firstEnd, m.2)
    else
      let (i, j) := b.middle x y
      compareWithin x y fuel { b with firstStart := i, secondStart := j }
        (compareWithin x y fuel { b with firstEnd := i, secondEnd := j } m)

/-! ## Runs of marks -/

/-- The first place from one on without a mark. -/
def skipMarks (m : Array Bool) : Nat → Nat → Nat
  | 0, i => i
  | fuel + 1, i => if m.getD i false then skipMarks m fuel (i + 1) else i

/-- The last place before one without a mark. -/
def skipMarksBack (m : Array Bool) : Nat → Nat
  | 0 => 0
  | i + 1 => if m.getD i false then skipMarksBack m i else i

/-- A run of marks: where it starts and ends, the place in the other text, and the end that it had when
    there was a run beside it there. -/
structure MarkRun where
  mine : Array Bool
  start : Nat
  finish : Nat
  place : Nat
  beside : Nat

/-- Moves a run back by a line. -/
def MarkRun.stepBack (other : Array Bool) (r : MarkRun) : MarkRun :=
  let mine := (r.mine.set! (r.start - 1) true).set! (r.finish - 1) false
  { r with
    mine
    start := skipMarksBack mine (r.start - 1) + 1
    finish := r.finish - 1
    place := skipMarksBack other r.place }

/-- Moves a run back as long as the line before it is equal to its last one. -/
def MarkRun.moveBack (ids : Array Nat) (other : Array Bool) : Nat → MarkRun → MarkRun
  | 0, r => r
  | fuel + 1, r =>
    if 1 < r.start ∧ ids[r.start - 1]? = ids[r.finish - 1]? then
      moveBack ids other fuel (r.stepBack other)
    else r

/-- Moves a run on as long as the line behind it is equal to its first one. -/
def MarkRun.moveOn (ids : Array Nat) (other : Array Bool) (last : Nat) : Nat → MarkRun → MarkRun
  | 0, r => r
  | fuel + 1, r =>
    if r.finish ≠ last ∧ ids[r.start]? = ids[r.finish]? then
      let mine := (r.mine.set! r.start false).set! r.finish true
      let finish := skipMarks mine last (r.finish + 1)
      let place := skipMarks other other.size (r.place + 1)
      moveOn ids other last fuel
        { mine, start := r.start + 1, finish, place
          beside := if place = r.place + 1 then r.beside else finish }
    else r

/-- Moves a run back and on until it no longer grows. -/
def MarkRun.settle (ids : Array Nat) (other : Array Bool) (last : Nat) : Nat → MarkRun → MarkRun
  | 0, r => r
  | fuel + 1, r =>
    let back := r.moveBack ids other last
    let back := { back with beside := if other.getD (back.place - 1) false then back.finish else last }
    let on := back.moveOn ids other last last
    if on.finish - on.start = r.finish - r.start then on else settle ids other last fuel on

/-- Moves a run back to where there was a run beside it. -/
def MarkRun.rejoin (other : Array Bool) : Nat → MarkRun → MarkRun
  | 0, r => r
  | fuel + 1, r => if r.beside < r.finish then rejoin other fuel (r.stepBack other) else r

/-- Moves the runs of marks of a text from a place on, up to its last place; there is an unmarked place
    in front of both texts and behind them. -/
def shiftRuns (ids : Array Nat) (other : Array Bool) (last : Nat) :
    Nat → Array Bool → Nat → Nat → Array Bool
  | 0, mine, _, _ => mine
  | fuel + 1, mine, i, j =>
    if last ≤ i then mine
    else if !mine.getD i false then
      shiftRuns ids other last fuel mine (i + 1) (skipMarks other other.size j + 1)
    else
      let r : MarkRun :=
        { mine, start := i, finish := skipMarks mine last (i + 1)
          place := skipMarks other other.size j, beside := last }
      let r := (r.settle ids other last last).rejoin other last
      shiftRuns ids other last fuel r.mine r.finish r.place

/-- A list of marks with unmarked places in front and behind. -/
def enclosed (m : Array Bool) : Array Bool := #[false] ++ m ++ #[false]

/-- Which lines of two texts have no counterpart. Lines that the other text lacks are not compared. -/
def marks (x y : Array Nat) : Marks :=
  let most := max (x.foldl max 0) (y.foldl max 0)
  let keptOf (own other : Array Nat) : Array Nat :=
    let inOther : Array Bool :=
      other.foldl (fun (m : Array Bool) n => m.set! n true) (Array.replicate (most + 1) false)
    (Array.range own.size).filter fun i => inOther.getD (own.getD i 0) false
  let inX := keptOf x y
  let inY := keptOf y x
  let x' := inX.map fun i => x.getD i 0
  let y' := inY.map fun i => y.getD i 0
  let (mx, my) := compareWithin x' y' (x.size + y.size + 2) ⟨0, x'.size, 0, y'.size⟩
    (Array.replicate x'.size false, Array.replicate y'.size false)
  let spread (size : Nat) (kept : Array Nat) (m : Array Bool) : Array Bool :=
    (List.range kept.size).foldl (fun (all : Array Bool) k => all.set! (kept.getD k 0) (m.getD k false))
      (Array.replicate size true)
  let mx := enclosed (spread x.size inX mx)
  let my := enclosed (spread y.size inY my)
  let fuel := 2 * (x.size + y.size + 4)
  let mx := shiftRuns (#[0] ++ x) my (x.size + 1) fuel mx 1 1
  let my := shiftRuns (#[0] ++ y) mx (y.size + 1) fuel my 1 1
  (mx, my)

/-! ## Changes -/

/-- Lines of one text that are replaced by lines of another one. -/
structure Change where
  /-- How many lines stand before them in each text. -/
  first : Nat
  second : Nat
  deleted : Nat
  inserted : Nat

/-- The changes that marks stand for, from two places on. -/
def changesFrom (mx my : Array Bool) : Nat → Nat → Nat → List Change
  | 0, _, _ => []
  | fuel + 1, i, j =>
    if mx.size ≤ i + 1 ∧ my.size ≤ j + 1 then []
    else
      let i' := skipMarks mx mx.size i
      let j' := skipMarks my my.size j
      let rest := changesFrom mx my fuel (i' + 1) (j' + 1)
      if i' = i ∧ j' = j then rest else ⟨i - 1, j - 1, i' - i, j' - j⟩ :: rest

/-- How many lines two lists have in common in front. -/
def commonFront : List Nat → List Nat → Nat
  | a :: as, b :: bs => if a = b then commonFront as bs + 1 else 0
  | _, _ => 0

/-- The changes from one text to another one. Of the lines that both have in front and at the end, only
    some are looked at. -/
def changes (horizon : Nat) (x y : List Nat) : List Change :=
  let front := commonFront x y - horizon
  let x := x.drop front
  let y := y.drop front
  let ends := commonFront x.reverse y.reverse
  let ends := min ends (min x.length y.length) - horizon
  let (mx, my) := marks (x.take (x.length - ends)).toArray (y.take (y.length - ends)).toArray
  (changesFrom mx my (mx.size + my.size) 1 1).map fun c =>
    { c with first := c.first + front, second := c.second + front }

end Foreman.Shell
