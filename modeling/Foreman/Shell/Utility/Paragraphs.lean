import Foreman.Shell.Utility.Basic

/-!
# `Foreman.Shell.Utility.Paragraphs` — text in lines of about one length

Lines with the same indent make up a paragraph. Its words are set again in lines whose lengths are near a
goal; every way to break lines has a cost, and the cheapest one is taken.

## Contents
- **`Word`**: a word with what follows it.
- **`Setting`**: what the options say.
- **Costs**: `breakCost`, `lineCost`; `bestBreaks`, the lines with the least cost.
- `fmt`.
-/

namespace Foreman.Shell.Utility

/-! ## Words -/

/-- A word and how it is bound to the words around it. -/
structure Word where
  text : Octets
  /-- The blanks after it. -/
  space : Nat := 0
  /-- Whether it begins with a bracket or a quote. -/
  opens : Bool := false
  /-- Whether it ends with a mark. -/
  hasMark : Bool := false
  /-- Whether it ends as a sentence may end. -/
  hasPeriod : Bool := false
  /-- Whether a sentence ends with it. -/
  isFinal : Bool := false

/-- Whether a character is a mark. -/
def isMark (c : Char) : Bool := 33 ≤ c.toNat && c.toNat ≤ 126 && !c.isAlphanum

/-- A word, as its characters tell. -/
def Word.ofText (text : Octets) : Word :=
  let last := text.getLast?.getD 'a'
  let trimmed := (text.tail.reverse.dropWhile (")]'\"".toList.contains ·)).reverse
  let core := trimmed.getLast?.getD (text.headD 'a')
  { text
    opens := text.head?.any ("(['\x60\"".toList.contains ·)
    hasMark := isMark last
    hasPeriod := ".?!".toList.contains core }

/-- The column after blanks, and the text after them. -/
def afterBlanks : Nat → Octets → Nat × Octets
  | column, ' ' :: rest => afterBlanks (column + 1) rest
  | column, '\t' :: rest => afterBlanks ((column / 8 + 1) * 8) rest
  | column, rest => (column, rest)

/-- The words of a line that starts at a column. -/
def wordsFrom (isUniform : Bool) : Nat → Nat → Octets → List Word
  | 0, _, _ => []
  | fuel + 1, column, line =>
    if line.isEmpty then []
    else
      let isSpace (c : Char) : Bool := c.isWhitespace || c = '\x0b' || c = '\x0c'
      let text := line.take 1 ++ (line.drop 1).takeWhile (!isSpace ·)
      let start := column + text.length
      let (next, rest) := afterBlanks start (line.drop text.length)
      let w := Word.ofText text
      let isFinal := w.hasPeriod && (rest.isEmpty || 1 < next - start)
      let space := if rest.isEmpty ∨ isUniform then if isFinal then 2 else 1 else next - start
      { w with space, isFinal } :: wordsFrom isUniform fuel next rest

/-! ## Settings -/

/-- What the options say. -/
structure Setting where
  width : Nat := 75
  goal : Nat := 70
  /-- Whether the second line of a paragraph has an indent of its own; tagged paragraphs need one. -/
  isCrown : Bool := false
  isTagged : Bool := false
  /-- Whether lines are only split and not joined. -/
  isSplit : Bool := false
  isUniform : Bool := false
  /-- What lines begin with that are set again, with the blanks before it. -/
  mark : Octets := []
  markIndent : Nat := 0
  /-- How many blanks follow the mark. -/
  markSpace : Nat := 0

/-! ## Costs -/

/-- The cost of a line that is too short by a number of characters, or too long. -/
def shortCost (n : Int) : Int := (10 * n) * (10 * n)

/-- The cost of two lines that differ in length. -/
def raggedCost (n : Int) : Int := shortCost n / 2

/-- The cost of a line that begins with the word at a place. -/
def breakCost (ws : Array Word) (i : Nat) : Int :=
  let none : Word := { text := [] }
  let w := ws.getD i none
  let before := ws.getD (i - 1) none
  let front : Int :=
    if i = 0 then 0
    else if before.hasPeriod then if before.isFinal then -2500 else 360000
    else if before.hasMark then -1600
    else if 1 < i ∧ (ws.getD (i - 2) none).isFinal then (40000 : Nat) / (before.text.length + 2)
    else 0
  let own : Int :=
    if w.opens then -1600
    else if w.isFinal then (22500 : Nat) / (w.text.length + 2)
    else 0
  4900 + front + own

/-- How the words from one on are set best: where the next line begins, how long the line is, and the
    cost of all lines. -/
structure Break where
  next : Nat
  length : Nat
  cost : Int

/-- The best way to end a line, among the places from one on. `ends` has the best ways for the later
    words, from that of the place on. -/
def bestEnd (o : Setting) (ws : Array Word) (isFirst : Bool) : Nat → Nat → Nat → List Break → Option Break →
    Option Break
  | 0, _, _, _, best => best
  | fuel + 1, w, length, ends, best =>
    let total := ws.size
    let later := ends.headD ⟨total, 0, 0⟩
    let cost : Int :=
      if w = total then 0
      else shortCost ((o.goal : Int) - length) +
        (if later.next = total then 0 else raggedCost ((length : Int) - later.length)) + later.cost
    let best := match best with
      | some b => if cost < b.cost then some ⟨w, length, cost⟩ else some b
      | none => some ⟨w, length, cost⟩
    if w = total then best
    else
      let word := ws.getD w { text := [] }
      let before := ws.getD (w - 1) { text := [] }
      let length := length + before.space + word.text.length
      if length < o.width then bestEnd o ws isFirst fuel (w + 1) length (ends.drop 1) best else best

/-- The best ways to set the words from each one on, the first `n` words being still to do. -/
def bestBreaks (o : Setting) (ws : Array Word) (indent otherIndent : Nat) : Nat → List Break → List Break
  | 0, done => done
  | i + 1, done =>
    let start := if i = 0 then indent else otherIndent
    let length := start + (ws.getD i { text := [] }).text.length
    let best := (bestEnd o ws (i = 0) (ws.size + 1) (i + 1) length done none).getD ⟨i + 1, length, 0⟩
    bestBreaks o ws indent otherIndent i ({ best with cost := best.cost + breakCost ws i } :: done)

/-! ## Paragraphs -/

/-- A text filled with blanks up to a column, in tabs where they reach. -/
def filledTo (usesTabs : Bool) (column target : Nat) : Octets :=
  let stop := target / 8 * 8
  if usesTabs ∧ column + 1 < stop then
    List.replicate (stop / 8 - column / 8) '\t' ++ List.replicate (target - stop) ' '
  else List.replicate (target - column) ' '

/-- The lines that words are set in. -/
def setLines (o : Setting) (usesTabs : Bool) (ws : Array Word) (indent otherIndent : Nat) : List Octets :=
  let breaks := (bestBreaks o ws indent otherIndent ws.size []).toArray
  let rec go : Nat → Nat → Nat → List Octets
    | 0, _, _ => []
    | fuel + 1, i, indent =>
      if ws.size ≤ i then []
      else
        let next := (breaks.getD i ⟨ws.size, 0, 0⟩).next
        let front := filledTo usesTabs 0 o.markIndent ++ o.mark
        let start := o.markIndent + o.mark.length
        let step (acc : Nat × Octets) (k : Nat) : Nat × Octets :=
          let (column, done) := acc
          let w := ws.getD k { text := [] }
          let column := column + w.text.length
          let done := done ++ w.text
          if k + 1 = next then (column, done)
          else (column + w.space, done ++ filledTo usesTabs column (column + w.space))
        let body := ((List.range' i (next - i)).foldl step (max start indent, [])).2
        (front ++ filledTo usesTabs start indent ++ body) :: go fuel (max next (i + 1)) otherIndent
  go (ws.size + 1) 0 indent

/-- A line of a text: the column where its words begin, if it can be set again, and its words. -/
structure TextLine where
  raw : Octets
  /-- The column of the mark, or of the words if there is none. -/
  front : Nat
  column : Nat
  body : Octets

/-- A line as it begins. -/
def TextLine.of (o : Setting) (raw : Octets) : TextLine :=
  let (front, rest) := afterBlanks 0 raw
  if o.mark.isEmpty then ⟨raw, min front o.markIndent, front, rest⟩
  else if o.mark.isPrefixOf rest then
    let (column, body) := afterBlanks (front + o.mark.length) (rest.drop o.mark.length)
    ⟨raw, front, column, body⟩
  else ⟨raw, front, front, rest⟩

/-- Whether a line can be set again. -/
def TextLine.isText (o : Setting) (l : TextLine) : Bool :=
  !l.body.isEmpty && o.markIndent ≤ l.front && l.front + o.mark.length + o.markSpace ≤ l.column

/-- A line that is left as it is. -/
def TextLine.kept (o : Setting) (usesTabs : Bool) (l : TextLine) : Octets :=
  if l.front < l.column ∨ !l.body.isEmpty then
    let front := filledTo usesTabs 0 l.front
    let mark := o.mark.take (l.column - l.front)
    front ++ mark ++
      (if l.body.isEmpty then [] else filledTo usesTabs (l.front + mark.length) l.column) ++ l.body
  else []

/-- Whether there is a tab among the blanks of a line; in front of its words, or anywhere. -/
def TextLine.hasTab (o : Setting) (inFront : Bool) (l : TextLine) : Bool :=
  let isBlank (c : Char) : Bool := c = ' ' || c = '\t'
  let front := l.raw.takeWhile isBlank
  let after := (l.raw.drop (front.length + o.mark.length)).takeWhile isBlank
  if inFront then front.contains '\t' || (!o.mark.isEmpty && after.contains '\t')
  else l.raw.contains '\t'

/-- The lines of a text, set again. The second indent is that of the paragraph before. Once a tab was
    read, tabs are written. -/
def setText (o : Setting) : Nat → Bool → Nat → List TextLine → List Octets
  | 0, _, _, _ => []
  | _ + 1, _, _, [] => []
  | fuel + 1, seen, other, l :: rest =>
    let seen := seen || l.hasTab o true
    if !l.isText o then l.kept o seen :: setText o fuel seen other rest
    else
      let goesOn (k : TextLine) : Bool := k.isText o && k.front = l.front
      let isSame := rest.head?.any goesOn
      let next := (rest.head?.map TextLine.column).getD 0
      let other :=
        if o.isSplit then l.column
        else if o.isCrown then if isSame then next else l.column
        else if o.isTagged then
          if isSame ∧ next ≠ l.column then next
          else if other = l.column then if l.column = 0 then 3 else 0
          else other
        else l.column
      let takes : Bool := !o.isSplit && isSame &&
        (o.isCrown || next = other) && (!o.isTagged || o.isCrown || next ≠ l.column)
      let more := if takes then rest.takeWhile fun k => goesOn k && k.column = other else []
      let ws := (l :: more).flatMap fun k => wordsFrom o.isUniform (k.body.length + 1) k.column k.body
      let ws := match ws.reverse with
        | last :: before => (({ last with hasPeriod := true, isFinal := true } : Word) :: before).reverse
        | [] => []
      let seen := seen || (l :: more).any (·.hasTab o false) ||
        ((rest.drop more.length).head?.any fun k => k.hasTab o true)
      let o' := { o with markIndent := if o.mark.isEmpty then o.markIndent else l.front }
      setLines o' seen ws.toArray l.column other ++ setText o fuel seen other (rest.drop more.length)

/-- Sets text in lines of about one length. -/
def fmt : Utility := fun s args =>
  let args := match args with
    | ('-' :: c :: more) :: rest => if c.isDigit then (['-', 'w'] ++ c :: more) :: rest else args
    | args => args
  let g : Grammar :=
    { letters := "cstuw:p:g:"
      words := [("crown-margin", "c", .nothing), ("prefix", "p", .something), ("split-only", "s", .nothing),
        ("tagged-paragraph", "t", .nothing), ("uniform-spacing", "u", .nothing), ("width", "w", .something),
        ("goal", "g", .something)] }
  withArguments s.name 1 g args fun a =>
    let number (option : String) (most : Nat) : Except Octets (Option Nat) :=
      match a.value? option with
      | none => .ok none
      | some text => (boundedNumber "invalid width" 0 most text).map fun n => some n.toNat
    let sizes : Except Octets (Nat × Nat) := do
      let width? ← number "w" 2500
      let goal? ← number "g" (width?.getD 75)
      return match width?, goal? with
        | some width, some goal => (width, goal)
        | some width, none => (width, width * 187 / 200)
        | none, some goal => (goal + 10, goal)
        | none, none => (75, 70)
    match sizes with
    | .error text => faultOf 1 s.name text
    | .ok (width, goal) =>
      let given := (a.value? "p").getD []
      let mark := given.dropWhile (· = ' ')
      let body := (mark.reverse.dropWhile (· = ' ')).reverse
      let o : Setting :=
        { width, goal, isCrown := a.has "c", isTagged := a.has "t", isSplit := a.has "s",
          isUniform := a.has "u", mark := body, markIndent := given.length - mark.length,
          markSpace := mark.length - body.length }
      let blame (path : Octets) (fault : PathFault) : Report :=
        match fault with
        | .isFolder => faultOf 1 s.name "read error".toList
        | fault =>
          faultOf 1 s.name ("cannot open ".toList ++ quotedName path ++ " for reading: ".toList ++
            fault.text.toList)
      s.eachFile a.operands blame (fromWhole fun d =>
        let lines := (linesIn d.data).map (TextLine.of o)
        textOut (withEnds (setText o (lines.length + 1) false 0 lines)))

end Foreman.Shell.Utility
