import Foreman.Shell.Format
import Foreman.Shell.Pattern
import Foreman.Shell.Utility.Basic

/-!
# `Foreman.Shell.Utility.Columns` — parts of lines and single characters

## Contents
- `cut`, with lists of positions.
- `paste`.
- `fold`, `expand`, `unexpand`.
- `tr`, with **`CharSet`**.
-/

namespace Foreman.Shell.Utility

/-! ## Parts of lines -/

/-- A range of positions, counted from one; an open one has no end. -/
structure Span where
  first : Nat
  last : Option Nat

/-- Whether a position is in a range. -/
def Span.has (r : Span) (n : Nat) : Bool := r.first ≤ n && r.last.all (n ≤ ·)

/-- The range that a text writes. -/
def readSpan (isField : Bool) (text : Octets) : Except Octets Span :=
  let zero : Octets :=
    if isField then "fields are numbered from 1".toList
    else "byte/character positions are numbered from 1".toList
  let number (digits : Octets) : Except Octets Nat :=
    match natNumber? digits with
    | some 0 => .error zero
    | some n => .ok n
    | none =>
      .error ((if isField then "invalid field value " else "invalid byte/character position ").toList ++
        quotedText (digits.dropWhile Char.isDigit))
  match partsAt '-' text with
  | [] | [[]] => .error zero
  | [single] => (number single).map fun n => ⟨n, some n⟩
  | [[], []] => .error "invalid range with no endpoint: -".toList
  | [low, high] => do
    let first ← if low.isEmpty then .ok 1 else number low
    let last ← if high.isEmpty then .ok none else (number high).map some
    if last.any (· < first) then .error "invalid decreasing range".toList else .ok ⟨first, last⟩
  | _ => .error (if isField then "invalid field range".toList else "invalid byte or character range".toList)

/-- The things whose positions, from one on, are in some ranges, or in none of them. -/
def chosen {α : Type} (ranges : List Span) (isNegated : Bool) (xs : List α) : List α :=
  (xs.zipIdx 1).filterMap fun (x, n) => if (ranges.any (·.has n)) != isNegated then some x else none

/-- The runs of positions that are chosen from a text, with a text between them. -/
def chosenRuns (ranges : List Span) (isNegated : Bool) (between : Octets) (text : Octets) : Octets :=
  let starts (n : Nat) : Bool := ranges.any fun r => r.first = n
  let step (acc : Octets × Bool × Bool) (e : Char × Nat) : Octets × Bool × Bool :=
    let (done, inside, hasAny) := acc
    let isIn := (ranges.any (·.has e.2)) != isNegated
    if !isIn then (done, false, hasAny)
    else if hasAny ∧ (!inside ∨ (!isNegated ∧ starts e.2 ∧ !ranges.any fun r => r.first < e.2 && r.has e.2)) then
      (e.1 :: between.reverse ++ done, true, true)
    else (e.1 :: done, true, true)
  ((text.zipIdx 1).foldl step ([], false, false)).1.reverse

/-- Writes parts of the lines of files. -/
def cut : Utility := fun s args =>
  let g : Grammar :=
    { letters := "b:c:d:f:nsz"
      words := [("bytes", "b", .something), ("characters", "c", .something), ("delimiter", "d", .something),
        ("fields", "f", .something), ("only-delimited", "s", .nothing), ("complement", "complement", .nothing),
        ("output-delimiter", "o", .something), ("zero-terminated", "z", .nothing)] }
  withArguments s.name 1 g args fun a =>
    let wrong (text : String) : Report := misuse 1 s.name text.toList
    let lists := a.options.filter fun o => ["b", "c", "f"].contains o.1
    match lists with
    | [] => wrong "you must specify a list of bytes, characters, or fields"
    | _ :: _ :: _ => wrong "only one list may be specified"
    | [(kind, list)] =>
      let isField := kind = "f"
      let mark := a.value? "d"
      if (mark.getD []).length > 1 then wrong "the delimiter must be a single character"
      else if !isField ∧ mark.isSome then
        wrong "an input delimiter may be specified only when operating on fields"
      else if !isField ∧ a.has "s" then
        wrong "suppressing non-delimited lines makes sense\n\tonly when operating on fields"
      else
        let items := partsAt ',' (list.map fun c => if isBlank c then ',' else c)
        match items.mapM (readSpan isField) with
        | .error text => misuse 1 s.name text
        | .ok ranges =>
          let ending := if a.has "z" then '\x00' else '\n'
          let separator := match mark with
            | none => '\t'
            | some [] => '\x00'
            | some (c :: _) => c
          let between := (a.value? "o").getD [separator]
          let isNegated := a.has "complement"
          let shown (line : Octets) : Option Octets :=
            if isField then
              if line.contains separator then
                some (between.intercalate (chosen ranges isNegated (partsAt separator line)))
              else if a.has "s" then none
              else some line
            else
              match a.value? "o" with
              | some between => some (chosenRuns ranges isNegated between line)
              | none => some (chosen ranges isNegated line)
          s.eachFile a.operands (s.unreadable 1)
            (fromWhole fun d => textOut (endedBy ending ((linesBy ending d.data).filterMap shown)))
where
  /-- Whether a character separates ranges. -/
  isBlank (c : Char) : Bool := c = ' ' || c = '\t'

/-- Puts texts together with separators that take turns. -/
def joinedWith (marks : List Octets) : Nat → List Octets → Octets
  | _, [] => []
  | _, [text] => text
  | n, text :: rest => text ++ (marks[n % marks.length]?).getD [] ++ joinedWith marks (n + 1) rest

/-- The separators that a text lists. -/
def readMarks : Nat → Octets → List Octets
  | 0, _ => []
  | _ + 1, [] => []
  | fuel + 1, '\\' :: c :: rest =>
    (match c with
      | '0' => []
      | 'n' => ['\n']
      | 't' => ['\t']
      | 'b' => ['\x08']
      | 'f' => ['\x0c']
      | 'r' => ['\r']
      | 'v' => ['\x0b']
      | c => [c]) :: readMarks fuel rest
  | fuel + 1, c :: rest => [c] :: readMarks fuel rest

/-- The rows that columns make. -/
def pastedRows (marks : List Octets) : Nat → List (List Octets) → List Octets
  | 0, _ => []
  | fuel + 1, columns =>
    if columns.all List.isEmpty then []
    else joinedWith marks 0 (columns.map (·.headD [])) :: pastedRows marks fuel (columns.map List.tail)

/-- Deals lines out to a number of columns in turn. -/
def dealt (n i : Nat) (lines : List Octets) : List Octets :=
  (lines.zipIdx).filterMap fun (line, k) => if k % n = i then some line else none

/-- Puts the lines of files side by side, or all lines of each file on one line. -/
def paste : Utility := fun s args =>
  let g : Grammar :=
    { letters := "d:sz"
      words := [("delimiters", "d", .something), ("serial", "s", .nothing), ("zero-terminated", "z", .nothing)] }
  withArguments s.name 1 g args fun a =>
    let text := (a.value? "d").getD ['\t']
    let marks := if text.isEmpty then [[]] else readMarks text.length text
    let ending := if a.has "z" then '\x00' else '\n'
    if a.has "s" then
      s.eachFile a.operands (s.unreadable 1)
        (fromWhole fun d => textOut (joinedWith marks 0 (linesBy ending d.data) ++ [ending]))
    else
      let operands := orInput a.operands
      let (ds, r) := s.gather operands fun path fault =>
        if fault = .isFolder then {} else s.unreadable 1 path fault
      let folders := operands.filter fun path => !Scene.isInput path && (s.look? path).any Entry.isFolder
      let r := folders.foldl (fun r path => r.and (s.unreadable 1 path .isFolder)) r
      if r.status ≠ 0 ∧ folders.isEmpty then { r with texts := r.texts.take 1 }
      else
        let inputs := (operands.filter Scene.isInput).length
        let input := linesBy ending (((ds.find? FileData.isInput).map FileData.data).getD [])
        let step (acc : List (List Octets) × Nat × List FileData) (path : Octets) :
            List (List Octets) × Nat × List FileData :=
          let (columns, k, ds) := acc
          if Scene.isInput path then (columns ++ [dealt inputs k input], k + 1, ds.drop 1)
          else if folders.contains path then (columns ++ [[]], k, ds)
          else (columns ++ [linesBy ending ((ds.head?.map FileData.data).getD [])], k, ds.drop 1)
        let (columns, _, _) := operands.foldl step ([], 0, ds)
        let count := columns.foldl (fun n c => max n c.length) 0
        r.and (textOut (endedBy ending (pastedRows marks (count + 1) columns)))

/-! ## Widths -/

/-- The column after a character. -/
def columnAfter (countsBytes : Bool) (column : Nat) (c : Char) : Nat :=
  if countsBytes then column + 1
  else
    match c with
    | '\x08' => column - 1
    | '\r' => 0
    | '\t' => column + 8 - column % 8
    | _ => column + 1

/-- The column after a text. -/
def columnAfterAll (countsBytes : Bool) (text : Octets) : Nat := text.foldl (columnAfter countsBytes) 0

/-- Breaks a line, of which the front is given in reverse order, into lines of a width. -/
def folded (width : Nat) (countsBytes breaksAtBlanks : Bool) :
    Nat → Octets → Octets → Nat → Octets → Octets
  | 0, done, acc, _, rest => (rest.reverse ++ acc ++ done).reverse
  | _ + 1, done, acc, _, [] => (acc ++ done).reverse
  | fuel + 1, done, acc, column, c :: rest =>
    if c = '\n' then folded width countsBytes breaksAtBlanks fuel ('\n' :: acc ++ done) [] 0 rest
    else
      let next := columnAfter countsBytes column c
      if next ≤ width then folded width countsBytes breaksAtBlanks fuel done (c :: acc) next rest
      else if acc.isEmpty then folded width countsBytes breaksAtBlanks fuel done [c] next rest
      else
        let tail := acc.takeWhile (!isBlankChar ·)
        if breaksAtBlanks ∧ tail.length < acc.length then
          let front := acc.drop tail.length
          folded width countsBytes breaksAtBlanks fuel ('\n' :: front ++ done) tail
            (columnAfterAll countsBytes tail.reverse) (c :: rest)
        else folded width countsBytes breaksAtBlanks fuel ('\n' :: acc ++ done) [] 0 (c :: rest)
where
  /-- Whether a line may be broken after a character. -/
  isBlankChar (c : Char) : Bool := c = ' ' || c = '\t'

/-- Breaks long lines. -/
def fold : Utility := fun s args =>
  let g : Grammar :=
    { letters := "bsw:"
      words := [("bytes", "b", .nothing), ("spaces", "s", .nothing), ("width", "w", .something)] }
  let args := match args with
    | ('-' :: c :: digits) :: rest => if c.isDigit then ('-' :: 'w' :: c :: digits) :: rest else args
    | args => args
  withArguments s.name 1 g args fun a =>
    let text := (a.value? "w").getD "80".toList
    match natNumber? text with
    | none => faultOf 1 s.name ("invalid number of columns: ".toList ++ quotedText text)
    | some 0 =>
      faultOf 1 s.name
        ("invalid number of columns: ".toList ++ quotedText text ++ ": Numerical result out of range".toList)
    | some width =>
      s.eachFile a.operands (s.unreadable 1) (fromWhole fun d =>
        textOut (folded width (a.has "b") (a.has "s") (3 * d.data.length + 3) [] [] 0 d.data))

/-- Where tabs stop: at multiples of a number, or at some columns. -/
def nextStop (stops : List Nat) (column : Nat) : Option Nat :=
  match stops with
  | [size] => some (column + size - column % size)
  | stops => stops.find? (column < ·)

/-- The stops that a text lists. -/
def readStops (text : Octets) : Except Octets (List Nat) :=
  let items := (partsAt ',' (text.map fun c => if c = ' ' then ',' else c)).filter (!·.isEmpty)
  items.mapM fun item =>
    match natNumber? item with
    | some 0 => .error "tab size cannot be 0".toList
    | some n => .ok n
    | none => .error ("tab size contains invalid character(s): ".toList ++ quotedText (item.dropWhile Char.isDigit))

/-- Replaces tabs by blanks. -/
def expandTabs (stops : List Nat) (onlyInFront : Bool) : Octets → Nat → Bool → Octets → Octets
  | done, _, _, [] => done.reverse
  | done, column, isFront, c :: rest =>
    match c with
    | '\n' => expandTabs stops onlyInFront (c :: done) 0 true rest
    | '\t' =>
      if onlyInFront ∧ !isFront then expandTabs stops onlyInFront (c :: done) (column + 1) isFront rest
      else
        let stop := (nextStop stops column).getD (column + 1)
        expandTabs stops onlyInFront (List.replicate (stop - column) ' ' ++ done) stop isFront rest
    | '\x08' => expandTabs stops onlyInFront (c :: done) (column - 1) (isFront && false) rest
    | c => expandTabs stops onlyInFront (c :: done) (column + 1) (isFront && c = ' ') rest

/-- Replaces tabs by blanks. -/
def expand : Utility := fun s args =>
  let g : Grammar := { letters := "it:", words := [("initial", "i", .nothing), ("tabs", "t", .something)] }
  let args := args.map fun a => match a with
    | '-' :: c :: more => if c.isDigit then '-' :: 't' :: c :: more else a
    | a => a
  withArguments s.name 1 g args fun a =>
    match readStops ((a.value? "t").getD ['8']) with
    | .error text => faultOf 1 s.name text
    | .ok stops =>
      s.eachFile a.operands (s.unreadable 1)
        (fromWhole fun d => textOut (expandTabs stops (a.has "i") [] 0 true d.data))

/-- Blanks up to a column, with tabs as far as there are stops. -/
def blanksBetween (stops : List Nat) : Nat → Nat → Nat → Octets
  | 0, _, _ => []
  | fuel + 1, column, goal =>
    match nextStop stops column with
    | some stop =>
      if goal < stop then List.replicate (goal - column) ' '
      else (if stop = column + 1 ∧ goal = stop then ' ' else '\t') :: blanksBetween stops fuel stop goal
    | none => List.replicate (goal - column) ' '

/-- Replaces blanks of a line by tabs, all or only those in front. -/
def unexpandLine (stops : List Nat) (all : Bool) : Nat → Nat → Octets → Octets
  | 0, _, cs => cs
  | _ + 1, _, [] => []
  | fuel + 1, column, cs =>
    let blanks := cs.takeWhile fun c => c = ' ' || c = '\t'
    let rest := cs.drop blanks.length
    let goal := blanks.foldl (fun k c => if c = '\t' then (nextStop stops k).getD (k + 1) else k + 1) column
    let shown := if blanks = [' '] then [' '] else blanksBetween stops (goal + 1) column goal
    if all then
      let word := rest.takeWhile fun c => c ≠ ' ' && c ≠ '\t'
      shown ++ word ++ unexpandLine stops all fuel (goal + word.length) (rest.drop word.length)
    else shown ++ rest

/-- Replaces blanks by tabs. -/
def unexpand : Utility := fun s args =>
  let g : Grammar :=
    { letters := "at:"
      words := [("all", "a", .nothing), ("first-only", "first", .nothing), ("tabs", "t", .something)] }
  withArguments s.name 1 g args fun a =>
    match readStops ((a.value? "t").getD ['8']) with
    | .error text => faultOf 1 s.name text
    | .ok stops =>
      let all := (a.has "a" || a.has "t") && !a.has "first"
      s.eachFile a.operands (s.unreadable 1) (fromWhole fun d =>
        textOut ((linesKept '\n' d.data).flatMap fun line =>
          let (text, ending) := splitEnd line
          unexpandLine stops all (text.length + 1) 0 text ++ ending))

/-! ## Single characters -/

/-- A part of a set of characters, in order. -/
inductive CharPart where
  | chars (cs : List Char)
  /-- A class with the given name. -/
  | named (name : String)
  /-- A character as often as is said, or as often as there is room. -/
  | repeated (c : Char) (count : Option Nat)

/-- The characters from one to another. -/
def charSpan (low high : Char) : List Char :=
  (List.range (high.toNat + 1 - low.toNat)).map fun n => Char.ofNat (low.toNat + n)

/-- The characters of a class, in order, if there is one. -/
def classChars? (name : String) : Option (List Char) :=
  let within (f : Char → Bool) : List Char := ((List.range 256).map Char.ofNat).filter f
  match classRanges name with
  | [] => none
  | ranges => some (within fun c => ranges.any fun r => r.1 ≤ c && c ≤ r.2)

/-- The first character of a set, with its escape replaced, and the text after it. -/
def setChar (cs : Octets) : Option (Char × Octets) :=
  match cs with
  | [] => none
  | '\\' :: c :: rest =>
    if isOctal c then some (octalCode (c :: rest))
    else
      match c with
      | 'e' => some ('e', rest)
      | c => some ((letterEscape? c).getD c, rest)
  | c :: rest => some (c, rest)

/-- The text before an ending, and the text after it. -/
def untilMark (ending : Octets) : Nat → Octets → Octets → Option (Octets × Octets)
  | 0, _, _ => none
  | fuel + 1, acc, cs =>
    if ending.isPrefixOf cs then some (acc.reverse, cs.drop ending.length)
    else
      match cs with
      | [] => none
      | c :: rest => untilMark ending fuel (c :: acc) rest

/-- The parts of a set. -/
def readSet : Nat → Octets → Except Octets (List CharPart)
  | 0, _ => .ok []
  | _ + 1, [] => .ok []
  | fuel + 1, cs => do
    let classAt? : Option (Octets × Octets) := match cs with
      | '[' :: ':' :: rest => untilMark [':', ']'] (rest.length + 1) [] rest
      | _ => none
    let sameAt? : Option (Octets × Octets) := match cs with
      | '[' :: '=' :: c :: rest => (untilMark ['=', ']'] (rest.length + 1) [] rest).map fun (t, r) => (c :: t, r)
      | _ => none
    let repeatAt? : Option (Char × Octets × Octets) := match cs with
      | '[' :: rest =>
        match setChar rest with
        | some (c, '*' :: after) =>
          let digits := after.takeWhile Char.isDigit
          match after.drop digits.length with
          | ']' :: rest => some (c, digits, rest)
          | _ => none
        | _ => none
      | _ => none
    match classAt?, sameAt?, repeatAt? with
    | some (name, rest), _, _ =>
      let text := String.ofList name
      if (classChars? text).isNone then .error ("invalid character class ".toList ++ quotedText name)
      else return .named text :: (← readSet fuel rest)
    | none, some ([c], rest), _ => return .chars [c] :: (← readSet fuel rest)
    | none, some (text, _), _ =>
      .error (text ++ ": equivalence class operand must be a single character".toList)
    | none, none, some (c, digits, rest) =>
      let count := (numeral? (if digits.head? = some '0' then 8 else 10) digits).getD 0
      return .repeated c (if count = 0 then none else some count) :: (← readSet fuel rest)
    | none, none, none =>
      match setChar cs with
      | none => .ok []
      | some (low, '-' :: rest) =>
        match setChar rest with
        | none => return .chars [low] :: (← readSet fuel ('-' :: rest))
        | some (high, rest) =>
          if high < low then
            .error ("range-endpoints of '".toList ++ low :: '-' :: high ::
              "' are in reverse collating sequence order".toList)
          else return .chars (charSpan low high) :: (← readSet fuel rest)
      | some (c, rest) => return .chars [c] :: (← readSet fuel rest)

/-- The characters of a part; an open repetition has the given length. -/
def CharPart.all (room : Nat) : CharPart → List Char
  | chars cs => cs
  | named name => (classChars? name).getD []
  | repeated c count => List.replicate (count.getD room) c

/-- The characters of a set, so that there are at least as many as given if the set can be longer. -/
def setChars (length : Nat) (parts : List CharPart) : List Char :=
  let fixed := sumOf (fun p => (p.all 0).length) parts
  parts.flatMap (CharPart.all (length - fixed))

/-- Drops the repeats of some characters. -/
def squeezed (has : Char → Bool) (done : Octets) : Octets → Octets
  | [] => done.reverse
  | c :: rest =>
    if done.head? = some c ∧ has c then squeezed has done rest else squeezed has (c :: done) rest

/-- Replaces, squeezes or drops characters of the input. -/
def tr : Utility := fun s args =>
  let g : Grammar :=
    { letters := "+cCdst"
      words := [("complement", "c", .nothing), ("delete", "d", .nothing),
        ("squeeze-repeats", "s", .nothing), ("truncate-set1", "t", .nothing)]
      isStrict := true }
  withArguments s.name 1 g args fun a =>
    let deletes := a.has "d"
    let squeezes := a.has "s"
    let isNegated := a.has "c" || a.has "C"
    let most := if deletes ∧ !squeezes then 1 else 2
    let least := if deletes = squeezes then 2 else 1
    let count := a.operands.length
    if count < least then
      match a.operands.getLast? with
      | none => misuse 1 s.name "missing operand".toList
      | some last =>
        misuse 1 s.name ("missing operand after ".toList ++ quotedText last ++
          (if squeezes then "\nTwo strings must be given when both deleting and squeezing repeats."
            else "\nTwo strings must be given when translating.").toList)
    else if most < count then
      misuse 1 s.name ("extra operand ".toList ++ quotedText ((a.operands[most]?).getD []) ++
        (if most = 1 ∧ count = 2 then
          "\nOnly one string may be given when deleting without squeezing repeats." else "").toList)
    else
      let set (n : Nat) : Except Octets (List CharPart) :=
        let text := (a.operands[n]?).getD []
        readSet (text.length + 1) text
      match set 0, set 1 with
      | .error text, _ | _, .error text => faultOf 1 s.name text
      | .ok first, .ok second =>
        let translates := count = 2 && !deletes
        let named := setChars 0 first
        let listed := if isNegated then ((List.range 256).map Char.ofNat).filter (!named.contains ·) else named
        let isListed (c : Char) : Bool := listed.contains c
        let isBadClass : CharPart → Bool
          | .named name => name ≠ "lower" && name ≠ "upper"
          | _ => false
        let targets := setChars listed.length second
        if translates ∧ targets.isEmpty ∧ !a.has "t" then
          faultOf 1 s.name "when not truncating set1, string2 must be non-empty".toList
        else if translates ∧ second.any isBadClass then
          faultOf 1 s.name
            ("when translating, the only character classes that may appear in\n" ++
              "string2 are 'upper' and 'lower'").toList
        else
          let listed := if a.has "t" then listed.take targets.length else listed
          let last := targets.getLast?.getD '\x00'
          let table := listed.zip (targets ++ List.replicate (listed.length - targets.length) last)
          let image : Array Char :=
            table.foldl (fun m (c, t) => m.setIfInBounds c.toNat t) ((List.range 256).map Char.ofNat).toArray
          let translated (data : Octets) : Octets := data.map fun c => (image[c.toNat]?).getD c
          let squeezedBy (has : Char → Bool) (data : Octets) : Octets := squeezed has [] data
          let f (data : Octets) : Octets :=
            if deletes then
              let rest := data.filter (!isListed ·)
              if squeezes then squeezedBy targets.contains rest else rest
            else if translates then
              if squeezes then squeezedBy targets.contains (translated data) else translated data
            else squeezedBy isListed data
          { textOut (f s.input) with appetite := .everything, isHungry := s.isCut }

end Foreman.Shell.Utility
