import Foreman.Shell.Format
import Foreman.Shell.Regex
import Foreman.Shell.Utility.Basic

/-!
# `Foreman.Shell.Utility.Passages` — a text cut where its lines match

Patterns say where a text is cut: at a line of some number, or at a line with a match. What comes before the
cut goes to the next file, or is left out.

## Contents
- **`CutPattern`**: where the text is cut, with `CutPattern.readAll`.
- **`Cutter`**: how far a text is cut. `Cutter.follow` follows a pattern.
- `csplit`.
-/

namespace Foreman.Shell.Utility

/-! ## Patterns -/

/-- Where a text is cut. -/
inductive CutPlace where
  | line (n : Nat)
  /-- Some lines after the next line with a match. What comes before it may be left out. -/
  | found (r : Regex) (offset : Int) (isLeftOut : Bool)

/-- A place, and how often it counts again; without end if no number is given. -/
structure CutPattern where
  text : Octets
  place : CutPlace
  again? : Option Nat := some 0

namespace CutPattern

/-- Reads how often a pattern counts again. -/
def readAgain (text : Octets) : Except Octets (Option Nat) :=
  if text.getLast? ≠ some '\x7d' then
    .error (quotedText text ++ ": '\x7d' is required in repeat count".toList)
  else
    let body := (text.drop 1).dropLast
    if body = ['*'] then .ok none
    else
      match natNumber? body with
      | some n => .ok (some n)
      | none => .error (quotedText text.dropLast ++ "\x7d: integer required between '\x7b' and '\x7d'".toList)

/-- Reads a pattern; the number of the last line that a pattern named is given. -/
def read (last : Nat) (text : Octets) : Except Octets (CutPattern × Nat) := do
  match text with
  | mark :: rest =>
    if mark = '/' ∨ mark = '%' then
      let offset := (rest.reverse.takeWhile (· ≠ mark)).reverse
      if offset.length = rest.length then
        .error (text ++ ": closing delimiter '".toList ++ [mark] ++ "' missing".toList)
      let body := rest.take (rest.length - offset.length - 1)
      let r ← match readRegex { isExtended := false } body with
        | .ok (r, _) => .ok r
        | .error _ =>
          .error (quotedText text ++ ": invalid regular expression: Invalid regular expression".toList)
      let n ← if offset.isEmpty then .ok 0
        else (boundedNumber "" (-2 ^ 62) (2 ^ 62) offset).mapError fun _ =>
          quotedText text ++ ": integer expected after delimiter".toList
      return ({ text, place := .found r n (mark = '%') }, last)
    else
      match natNumber? text with
      | some 0 => .error (text ++ ": line number must be greater than zero".toList)
      | some n =>
        if n < last then
          .error ("line number ".toList ++ quotedText text ++
            " is smaller than preceding line number, ".toList ++ natText last)
        else return ({ text, place := .line n }, n)
      | none => .error (quotedText text ++ ": invalid pattern".toList)
  | [] => .error (quotedText text ++ ": invalid pattern".toList)

/-- Reads patterns; also warnings about lines that are named twice. -/
def readAll : Nat → Nat → List Octets → Except (List Octets × Octets) (List CutPattern × List Octets)
  | 0, _, _ => .ok ([], [])
  | _ + 1, _, [] => .ok ([], [])
  | fuel + 1, last, text :: rest => do
    let (p, next) ← (read last text).mapError fun e => ([], e)
    let warning := match p.place with
      | .line n =>
        if n = last then
          ["warning: line number ".toList ++ quotedText text ++
            " is the same as preceding line number".toList]
        else []
      | .found .. => []
    let withWarning (e : List Octets × Octets) : List Octets × Octets := (warning ++ e.1, e.2)
    let (p, rest) ← match rest with
      | ('\x7b' :: more) :: rest =>
        match readAgain ('\x7b' :: more) with
        | .ok again? => .ok ({ p with again? }, rest)
        | .error e => .error (withWarning ([], e))
      | rest => .ok (p, rest)
    let (ps, warnings) ← (readAll fuel next rest).mapError withWarning
    return (p :: ps, warning ++ warnings)

end CutPattern

/-! ## Cutting -/

/-- How far a text is cut. -/
structure Cutter where
  lines : Array Octets
  /-- How many lines are used up. -/
  used : Nat := 0
  /-- The number of the line that was looked at last. -/
  current : Nat := 0
  /-- The files made so far, the latest first. -/
  made : List Octets := []
  /-- What is written to the file that is open, if one is. -/
  open? : Option Octets := none
  /-- The sizes of the files, and complaints, the latest first. -/
  texts : List (Nat × Octets) := []
  skipsEmpty : Bool
  dropsMatched : Bool
  name : String
  /-- Whether a fault ended it. -/
  hasFailed : Bool := false

namespace Cutter

/-- Opens the next file. -/
def opened (c : Cutter) : Cutter := { c with open? := some [] }

/-- Closes the file that is open. -/
def closed (c : Cutter) : Cutter :=
  match c.open? with
  | none => c
  | some data =>
    let c := { c with open? := none }
    if data.isEmpty ∧ c.skipsEmpty then c
    else { c with made := data :: c.made, texts := (1, natText data.length ++ ['\n']) :: c.texts }

/-- Uses up lines, up to one of some number. They are written if a file is open. -/
def upTo (c : Cutter) (line : Nat) : Cutter :=
  let stop := min (line - 1) c.lines.size
  if stop ≤ c.used then c
  else
    let text := (c.lines.extract c.used stop).toList.flatten
    { c with used := stop, current := max c.current stop, open? := c.open?.map (· ++ text) }

/-- Uses up the next line without writing it. -/
def skipped (c : Cutter) : Cutter :=
  if c.used < c.lines.size then { c with used := c.used + 1, current := max c.current (c.used + 1) } else c

/-- Whether all lines are used up. -/
def isAtEnd (c : Cutter) : Bool := c.lines.size ≤ c.used

/-- Ends with a complaint, before the sizes that are still to be shown or after them. -/
def failing (c : Cutter) (showsSizes : Bool) (text : Octets) : Cutter :=
  let line : Nat × Octets := (2, (c.name ++ ": ").toList ++ text ++ ['\n'])
  let c := { c with texts := if showsSizes then line :: c.texts else c.texts ++ [line] }
  { c.closed with hasFailed := true }

/-- A complaint about a pattern that fits nowhere. -/
def misfit (p : CutPattern) (count : Nat) (what : String) : Octets :=
  quotedText p.text ++ (": " ++ what).toList ++
    if count = 0 then [] else (" on repetition " ++ toString count).toList

/-- The number of the next line with a match. -/
def nextMatch? (c : Cutter) (r : Regex) : Option Nat :=
  let first := c.current
  ((c.lines.toList.drop first).findIdx? fun line => r.isIn false (splitEnd line).1).map (first + · + 1)

/-- Follows a pattern once. The result on the left is the end. -/
def once (c : Cutter) (p : CutPattern) (count : Nat) : Except Cutter Cutter :=
  match p.place with
  | .line n =>
    let c := c.opened
    let target := n * (count + 1)
    let outside := "line number out of range"
    if c.isAtEnd ∧ c.dropsMatched then .error (c.failing false (misfit p count outside))
    else
      let isShort := c.lines.size + 1 < target
      let c := c.upTo target
      if isShort then .error (c.failing false (misfit p count outside))
      else
        let c := c.closed
        if c.dropsMatched then .ok c.skipped
        else if c.isAtEnd then .error (c.failing false (misfit p count outside))
        else .ok c
  | .found r offset isLeftOut =>
    let c := if isLeftOut then c else c.opened
    match c.nextMatch? r with
    | none =>
      let c := c.upTo (c.lines.size + 1)
      .error (if p.again?.isNone then c.closed else c.failing false (misfit p count "match not found"))
    | some line =>
      let c := if 0 ≤ offset then c.upTo line else c
      let c := { c with current := max c.current line }
      let stop : Int := line + offset
      if stop < c.used + 1 ∨ (c.lines.size : Int) + 1 < stop then
        .error ((c.upTo stop.toNat).failing true (quotedText p.text ++ ": line number out of range".toList))
      else
        let c := (c.upTo stop.toNat).closed
        let c := { c with current := if 0 < offset then stop.toNat else line }
        .ok (if c.dropsMatched then c.skipped else c)

/-- Follows a pattern as often as it counts. -/
def follow (p : CutPattern) : Nat → Nat → Cutter → Except Cutter Cutter
  | 0, _, c => .ok c
  | fuel + 1, count, c =>
    if p.again?.any (· < count) then .ok c
    else
      match c.once p count with
      | .error c => .error c
      | .ok c => follow p fuel (count + 1) c

/-- Follows patterns one after the other, and takes what is left. -/
def followAll (c : Cutter) (ps : List CutPattern) : Cutter :=
  let fuel := c.lines.size + 2
  match ps.foldlM (fun c p => follow p (max fuel (p.again?.getD 0 + 2)) 0 c) c with
  | .error c => c
  | .ok c => (c.opened.upTo (c.lines.size + 1)).closed

end Cutter

/-! ## The program -/

/-- What is wrong with a format for the number of a file. -/
def numberFormatFault? (format : Octets) : Option Octets :=
  let converts : FormatPart → Option Char
    | .convert _ _ _ letter _ => some letter
    | _ => none
  match (readFormat format).filterMap converts with
  | [] => some "missing % conversion specification in suffix".toList
  | [c] =>
    if "diouxX".toList.contains c then none
    else some ("invalid conversion specifier in suffix: ".toList ++ [c])
  | _ => some "too many % conversion specifications in suffix".toList

/-- Cuts a text where its lines match. -/
def csplit : Utility := fun s args =>
  let g : Grammar :=
    { letters := "f:b:kn:sqz"
      words := [("digits", "n", .something), ("quiet", "s", .nothing), ("silent", "s", .nothing),
        ("keep-files", "k", .nothing), ("elide-empty-files", "z", .nothing), ("prefix", "f", .something),
        ("suffix-format", "b", .something), ("suppress-matched", "suppress-matched", .nothing)] }
  withArguments s.name 1 g args fun a =>
    let digits? := (a.value? "n").elim (some 2) natNumber?
    match a.operands, digits?, (a.value? "b").bind numberFormatFault? with
    | _, none, _ => faultOf 1 s.name ("invalid number: ".toList ++ quotedText ((a.value? "n").getD []))
    | [], _, _ => misuse 1 s.name "missing operand".toList
    | [path], _, _ => misuse 1 s.name ("missing operand after ".toList ++ quotedText path)
    | path :: texts, some digits, fault? =>
      let warned (warnings : List Octets) : Report :=
        warnings.foldl (fun (r : Report) w => r.and { faultOf 1 s.name w with status := 0 }) {}
      match CutPattern.readAll (texts.length + 1) 0 texts, fault? with
      | .error (warnings, text), _ => (warned warnings).and (faultOf 1 s.name text)
      | .ok _, some text => faultOf 1 s.name text
      | .ok (ps, warnings), none =>
        match s.readPath path with
        | .error fault =>
          faultOf 1 s.name ("cannot open ".toList ++ quotedName path ++ " for reading: ".toList ++
            fault.text.toList)
        | .ok (data, isCut) =>
          let start : Cutter :=
            { lines := (linesKept '\n' data).toArray, skipsEmpty := a.has "z", name := s.name,
              dropsMatched := a.has "suppress-matched" }
          let c := start.followAll ps
          let nameOf (i : Nat) : Octets :=
            (a.value? "f").getD ['x', 'x'] ++
              match a.value? "b" with
              | some format => (formatted format [natText i]).text
              | none => (padded digits i).toList
          let step (acc : Files × Report) (e : Octets × Nat) : Files × Report :=
            let (files, r) := acc
            match files.find s.folder (nameOf e.2) with
            | .ok ⟨here, _⟩ => (files.write here (s.newMode 0o666) e.1, r)
            | .error fault => (files, r.and (s.unreadable 1 (nameOf e.2) fault))
          let made := if c.hasFailed ∧ !a.has "k" then [] else c.made.reverse
          let (files, faults) := made.zipIdx.foldl step (s.files, {})
          let texts := c.texts.reverse.filter fun t => t.1 = 2 ∨ !a.hasAny ["s", "q"]
          { ((warned warnings).and { texts }).and faults with
            status := if c.hasFailed ∨ faults.status ≠ 0 then 1 else 0
            files := some files
            appetite := if Scene.isInput path then .everything else .nothing
            isHungry := isCut }

end Foreman.Shell.Utility
