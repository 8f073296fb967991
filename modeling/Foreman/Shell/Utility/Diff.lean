import Foreman.Collection.NameMap
import Foreman.Shell.Difference
import Foreman.Shell.Pattern
import Foreman.Shell.Utility.Clock
import Foreman.Shell.Utility.SideBySide

/-!
# `Foreman.Shell.Utility.Diff` — comparing files

## Contents
- `cmp`: the first byte that differs, or all of them.
- **`Sides`**: the lines of two files, with **`Hunk`** for changes that are shown together.
- **Formats**: `plainText`, `unifiedText`, `contextText`, `edText`, `recordText`.
- `diff`: compares files and folders.
-/

namespace Foreman.Shell.Utility

/-! ## Bytes -/

/-- The places where two texts differ, counted from one, and the two characters there. -/
def differences : Nat → Octets → Octets → List (Nat × Char × Char)
  | n, a :: as, b :: bs =>
    if a = b then differences (n + 1) as bs else (n, a, b) :: differences (n + 1) as bs
  | _, _, _ => []

/-- How a byte is shown beside its number. -/
def byteName (c : Char) : Octets :=
  let (front, n) : Octets × Nat := if c.toNat < 128 then ([], c.toNat) else (['M', '-'], c.toNat - 128)
  front ++ (if n < 32 then ['^', Char.ofNat (n + 64)] else if n = 127 then ['^', '?'] else [Char.ofNat n])

/-- The number of a byte with three octal digits. -/
def octalByte (c : Char) : Octets := padLeft 3 (Nat.toDigits 8 c.toNat)

/-- The numbers of bytes that are skipped in two files. -/
def readSkips? (text : Octets) : Option (Nat × Nat) :=
  match partsAt ':' text with
  | [one] => (sizeNumber? one).map fun n => (n, n)
  | [one, two] => do return (← sizeNumber? one, ← sizeNumber? two)
  | _ => none

/-- The report of `cmp` and `diff` on wrong usage. -/
def compareMisuse (name : String) (text : Octets) : Report :=
  failure 2 ((name ++ ": ").toList ++ text ++
    ("\n" ++ name ++ ": Try '" ++ name ++ " --help' for more information.").toList)

/-- Compares two files byte by byte. -/
def cmp : Utility := fun s args =>
  let g : Grammar :=
    { letters := "bci:ln:sv"
      words := [("print-bytes", "b", .nothing), ("print-chars", "b", .nothing),
        ("ignore-initial", "i", .something), ("verbose", "l", .nothing), ("bytes", "n", .something),
        ("silent", "s", .nothing), ("quiet", "s", .nothing)] }
  match g.read args with
  | .error f => compareMisuse s.name f.text
  | .ok a =>
    match a.operands with
    | [] => compareMisuse s.name ("missing operand after '".toList ++ s.name.toList ++ ['\''])
    | first :: more =>
      let second := more.headD ['-']
      let limit := (a.value? "n").map natNumber?
      let skips := ((more.drop 1).zip [0, 1]).map fun (text, k) => (text, k, sizeNumber? text)
      let badSkip := skips.find? fun (_, _, n) => n.isNone
      let own := (a.value? "i").map readSkips?
      if a.has "l" ∧ a.has "s" then compareMisuse s.name "options -l and -s are incompatible".toList
      else if 4 < a.operands.length then
        compareMisuse s.name ("extra operand '".toList ++ (more.drop 3).headD [] ++ ['\''])
      else
        match limit, own, badSkip with
        | some none, _, _ =>
          compareMisuse s.name ("invalid --bytes value '".toList ++ (a.value? "n").getD [] ++ ['\''])
        | _, some none, _ =>
          compareMisuse s.name ("invalid --ignore-initial value '".toList ++ (a.value? "i").getD [] ++ ['\''])
        | _, _, some (text, _, _) =>
          compareMisuse s.name ("invalid --ignore-initial value '".toList ++ text ++ ['\''])
        | limit, own, none =>
          let (i, j) := (own.bind id).getD (0, 0)
          let skipOf (k fallback : Nat) : Nat :=
            ((skips.find? fun x => x.2.1 = k).bind fun x => x.2.2).getD fallback
          let cut (skip : Nat) (data : Octets) : Octets :=
            match limit.bind id with
            | some n => (data.drop skip).take n
            | none => data.drop skip
          let isSame := s.fileOf? first = s.fileOf? second && skipOf 0 i = skipOf 1 j
          let blame (path : Octets) (fault : PathFault) : Report :=
            if a.has "s" then { status := 2 } else s.unreadable 2 path fault
          match s.readAll [first, second] with
          | [(_, .ok x), (_, .ok y)] =>
            let appetite := appetiteOf [first, second]
            let x' := cut (skipOf 0 i) x.data
            let y' := cut (skipOf 1 j) y.data
            let all := differences 1 x' y'
            let shorter := if x'.length < y'.length then some (x, x') else if y'.length < x'.length then
              some (y, y') else none
            let width := (natText (min x'.length y'.length)).length
            let finish (r : Report) : Report :=
              match shorter with
              | none => r
              | some (d, data) =>
                let lines := data.count '\n'
                let place := if a.has "l" then [] else
                  (if data.getLast? = some '\n' then ", line " else ", in line ").toList ++
                    natText (if data.getLast? = some '\n' then lines else lines + 1)
                let text := if data.isEmpty then " which is empty".toList
                  else " after byte ".toList ++ natText data.length ++ place
                { r.err (s.name.toList ++ ": EOF on ".toList ++ d.path ++ text) with status := 1 }
            let r : Report :=
              if isSame then {}
              else if a.has "s" then { status := if all.isEmpty ∧ shorter.isNone then 0 else 1 }
              else if a.has "l" then
                let lines := all.map fun (n, c, d) =>
                  padLeft width (natText n) ++ ' ' :: octalByte c ++
                    (if a.has "b" then ' ' :: padRight 4 (byteName c) else []) ++ ' ' :: octalByte d ++
                    (if a.has "b" then ' ' :: byteName d else []) ++ ['\n']
                ({ (finish {}).out lines.flatten with
                  status := if all.isEmpty ∧ shorter.isNone then 0 else 1 })
              else
                match all with
                | [] => finish {}
                | (n, c, d) :: _ =>
                  let line := (x'.take (n - 1)).count '\n' + 1
                  let what := if a.has "b" ∨ a.has "n" then "byte " else "char "
                  let shown := if a.has "b" then
                      " is ".toList ++ octalByte c ++ ' ' :: byteName c ++ ' ' :: octalByte d ++ ' ' :: byteName d
                    else []
                  { lineOut (x.path ++ ' ' :: y.path ++ (" differ: " ++ what).toList ++ natText n ++
                      ", line ".toList ++ natText line ++ shown) with status := 1 }
            { r with appetite, isHungry := x.isCut || y.isCut }
          | reads =>
            let bad := reads.filterMap fun (path, d) =>
              match d with
              | .error fault => some (path, fault)
              | .ok _ => none
            match bad with
            | (path, fault) :: _ => if isSame ∧ fault = .isFolder then {} else blame path fault
            | [] => {}

/-! ## Lines -/

/-- The lines of two files, each with the end that it has, and the numbers under which they are compared. -/
structure Sides where
  first : Array Octets
  second : Array Octets
  firstIds : List Nat
  secondIds : List Nat

/-- A line as it is compared. -/
def comparedLine (a : Arguments) (line : Octets) : Octets :=
  let isBlank (c : Char) : Bool := c.isWhitespace || c = '\x0b' || c = '\x0c'
  let trimEnd (cs : Octets) : Octets := (cs.reverse.dropWhile isBlank).reverse
  let rec squeezed : Octets → Octets
    | [] => []
    | c :: rest =>
      if isBlank c then if rest.head?.any isBlank then squeezed rest else ' ' :: squeezed rest
      else c :: squeezed rest
  let line := if a.has "strip-trailing-cr" ∧ ['\r', '\n'].isSuffixOf line then
    line.dropLast.dropLast ++ ['\n'] else line
  let line := if a.has "i" then line.map Char.toLower else line
  if a.has "w" then line.filter (!isBlank ·)
  else if a.has "b" then trimEnd (squeezed line)
  else if a.has "Z" then trimEnd line
  else line

/-- Gives lines numbers, equal ones the same. -/
def numberLines : NameMap Nat → Nat → List Octets → List Nat × NameMap Nat × Nat
  | known, next, [] => ([], known, next)
  | known, next, line :: rest =>
    let name := String.ofList line
    match known.find? name with
    | some n =>
      let (more, known) := numberLines known next rest
      (n :: more, known)
    | none =>
      let (more, known) := numberLines (known.insert name next) (next + 1) rest
      (next :: more, known)

/-- The lines of two texts. -/
def Sides.ofTexts (a : Arguments) (x y : Octets) : Sides :=
  let first := linesKept '\n' x
  let second := linesKept '\n' y
  let (firstIds, known, next) := numberLines .empty 1 (first.map (comparedLine a))
  let (secondIds, _) := numberLines known next (second.map (comparedLine a))
  { first := first.toArray, second := second.toArray, firstIds, secondIds }

/-- Some lines in a row. -/
def rowsOf (lines : Array Octets) (first count : Nat) : List Octets := (lines.extract first (first + count)).toList

/-- Lines with something in front of each; a last line without an end is told apart. -/
def withFront (front : Octets) (lines : List Octets) : Octets :=
  lines.flatMap fun line =>
    front ++ line ++
      if line.getLast? = some '\n' then [] else "\n\\ No newline at end of file\n".toList

/-- A range of lines, of which some number stand before. -/
def rangeText (before count : Nat) : Octets :=
  if count = 0 then natText before
  else if count = 1 then natText (before + 1)
  else natText (before + 1) ++ ',' :: natText (before + count)

/-- What a change does: it adds lines, deletes them, or replaces some. -/
def Change.letter (c : Change) : Char := if c.deleted = 0 then 'a' else if c.inserted = 0 then 'd' else 'c'

/-- The changes one after the other. -/
def plainText (a : Arguments) (s : Sides) (cs : List Change) : Octets :=
  let space : Char := if a.has "T" then '\t' else ' '
  cs.flatMap fun c =>
    rangeText c.first c.deleted ++ Change.letter c :: rangeText c.second c.inserted ++ '\n' ::
      withFront ['<', space] (rowsOf s.first c.first c.deleted) ++
      (if c.deleted ≠ 0 ∧ c.inserted ≠ 0 then "---\n".toList else []) ++
      withFront ['>', space] (rowsOf s.second c.second c.inserted)

/-- The changes as commands of an editor, the last one first. -/
def edText (s : Sides) (cs : List Change) : Octets :=
  cs.reverse.flatMap fun c =>
    rangeText c.first c.deleted ++ [Change.letter c, '\n'] ++
      (if c.inserted = 0 then []
        else (rowsOf s.second c.second c.inserted).flatten ++ ['.', '\n'])

/-- The changes with numbers of lines. -/
def recordText (s : Sides) (cs : List Change) : Octets :=
  cs.flatMap fun c =>
    (if c.deleted = 0 then []
      else 'd' :: natText (c.first + 1) ++ ' ' :: natText c.deleted ++ ['\n']) ++
    (if c.inserted = 0 then []
      else 'a' :: natText (c.first + c.deleted) ++ ' ' :: natText c.inserted ++ '\n' ::
        (rowsOf s.second c.second c.inserted).flatten)

/-! ## Hunks -/

/-- Changes that are shown together, with the lines around them. -/
structure Hunk where
  first : Nat
  firstCount : Nat
  second : Nat
  secondCount : Nat
  changes : List Change

/-- Changes in groups: those that are near each other are shown together. -/
def groupsOf (context : Nat) : List Change → List (List Change)
  | [] => []
  | c :: rest =>
    match groupsOf context rest with
    | (d :: more) :: others =>
      if d.first ≤ c.first + c.deleted + 2 * context then (c :: d :: more) :: others
      else [c] :: (d :: more) :: others
    | others => [c] :: others

/-- The hunk of a group of changes. -/
def Hunk.ofGroup? (context : Nat) (s : Sides) (group : List Change) : Option Hunk :=
  match group.head?, group.getLast? with
  | some c, some d =>
    let front := min context c.first
    let finish := min s.first.size (d.first + d.deleted + context)
    let behind := finish - (d.first + d.deleted)
    some
      { first := c.first - front, firstCount := finish - (c.first - front)
        second := c.second - front
        secondCount := d.second + d.inserted + behind - (c.second - front)
        changes := group }
  | _, _ => none

/-- A range of lines in the head of a hunk. -/
def hunkRange (before count : Nat) : Octets :=
  if count = 1 then natText (before + 1)
  else natText (if count = 0 then before else before + 1) ++ ',' :: natText count

/-- The lines of a hunk, from a line of the first file on. -/
def unifiedLines (s : Sides) (last : Nat) : Nat → List Change → Octets
  | i, [] => withFront [' '] (rowsOf s.first i (last - i))
  | i, c :: rest =>
    withFront [' '] (rowsOf s.first i (c.first - i)) ++
      withFront ['-'] (rowsOf s.first c.first c.deleted) ++
      withFront ['+'] (rowsOf s.second c.second c.inserted) ++
      unifiedLines s last (c.first + c.deleted) rest

/-- The changes with the lines around them. -/
def unifiedText (context : Nat) (s : Sides) (cs : List Change) : Octets :=
  ((groupsOf context cs).filterMap (Hunk.ofGroup? context s)).flatMap fun h =>
    "@@ -".toList ++ hunkRange h.first h.firstCount ++ " +".toList ++
      hunkRange h.second h.secondCount ++ " @@\n".toList ++
      unifiedLines s (h.first + h.firstCount) h.first h.changes

/-- The lines of one side of a hunk, from a line on. -/
def contextLines (lines : Array Octets) (last : Nat) (side : Change → Nat × Nat) (mark : Char) :
    Nat → List Change → Octets
  | i, [] => withFront "  ".toList (rowsOf lines i (last - i))
  | i, c :: rest =>
    let (start, count) := side c
    let mark' : Char := if c.deleted ≠ 0 ∧ c.inserted ≠ 0 then '!' else mark
    withFront "  ".toList (rowsOf lines i (start - i)) ++
      withFront [mark', ' '] (rowsOf lines start count) ++
      contextLines lines last side mark (start + count) rest

/-- The changes of both sides one after the other, with the lines around them. -/
def contextText (context : Nat) (s : Sides) (cs : List Change) : Octets :=
  ((groupsOf context cs).filterMap (Hunk.ofGroup? context s)).flatMap fun h =>
    "***************\n*** ".toList ++ rangeText h.first h.firstCount ++ " ****\n".toList ++
      (if h.changes.any (·.deleted ≠ 0) then
        contextLines s.first (h.first + h.firstCount) (fun c => (c.first, c.deleted)) '-' h.first h.changes
        else []) ++
      "--- ".toList ++ rangeText h.second h.secondCount ++ " ----\n".toList ++
      (if h.changes.any (·.inserted ≠ 0) then
        contextLines s.second (h.second + h.secondCount) (fun c => (c.second, c.inserted)) '+' h.second
          h.changes
        else [])

/-! ## Files and folders -/

/-- How differences are shown. -/
inductive DiffFormat where
  | plain
  | brief
  | unified (context : Nat)
  | context (context : Nat)
  | ed
  | record
  | sideBySide (layout : SideLayout)

/-- The options. -/
def diffGrammar : Grammar :=
  { letters := "0123456789abBcC:dD:eEfF:hHiI:lL:nNpPqrsS:tTuU:vwW:x:X:yZ"
    words := [("text", "a", .nothing), ("ignore-space-change", "b", .nothing),
      ("ignore-blank-lines", "B", .nothing), ("context", "context", .perhaps), ("minimal", "d", .nothing),
      ("ed", "e", .nothing), ("ignore-tab-expansion", "E", .nothing), ("ignore-case", "i", .nothing),
      ("label", "L", .something), ("rcs", "n", .nothing), ("new-file", "N", .nothing),
      ("brief", "q", .nothing), ("recursive", "r", .nothing), ("report-identical-files", "s", .nothing),
      ("expand-tabs", "t", .nothing), ("initial-tab", "T", .nothing), ("unified", "unified", .perhaps),
      ("ignore-all-space", "w", .nothing), ("width", "W", .something), ("exclude", "x", .something),
      ("ignore-trailing-space", "Z", .nothing), ("color", "color", .perhaps), ("normal", "normal", .nothing),
      ("strip-trailing-cr", "strip-trailing-cr", .nothing), ("show-c-function", "p", .nothing),
      ("side-by-side", "y", .nothing), ("left-column", "left-column", .nothing),
      ("suppress-common-lines", "suppress-common-lines", .nothing), ("tabsize", "tabsize", .something),
      ("speed-large-files", "H", .nothing)] }

/-- The format that options ask for. -/
def DiffFormat.ofArguments (a : Arguments) : DiffFormat :=
  let lines (name : String) : Nat := ((a.value? name).bind natNumber?).getD 3
  match a.last? ["u", "U", "unified", "c", "C", "context", "e", "n", "q", "normal", "y"] with
  | some "q" => .brief
  | some o =>
    if a.has "q" then .brief
    else
      match o with
      | "u" => .unified 3
      | "U" => .unified (lines "U")
      | "unified" => .unified (lines "unified")
      | "c" => .context 3
      | "C" => .context (lines "C")
      | "context" => .context (lines "context")
      | "e" => .ed
      | "n" => .record
      | "y" =>
        .sideBySide
          { width := ((a.value? "W").bind natNumber?).getD 130
            tab := ((a.value? "tabsize").bind natNumber?).getD 8
            expandsTabs := a.has "t"
            isLeftOnly := a.has "left-column"
            hidesCommon := a.has "suppress-common-lines" }
      | _ => .plain
  | none => .plain

/-- How many equal lines around the changes are looked at. -/
def DiffFormat.horizon : DiffFormat → Nat
  | unified n | context n => n
  | _ => 0

/-- One of the two things that are compared. -/
structure DiffSide where
  path : Octets
  /-- What stands there; nothing if it is missing and counts as empty. -/
  entry : Option Entry
  data : Octets
  here : String := ""

/-- The line about a file at the head of a comparison. -/
def sideHeader (format : DiffFormat) (mark : String) (label : Option Octets) (now : Nat) (x : DiffSide) :
    Octets :=
  let time : Int := ((x.entry.map Entry.changed).getD (if Scene.isInput x.path then now else 0) : Nat)
  let pattern := match format with
    | .context _ => "%a %b %e %T %Y"
    | _ => "%Y-%m-%d %H:%M:%S.%N %z"
  mark.toList ++ ' ' :: (match label with
    | some text => text
    | none => x.path ++ '\t' :: formatDate time pattern.toList) ++ ['\n']

/-- Compares two files. -/
def diffFiles (s : Scene) (a : Arguments) (header : Octets) (x y : DiffSide) : Report :=
  let format := DiffFormat.ofArguments a
  let differs (text : Octets) : Report := { textOut text with status := 1 }
  let columns? : Option SideLayout := match format with
    | .sideBySide layout => some layout
    | _ => none
  let beside (sides : Sides) (cs : List Change) : Octets :=
    match columns? with
    | some layout => sideBySideText layout sides.first.toList sides.second.toList 0 0 cs
    | none => []
  let identical : Report :=
    if columns?.isSome then textOut (header ++ beside (Sides.ofTexts a x.data y.data) [])
    else if a.has "s" then lineOut ("Files ".toList ++ x.path ++ " and ".toList ++ y.path ++ " are identical".toList)
    else {}
  let isBinary (d : Octets) : Bool := !a.has "a" && d.contains '\x00'
  let isEd := match format with
    | .ed => true
    | _ => false
  -- Commands of an editor cannot say that the last line has no end.
  let isOpen (d : DiffSide) : Bool := isEd && d.data.getLast?.any (· ≠ '\n')
  let closed (d : DiffSide) : Octets := if isOpen d then d.data ++ ['\n'] else d.data
  let blameOpen (r : Report) (d : DiffSide) : Report :=
    if isOpen d then
      r.and (failure 2 ((s.name ++ ": ").toList ++ d.path ++ ": No newline at end of file\n".toList))
    else r
  if x.data = y.data then identical
  else if isBinary x.data ∨ isBinary y.data then
    let kind := match format with
      | .brief => "Files "
      | _ => "Binary files "
    differs (kind.toList ++ x.path ++ " and ".toList ++ y.path ++ " differ\n".toList)
  else
    let sides := Sides.ofTexts a (closed x) (closed y)
    let all := changes format.horizon sides.firstIds sides.secondIds
    let isBlank (line : Octets) : Bool := comparedLine a line = ['\n'] || comparedLine a line = []
    let ignored (c : Change) : Bool :=
      a.has "B" && ((rowsOf sides.first c.first c.deleted).all isBlank) &&
        ((rowsOf sides.second c.second c.inserted).all isBlank)
    if all.all ignored then blameOpen (blameOpen (if all.isEmpty ∧ isEd then {} else identical) x) y
    else
      let cs := all.filter (!ignored ·)
      let labels := a.valuesOf "L"
      let heads (marks : String × String) : Octets :=
        sideHeader format marks.1 labels.head? s.files.now x ++
          sideHeader format marks.2 (labels.drop 1).head? s.files.now y
      match format with
      | .brief => differs ("Files ".toList ++ x.path ++ " and ".toList ++ y.path ++ " differ\n".toList)
      | .plain => differs (header ++ plainText a sides cs)
      | .ed => blameOpen (blameOpen (differs (header ++ edText sides cs)) x) y
      | .record => differs (header ++ recordText sides cs)
      | .sideBySide _ => differs (header ++ beside sides cs)
      | .unified n => differs (header ++ heads ("---", "+++") ++ unifiedText n sides cs)
      | .context n => differs (header ++ heads ("***", "---") ++ contextText n sides cs)

/-- A thing in a folder. -/
def DiffSide.child (s : Scene) (folder : DiffSide) (name : String) : DiffSide :=
  let here := folder.here ++ "/" ++ name
  let path := (if folder.path.getLast? = some '/' then folder.path else folder.path ++ ['/']) ++ name.toList
  match s.find here.toList with
  | .ok p => { path, entry := p.entry, data := (p.entry.map Entry.data).getD [], here := p.path }
  | .error _ => { path, entry := none, data := [], here }

/-- What a thing is called. -/
def sideKind (x : DiffSide) : String :=
  match x.entry with
  | some e => if e.isFolder then "directory" else if x.data.isEmpty then "regular empty file" else "regular file"
  | none => "regular empty file"

/-- Compares two folders. -/
def diffFolders (s : Scene) (a : Arguments) (options : Octets) : Nat → DiffSide → DiffSide → Report
  | 0, _, _ => {}
  | fuel + 1, x, y =>
    let namesOf (d : DiffSide) : List String := if d.entry.isSome then s.files.children d.here else []
    let names := (NameMap.ofList ((namesOf x ++ namesOf y).map fun n => (n, ()))).keys
    let isLeftOut (name : String) : Bool :=
      (a.valuesOf "x").any fun p => fits (pattern (glyphs false p)) name.toList
    let step (r : Report) (name : String) : Report :=
      let only (d : DiffSide) : Report :=
        { lineOut ("Only in ".toList ++ d.path ++ ": ".toList ++ name.toList) with status := 1 }
      let x' := x.child s name
      let y' := y.child s name
      let isFolder (d : DiffSide) : Bool := d.entry.any Entry.isFolder
      r.and
        (if x'.entry.isNone ∧ !a.has "N" then only y
        else if y'.entry.isNone ∧ !a.has "N" then only x
        else if (isFolder x' ∨ x'.entry.isNone) ∧ (isFolder y' ∨ y'.entry.isNone) then
          if a.has "r" then diffFolders s a options fuel x' y'
          else lineOut ("Common subdirectories: ".toList ++ x'.path ++ " and ".toList ++ y'.path)
        else if isFolder x' ∨ isFolder y' then
          { lineOut (("File ").toList ++ x'.path ++ (" is a " ++ sideKind x' ++ " while file ").toList ++
              y'.path ++ (" is a " ++ sideKind y').toList) with status := 1 }
        else
          diffFiles s a ("diff ".toList ++ options ++ x'.path ++ ' ' :: y'.path ++ ['\n']) x' y')
    (names.filter (!isLeftOut ·)).foldl step {}

/-- The arguments other than two operands, as they are shown between the parts of a comparison. -/
def shownOptions (args : List Octets) (one two : Octets) : Octets :=
  (((args.reverse.erase two).erase one).reverse).flatMap fun w => nameInMessage w ++ [' ']

/-- Compares two files or folders. -/
def diff : Utility := fun s args =>
  match diffGrammar.read args with
  | .error f => compareMisuse s.name f.text
  | .ok a =>
    match a.operands with
    | [] => compareMisuse s.name ("missing operand after '".toList ++ s.name.toList ++ ['\''])
    | [one] => compareMisuse s.name ("missing operand after '".toList ++ one ++ ['\''])
    | _ :: _ :: extra :: _ => compareMisuse s.name ("extra operand '".toList ++ extra ++ ['\''])
    | [one, two] =>
      let isFolder (path : Octets) : Bool := (s.look? path).any Entry.isFolder
      let lastName (path : Octets) : Octets :=
        ((path.reverse.dropWhile (· = '/')).takeWhile (· ≠ '/')).reverse
      let inside (folder path : Octets) : Octets :=
        (if folder.getLast? = some '/' then folder else folder ++ ['/']) ++ lastName path
      let isPlain (path : Octets) : Bool := !Scene.isInput path && !isFolder path
      let (one, two) : Octets × Octets :=
        if isFolder one ∧ isPlain two then (inside one two, two)
        else if isFolder two ∧ isPlain one then (one, inside two one)
        else (one, two)
      let side (e : Octets × Except PathFault FileData) : Except (Octets × PathFault) DiffSide :=
        let here := (s.fileOf? e.1).getD ""
        match e.2 with
        | .ok d =>
          .ok { path := e.1, entry := if d.isInput then none else s.look? e.1, data := d.data, here }
        | .error .isFolder => .ok { path := e.1, entry := s.look? e.1, data := [], here }
        | .error fault =>
          if a.has "N" ∧ fault = .missing then .ok { path := e.1, entry := none, data := [], here }
          else .error (e.1, fault)
      let sides := (s.readAll [one, two]).map side
      let report : Report := match sides with
        | [.ok x, .ok y] =>
          if s.fileOf? one = s.fileOf? two then
            if a.has "s" ∨ a.has "y" then diffFiles s a [] x x else {}
          else if x.entry.any Entry.isFolder ∧ y.entry.any Entry.isFolder then
            diffFolders s a (shownOptions args x.path y.path) 64 x y
          else diffFiles s a [] x y
        | sides =>
          let step (r : Report) (x : Except (Octets × PathFault) DiffSide) : Report :=
            match x with
            | .ok _ => r
            | .error (path, fault) => r.and (s.unreadable 2 path fault)
          sides.foldl step {}
      { report with appetite := appetiteOf [one, two], isHungry := s.isCut && (appetiteOf [one, two] ≠ .nothing) }

end Foreman.Shell.Utility
