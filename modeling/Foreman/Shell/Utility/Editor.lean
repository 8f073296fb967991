import Foreman.Shell.Utility.Basic
import Foreman.Shell.Utility.Editor.Script

/-!
# `Foreman.Shell.Utility.Editor` — editing lines by a script

A script is applied to each line in turn. The line stands in the space, where commands change it, and is
written when the script is at its end.

## Contents
- **`Sink`**: what is written; a line that lacks its end gets it as soon as another one follows.
- **`Editor`**: the state, with the input, the space and the hold.
- **Selection**: `Editor.selects`.
- **Substitution**: `Editor.substitute`.
- `runFrom`, one pass of the script; `editLines`, all of them.
- `sed`.
-/

namespace Foreman.Shell.Utility

namespace Editor

/-! ## Output -/

/-- What is written. -/
structure Sink where
  /-- The texts, the latest first. -/
  texts : List Octets := []
  /-- Whether the last line lacks its end. -/
  isOpen : Bool := false

/-- Writes a text. -/
def Sink.put (k : Sink) (ending : Char) (text : Octets) (isEnded : Bool) : Sink :=
  let before := if k.isOpen then ending :: text else text
  { texts := (if isEnded then before ++ [ending] else before) :: k.texts, isOpen := !isEnded }

/-- Writes a text as it is. -/
def Sink.putText (k : Sink) (ending : Char) (text : Octets) : Sink :=
  { texts := (if k.isOpen then ending :: text else text) :: k.texts, isOpen := false }

/-- All that was written. -/
def Sink.all (k : Sink) : Octets := k.texts.reverse.flatten

end Editor

open Editor

/-- How a script is applied. -/
structure EditStyle where
  script : Array EditCommand
  isQuiet : Bool
  ending : Char
  /-- Whether each file has lines of its own. -/
  isSeparate : Bool
  /-- Whether files are replaced by what is written. -/
  isInPlace : Bool
  suffix : Octets := []
  width : Nat := 70

/-- The state of an editor. -/
structure Editor where
  space : Octets := []
  /-- Whether the line in the space had an end. -/
  isEnded : Bool := true
  hold : Octets := []
  number : Nat := 0
  hasReplaced : Bool := false
  /-- What is written at the end of the pass, the latest first. -/
  appended : List Octets := []
  /-- Where the ranges of commands end that have begun, by their places; zero if another line decides. -/
  ranges : List (Nat × Nat) := []
  /-- What was matched last. -/
  last : Option EditRegex := none
  /-- The file that is read, and the lines of it that are left. -/
  path : Octets := ['-']
  isOpened : Bool := false
  lines : List Octets := []
  /-- The files that follow. -/
  files : List (Octets × Except PathFault FileData)
  out : Sink := {}
  /-- Files that are written. -/
  written : List (Octets × Sink) := []
  /-- Files that are read line by line. -/
  readers : List (Octets × List Octets) := []
  /-- What has been done to whole files, and complaints. -/
  report : Report := {}
  scene : Scene

namespace Editor

/-! ## Input -/

/-- Whether no line follows. -/
def isLast (e : Editor) (o : EditStyle) : Bool :=
  let hasLines (f : Octets × Except PathFault FileData) : Bool :=
    match f.2 with
    | .ok d => !d.data.isEmpty
    | .error _ => false
  e.lines.isEmpty && (o.isSeparate || !e.files.any hasLines)

/-- Replaces the file that was read by what was written. -/
def commit (o : EditStyle) (e : Editor) : Editor :=
  if !o.isInPlace ∨ !e.isOpened then e
  else
    let s := e.scene
    match s.find e.path with
    | .ok ⟨here, some old⟩ =>
      let backup : Octets :=
        let name := (e.path.reverse.takeWhile (· ≠ '/')).reverse
        let folder := e.path.take (e.path.length - name.length)
        if o.suffix.isEmpty then []
        else if o.suffix.contains '*' then
          let made := o.suffix.flatMap fun c => if c = '*' then name else [c]
          if made.contains '/' then made else folder ++ made
        else e.path ++ o.suffix
      let files :=
        if backup.isEmpty then s.files
        else
          match s.find backup with
          | .ok p => s.files.put p.path (.file old.data) old.mode
          | .error _ => s.files
      let files := files.put here (.file e.out.all) old.mode
      { e with scene := { s with files }, out := {}, isOpened := false
               report := { e.report with files := some files } }
    | _ => { e with out := {}, isOpened := false }

/-- Ends with a complaint. -/
def blame (e : Editor) (status : Nat) (text : Octets) : Editor :=
  { e with report := e.report.and (failure status ("sed: ".toList ++ text)) }

/-- Opens files until there is a line. The result is false at the end, or a status if the editor gives up. -/
def openNext (o : EditStyle) : Nat → Editor → Except Editor (Editor × Bool)
  | 0, e => .ok (e, false)
  | fuel + 1, e =>
    if !e.lines.isEmpty then .ok (e, true)
    else
      let e := commit o e
      match e.files with
      | [] => .ok (e, false)
      | (path, d) :: files =>
        let e := { e with files }
        match d with
        | .error .isFolder =>
          if o.isInPlace then .error (e.blame 4 ("couldn't edit ".toList ++ path ++ ": not a regular file".toList))
          else .error (e.blame 4 ("read error on ".toList ++ path ++ ": Is a directory".toList))
        | .error fault => openNext o fuel (e.blame 2 ("can't read ".toList ++ path ++ (": " ++ fault.text).toList))
        | .ok d =>
          let e := { e with path, lines := linesKept o.ending d.data, isOpened := true }
          openNext o fuel (if o.isSeparate then { e with number := 0, ranges := [] } else e)

/-- Takes the next line. With no result there is none. -/
def nextLine (o : EditStyle) (e : Editor) : Except Editor (Option (Editor × Octets × Bool)) := do
  let (e, hasLine) ← openNext o (e.files.length + 1) e
  match e.lines with
  | line :: lines =>
    if hasLine then
      let isEnded := line.getLast? = some o.ending
      return some ({ e with lines, number := e.number + 1 }, if isEnded then line.dropLast else line, isEnded)
    else return none
  | [] => throw e

/-! ## Selection -/

/-- Finds an expression in the space; an empty one stands for the last one. -/
def find? (e : Editor) (x : Option EditRegex) (n : Nat) : Option (Subject × Option Match × EditRegex) :=
  (x.orElse fun _ => e.last).map fun x =>
    let t : Subject := { text := e.space.toArray, foldsCase := x.foldsCase, hasLines := x.hasLines }
    (t, x.regex.findFrom? t n, x)

/-- Whether a line is the one that an address means. -/
def fitsAddress (o : EditStyle) (e : Editor) (a : Address) : Bool × Editor :=
  match a with
  | .line n => (e.number = n, e)
  | .step first every => (first ≤ e.number && (e.number - first) % every = 0, e)
  | .last => (e.isLast o, e)
  | .matching x =>
    match e.find? x 0 with
    | some (_, m, x) => (m.isSome, { e with last := some x })
    | none => (false, e.blame 1 "-e expression #1, char 0: no previous regular expression".toList)

/-- Whether the command at a place is for this line. -/
def selects (o : EditStyle) (place : Nat) (s : Selector) (e : Editor) : Bool × Editor :=
  let (isSelected, e) : Bool × Editor :=
    match s.first, s.last with
    | none, _ => (true, e)
    | some a, none => fitsAddress o e a
    | some a, some finish =>
      let close (e : Editor) : Editor := { e with ranges := e.ranges.filter (·.1 ≠ place) }
      let begin (e : Editor) (last : Nat) : Editor := { e with ranges := (place, last) :: (close e).ranges }
      match e.ranges.lookup place with
      | some last =>
        match finish with
        | .address (.line _) | .count _ | .multiple _ =>
          (e.number ≤ last, if last ≤ e.number then close e else e)
        | .address b =>
          let (isEnd, e) := fitsAddress o e b
          (true, if isEnd then close e else e)
      | none =>
        let (isStart, e) := fitsAddress o e a
        if !isStart then (false, e)
        else
          match finish with
          | .address (.line n) => (true, if n ≤ e.number then e else begin e n)
          | .count n => (true, if n = 0 then e else begin e (e.number + n))
          | .multiple n =>
            (true, if n = 0 ∨ e.number % n = 0 then e else begin e ((e.number / n + 1) * n))
          | .address _ => (true, begin e 0)
  (isSelected != s.isNegated, e)

/-! ## Substitution -/

/-- How letters are changed next. -/
structure Casing where
  all : CaseMark := .plain
  next : CaseMark := .plain

/-- Changes the case of letters. -/
def Casing.apply : Casing → Octets → Octets × Casing
  | k, [] => ([], k)
  | k, c :: rest =>
    let changed : Char := match k.next, k.all with
      | .upperNext, _ => c.toUpper
      | .lowerNext, _ => c.toLower
      | _, .upper => c.toUpper
      | _, .lower => c.toLower
      | _, _ => c
    let (more, k) := Casing.apply { k with next := .plain } rest
    (changed :: more, k)

/-- What a match is replaced by. -/
def replacementText (t : Subject) (m : Match) : Casing → List ReplacementPart → Octets
  | _, [] => []
  | k, .text cs :: rest =>
    let (text, k) := k.apply cs
    text ++ replacementText t m k rest
  | k, .group n :: rest =>
    let (text, k) := k.apply (m.group t n)
    text ++ replacementText t m k rest
  | k, .mark c :: rest =>
    let k : Casing := match c with
      | .upperNext | .lowerNext => { k with next := c }
      | c => { all := c }
    replacementText t m k rest

/-- Replaces matches from a place on, of which some number were passed over. An empty match right behind
    another one does not count. The result is what stands from the place on, and whether something was
    replaced. -/
def replaceFrom (t : Subject) (r : Regex) (s : Substitution) : Nat → Nat → Nat → Option Nat → Octets × Bool
  | 0, place, _, _ => (t.part place t.text.size, false)
  | fuel + 1, place, count, behind =>
    match r.findFrom? t place with
    | none => (t.part place t.text.size, false)
    | some m =>
      let before := t.part place m.first
      let isEmpty := m.first = m.last
      let onward := if isEmpty then m.last + 1 else m.last
      let skipped := if isEmpty then t.part m.last (m.last + 1) else []
      if isEmpty ∧ behind = some m.first then
        let (rest, hasReplaced) :=
          if t.text.size < onward then ([], false) else replaceFrom t r s fuel onward count none
        (before ++ skipped ++ rest, hasReplaced)
      else
        let replaces := s.number ≤ count + 1
        let text := if replaces then replacementText t m {} s.replacement else t.part m.first m.last
        if t.text.size < onward then (before ++ text, replaces)
        else if replaces ∧ !s.isGlobal then
          (before ++ text ++ skipped ++ t.part onward t.text.size, true)
        else
          let (rest, hasReplaced) :=
            replaceFrom t r s fuel onward (count + 1) (if isEmpty then none else some m.last)
          (before ++ text ++ skipped ++ rest, replaces || hasReplaced)

/-! ## Commands -/

/-- Writes to a file, or to the output. -/
def writeFile (o : EditStyle) (path text : Octets) (e : Editor) : Editor :=
  if path = "/dev/stdout".toList then { e with out := e.out.put o.ending text true }
  else if path = "/dev/stderr".toList then { e with report := e.report.err text }
  else
    { e with written := e.written.map fun (p, k) => if p = path then (p, k.put o.ending text true) else (p, k) }

/-- The space in lines of some width, with escapes. -/
def listed (width : Nat) (text : Octets) : Octets :=
  let escape (c : Char) : Octets :=
    match c with
    | '\\' => ['\\', '\\']
    | '\x07' => ['\\', 'a']
    | '\x08' => ['\\', 'b']
    | '\x0c' => ['\\', 'f']
    | '\n' => ['\\', 'n']
    | '\r' => ['\\', 'r']
    | '\t' => ['\\', 't']
    | '\x0b' => ['\\', 'v']
    | c =>
      if c.toNat < 32 ∨ 127 ≤ c.toNat then
        ['\\', Char.ofNat (48 + c.toNat / 64), Char.ofNat (48 + c.toNat / 8 % 8), Char.ofNat (48 + c.toNat % 8)]
      else [c]
  let step (acc : Octets × Nat) (c : Char) : Octets × Nat :=
    let shown := escape c
    if width ≠ 0 ∧ width - 1 < acc.2 + shown.length then
      (shown.reverse ++ '\n' :: '\\' :: acc.1, shown.length)
    else (shown.reverse ++ acc.1, acc.2 + shown.length)
  (text.foldl step ([], 0)).1.reverse ++ ['$']

/-- How a pass of the script ends. -/
inductive PassEnd where
  /-- The space is written, and the next line is read. -/
  | done
  | deleted
  /-- The script begins again with what is in the space. -/
  | again
  | quits (status : Nat) (writes : Bool)
  /-- The editor gives up. -/
  | failed

/-- Writes the space. -/
def writeSpace (o : EditStyle) (e : Editor) : Editor := { e with out := e.out.put o.ending e.space e.isEnded }

/-- Whether a complaint made the editor give up. -/
def hasFailed (e : Editor) : Bool := e.report.status = 1

/-- Runs the script from a command on. The result has the fuel that is left. -/
def runFrom (o : EditStyle) : Nat → Nat → Editor → Editor × PassEnd × Nat
  | 0, _, e => (e, .failed, 0)
  | fuel + 1, place, e =>
    match o.script[place]? with
    | none => (e, .done, fuel)
    | some c =>
      let (isSelected, e) := e.selects o place c.selector
      let goOn (e : Editor) := runFrom o fuel (place + 1) e
      let line (text : Octets) (e : Editor) : Editor := { e with out := e.out.put o.ending text true }
      let firstLine := e.space.takeWhile (· ≠ o.ending)
      if e.hasFailed then (e, .failed, fuel)
      else if !isSelected then
        match c.order with
        | .block finish => runFrom o fuel finish e
        | _ => goOn e
      else
        match c.order with
        | .block _ | .blockEnd | .label | .nothing => goOn e
        | .append text => goOn { e with appended := text :: e.appended }
        | .insert text => goOn { e with out := e.out.putText o.ending text }
        | .change text =>
          let isInRange := !c.selector.isNegated && (e.ranges.lookup place).isSome
          (if isInRange then e else { e with out := e.out.putText o.ending text }, .deleted, fuel)
        | .jump reason target =>
          match reason with
          | .always => runFrom o fuel target e
          | .replaced =>
            if e.hasReplaced then runFrom o fuel target { e with hasReplaced := false } else goOn e
          | .notReplaced =>
            if e.hasReplaced then goOn { e with hasReplaced := false } else runFrom o fuel target e
        | .delete => (e, .deleted, fuel)
        | .deleteFirst =>
          if firstLine.length = e.space.length then (e, .deleted, fuel)
          else ({ e with space := e.space.drop (firstLine.length + 1) }, .again, fuel)
        | .name => goOn (line e.path e)
        | .fetch => goOn { e with space := e.hold }
        | .fetchMore => goOn { e with space := e.space ++ o.ending :: e.hold }
        | .hold => goOn { e with hold := e.space }
        | .holdMore => goOn { e with hold := e.hold ++ o.ending :: e.space }
        | .listing width => goOn (line (listed (width.getD o.width) e.space) e)
        | .next =>
          if e.isLast o ∧ (o.isSeparate → e.files.isEmpty) then (e, .quits 0 true, fuel)
          else
            let e := if o.isQuiet then e else e.writeSpace o
            match e.nextLine o with
            | .ok (some (e, space, isEnded)) => goOn (flushed { e with space, isEnded })
            | .ok none => (e, .quits 0 false, fuel)
            | .error e => (e, .failed, fuel)
        | .nextMore =>
          if e.isLast o ∧ (o.isSeparate → e.files.isEmpty) then (e, .quits 0 true, fuel)
          else
            match (flushed e).nextLine o with
            | .ok (some (e, more, isEnded)) =>
              goOn { e with space := e.space ++ o.ending :: more, isEnded }
            | .ok none => (e, .quits 0 true, fuel)
            | .error e => (e, .failed, fuel)
        | .print => goOn (e.writeSpace o)
        | .printFirst => goOn (line firstLine e)
        | .quit status => (e, .quits status true, fuel)
        | .quitAtOnce status => (e, .quits status false, fuel)
        | .readFile path =>
          match e.scene.readPath path with
          | .ok (data, _) =>
            let scene := if Scene.isInput path then { e.scene with input := [] } else e.scene
            goOn { e with appended := data :: e.appended, scene }
          | .error _ => goOn e
        | .readLine path =>
          let lines : List Octets := match e.readers.lookup path with
            | some lines => lines
            | none =>
              match e.scene.readPath path with
              | .ok (data, _) => linesBy o.ending data
              | .error _ => []
          let readers := (path, lines.drop 1) :: e.readers.filter (·.1 ≠ path)
          match lines with
          | text :: _ => goOn { e with readers, appended := (text ++ [o.ending]) :: e.appended }
          | [] => goOn { e with readers }
        | .substitute s =>
          match e.find? s.expression 0 with
          | none => (e.blame 1 "-e expression #1, char 0: no previous regular expression".toList, .failed, fuel)
          | some (_, none, x) => goOn { e with last := some x }
          | some (t, some _, x) =>
            let (space, hasReplaced) := replaceFrom t x.regex s (t.text.size + 2) 0 0 none
            let e := { e with last := some x }
            if !hasReplaced then goOn e
            else
              let e := { e with space, hasReplaced := true }
              let e := if s.prints then e.writeSpace o else e
              goOn (match s.file with
                | some path => e.writeFile o path e.space
                | none => e)
        | .write path => goOn (e.writeFile o path e.space)
        | .writeFirst path => goOn (e.writeFile o path firstLine)
        | .exchange => goOn { e with space := e.hold, hold := e.space }
        | .translate pairs => goOn { e with space := e.space.map fun c => (pairs.lookup c).getD c }
        | .zap => goOn { e with space := [] }
        | .number => goOn { e with out := e.out.putText o.ending (natText e.number ++ ['\n']) }
where
  /-- Writes what was to be written at the end of the pass. -/
  flushed (e : Editor) : Editor :=
    { e with
      out := e.appended.reverse.foldl (fun (k : Sink) text => k.putText '\n' text) e.out
      appended := [] }

/-- Applies the script to all lines. The result has the status with which the script quits, and whether
    it came to an end at all. -/
def editLines (o : EditStyle) : Nat → Bool → Editor → Editor × Option Nat × Bool
  | 0, _, e => (e, none, false)
  | fuel + 1, reads, e =>
    let begun : Except Editor (Option Editor) :=
      if !reads then .ok (some e)
      else (e.nextLine o).map fun next => next.map fun (e, space, isEnded) => { e with space, isEnded }
    match begun with
    | .error e => (commit o e, none, true)
    | .ok none =>
      let e := match openNext o (e.files.length + 1) e with
        | .ok (e, _) | .error e => e
      (commit o e, none, true)
    | .ok (some e) =>
      -- A jump is only taken for what was replaced in this line.
      let e := if reads then { e with hasReplaced := false } else e
      let (e, passEnd, left) := runFrom o passFuel 0 e
      if left = 0 then (e, none, false)
      else
        match passEnd with
        | .done =>
          editLines o fuel true (runFrom.flushed (if o.isQuiet then e else e.writeSpace o))
        | .deleted => editLines o fuel true (runFrom.flushed e)
        | .again => editLines o fuel false (runFrom.flushed e)
        | .quits status writes =>
          let e := if writes ∧ !o.isQuiet then e.writeSpace o else e
          (commit o (if writes then runFrom.flushed e else e), some status, true)
        | .failed => (e, none, true)
where
  /-- How many commands a pass may run. -/
  passFuel : Nat := 1000000

/-- How many passes there may be. -/
def passLimit : Nat := 2000000

end Editor

/-! ## The utility -/

/-- A part of a script: an argument, or a file with its name. -/
structure ScriptPart where
  file : Option Octets
  text : Octets

/-- Where a fault is: the part of the script, and how many characters of it were read. -/
def faultPlace (parts : List ScriptPart) (read : Nat) : Octets :=
  go 1 read parts
where
  /-- Goes through the parts. -/
  go (expression : Nat) (read : Nat) : List ScriptPart → Octets
    | [] => []
    | p :: rest =>
      if read ≤ p.text.length ∨ rest.isEmpty then
        match p.file with
        | some path =>
          let lines := (p.text.take (read - 1)).count '\n' + 1
          "file ".toList ++ path ++ " line ".toList ++ natText lines
        | none => "-e expression #".toList ++ natText expression ++ ", char ".toList ++
            natText (min read p.text.length)
      else go (if p.file.isNone then expression + 1 else expression) (read - p.text.length - 1) rest

/-- How wrong usage is reported. -/
def sedUsage (text : Octets) : Report :=
  failure 1 (text ++ "Usage: sed [OPTION]... \x7bscript-only-if-no-other-script\x7d [input-file]...\n".toList)

/-- The parts of the script that options give. -/
def scriptParts (s : Scene) (a : Arguments) : Except Report (List ScriptPart × List Octets) := do
  let part (o : String × Octets) : Except Report (List ScriptPart) :=
    match o.1 with
    | "e" => .ok [⟨none, o.2⟩]
    | "f" =>
      match s.readPath o.2 with
      | .ok (data, _) =>
        .ok [⟨some o.2, if data.getLast? = some '\n' then data.dropLast else data⟩]
      | .error fault =>
        .error (failure 4
          ((if fault = .isFolder then "sed: couldn't read " else "sed: couldn't open file ").toList ++ o.2 ++
            (": " ++ fault.text).toList))
    | _ => .ok []
  if a.hasAny ["e", "f"] then return ((← a.options.mapM part).flatten, a.operands)
  else
    match a.operands with
    | [] => throw (sedUsage [])
    | script :: rest => return ([⟨none, script⟩], rest)

/-- Edits lines by a script. -/
def sed : Utility := fun s args =>
  let g : Grammar :=
    { letters := "bsnrzuEe:f:l:i::"
      words := [("expression", "e", .something), ("file", "f", .something), ("in-place", "i", .perhaps),
        ("line-length", "l", .something), ("quiet", "n", .nothing), ("silent", "n", .nothing),
        ("regexp-extended", "E", .nothing), ("separate", "s", .nothing), ("null-data", "z", .nothing),
        ("zero-terminated", "z", .nothing), ("unbuffered", "u", .nothing), ("posix", "posix", .nothing),
        ("debug", "debug", .nothing), ("sandbox", "sandbox", .nothing),
        ("follow-symlinks", "follow-symlinks", .nothing)] }
  match g.read args with
  | .error f => sedUsage ("sed: ".toList ++ f.text ++ ['\n'])
  | .ok a =>
    match scriptParts s a with
    | .error r => r
    | .ok (parts, operands) =>
      let text := ['\n'].intercalate (parts.map ScriptPart.text)
      match readScript { isExtended := a.hasAny ["E", "r"] } text with
      | .error f =>
        let place : Octets := match f.left, f.isWhole, parts with
          | none, _, _ => []
          | some _, true, ⟨some path, _⟩ :: _ => "file ".toList ++ path ++ " line 1: ".toList
          | some _, true, _ => "-e expression #1, char 0: ".toList
          | some left, false, _ => faultPlace parts (text.length - left) ++ ": ".toList
        failure (if f.left.isNone then 4 else 1) ("sed: ".toList ++ place ++ f.text)
      | .ok script =>
        let isInPlace := a.has "i"
        if isInPlace ∧ operands.isEmpty then failure 4 "sed: no input files".toList
        else
          let isQuietFirst := ['#', 'n'].isPrefixOf text
          let o : EditStyle :=
            { script
              isQuiet := a.has "n" || isQuietFirst
              ending := if a.has "z" then '\x00' else '\n'
              isSeparate := isInPlace || a.has "s"
              isInPlace
              suffix := (a.value? "i").getD []
              width := ((a.value? "l").bind natNumber?).getD 70 }
          let begun (e : Nat × EditCommand) : Option (Nat × Nat) :=
            match e.2.selector.first, e.2.selector.last with
            | some (.line 0), some _ => some (e.1, 0)
            | _, _ => none
          let targets (c : EditCommand) : List Octets :=
            match c.order with
            | .write path | .writeFirst path => [path]
            | .substitute x => x.file.toList
            | _ => []
          let paths := ((script.toList.flatMap targets).filter fun p =>
            p ≠ "/dev/stdout".toList && p ≠ "/dev/stderr".toList).eraseDups
          let places := paths.map fun p => (p, s.find p)
          let bad := places.find? fun (_, p) =>
            match p with
            | .ok p => p.isFolder
            | .error _ => true
          match bad with
          | some (path, .error fault) =>
            failure 4 ("sed: couldn't open file ".toList ++ path ++ (": " ++ fault.text).toList)
          | some (path, .ok _) =>
            failure 4 ("sed: couldn't open file ".toList ++ path ++ ": Is a directory".toList)
          | none =>
            let sources := s.readAll (orInput operands)
            let e : Editor :=
              { files := sources, scene := s, written := paths.map fun p => (p, {})
                ranges := ((List.range script.size).zip script.toList).filterMap begun }
            let (e, status, isOver) := editLines o passLimit true e
            let writes (files : Files) (w : Octets × Sink) : Files :=
              match s.find w.1 with
              | .ok p => files.write p.path (s.newMode 0o666) w.2.all
              | .error _ => files
            let files := if paths.isEmpty then e.report.files
              else some (e.written.foldl writes (e.report.files.getD s.files))
            let r := (e.report.out e.out.all).gathered
            let hasCut := sources.any fun (_, d) =>
              match d with
              | .ok d => d.isCut
              | .error _ => false
            { r with
              files
              status := match status with
                | some n => if n % 256 = 0 then r.status else n % 256
                | none => r.status
              isEndless := !isOver
              isHungry := hasCut && status.isNone
              appetite :=
                if !(orInput operands).any Scene.isInput then .nothing
                else if status.isSome then .bytes (s.input.length - e.lines.flatten.length)
                else .everything }

end Foreman.Shell.Utility
