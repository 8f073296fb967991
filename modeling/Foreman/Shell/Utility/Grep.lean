import Foreman.Shell.Regex
import Foreman.Shell.Utility.Basic

/-!
# `Foreman.Shell.Utility.Grep` — lines that match an expression

## Contents
- **`Quest`**: which lines are wanted, and how they are shown; `Quest.read` reads it from the options.
- **`Finding`**: what was found in a file; `Quest.search`.
- **Files**: `haystacks`, the files that operands stand for.
- `grep`.
-/

namespace Foreman.Shell.Utility

/-! ## Quests -/

/-- Which lines are wanted, and how they are shown. -/
structure Quest where
  /-- What a line has to match; with no value, no line does. -/
  wanted : Option Regex
  foldsCase : Bool := false
  isInverted : Bool := false
  ending : Char := '\n'
  /-- How many lines are wanted at most. -/
  most : Option Nat := none
  /-- How many lines before and behind a wanted one are shown. -/
  before : Nat := 0
  behind : Nat := 0
  /-- The line between lines that do not follow each other, if they are told apart. -/
  separator : Option Octets := none
  /-- Whether only the parts that match are shown. -/
  isPartial : Bool := false
  showsNumber : Bool := false
  showsOffset : Bool := false
  /-- Whether a zero byte ends names. -/
  endsNames : Bool := false

/-- Whether a bracket has the name of a class without brackets of its own. -/
def namesClassBarely : Nat → Octets → Bool
  | 0, _ | _, [] => false
  | fuel + 1, '\\' :: rest => namesClassBarely fuel rest.tail
  | fuel + 1, '[' :: rest =>
    let inside := (if rest.head? = some ':' then rest.tail else []).takeWhile fun c => c ≠ ']' && c ≠ '['
    (1 < inside.length && inside.getLast? = some ':' && (rest.drop (inside.length + 1)).head? = some ']') ||
      (match readBracket { isExtended := true } (rest.length + 1) true []
          (if rest.head? = some '^' then rest.tail else rest) with
        | .ok (_, after) => namesClassBarely fuel after
        | .error _ => false)
  | fuel + 1, _ :: rest => namesClassBarely fuel rest

/-- An expression that has to match between two kinds of places. -/
def between (first last : Edge) (r : Regex) : Regex := .seq (.edge first) (.seq r (.edge last))

/-- Reads a pattern in the way that an option names; also the repetitions of nothing in it. -/
def readPattern (kind : String) (a : Arguments) (text : Octets) :
    Except Octets (Regex × List Char) := do
  let (r, idle) : Regex × List Char ←
    if kind = "F" then pure (Regex.ofText text, [])
    else if namesClassBarely text.length text then
      throw "character class syntax is [[:space:]], not [:space:]".toList
    else
      match readRegexFully { isExtended := kind ≠ "G", isLenient := true } text with
      | .ok (r, reading) => pure (r, reading.idle.reverse)
      | .error fault => throw fault.text.toList
  let r := if a.has "x" then between .start .finish r
    else if a.has "w" then between .noWordBefore .noWordBehind r
    else r
  return (r, idle)

/-- The options. -/
def grepGrammar : Grammar :=
  { letters := "0123456789A:B:C:D:EFGHILPTUVabcd:e:f:hilm:noqRrsuvwxyZz"
    words := [("basic-regexp", "G", .nothing), ("extended-regexp", "E", .nothing),
      ("fixed-regexp", "F", .nothing), ("fixed-strings", "F", .nothing), ("perl-regexp", "P", .nothing),
      ("after-context", "A", .something), ("before-context", "B", .something),
      ("binary-files", "binary-files", .something), ("binary", "U", .nothing),
      ("byte-offset", "b", .nothing), ("context", "C", .something), ("color", "color", .perhaps),
      ("colour", "color", .perhaps), ("count", "c", .nothing), ("devices", "D", .something),
      ("directories", "d", .something), ("exclude", "exclude", .something),
      ("exclude-from", "exclude-from", .something), ("exclude-dir", "exclude-dir", .something),
      ("file", "f", .something), ("files-with-matches", "l", .nothing),
      ("files-without-match", "L", .nothing), ("group-separator", "group-separator", .something),
      ("include", "include", .something), ("ignore-case", "i", .nothing),
      ("no-ignore-case", "no-ignore-case", .nothing), ("initial-tab", "T", .nothing),
      ("label", "label", .something), ("line-buffered", "line-buffered", .nothing),
      ("line-number", "n", .nothing), ("line-regexp", "x", .nothing), ("max-count", "m", .something),
      ("no-filename", "h", .nothing), ("no-group-separator", "no-group-separator", .nothing),
      ("no-messages", "s", .nothing), ("null", "Z", .nothing), ("null-data", "z", .nothing),
      ("only-matching", "o", .nothing), ("quiet", "q", .nothing), ("recursive", "r", .nothing),
      ("dereference-recursive", "R", .nothing), ("regexp", "e", .something),
      ("invert-match", "v", .nothing), ("silent", "q", .nothing), ("text", "a", .nothing),
      ("with-filename", "H", .nothing), ("word-regexp", "w", .nothing)] }

/-- The number that digits among the options write: the last ones that stand together. -/
def contextDigits (options : List (String × Octets)) : Octets :=
  let step (acc : Octets × Bool) (o : String × Octets) : Octets × Bool :=
    match o.1.toList with
    | [c] =>
      if c.isDigit then (if acc.2 then acc.1 ++ [c] else [c], true) else (acc.1, false)
    | _ => (acc.1, false)
  (options.foldl step ([], false)).1

/-- Reads how many lines of context are wanted, if an option says so. -/
def contextOf (a : Arguments) (name : String) : Except Octets (Option Nat) :=
  match a.value? name with
  | none => .ok none
  | some text =>
    match natNumber? text with
    | some n => .ok (some n)
    | none => .error (text ++ ": invalid context length argument".toList)

/-- The texts of all patterns, and the operands that are files. -/
def patternTexts (s : Scene) (a : Arguments) : Except Octets (Option (List Octets × List Octets)) := do
  let given (acc : List Octets) (o : String × Octets) : Except Octets (List Octets) :=
    match o.1 with
    | "e" => .ok (acc ++ partsAt '\n' o.2)
    | "f" =>
      match s.readPath o.2 with
      | .ok (data, _) => .ok (acc ++ linesIn data)
      | .error fault => .error (o.2 ++ (": " ++ fault.text).toList)
    | _ => .ok acc
  if a.hasAny ["e", "f"] then return some (← a.options.foldlM given [], a.operands)
  else
    match a.operands with
    | [] => return none
    | pattern :: rest => return some (partsAt '\n' pattern, rest)

/-- Reads the quest that options ask for. The result has the repetitions of nothing, too. -/
def Quest.read (s : Scene) (a : Arguments) (texts : List Octets) : Except Octets (Quest × List Char) := do
  let kinds := (a.options.map Prod.fst).filter fun o => ["E", "F", "G", "P"].contains o
  let kind := kinds.headD (if s.name = "egrep" then "E" else if s.name = "fgrep" then "F" else "G")
  if kinds.any (· ≠ kind) then throw "conflicting matchers specified".toList
  let before ← contextOf a "B"
  let behind ← contextOf a "A"
  let around ← contextOf a "C"
  let digits := contextDigits a.options
  let around := if digits.isEmpty then around else some (digitsValue digits)
  let most : Option Nat ← match a.value? "m" with
    | none => pure none
    | some ('-' :: text) => if (natNumber? text).isSome then pure none else throw "invalid max count".toList
    | some text =>
      match natNumber? text with
      | some n => pure (some n)
      | none => throw "invalid max count".toList
  let patterns ← texts.mapM (readPattern kind a)
  let wanted : Option Regex := match patterns.map Prod.fst with
    | [] => none
    | r :: rest => some (rest.foldl .either r)
  let hasContext := before.isSome || behind.isSome || around.isSome
  return ({
    wanted
    foldsCase := (a.last? ["i", "y", "no-ignore-case"]).any (· ≠ "no-ignore-case")
    isInverted := a.has "v"
    ending := if a.has "z" then '\x00' else '\n'
    most
    before := (before.orElse fun _ => around).getD 0
    behind := (behind.orElse fun _ => around).getD 0
    separator :=
      if !hasContext ∨ a.last? ["group-separator", "no-group-separator"] = some "no-group-separator" then
        none
      else some ((a.value? "group-separator").getD ['-', '-'])
    isPartial := a.has "o"
    showsNumber := a.has "n"
    showsOffset := a.has "b"
    endsNames := a.has "Z" }, patterns.flatMap Prod.snd)

/-- The first match in a line that begins at a place or after it. -/
def Quest.matchFrom? (q : Quest) (t : Subject) (n : Nat) : Option Match :=
  q.wanted.bind fun r => r.findFrom? t n

/-- A line as it is searched. -/
def Quest.subject (q : Quest) (line : Octets) : Subject :=
  { text := line.toArray, foldsCase := q.foldsCase, hasLines := q.ending ≠ '\n' }

/-- The parts of a line that match, with the places where they begin, from a place on. -/
def Quest.parts (q : Quest) (t : Subject) : Nat → Nat → List (Nat × Octets)
  | 0, _ => []
  | fuel + 1, n =>
    match q.matchFrom? t n with
    | none => []
    | some m =>
      if m.last = m.first then parts q t fuel (m.first + 1)
      else (m.first, t.part m.first m.last) :: parts q t fuel m.last

/-! ## Findings -/

/-- What was found in a file so far. -/
structure Finding where
  /-- How many lines were read, and how many bytes. -/
  number : Nat := 0
  offset : Nat := 0
  /-- How many lines are wanted ones, and where the last of them ends. -/
  found : Nat := 0
  foundEnd : Nat := 0
  /-- How many lines are still to be shown behind a wanted one. -/
  pending : Nat := 0
  /-- The number of the last line that is shown. -/
  shown : Option Nat := none
  /-- The last lines that are not shown, the latest first, with their numbers and places. -/
  waiting : List (Nat × Nat × Octets) := []
  /-- Whether some line of some file is shown. -/
  hasShown : Bool := false
  /-- What is shown, the latest first. -/
  texts : List Octets := []
  /-- Whether the rest of the file need not be read. -/
  isOver : Bool := false

/-- What stands in front of a line or of a part of it. -/
def Quest.head (q : Quest) (name : Option Octets) (mark : Char) (number offset : Nat) : Octets :=
  (match name with
    | some name => name ++ [if q.endsNames then '\x00' else mark]
    | none => []) ++
  (if q.showsNumber then natText number ++ [mark] else []) ++
  (if q.showsOffset then natText offset ++ [mark] else [])

/-- What is shown of a line. -/
def Quest.lineText (q : Quest) (name : Option Octets) (isWanted : Bool) (number offset : Nat)
    (line : Octets) : Octets :=
  if q.isPartial then
    if isWanted ∧ !q.isInverted then
      (q.parts (q.subject line) (line.length + 2) 0).flatMap fun (n, text) =>
        q.head name ':' number (offset + n) ++ text ++ [q.ending]
    else []
  else q.head name (if isWanted then ':' else '-') number offset ++ line ++ [q.ending]

/-- Searches lines, after what was found before. -/
def Quest.searchLines (q : Quest) (name : Option Octets) : Finding → List Octets → Finding
  | f, [] => f
  | f, line :: rest =>
    let isFull := q.most.any (· ≤ f.found)
    if isFull ∧ f.pending = 0 then { f with isOver := true }
    else
      let number := f.number + 1
      let next := f.offset + line.length + 1
      let isWanted := !isFull && ((q.matchFrom? (q.subject line) 0).isSome != q.isInverted)
      let read : Finding := { f with number, offset := next }
      let f : Finding :=
        if isWanted then
          let earlier := f.waiting.reverse
          let begins := (earlier.head?.map Prod.fst).getD number
          let isApart := f.hasShown && f.shown.all (· + 1 ≠ begins)
          let line' : Octets := q.lineText name true number f.offset line
          let texts := earlier.map fun (n, place, text) => q.lineText name false n place text
          let between : List Octets :=
            match q.separator with
            | some text => if isApart then [text ++ ['\n']] else []
            | none => []
          { read with
            found := f.found + 1, foundEnd := next, pending := q.behind, shown := some number
            waiting := [], hasShown := true
            texts := line' :: (texts.reverse ++ between ++ f.texts) }
        else if f.pending ≠ 0 then
          { read with
            pending := f.pending - 1, shown := some number
            texts := q.lineText name false number f.offset line :: f.texts }
        else { read with waiting := ((number, f.offset, line) :: f.waiting).take q.before }
      searchLines q name f rest

/-- Searches some data. -/
def Quest.search (q : Quest) (name : Option Octets) (hasShown : Bool) (data : Octets) : Finding :=
  q.searchLines name { hasShown } (linesBy q.ending data)

/-! ## Files -/

/-- The path of a name in a folder. -/
def pathIn (folder : Octets) (name : String) : Octets :=
  if folder.isEmpty ∨ folder.getLast? = some '/' then folder ++ name.toList
  else folder ++ '/' :: name.toList

/-- A file to be searched. -/
structure Haystack where
  path : Octets
  /-- Whether it was found in a folder. -/
  isInFolder : Bool := false

/-- Whether the options leave a file or folder out. -/
def leavesOut (a : Arguments) (isFolder : Bool) (path : Octets) : Bool :=
  let name := ((path.reverse.dropWhile (· = '/')).takeWhile (· ≠ '/')).reverse
  let fitsOne (option : String) : Bool :=
    (a.valuesOf option).any fun p =>
      let p := if isFolder then (p.reverse.dropWhile (· = '/')).reverse else p
      fits (pattern (glyphs false p)) name || fits (pattern (glyphs false p)) path
  if isFolder then fitsOne "exclude-dir"
  else
    match a.last? ["include", "exclude"] with
    | none => false
    | some _ => fitsOne "exclude" || (a.has "include" && !fitsOne "include")

/-- The files in a folder and below it. -/
def filesBelow (s : Scene) (a : Arguments) (follows : Bool) : Nat → Octets → String → List Haystack
  | 0, _, _ => []
  | fuel + 1, shown, folder =>
    (s.files.children folder).flatMap fun name =>
      let path := pathIn shown name
      let here := folder ++ "/" ++ name
      let place := match s.files.findWith follows "" here.toList with
        | .ok p => p
        | .error _ => ⟨here, none⟩
      match place.entry with
      | none => []
      | some e =>
        if e.isFolder then
          if leavesOut a true path then [] else filesBelow s a follows fuel path place.path
        else if !e.isFile ∨ leavesOut a false path then []
        else [⟨path, true⟩]

/-- How deep folders are searched. -/
def folderDepth : Nat := 64

/-- The files that operands stand for, and those that cannot be searched. -/
def haystacks (s : Scene) (a : Arguments) (operands : List Octets) :
    List (Except (Octets × PathFault) Haystack) :=
  let manner := match a.last? ["r", "R", "d"] with
    | some "d" => String.ofList ((a.value? "d").getD [])
    | some _ => "recurse"
    | none => "read"
  let isDeep := manner = "recurse"
  let operands :=
    if !operands.isEmpty then operands else if isDeep then [[]] else [['-']]
  operands.flatMap fun path =>
    let path' := if path.isEmpty ∧ isDeep then ['.'] else path
    match s.find path' with
    | .ok ⟨here, some e⟩ =>
      if Scene.isInput path ∨ !e.isFolder then if leavesOut a false path then [] else [.ok ⟨path, false⟩]
      else if isDeep then
        if !path.isEmpty ∧ leavesOut a true path then []
        else (filesBelow s a (a.has "R") folderDepth path here).map .ok
      else if manner = "skip" then []
      else [.error (path, .isFolder)]
    | .ok ⟨_, none⟩ => if Scene.isInput path then [.ok ⟨path, false⟩] else [.error (path, .missing)]
    | .error fault => if Scene.isInput path then [.ok ⟨path, false⟩] else [.error (path, fault)]

/-! ## Reports -/

/-- What was reported so far. -/
structure GrepState where
  report : Report := {}
  hasFound : Bool := false
  hasFailed : Bool := false
  hasShown : Bool := false
  input : Octets
  isCut : Bool
  isOver : Bool := false

/-- How a finding is reported. -/
inductive Showing where
  | lines
  | count
  | names (ofMatching : Bool)
  | nothing
  deriving DecidableEq

/-- Searches a file and reports what was found. -/
def Quest.report (q : Quest) (s : Scene) (a : Arguments) (showing : Showing) (namesFiles : Bool)
    (st : GrepState) (h : Haystack) : GrepState :=
  let isInput := Scene.isInput h.path
  let label := if h.path = ['-'] then (a.value? "label").getD "(standard input)".toList else h.path
  let failed (text : Octets) : GrepState :=
    { st with
      hasFailed := true
      report := if a.has "s" then st.report else st.report.and (failure 2 ("grep: ".toList ++ text)) }
  match { s with input := st.input, isCut := st.isCut }.readPath h.path with
  | .error fault => failed (label ++ (": " ++ fault.text).toList)
  | .ok (data, isCut) =>
    if showing = .lines ∧ q.most.isNone ∧ s.isOutput h.path then
      failed (label ++ ": input file is also the output".toList)
    else
      let isBinary := !a.has "a" && q.ending ≠ '\x00' && data.contains '\x00' &&
        a.value? "binary-files" ≠ some "text".toList
      let isIgnored := isBinary && (a.has "I" || a.value? "binary-files" = some "without-match".toList)
      let data' := if isIgnored then [] else if isBinary then
          data.map fun c => if c = '\x00' then '\n' else c
        else data
      let name := if namesFiles || (h.isInFolder && !a.has "h") then some label else none
      let stopsAtOnce := match showing with
        | .lines | .count => false
        | _ => true
      let most := if stopsAtOnce then some (min 1 (q.most.getD 1)) else q.most
      let f := { q with most }.search name st.hasShown data'
      let isWhole := !f.isOver && !(stopsAtOnce && f.found ≠ 0)
      let nameLine := textOut (label ++ [if q.endsNames then '\x00' else '\n'])
      let shown : Report := match showing with
        | .nothing => {}
        | .names ofMatching => if ofMatching = (f.found ≠ 0 : Bool) then nameLine else {}
        | .count =>
          let front := match name with
            | some name => name ++ [if q.endsNames then '\x00' else ':']
            | none => []
          textOut (front ++ natText f.found ++ ['\n'])
        | .lines =>
          if isBinary then
            if f.found = 0 then {} else ({} : Report).err ("grep: ".toList ++ label ++ ": binary file matches".toList)
          else textOut f.texts.reverse.flatten
      let taken : Report :=
        if !isInput then {}
        else if isWhole then { appetite := .everything, isHungry := isCut }
        else { appetite := .bytes (min f.foundEnd data.length) }
      { report := (st.report.and shown).and taken
        hasFound := st.hasFound || f.found ≠ 0
        hasFailed := st.hasFailed
        hasShown := f.hasShown
        input := if isInput then data.drop (if isWhole then data.length else f.foundEnd) else st.input
        isCut := st.isCut && !(isInput && isWhole)
        isOver := showing = .nothing && f.found ≠ 0 }

/-- How wrong usage is reported. -/
def grepUsage (text : Octets) : Report :=
  failure 2 (text ++ "Usage: grep [OPTION]... PATTERNS [FILE]...\nTry 'grep --help' for more information.".toList)

/-- Shows the lines of files that match an expression. -/
def grep : Utility := fun s args =>
  match grepGrammar.read args with
  | .error f => grepUsage ("grep: ".toList ++ f.text ++ ['\n'])
  | .ok a =>
    match patternTexts s a with
    | .error text => failure 2 ("grep: ".toList ++ text)
    | .ok none => grepUsage []
    | .ok (some (texts, operands)) =>
      match Quest.read s a texts with
      | .error text => failure 2 ("grep: ".toList ++ text)
      | .ok (q, idle) =>
        let warn (r : Report) (c : Char) : Report :=
          r.err ("grep: warning: ".toList ++ (if c = '{' then "\x7b...\x7d".toList else [c]) ++
            " at start of expression".toList)
        let begun := idle.foldl warn {}
        if q.most = some 0 then { begun with status := 1 }
        else
          let showing : Showing :=
            if a.has "q" then .nothing
            else
              match a.last? ["l", "L"] with
              | some o => .names (o = "l")
              | none => if a.has "c" then .count else .lines
          let namesFiles := match a.last? ["h", "H"] with
            | some o => o = "H"
            | none => 1 < operands.length
          let step (st : GrepState) (h : Except (Octets × PathFault) Haystack) : GrepState :=
            if st.isOver then st
            else
              match h with
              | .ok h => q.report s a showing namesFiles st h
              | .error (path, fault) =>
                { st with
                  hasFailed := true
                  report := if a.has "s" then st.report
                    else st.report.and (failure 2 ("grep: ".toList ++ path ++ (": " ++ fault.text).toList)) }
          let st := (haystacks s a operands).foldl step
            { report := begun, input := s.input, isCut := s.isCut }
          { st.report with
            status :=
              if st.hasFailed ∧ !(a.has "q" ∧ st.hasFound) then 2 else if st.hasFound then 0 else 1 }

end Foreman.Shell.Utility
