import Foreman.Shell.Find.Expression
import Foreman.Shell.Launcher

/-!
# `Foreman.Shell.Find` — searching folders

## Contents
- **`Site`**: a file that is reached, with the path that leads to it.
- **Tests**: `FileTest.holds`.
- **Formats**: `formatSite`.
- **`Progress`**: what a search has done so far; `FileAction.perform`, `Rule.run`, `visit`.
- `find`.
-/

namespace Foreman.Shell.Find

/-! ## Sites -/

/-- A file that is reached. -/
structure Site where
  shown : Octets
  /-- The path where the search began. -/
  start : Octets
  depth : Nat
  path : String
  entry : Entry

namespace Site

/-- The last name of the path. -/
def name (x : Site) : Octets :=
  let trimmed := x.shown.reverse.dropWhile (· = '/')
  if trimmed.isEmpty then x.shown.take 1 else (trimmed.takeWhile (· ≠ '/')).reverse

/-- The path without its last name. -/
def folder (x : Site) : Octets :=
  let trimmed := x.shown.reverse.dropWhile (· = '/')
  let front := trimmed.dropWhile (· ≠ '/')
  if front.isEmpty then ['.'] else (front.drop 1).reverse

/-- The letter of a kind. -/
def letterOf (e : Entry) : Char :=
  match e.node with
  | .folder => 'd'
  | .link _ => 'l'
  | .device => 'c'
  | .fifo => 'p'
  | _ => 'f'

/-- The site as it is listed. -/
def item (x : Site) : Utility.Item := { shown := x.shown, path := x.path, entry := x.entry }

end Site

/-! ## Tests -/

/-- Whether a test holds for a file. -/
def FileTest.holds (s : Scene) (x : Site) : FileTest → Bool
  | .constant value => value
  | .fits part foldsCase p =>
    let text : Octets := match part with
      | .name => x.name
      | .path => x.shown
      | .target =>
        match x.entry.node with
        | .link target => target
        | _ => []
    (part ≠ .target || x.entry.isLink) && Shell.fits p (if foldsCase then text.map Char.toLower else text)
  | .matches foldsCase r => r.isIn foldsCase x.shown
  | .kind letters followsOther =>
    let e : Entry :=
      if followsOther then (s.files.look? "" x.path.toList).getD x.entry else x.entry
    letters.contains (Site.letterOf e)
  | .size unit b => b.admits ((x.item.size + unit - 1) / unit)
  | .empty =>
    if x.entry.isFolder then (s.files.children x.path).isEmpty
    else x.entry.isFile && x.entry.data.isEmpty
  | .rights t =>
    match t with
    | .exactly mode => x.entry.mode = mode
    | .all mode => x.entry.mode &&& mode = mode
    | .some mode => mode = 0 || x.entry.mode &&& mode ≠ 0
  | .newer time => time < x.entry.changed
  | .age unit isWhole b =>
    let age := s.files.now - x.entry.changed
    if isWhole then b.admits (age / unit)
    else
      match b.kind with
      | .less => age < b.number * unit
      | .more => b.number * unit < age
      | .equal => (b.number - 1) * unit < age && age ≤ b.number * unit
  | .links b => b.admits (Utility.linkCount s.files x.item)
  | .sameFile path => x.path = path || (s.files.sharing path).contains x.path
  | .executable => x.entry.isFolder || x.entry.isExecutable

/-! ## Formats -/

/-- A time as a letter of a format writes it. -/
def timeText (time : Nat) (c : Char) : Octets :=
  let fraction := Utility.formatDate time "%N0".toList
  match c with
  | '@' => natText (time / 1000000000) ++ '.' :: fraction
  | 'S' | 'T' | '+' | 'X' =>
    let front := match c with
      | 'S' => "%S"
      | '+' => "%Y-%m-%d+%H:%M:%S"
      | _ => "%H:%M:%S"
    Utility.formatDate time front.toList ++ '.' :: fraction
  | c => Utility.formatDate time ['%', c]

/-- What a letter of a format stands for, and what follows behind it. -/
def directive (s : Scene) (x : Site) (c : Char) (rest : Octets) : Option (Octets × Octets) :=
  let plain (text : Octets) : Option (Octets × Octets) := some (text, rest)
  let time (text : Octets) : Option (Octets × Octets) := some (text, rest.drop 1)
  match c with
  | 'p' => plain x.shown
  | 'f' => plain x.name
  | 'h' => plain x.folder
  | 'P' => plain ((x.shown.drop x.start.length).dropWhile (· = '/'))
  | 'H' => plain x.start
  | 'd' => plain (natText x.depth)
  | 's' => plain (natText x.item.size)
  | 'k' => plain (natText x.item.blocks)
  | 'b' => plain (natText (2 * x.item.blocks))
  | 'm' => plain (Nat.toDigits 8 x.entry.mode)
  | 'M' => plain (Utility.kindLetter x.entry :: Utility.rightsText x.entry.mode)
  | 'n' => plain (natText (Utility.linkCount s.files x.item))
  | 'u' | 'g' => plain "root".toList
  | 'U' | 'G' => plain ['0']
  | 'y' => plain [Site.letterOf x.entry]
  | 'Y' =>
    match s.files.look? "" x.path.toList with
    | some e => plain [Site.letterOf e]
    | none => plain ['N']
  | 'l' =>
    match x.entry.node with
    | .link target => plain target
    | _ => plain []
  | 't' | 'a' | 'c' =>
    plain (Utility.formatDate x.entry.changed "%a %b %e %H:%M:%S.%N0 %Y".toList)
  | 'T' | 'A' | 'C' | 'B' => (rest.head?).bind fun c => time (timeText x.entry.changed c)
  | '%' => plain ['%']
  | _ => none

/-- Fills in a format. The result has warnings, too. -/
def formatSite (s : Scene) (x : Site) : Nat → Octets → Octets × List Octets
  | 0, _ | _, [] => ([], [])
  | fuel + 1, '\\' :: rest =>
    let octal := (rest.take 3).takeWhile fun c => '0' ≤ c && c ≤ '7'
    let go (text rest : Octets) : Octets × List Octets :=
      let (more, warnings) := formatSite s x fuel rest
      (text ++ more, warnings)
    if !octal.isEmpty then
      go [Char.ofNat (octal.foldl (fun n c => n * 8 + (c.toNat - 48)) 0 % 256)] (rest.drop octal.length)
    else
      match rest with
      | 'n' :: rest => go ['\n'] rest
      | 't' :: rest => go ['\t'] rest
      | 'a' :: rest => go ['\x07'] rest
      | 'b' :: rest => go ['\x08'] rest
      | 'f' :: rest => go ['\x0c'] rest
      | 'r' :: rest => go ['\r'] rest
      | 'v' :: rest => go ['\x0b'] rest
      | '\\' :: rest => go ['\\'] rest
      | 'c' :: _ => ([], [])
      | c :: rest =>
        let (more, warnings) := formatSite s x fuel rest
        ('\\' :: c :: more, inQuotes "warning: unrecognized escape " ['\\', c] "" :: warnings)
      | [] => (['\\'], [])
  | fuel + 1, '%' :: rest =>
    let isLeft := rest.head? = some '-'
    let rest := if isLeft then rest.tail else rest
    let width := rest.takeWhile Char.isDigit
    let after := rest.drop width.length
    let places := if after.head? = some '.' then after.tail.takeWhile Char.isDigit else []
    let after := if after.head? = some '.' then after.drop (places.length + 1) else after
    match after with
    | [] => (['%'], [])
    | c :: behind =>
      match directive s x c behind with
      | some (text, behind) =>
        let text := if places.isEmpty then text else text.take (digitsValue places)
        let text := if isLeft then padRight (digitsValue width) text else padLeft (digitsValue width) text
        let (more, warnings) := formatSite s x fuel behind
        (text ++ more, warnings)
      | none =>
        let (more, warnings) := formatSite s x fuel behind
        ('%' :: c :: more, inQuotes "warning: unrecognized format directive " ['%', c] "" :: warnings)
  | fuel + 1, c :: rest =>
    let (more, warnings) := formatSite s x fuel rest
    (c :: more, warnings)

/-! ## The search -/

/-- Files that a command is to be run for, all at once. -/
structure Batch where
  number : Nat
  command : List Octets
  /-- The files, the latest first. -/
  files : List Octets

/-- What a search has done so far. -/
structure Progress where
  status : Nat := 0
  /-- Whether the search is at its end. -/
  isOver : Bool := false
  /-- Whether what is in the present folder is passed over. -/
  isPruned : Bool := false
  batches : List Batch := []

/-- Writes a complaint. -/
def complainOf (text : Octets) : Act Unit := write 2 ("find: ".toList ++ text ++ ['\n'])

/-- Runs a command, and tells whether it succeeds. -/
def succeeds (launch : Launch) (command : List Octets) : Act Bool := do
  match ← launch command with
  | .ended (some n) =>
    complainOf (quotedText (command.headD []) ++ (" terminated by signal " ++ toString n).toList)
    return false
  | .ended none => return (← Act.read fun s => s.status) = 0
  | .notFound =>
    let isForbidden := (← Act.read fun s => s.status) = 126
    complainOf (quotedText (command.headD []) ++
      (if isForbidden then ": Permission denied" else ": No such file or directory").toList)
    return false

/-- A word of a command with a path in the place of empty braces. -/
def fillIn (path : Octets) : Octets → Octets
  | '{' :: '}' :: rest => path ++ fillIn path rest
  | c :: rest => c :: fillIn path rest
  | [] => []

/-- Does something with a file, and tells whether it succeeds. -/
def FileAction.perform (launch : Launch) (x : Site) (g : Progress) : FileAction → Act (Bool × Progress)
  | .print ending => do
    write 1 (x.shown ++ [ending])
    return (true, g)
  | .printFormat format => do
    let (text, warnings) ← Act.read fun s => formatSite s.scene x (format.length + 1) format
    warnings.forM complainOf
    write 1 text
    return (true, g)
  | .run command inFolder asks => do
    let path := if inFolder then '.' :: '/' :: x.name else x.shown
    let words := command.map (fillIn path)
    let goesOn ←
      if asks then do
        write 2 ("< ".toList ++ command.headD [] ++ " ... ".toList ++ x.shown ++ " > ? ".toList)
        let line ← Act.read fun s => (s.scene.input).takeWhile (· ≠ '\n')
        consume 0 (line.length + 1) false false
        pure (line.head?.any fun c => c = 'y' || c = 'Y')
      else pure true
    if !goesOn then return (false, g)
    else if inFolder then
      let (folder, shown) ← Act.read fun s => (s.folder, s.shownFolder)
      let inside := parentPath x.path
      .change fun s => { s with folder := inside, shownFolder := shownPath inside }
      let good ← succeeds launch words
      .change fun s => { s with folder, shownFolder := shown }
      return (good, g)
    else return (← succeeds launch words, g)
  | .runMany number command => do
    let others := g.batches.filter (·.number ≠ number)
    let files := ((g.batches.find? (·.number = number)).map Batch.files).getD []
    return (true, { g with batches := others ++ [⟨number, command, x.shown :: files⟩] })
  | .delete => do
    if x.shown = ['.'] then return (true, g)
    else
      let hasMore ← Act.read fun s => x.entry.isFolder && !(s.world.files.children x.path).isEmpty
      if hasMore then
        complainOf ("cannot delete ".toList ++ quotedText x.shown ++ ": Directory not empty".toList)
        return (false, { g with status := 1 })
      else
        .change fun s => s.withFiles (s.world.files.erase x.path)
        return (true, g)
  | .prune => return (true, { g with isPruned := true })
  | .quit => return (true, { g with isOver := true })

/-- Asks a file what an expression says, and does what it says. -/
def Rule.run (launch : Launch) (x : Site) : Rule → Progress → Act (Bool × Progress)
  | .test t, g => do return (← Act.read fun s => t.holds s.scene x, g)
  | .action a, g => a.perform launch x g
  | .not r, g => do
    let (value, g) ← r.run launch x g
    return (!value, g)
  | .and r t, g => do
    let (value, g) ← r.run launch x g
    if value ∧ !g.isOver then t.run launch x g else return (value, g)
  | .or r t, g => do
    let (value, g) ← r.run launch x g
    if value ∨ g.isOver then return (value, g) else t.run launch x g
  | .both r t, g => do
    let (_, g) ← r.run launch x g
    if g.isOver then return (true, g) else t.run launch x g

/-- What stands at a path, with a link at its end followed or not. -/
def entryAt (follows : Bool) (path : String) : Act (Option Place) := Act.read fun s =>
  let files := s.world.files
  let own : Option Place := match files.findWith false "" path.toList with
    | .ok p => if p.entry.isSome then some p else none
    | .error _ => none
  if !follows then own
  else
    match files.findWith true "" path.toList with
    | .ok p => if p.entry.isSome then some p else own
    | .error _ => own

/-- Searches a file and, if it is a folder, what is in it. -/
def visit (launch : Launch) (plan : Plan) : Nat → Site → Progress → Act Progress
  | 0, _, g => return g
  | fuel + 1, x, g => do
    countStep
    let isWanted := plan.least ≤ x.depth
    let apply (g : Progress) : Act Progress := do
      if g.isOver ∨ !isWanted then return g
      else return (← plan.rule.run launch x g).2
    let inside (g : Progress) : Act Progress := do
      if g.isOver ∨ g.isPruned ∨ !x.entry.isFolder ∨ plan.most.any (· ≤ x.depth) then return g
      else
        let names ← Act.read fun s => s.world.files.children x.path
        names.foldlM (fun (g : Progress) name => do
          if g.isOver then return g
          else
            let path := Utility.childPath x.path name
            match ← entryAt plan.followsAll path with
            | none => return g
            | some p =>
              let shown := Utility.shownChild x.shown name
              let child : Site :=
                { x with shown, depth := x.depth + 1, path := p.path, entry := p.entry.getD x.entry }
              visit launch plan fuel child { g with isPruned := false }) g
    if plan.isDeepFirst then apply (← inside { g with isPruned := false })
    else inside (← apply { g with isPruned := false })

/-- How deep folders are searched. -/
def depthLimit : Nat := 200

/-- Searches what a path leads to. -/
def visitStart (launch : Launch) (plan : Plan) (g : Progress) (path : Octets) : Act Progress := do
  if g.isOver then return g
  else
    let follows := plan.followsAll || plan.followsGiven || path.getLast? = some '/'
    let found : Except PathFault Place ← Act.read fun s =>
      match s.world.files.findWith follows s.folder path with
      | .ok p =>
        if path.getLast? = some '/' ∧ p.entry.any (!·.isFolder) then .error .notFolder
        else if p.entry.isNone ∧ follows ∧ path.getLast? ≠ some '/' then
          s.world.files.findWith false s.folder path
        else .ok p
      | .error fault => .error fault
    match found with
    | .ok ⟨here, some entry⟩ =>
      visit launch plan depthLimit { shown := path, start := path, depth := 0, path := here, entry } g
    | .ok ⟨_, none⟩ =>
      complainOf (quotedText path ++ ": No such file or directory".toList)
      return { g with status := 1 }
    | .error fault =>
      complainOf (quotedText path ++ (": " ++ fault.text).toList)
      return { g with status := 1 }

/-- The options in front of the paths, and the words behind them. -/
def leadingOptions : Plan → List Octets → Plan × List Octets
  | plan, ['-', 'L'] :: rest => leadingOptions { plan with followsAll := true } rest
  | plan, ['-', 'H'] :: rest => leadingOptions { plan with followsGiven := true } rest
  | plan, ['-', 'P'] :: rest =>
    leadingOptions { plan with followsAll := false, followsGiven := false } rest
  | plan, ('-' :: 'O' :: c :: more) :: rest =>
    if c.isDigit then leadingOptions plan rest else (plan, ('-' :: 'O' :: c :: more) :: rest)
  | plan, ['-', '-'] :: rest => (plan, rest)
  | plan, words => (plan, words)

/-- Searches folders for files, and does something with them. -/
def find (launch : Launch) (args : List Octets) : Act Unit := do
  let (plan, words) := leadingOptions { rule := .test (.constant true) } args
  let paths := words.takeWhile (!isExpressionWord true ·)
  match ← Act.read fun s => readPlan s.scene plan (words.drop paths.length) with
  | .error text =>
    complainOf text
    setStatus 1
  | .ok (plan, _) =>
    let g ← (if paths.isEmpty then [['.']] else paths).foldlM (visitStart launch plan) {}
    let runBatch (g : Progress) (b : Batch) : Act Progress := do
      if ← succeeds launch (b.command ++ b.files.reverse) then return g
      else return { g with status := 1 }
    let g ← g.batches.foldlM runBatch g
    setStatus g.status

end Foreman.Shell.Find
