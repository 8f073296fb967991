import Foreman.Shell.Builtin
import Foreman.Shell.Utility.Basic
import Foreman.Shell.Utility.Dates

/-!
# `Foreman.Shell.Utility.Tree` — changing files and folders

## Contents
- **`Chore`**: a computation that changes files and reports what it does.
- **Places**: `locate`, `childPath`.
- **Removal**: `rm`, `rmdir`, `unlink`.
- **Creation**: `mkdir`, `touch`, `ln`, `mktemp`, `truncate`.
- **Copies and moves**: `cp`, `mv`, `install`.
- **Rights**: `chmod`, `chown`.
-/

namespace Foreman.Shell.Utility

/-! ## Chores -/

/-- A computation that changes files and reports what it does. -/
abbrev Chore (α : Type) : Type := StateM (Scene × Report) α

namespace Chore

/-- The scene as it is now. -/
def scene : Chore Scene := do return (← get).1

/-- Writes a line. -/
def say (text : Octets) : Chore Unit := modify fun (s, r) => (s, r.out (text ++ ['\n']))

/-- Reports a failure. -/
def blame (text : Octets) : Chore Unit := modify fun (s, r) => (s, r.and (faultOf 1 s.name text))

/-- Changes files. -/
def change (f : Files → Files) : Chore Unit := modify fun (s, r) => ({ s with files := f s.files }, r)

/-- The report of a chore. -/
def run (c : Chore Unit) (s : Scene) : Report :=
  let (_, s', r) := StateT.run (m := Id) c (s, {})
  { r with files := some s'.files }

end Chore

open Chore

/-! ## Places -/

/-- The path of something in a folder. -/
def childPath (folder name : String) : String := folder ++ "/" ++ name

/-- A path as it is written, extended by a name. -/
def shownChild (path : Octets) (name : String) : Octets :=
  (if path.getLast? = some '/' then path else path ++ ['/']) ++ name.toList

/-- A path without slashes at its end. -/
def withoutFinalSlashes (path : Octets) : Octets :=
  let short := (path.reverse.dropWhile (· = '/')).reverse
  if short.isEmpty then path.take 1 else short

/-- The last name of a path as it is written. -/
def finalName (path : Octets) : Octets :=
  ((withoutFinalSlashes path).reverse.takeWhile (· ≠ '/')).reverse

/-- Where a path leads, with a link at its end followed or not. -/
def locate (followsLast : Bool) (path : Octets) : Chore (Except PathFault Place) := do
  let s ← scene
  let followsLast := followsLast || path.getLast? = some '/'
  return match s.files.findWith followsLast s.folder path with
    | .ok p =>
      if path.getLast? = some '/' ∧ p.entry.any (!·.isFolder) then .error .notFolder else .ok p
    | .error f => .error f

/-- Whether a path is another one or below it. -/
def isInside (path folder : String) : Bool := path = folder || (folder ++ "/").isPrefixOf path

/-- The answer to a question: whether it is yes. The input gives one line for each question. -/
def ask (question : Octets) : Chore Bool := do
  modify fun (s, r) => (s, { r with texts := r.texts ++ [(2, s.name.toList ++ ": ".toList ++ question ++ "? ".toList)] })
  let s ← scene
  let line := s.input.takeWhile (· ≠ '\n')
  modify fun (s, r) =>
    ({ s with input := s.input.drop (line.length + 1) }, { r with appetite := .everything })
  return line.head?.any fun c => c = 'y' || c = 'Y'

/-- What a thing is called in a question. -/
def kindName (e : Entry) : String :=
  match e.node with
  | .folder => "directory"
  | .link _ => "symbolic link"
  | .device => "character special file"
  | .fifo => "fifo"
  | _ => if e.data.isEmpty then "regular empty file" else "regular file"

/-! ## Removal -/

/-- How things are removed. -/
structure Removal where
  isForced : Bool := false
  isRecursive : Bool := false
  takesFolders : Bool := false
  asks : Bool := false
  isShown : Bool := false

/-- Removes what stands at a place. -/
def removeAt (o : Removal) : Nat → String → Octets → Chore Unit
  | 0, _, _ => pure ()
  | depth + 1, path, shown => do
    let s ← scene
    match s.files.entry? path with
    | none => pure ()
    | some e =>
      let cannot (why : String) : Chore Unit :=
        blame ("cannot remove ".toList ++ quotedName shown ++ (": " ++ why).toList)
      if e.isFolder then
        let names := s.files.children path
        if !o.isRecursive ∧ !o.takesFolders then cannot "Is a directory"
        else if !o.isRecursive ∧ !names.isEmpty then cannot "Directory not empty"
        else
          let descends ← if o.asks ∧ !names.isEmpty then
              ask ("descend into directory ".toList ++ quotedName shown)
            else pure true
          if descends then
            names.forM fun name => removeAt o depth (childPath path name) (shownChild shown name)
            let isGone ← if o.asks then ask ("remove directory ".toList ++ quotedName shown) else pure true
            let s ← scene
            if isGone then
              if !(s.files.children path).isEmpty then cannot "Directory not empty"
              else
                change (·.erase path)
                if o.isShown then say ("removed directory ".toList ++ quotedName shown)
      else
        let isGone ← if o.asks then
            ask (("remove " ++ kindName e ++ " ").toList ++ quotedName shown)
          else pure true
        if isGone then
          change (·.erase path)
          if o.isShown then say ("removed ".toList ++ quotedName shown)

/-- How deep folders are nested at most. -/
def depthOfFolders : Nat := 4096

/-- Removes files and folders. -/
def rm : Utility := fun s args =>
  let g : Grammar :=
    { letters := "dfiIrRv"
      words := [("force", "f", .nothing), ("recursive", "r", .nothing), ("dir", "d", .nothing),
        ("verbose", "v", .nothing), ("interactive", "i", .perhaps),
        ("no-preserve-root", "no-preserve-root", .nothing), ("preserve-root", "preserve-root", .perhaps),
        ("one-file-system", "one-file-system", .nothing)] }
  withArguments s.name 1 g args fun a =>
    let isForced := a.last? ["f", "i"] = some "f"
    let o : Removal :=
      { isForced
        isRecursive := a.hasAny ["r", "R"]
        takesFolders := a.has "d"
        asks := a.last? ["f", "i"] = some "i"
        isShown := a.has "v" }
    if a.operands.isEmpty then if isForced then {} else misuse 1 s.name "missing operand".toList
    else
      Chore.run (s := s) do
        for path in a.operands do
          let name := finalName path
          let place ← locate false path
          match place with
          | .error fault =>
            if !isForced ∨ (fault ≠ .missing ∧ fault ≠ .notFolder) then
              blame ("cannot remove ".toList ++ quotedName path ++ (": " ++ fault.text).toList)
          | .ok ⟨here, none⟩ =>
            if here = "" then pure ()
            else if !isForced then
              blame ("cannot remove ".toList ++ quotedName path ++ ": No such file or directory".toList)
          | .ok ⟨here, some e⟩ =>
            if o.isRecursive ∧ here = "" then
              blame "it is dangerous to operate recursively on '/'".toList
              blame "use --no-preserve-root to override this failsafe".toList
            else if o.isRecursive ∧ e.isFolder ∧ (name = ['.'] ∨ name = ['.', '.']) then
              blame ("refusing to remove '.' or '..' directory: skipping ".toList ++ quotedName path)
            else removeAt o depthOfFolders here (if path.length = 1 then path else withoutFinalSlashes path)

/-- Removes an empty folder; whether it could be removed. -/
def removeFolder (path : Octets) (spares isShown : Bool) (what : String) : Chore Bool := do
  let cannot (why : String) : Chore Bool := do
    blame (("failed to remove " ++ what).toList ++ quotedName path ++ (": " ++ why).toList)
    return false
  if isShown then say ("rmdir: removing directory, ".toList ++ quotedName path)
  match ← locate false path with
  | .error fault => cannot fault.text
  | .ok ⟨_, none⟩ => cannot "No such file or directory"
  | .ok ⟨here, some e⟩ =>
    let s ← scene
    if !e.isFolder then cannot "Not a directory"
    else if finalName path = ['.'] then cannot "Invalid argument"
    else if !(s.files.children here).isEmpty ∨ finalName path = ['.', '.'] then
      if spares then return false else cannot "Directory not empty"
    else
      change (·.erase here)
      return true

/-- The folders around a path, the nearest one first. -/
def foldersAround : Nat → Octets → List Octets
  | 0, _ => []
  | fuel + 1, path =>
    let front := ((withoutFinalSlashes path).reverse.dropWhile (· ≠ '/')).reverse
    let parent := (front.reverse.dropWhile (· = '/')).reverse
    if parent.isEmpty then [] else parent :: foldersAround fuel parent

/-- Removes empty folders. -/
def rmdir : Utility := fun s args =>
  let g : Grammar :=
    { letters := "pv"
      words := [("parents", "p", .nothing), ("verbose", "v", .nothing),
        ("ignore-fail-on-non-empty", "i", .nothing)] }
  withArguments s.name 1 g args fun a =>
    if a.operands.isEmpty then misuse 1 s.name "missing operand".toList
    else
      Chore.run (s := s) do
        for path in a.operands do
          if ← removeFolder path (a.has "i") (a.has "v") "" then
            if a.has "p" then
              let mut goesOn := true
              for parent in foldersAround path.length path do
                if goesOn then goesOn ← removeFolder parent (a.has "i") (a.has "v") "directory "

/-- Removes one file. -/
def unlink : Utility := fun s args =>
  withArguments s.name 1 {} args fun a =>
    match a.operands with
    | [] => misuse 1 s.name "missing operand".toList
    | [path] => Chore.run (s := s) do
      let cannot (why : String) := blame ("cannot unlink ".toList ++ quotedName path ++ (": " ++ why).toList)
      match ← locate false path with
      | .error fault => cannot fault.text
      | .ok ⟨_, none⟩ => cannot "No such file or directory"
      | .ok ⟨here, some e⟩ => if e.isFolder then cannot "Is a directory" else change (·.erase here)
    | _ :: extra :: _ => misuse 1 s.name ("extra operand ".toList ++ quotedText extra)

/-! ## Creation -/

/-- Makes a folder at a path that ends with a new name. -/
def makeFolder (path : Octets) (mode : Nat) (isShown : Bool) : Chore Unit := do
  let cannot (why : String) : Chore Unit :=
    blame ("cannot create directory ".toList ++ quotedText path ++ (": " ++ why).toList)
  let s ← scene
  match s.files.findWith false s.folder path with
  | .error fault => cannot fault.text
  | .ok ⟨_, some _⟩ => cannot "File exists"
  | .ok ⟨here, none⟩ =>
    change fun f => f.put here .folder mode
    if isShown then say ("mkdir: created directory ".toList ++ quotedName path)

/-- The beginnings of a path, the shortest one first. -/
def pathFronts (path : Octets) : List Octets :=
  let step (acc : List Octets × Octets) (part : Octets) : List Octets × Octets :=
    let (done, front) := acc
    let here := front ++ part
    (if part.isEmpty then done else here :: done, here ++ ['/'])
  ((partsAt '/' path).foldl step ([], [])).1.reverse

/-- Makes a folder and all folders on the way to it. -/
def makeFolders (path : Octets) (mode : Nat) (isShown : Bool) : List Octets → Chore Unit
  | [] => pure ()
  | front :: rest => do
    let s ← scene
    let cannot (why : String) : Chore Unit :=
      blame ("cannot create directory ".toList ++ quotedText front ++ (": " ++ why).toList)
    match s.files.findWith true s.folder front with
    | .error fault => cannot fault.text
    | .ok ⟨here, none⟩ =>
      change fun f => f.put here .folder (if rest.isEmpty then mode else s.newMode 0o777)
      if isShown then say ("mkdir: created directory ".toList ++ quotedName front)
      makeFolders path mode isShown rest
    | .ok ⟨_, some e⟩ =>
      if e.isFolder then makeFolders path mode isShown rest
      else if rest.isEmpty then cannot "File exists"
      else cannot "Not a directory"

/-- Makes folders. -/
def mkdir : Utility := fun s args =>
  let g : Grammar :=
    { letters := "m:pvZ"
      words := [("mode", "m", .something), ("parents", "p", .nothing), ("verbose", "v", .nothing)] }
  withArguments s.name 1 g args fun a =>
    let mode? := match a.value? "m" with
      | none => some (s.newMode 0o777)
      | some text => readMode s.mask true 0o777 text
    match mode? with
    | none => faultOf 1 s.name ("invalid mode ".toList ++ quotedText ((a.value? "m").getD []))
    | some mode =>
      if a.operands.isEmpty then misuse 1 s.name "missing operand".toList
      else
        Chore.run (s := s) do
          for path in a.operands do
            if a.has "p" ∧ !path.isEmpty then makeFolders path mode (a.has "v") (pathFronts path)
            else makeFolder path mode (a.has "v")

/-- Makes places where processes meet. -/
def mkfifo : Utility := fun s args =>
  let g : Grammar := { letters := "m:Z", words := [("mode", "m", .something), ("context", "Z", .perhaps)] }
  withArguments s.name 1 g args fun a =>
    match (a.value? "m").elim (some (s.newMode 0o666)) (readMode s.mask false 0o666) with
    | none => faultOf 1 s.name "invalid mode".toList
    | some mode =>
      if a.operands.isEmpty then misuse 1 s.name "missing operand".toList
      else
        Chore.run (s := s) do
          for path in a.operands do
            let complain (fault : PathFault) : Chore Unit :=
              blame ("cannot create fifo ".toList ++ quotedName path ++ (": " ++ fault.text).toList)
            match ← locate false path with
            | .error fault => complain fault
            | .ok ⟨_, some _⟩ => complain .occupied
            | .ok ⟨here, none⟩ => change fun f => f.put here .fifo mode

/-- Makes a place where processes meet, or a device. -/
def mknod : Utility := fun s args =>
  let g : Grammar := { letters := "m:Z", words := [("mode", "m", .something), ("context", "Z", .perhaps)] }
  withArguments s.name 1 g args fun a =>
    let wrong (text : String) (more : String) : Report :=
      ({} : Report).err ((s.name ++ ": ").toList ++ text.toList) |>.err
        ((if more.isEmpty then "" else more ++ "\n").toList ++
          ("Try '" ++ s.name ++ " --help' for more information.").toList) |> fun r => { r with status := 1 }
    let needed := if (a.operands.drop 1).head? = some ['p'] then 2 else 4
    let last := (a.operands.getLast?.map fun o => String.ofList (quotedText o)).getD ""
    match (a.value? "m").elim (some (s.newMode 0o666)) (readMode s.mask false 0o666) with
    | none => faultOf 1 s.name "invalid mode".toList
    | some mode =>
      if a.operands.isEmpty then wrong "missing operand" ""
      else if a.operands.length < needed then
        wrong ("missing operand after " ++ last)
          (if needed = 4 ∧ a.operands.length = 2 then
            "Special files require major and minor device numbers."
          else "")
      else
        match a.operands.drop needed with
        | extra :: _ =>
          wrong ("extra operand " ++ String.ofList (quotedText extra))
            (if needed = 2 ∧ a.operands.length = 4 then
              "Fifos do not have major and minor device numbers."
            else "")
        | [] =>
          match a.operands with
          | path :: kind :: _ =>
            if !(["p", "b", "c", "u"].contains (String.ofList kind)) then
              misuse 1 s.name ("invalid device type ".toList ++ quotedText kind)
            else Chore.run (s := s) do
              let complain (fault : PathFault) : Chore Unit :=
                blame (nameInMessage path ++ (": " ++ fault.text).toList)
              match ← locate false path with
              | .error fault => complain fault
              | .ok ⟨_, some _⟩ => complain .occupied
              | .ok ⟨here, none⟩ =>
                change fun f => f.put here (if kind = ['p'] then .fifo else .device) mode
          | _ => {}

/-- Sets the times of files, and makes those that are missing. -/
def touch : Utility := fun s args =>
  let g : Grammar :=
    { letters := "acd:fhmr:t:"
      words := [("no-create", "c", .nothing), ("date", "d", .something), ("reference", "r", .something),
        ("no-dereference", "h", .nothing), ("time", "time", .something)] }
  withArguments s.name 1 g args fun a =>
    let time : Except Octets Nat :=
      match a.value? "r", a.value? "t", a.value? "d" with
      | some path, _, _ =>
        match s.look? path with
        | some e => .ok e.changed
        | none =>
          .error ("failed to get attributes of ".toList ++ quotedName path ++
            ": No such file or directory".toList)
      | none, some text, _ =>
        match readStamp? text s.files.now with
        | some t => .ok t
        | none => .error ("invalid date format ".toList ++ quotedText text)
      | none, none, some text =>
        match readDate? text s.files.now with
        | some t => .ok t
        | none => .error ("invalid date format ".toList ++ quotedText text)
      | none, none, none => .ok s.files.stamp
    match time with
    | .error text => faultOf 1 s.name text
    | .ok time =>
      if a.operands.isEmpty then misuse 1 s.name "missing file operand".toList
      else
        Chore.run (s := s) do
          for path in a.operands do
            match ← locate (!a.has "h") path with
            | .error fault =>
              if !(a.has "c" ∧ fault = .missing) then
                blame ((if fault = .notFolder ∧ path.getLast? = some '/' then "setting times of " else "cannot touch ").toList ++ quotedName path ++ (": " ++ fault.text).toList)
            | .ok ⟨here, some e⟩ =>
              if e.node ≠ .device then change fun f => f.update here { e with changed := time }
            | .ok ⟨here, none⟩ =>
              if !a.has "c" then
                if path.getLast? = some '/' then
                  blame ("setting times of ".toList ++ quotedName path ++ ": No such file or directory".toList)
                else
                  change fun f =>
                    f.set here (some { node := .file [], mode := s.newMode 0o666, changed := time })

/-- Lets a second path share the data of a file. -/
def link : Utility := fun s args =>
  withArguments s.name 1 {} args fun a =>
    match a.operands with
    | [] => misuse 1 s.name "missing operand".toList
    | [source] => misuse 1 s.name ("missing operand after ".toList ++ quotedText source)
    | [source, target] => Chore.run (s := s) do
      let cannot (why : String) := blame ("cannot create link ".toList ++ quotedName target ++
        " to ".toList ++ quotedName source ++ (": " ++ why).toList)
      match ← locate false source, ← locate false target with
      | .error fault, _ => cannot fault.text
      | .ok ⟨_, none⟩, _ => cannot "No such file or directory"
      | _, .error fault => cannot fault.text
      | _, .ok ⟨_, some _⟩ => cannot "File exists"
      | .ok ⟨there, some e⟩, .ok ⟨here, none⟩ =>
        if e.isFolder then cannot "Operation not permitted" else change (·.share there here)
    | _ :: _ :: extra :: _ => misuse 1 s.name ("extra operand ".toList ++ quotedText extra)

/-- Where something goes that is put at a target: into it if it is a folder. -/
def inTarget (isFolder : Bool) (target source : Octets) : Octets :=
  if isFolder then shownChild target (String.ofList (finalName source)) else target

/-- The sources and the target of some operands, and whether the target is a folder. -/
def readTarget (s : Scene) (a : Arguments) : Except Report (List Octets × Octets × Bool) :=
  let isFolder (path : Octets) : Bool := (s.look? path).any Entry.isFolder
  let bad (path : Octets) : Report :=
    let why := match s.find path with
      | .ok ⟨_, some _⟩ => PathFault.notFolder
      | .ok ⟨_, none⟩ => .missing
      | .error fault => fault
    faultOf 1 s.name ("target ".toList ++ quotedName path ++ (": " ++ why.text).toList)
  match a.value? "t", a.operands with
  | _, [] => .error (misuse 1 s.name "missing file operand".toList)
  | some target, sources => if isFolder target then .ok (sources, target, true) else .error (bad target)
  | none, [single] =>
    .error (misuse 1 s.name ("missing destination file operand after ".toList ++ quotedName single))
  | none, operands =>
    let target := operands.getLast?.getD []
    let sources := operands.dropLast
    if a.has "T" then
      match sources with
      | _ :: extra :: _ => .error (misuse 1 s.name ("extra operand ".toList ++ quotedText target ++ (extra.take 0)))
      | sources => .ok (sources, target, false)
    else if isFolder target then .ok (sources, target, true)
    else if 1 < sources.length then .error (bad target)
    else .ok (sources, target, false)

/-- Links files. -/
def ln : Utility := fun s args =>
  let g : Grammar :=
    { letters := "bdfFiLnPrst:Tv"
      words := [("symbolic", "s", .nothing), ("force", "f", .nothing), ("no-dereference", "n", .nothing),
        ("verbose", "v", .nothing), ("target-directory", "t", .something),
        ("no-target-directory", "T", .nothing), ("relative", "r", .nothing)] }
  withArguments s.name 1 g args fun a =>
    let target : Except Report (List Octets × Octets × Bool) := match a.operands, a.value? "t" with
      | [single], none => .ok ([single], ['.'], true)
      | [_, target], none =>
        if a.has "n" ∧ (s.lookAt? target).any Entry.isLink then readTarget s { a with options := ("T", []) :: a.options }
        else readTarget s a
      | _, _ => readTarget s a
    match target with
    | .error r => r
    | .ok (sources, target, isFolder) =>
      Chore.run (s := s) do
        for source in sources do
          let path := inTarget isFolder target source
          let what := if a.has "s" then "failed to create symbolic link " else "failed to create hard link "
          let origin ← locate (a.has "L") source
          let fault? : Option Octets := if a.has "s" then none else match origin with
            | .error fault => some ("failed to access ".toList ++ quotedName source ++ (": " ++ fault.text).toList)
            | .ok ⟨_, none⟩ =>
              some ("failed to access ".toList ++ quotedName source ++ ": No such file or directory".toList)
            | .ok ⟨_, some e⟩ =>
              if e.isFolder then some (nameInMessage source ++ ": hard link not allowed for directory".toList) else none
          match fault? with
          | some text => blame text
          | none =>
            match ← locate false path with
            | .error fault => blame (what.toList ++ quotedName path ++ (": " ++ fault.text).toList)
            | .ok ⟨here, old⟩ =>
              let isSame : Bool := match origin with
                | .ok p => !a.has "s" && p.path = here
                | .error _ => false
              if old.isSome ∧ a.has "f" ∧ isSame then
                blame (quotedName source ++ " and ".toList ++ quotedName path ++ " are the same file".toList)
              else if old.isSome ∧ (!a.has "f" ∨ old.any Entry.isFolder) then
                blame (what.toList ++ quotedName path ++
                  (if old.any Entry.isFolder ∧ a.has "f" then ": cannot overwrite directory" else ": File exists").toList)
              else
                if a.has "s" then
                  let text := if a.has "r" then
                      match origin with
                      | .ok p => relativePath (parentPath here) p.path
                      | .error _ => source
                    else source
                  change fun f => f.put here (.link text) 0o777
                else
                  match origin with
                  | .ok p => change fun f => (f.erase here).share p.path here
                  | .error _ => pure ()
                if a.has "v" then
                  say (quotedName path ++ (if a.has "s" then " -> " else " => ").toList ++ quotedName source)
where
  /-- A path as seen from a folder. -/
  relativePath (folder path : String) : Octets :=
    let parts (p : String) : List Octets := (partsAt '/' p.toList).filter (!·.isEmpty)
    let rec go : List Octets → List Octets → List Octets
      | a :: as, b :: bs =>
        if a = b then go as bs else ((a :: as).map fun _ => ['.', '.']) ++ b :: bs
      | as, bs => (as.map fun _ => ['.', '.']) ++ bs
    let rest := go (parts folder) (parts path)
    if rest.isEmpty then ['.'] else ['/'].intercalate rest

/-- The characters of names that are made up. -/
def nameLetters : List Char :=
  "0123456789ABCDEFGHIJKLMNOPQRSTUVWXYZabcdefghijklmnopqrstuvwxyz".toList

/-- A made up name of some length. -/
def madeUp : Nat → Nat → Octets
  | 0, _ => []
  | n + 1, seed =>
    let next := (seed * 6364136223846793005 + 1442695040888963407) % 2 ^ 64
    (nameLetters[next / 2 ^ 33 % 62]?).getD '0' :: madeUp n next

/-- Makes a file or folder with a made up name. -/
def mktemp : Utility := fun s args =>
  let g : Grammar :=
    { letters := "dp:qtuV"
      words := [("directory", "d", .nothing), ("dry-run", "u", .nothing), ("quiet", "q", .nothing),
        ("suffix", "s", .something), ("tmpdir", "p", .perhaps)] }
  withArguments s.name 1 g args fun a =>
    let hasTemplate := !a.operands.isEmpty
    let template := (a.operands.head?).getD "tmp.XXXXXXXXXX".toList
    let ending := match a.value? "s" with
      | some text => text
      | none => (template.reverse.takeWhile (· ≠ 'X')).reverse
    let front := if a.has "s" then template else template.take (template.length - ending.length)
    let count := (front.reverse.takeWhile (· = 'X')).length
    let shownTemplate := template ++ if a.has "s" then ending else []
    if count < 3 then
      if a.has "q" then { status := 1 }
      else faultOf 1 s.name ("too few X's in template ".toList ++ quotedText shownTemplate)
    else
      let folder : Option Octets :=
        if a.has "t" then some ((s.valueOf? "TMPDIR").getD "/tmp".toList)
        else if a.has "p" ∨ !hasTemplate then
          match a.value? "p" with
          | some (c :: cs) => some (c :: cs)
          | _ => some ((s.valueOf? "TMPDIR").getD "/tmp".toList)
        else none
      let seed := s.files.version * 7919 + s.process * 104729 + s.files.clock
      let name := front.take (front.length - count) ++ madeUp count seed ++ ending
      let path := match folder with
        | some f => (if f.getLast? = some '/' then f else f ++ ['/']) ++ name
        | none => name
      let what := if a.has "d" then "directory" else "file"
      let shown := match folder with
        | some f => (if f.getLast? = some '/' then f else f ++ ['/']) ++ shownTemplate
        | none => shownTemplate
      let cannot (fault : PathFault) : Report :=
        if a.has "q" then { status := 1 }
        else
          faultOf 1 s.name (("failed to create " ++ what ++ " via template ").toList ++ quotedText shown ++
            (": " ++ fault.text).toList)
      match s.find path with
      | .error fault => cannot fault
      | .ok p =>
        let r := lineOut path
        if a.has "u" then r
        else
          { r with
            files := some (if a.has "d" then s.files.put p.path .folder 0o700
              else s.files.put p.path (.file []) 0o600) }

/-- Sets the sizes of files. -/
def truncate : Utility := fun s args =>
  let g : Grammar :=
    { letters := "cor:s:"
      words := [("no-create", "c", .nothing), ("reference", "r", .something), ("size", "s", .something)] }
  withArguments s.name 1 g args fun a =>
    let size := match a.value? "s", a.value? "r" with
      | some text, _ =>
        let (sign, number) := match text with
          | c :: rest => if "+-<>/%".toList.contains c then (some c, rest) else (none, text)
          | [] => (none, [])
        some ((sizeNumber? number).map fun n => (sign, n))
      | none, some path => (s.look? path).map fun e => some (none, e.data.length)
      | none, none => none
    match size with
    | none => misuse 1 s.name "you must specify either '--size' or '--reference'".toList
    | some none => faultOf 1 s.name ("Invalid number: ".toList ++ quotedText ((a.value? "s").getD []))
    | some (some (sign, n)) =>
      if a.operands.isEmpty then misuse 1 s.name "missing file operand".toList
      else
        Chore.run (s := s) do
          for path in a.operands do
            let cannot (why : String) :=
              blame ("cannot open ".toList ++ quotedName path ++ (" for writing: " ++ why).toList)
            match ← locate true path with
            | .error fault => cannot fault.text
            | .ok ⟨here, old⟩ =>
              let data := (old.map Entry.data).getD []
              let length := match sign with
                | some '+' => data.length + n
                | some '-' => data.length - n
                | some '<' => min data.length n
                | some '>' => max data.length n
                | some '/' => if n = 0 then 0 else data.length / n * n
                | some '%' => if n = 0 then 0 else (data.length + n - 1) / n * n
                | _ => n
              if old.any Entry.isFolder then cannot "Is a directory"
              else if old.isNone ∧ a.has "c" then pure ()
              else
                let rest := data.take length ++ List.replicate (length - data.length) '\x00'
                change fun f => f.write here (s.newMode 0o666) rest

/-! ## Copies and moves -/

/-- How things are copied. -/
structure Copying where
  isRecursive : Bool := false
  /-- Whether links are copied as links. -/
  keepsLinks : Bool := false
  /-- Whether rights and times are kept. -/
  keepsAll : Bool := false
  /-- What happens to files that are there already. -/
  skips : Bool := false
  asks : Bool := false
  onlyNewer : Bool := false
  /-- Whether links are made in the place of copies. -/
  makesLinks : Bool := false
  isShown : Bool := false

/-- The number of the copies made in one go that may not be copied again. -/
abbrev Made : Type := List String

/-- Copies what stands at a place to another one. -/
def copyAt (o : Copying) (command : String) : Nat → Made → String → Octets → String → Octets → Chore Unit
  | 0, _, _, _, _, _ => pure ()
  | depth + 1, made, source, shownSource, target, shownTarget => do
    let s ← scene
    let old := s.files.entry? target
    let tell : Chore Unit :=
      if o.isShown then say (quotedName shownSource ++ " -> ".toList ++ quotedName shownTarget) else pure ()
    match s.files.entry? source with
    | none => pure ()
    | some e =>
      let isSkipped := old.any fun x => !x.isFolder &&
        (o.skips || (o.onlyNewer && e.changed ≤ x.changed))
      if made.contains source then
        blame ("cannot copy a directory, ".toList ++ quotedName (withoutLast shownSource) ++
          ", into itself, ".toList ++ quotedName shownSource)
      else if e.isFolder then
        if old.any (!·.isFolder) then
          blame ("cannot overwrite non-directory ".toList ++ quotedName shownTarget ++
            " with directory ".toList ++ quotedName shownSource)
        else
          let names := s.files.children source
          if old.isNone then
            change fun f => f.put target .folder (if o.keepsAll then e.mode else s.newMode e.mode)
            tell
          let names := if isInside target source ∧ old.isNone ∧ parentPath target = source then
              names ++ [lastName target]
            else names
          names.forM fun name =>
            copyAt o command depth (target :: made) (childPath source name) (shownChild shownSource name)
              (childPath target name) (shownChild shownTarget name)
          if o.keepsAll then
            change fun f =>
              match f.entry? target with
              | some x => f.set target (some { x with changed := e.changed })
              | none => f
      else if old.any Entry.isFolder then
        blame ("cannot overwrite directory ".toList ++ quotedName shownTarget ++
          " with non-directory".toList ++
          (if command = "mv" then ' ' :: quotedName shownSource else []))
      else if isSkipped then pure ()
      else
        let goes ← if o.asks ∧ old.isSome then
            ask ("overwrite ".toList ++ quotedName shownTarget)
          else pure true
        if goes then
          match e.node with
          | .link text =>
            change fun f => f.put target (.link text) 0o777
            tell
          | _ =>
            if o.makesLinks then change fun f => f.share source target
            else
              let data ← if e.node = .device then
                  pure ((s.readPath source.toList).toOption.map Prod.fst |>.getD [])
                else pure e.data
              let mode := if o.keepsAll then e.mode else s.newMode (e.mode &&& 0o777)
              change fun f =>
                let f := f.write target mode data
                if o.keepsAll then
                  match f.entry? target with
                  | some x => f.set target (some { x with changed := e.changed, mode := e.mode })
                  | none => f
                else f
            tell
          if e.node = .device ∧ Scene.isInput shownSource then
            modify fun (s, r) => (s, { r with appetite := .everything })
        else modify fun (s, r) => (s, { r with status := 1 })
where
  /-- A path without its last name. -/
  withoutLast (path : Octets) : Octets :=
    let short := ((path.reverse.dropWhile (· ≠ '/')).drop 1).reverse
    if short.isEmpty then path else short

/-- Copies one operand. -/
def copyOperand (o : Copying) (command : String) (source target : Octets) : Chore Unit := do
  match ← locate (!o.keepsLinks) source with
  | .error fault => blame ("cannot stat ".toList ++ quotedName source ++ (": " ++ fault.text).toList)
  | .ok ⟨_, none⟩ => blame ("cannot stat ".toList ++ quotedName source ++ ": No such file or directory".toList)
  | .ok ⟨from_, some e⟩ =>
    if e.isFolder ∧ !o.isRecursive then
      blame ("-r not specified; omitting directory ".toList ++ quotedName source)
    else
      let cannot (fault : PathFault) : Chore Unit :=
        blame (("cannot create " ++ (if e.isFolder then "directory " else "regular file ")).toList ++ quotedName target ++
          (": " ++ fault.text).toList)
      let s ← scene
      let isDangling := (s.lookAt? target).any Entry.isLink && (s.look? target).isNone
      match ← locate (!(e.isLink ∧ o.keepsLinks)) target with
      | .error fault => cannot fault
      | .ok ⟨here, old⟩ =>
        if from_ = here ∨ (old.isSome ∧ (s.files.sharing from_).contains here) then
          blame (quotedName source ++ " and ".toList ++ quotedName target ++ " are the same file".toList)
        else if isDangling ∧ !e.isLink then
          blame ("not writing through dangling symlink ".toList ++ quotedName target)
        else if old.isNone ∧ target.getLast? = some '/' ∧ !e.isFolder then cannot .notFolder
        else if e.isFolder ∧ isInside (parentPath here) from_ ∧ parentPath here ≠ from_ then
          blame ("cannot copy a directory, ".toList ++ quotedName source ++ ", into itself, ".toList ++
            quotedName target)
        else copyAt o command depthOfFolders [] from_ source here target

/-- Copies files and folders. -/
def cp : Utility := fun s args =>
  let g : Grammar :=
    { letters := "abdfHilLnprst:TuvxPR"
      words := [("archive", "a", .nothing), ("recursive", "r", .nothing), ("force", "f", .nothing),
        ("interactive", "i", .nothing), ("no-clobber", "n", .nothing), ("update", "u", .perhaps),
        ("verbose", "v", .nothing), ("no-dereference", "P", .nothing), ("dereference", "L", .nothing),
        ("preserve", "p", .perhaps), ("link", "l", .nothing), ("symbolic-link", "s", .nothing),
        ("target-directory", "t", .something), ("no-target-directory", "T", .nothing),
        ("parents", "parents", .nothing)] }
  withArguments s.name 1 g args fun a =>
    match readTarget s a with
    | .error r => r
    | .ok (sources, target, isFolder) =>
      let isRecursive := a.hasAny ["r", "R", "a"]
      let o : Copying :=
        { isRecursive
          keepsLinks := match a.last? ["a", "d", "P", "L", "H"] with
            | some "L" => false
            | some "H" => false
            | some _ => true
            | none => isRecursive
          keepsAll := a.hasAny ["a", "p"]
          skips := a.last? ["n", "i", "f"] = some "n"
          asks := a.last? ["n", "i"] = some "i"
          onlyNewer := a.has "u"
          makesLinks := a.has "l"
          isShown := a.has "v" }
      Chore.run (s := s) do
        for source in sources do
          let path := if a.has "parents" then shownChild target (String.ofList source)
            else inTarget isFolder target source
          if a.has "parents" then makeFolders path 0o755 false (pathFronts path).dropLast
          if a.has "s" then
            match ← locate false path with
            | .ok p => change fun f => f.put p.path (.link source) 0o777
            | .error fault => blame ("cannot create symbolic link ".toList ++ quotedName path ++ (": " ++ fault.text).toList)
          else copyOperand o "cp" source path

/-- Moves one operand. -/
def moveOperand (o : Copying) (source target : Octets) : Chore Unit := do
  let s ← scene
  match ← locate false (if (s.lookAt? (withoutFinalSlashes source)).any Entry.isLink then source else withoutFinalSlashes source) with
  | .error fault => blame ("cannot stat ".toList ++ quotedName source ++ (": " ++ fault.text).toList)
  | .ok ⟨_, none⟩ => blame ("cannot stat ".toList ++ quotedName source ++ ": No such file or directory".toList)
  | .ok ⟨from_, some e⟩ =>
    let cannot (fault : PathFault) : Chore Unit :=
      blame ("cannot move ".toList ++ quotedName source ++ " to ".toList ++ quotedName target ++
        (": " ++ fault.text).toList)
    match s.files.findWith false s.folder target with
    | .error fault => cannot fault
    | .ok ⟨here, old⟩ =>
      if from_ = here then
        blame (quotedName source ++ " and ".toList ++ quotedName target ++ " are the same file".toList)
      else if e.isFolder ∧ isInside here from_ then
        blame ("cannot move ".toList ++ quotedName source ++ " to a subdirectory of itself, ".toList ++
          quotedName target)
      else if e.isFolder ∧ old.any (!·.isFolder) then
        blame ("cannot overwrite non-directory ".toList ++ quotedName target ++ " with directory ".toList ++
          quotedName source)
      else if !e.isFolder ∧ old.any Entry.isFolder then
        blame ("cannot overwrite directory ".toList ++ quotedName target ++ " with non-directory ".toList ++
          quotedName source)
      else if old.isNone ∧ target.getLast? = some '/' ∧ !e.isFolder then cannot .notFolder
      else if o.skips ∧ old.isSome then pure ()
      else if o.onlyNewer ∧ old.any (e.changed ≤ ·.changed) then pure ()
      else if e.isFolder ∧ old.isSome ∧ !(s.files.children here).isEmpty then
        cannot .notEmpty
      else
        let goes ← if o.asks ∧ old.isSome then ask ("overwrite ".toList ++ quotedName target) else pure true
        if goes then
          let paths := if e.isFolder then s.files.below from_ else []
          change fun f =>
            paths.foldl (fun f p => f.relocate p (here ++ String.ofList (p.toList.drop from_.length)))
              (f.relocate from_ here)
          if o.isShown then say ("renamed ".toList ++ quotedName source ++ " -> ".toList ++ quotedName target)

/-- Moves files and folders. -/
def mv : Utility := fun s args =>
  let g : Grammar :=
    { letters := "bfint:Tuv"
      words := [("force", "f", .nothing), ("interactive", "i", .nothing), ("no-clobber", "n", .nothing),
        ("update", "u", .perhaps), ("verbose", "v", .nothing), ("target-directory", "t", .something),
        ("no-target-directory", "T", .nothing)] }
  withArguments s.name 1 g args fun a =>
    match readTarget s a with
    | .error r => r
    | .ok (sources, target, isFolder) =>
      let o : Copying :=
        { skips := a.last? ["n", "i", "f"] = some "n"
          asks := a.last? ["n", "i", "f"] = some "i"
          onlyNewer := a.has "u"
          isShown := a.has "v" }
      Chore.run (s := s) do
        for source in sources do
          moveOperand o source (inTarget isFolder target source)

/-- Copies files with given rights, or makes folders. -/
def install : Utility := fun s args =>
  let g : Grammar :=
    { letters := "bcCdDg:m:o:pst:Tv"
      words := [("directory", "d", .nothing), ("mode", "m", .something), ("verbose", "v", .nothing),
        ("owner", "o", .something), ("group", "g", .something), ("target-directory", "t", .something)] }
  withArguments s.name 1 g args fun a =>
    let mode? := match a.value? "m" with
      | none => some 0o755
      | some text => readMode 0 false 0 text
    match mode? with
    | none => faultOf 1 s.name ("invalid mode ".toList ++ quotedText ((a.value? "m").getD []))
    | some mode =>
      if a.has "d" then
        if a.operands.isEmpty then misuse 1 s.name "missing file operand".toList
        else
          Chore.run (s := s) do
            for path in a.operands do makeFolders path mode false (pathFronts path)
      else
        match readTarget s a with
        | .error r => r
        | .ok (sources, target, isFolder) =>
          Chore.run (s := s) do
            for source in sources do
              let path := inTarget isFolder target source
              if a.has "D" then makeFolders path 0o755 false (pathFronts path).dropLast
              if (s.look? source).any Entry.isFolder then
                blame ("omitting directory ".toList ++ quotedName source)
              else
                copyOperand { isShown := a.has "v" } "install" source path
                match ← locate true path with
                | .ok ⟨here, some e⟩ => change fun f => f.set here (some { e with mode })
                | _ => pure ()

/-! ## Rights -/

/-- The letters of rights, as in a list of files. -/
def rightsText (mode : Nat) : Octets :=
  let one (shift special : Nat) (letter : Char) : Octets :=
    let bits := mode >>> shift
    let isSpecial := mode &&& special ≠ 0
    [if bits &&& 4 ≠ 0 then 'r' else '-', if bits &&& 2 ≠ 0 then 'w' else '-',
      if bits &&& 1 ≠ 0 then if isSpecial then letter else 'x'
      else if isSpecial then letter.toUpper else '-']
  one 6 0o4000 's' ++ one 3 0o2000 's' ++ one 0 0o1000 't'

/-- A mode in octal digits. -/
def modeDigits (width mode : Nat) : Octets := (paddedIn 8 width mode).toList

/-- Sets the rights of a file, and of all below it if asked to. -/
def setRights (change? : Bool → Nat → Option Nat) (isRecursive isShown onlyChanges : Bool) :
    Nat → String → Octets → Chore Unit
  | 0, _, _ => pure ()
  | depth + 1, path, shown => do
    let s ← scene
    match s.files.entry? path with
    | none => pure ()
    | some e =>
      let mode := (change? e.isFolder e.mode).getD e.mode
      if mode ≠ e.mode then change fun f => f.update path { e with mode }
      let old := "(".toList ++ rightsText e.mode ++ ")".toList
      let new := "(".toList ++ rightsText mode ++ ")".toList
      if mode ≠ e.mode ∧ (isShown ∨ onlyChanges) then
        say ("mode of ".toList ++ quotedName shown ++ " changed from ".toList ++ modeDigits 4 e.mode ++ ' ' :: old ++
          " to ".toList ++ modeDigits 4 mode ++ ' ' :: new)
      else if isShown then
        say ("mode of ".toList ++ quotedName shown ++ " retained as ".toList ++ modeDigits 4 mode ++ ' ' :: new)
      if isRecursive ∧ e.isFolder then
        (s.files.children path).forM fun name =>
          match s.files.entry? (childPath path name) with
          | some x =>
            if x.isLink then pure ()
            else
              setRights change? isRecursive isShown onlyChanges depth (childPath path name)
                (shownChild shown name)
          | none => pure ()

/-- Changes the rights of files. -/
def chmod : Utility := fun s args =>
  let g : Grammar :=
    { letters := "cfRv"
      words := [("changes", "c", .nothing), ("silent", "f", .nothing), ("quiet", "f", .nothing),
        ("recursive", "R", .nothing), ("verbose", "v", .nothing), ("reference", "reference", .something)] }
  -- A mode may begin with a minus sign.
  let isMode (a : Octets) : Bool := match a with
    | '-' :: c :: _ => "rwxXstugo".toList.contains c
    | _ => false
  let args := match args.findIdx? isMode with
    | some n => args.take n ++ ['-', '-'] :: args.drop n
    | none => args
  withArguments s.name 1 g args fun a =>
    let reference := (a.value? "reference").map fun path => (s.look? path).map Entry.mode
    match reference, a.operands with
    | _, [] => misuse 1 s.name "missing operand".toList
    | none, [single] => misuse 1 s.name ("missing operand after ".toList ++ quotedText single)
    | reference, first :: rest =>
      let text := first
      let paths := if reference.isSome then first :: rest else rest
      let change? (isFolder : Bool) (mode : Nat) : Option Nat :=
        match reference with
        | some other => other
        | none => readMode s.mask isFolder mode text
      if reference.isNone ∧ (change? false 0).isNone then
        misuse 1 s.name ("invalid mode: ".toList ++ quotedText text)
      else
        Chore.run (s := s) do
          for path in paths do
            let cannot (fault : PathFault) :=
              if a.has "f" then modify fun (s, r) => (s, { r with status := 1 })
              else blame ("cannot access ".toList ++ quotedName path ++ (": " ++ fault.text).toList)
            match ← locate true path with
            | .error fault => cannot fault
            | .ok ⟨_, none⟩ => cannot .missing
            | .ok ⟨here, some _⟩ =>
              setRights change? (a.has "R") (a.has "v") (a.has "c") depthOfFolders here path

/-- Changes the owners of files. There is only one user, so nothing changes. -/
def chown : Utility := fun s args =>
  let g : Grammar := { letters := "cfhRvHLP", words := [("recursive", "R", .nothing), ("verbose", "v", .nothing)] }
  withArguments s.name 1 g args fun a =>
    match a.operands with
    | [] => misuse 1 s.name "missing operand".toList
    | [single] => misuse 1 s.name ("missing operand after ".toList ++ quotedText single)
    | _ :: paths =>
      Chore.run (s := s) do
        for path in paths do
          match ← locate true path with
          | .ok ⟨_, some _⟩ => pure ()
          | .ok ⟨_, none⟩ =>
            blame ("cannot access ".toList ++ quotedName path ++ ": No such file or directory".toList)
          | .error fault => blame ("cannot access ".toList ++ quotedName path ++ (": " ++ fault.text).toList)

end Foreman.Shell.Utility
