import Foreman.Collection.NameMap
import Foreman.Shell.Catalog
import Foreman.Text.Octets

/-!
# `Foreman.Shell.Files` — files and folders

Commands find a tree of folders. Every system has some files, which are given by a catalogue; the
others were made by commands. Every change is kept with its time, so that commands that run side by
side see each other's changes when these happen.

## Contents
- **`Node`**, **`Entry`**: what stands at a path.
- **`Files`** with `put`, `erase`, `share`, `relocate`, the changes made and the changes to come; `advance`.
- **Paths**: `Files.find` follows a path from a folder; `PathFault` says why it leads nowhere.
- **Contents**: `read`, `write`, `children`.
-/

namespace Foreman.Shell

/-! ## Entries -/

/-- What stands at a path. -/
inductive Node where
  | file (data : Octets)
  | folder
  /-- Another path, from the folder of the link on. -/
  | link (target : Octets)
  /-- A program, whose contents do not matter. -/
  | program
  /-- An endless source or a sink, known by its path. -/
  | device
  /-- A place where one process reads what another one writes. -/
  | fifo
  deriving DecidableEq

/-- What stands at a path, who may use it, and when it was changed. -/
structure Entry where
  node : Node
  mode : Nat
  changed : Nat := 0
  /-- Different for different contents of one path. -/
  version : Nat := 0
  deriving DecidableEq

namespace Entry

/-- Whether it is a folder. -/
def isFolder (e : Entry) : Bool := e.node = .folder

/-- Whether it is a link. -/
def isLink (e : Entry) : Bool :=
  match e.node with
  | .link _ => true
  | _ => false

/-- Whether it is a file with data. -/
def isFile (e : Entry) : Bool :=
  match e.node with
  | .file _ | .program => true
  | _ => false

/-- Whether it may be executed. -/
def isExecutable (e : Entry) : Bool := e.mode &&& 0o111 ≠ 0

/-- The data of a file. -/
def data (e : Entry) : Octets :=
  match e.node with
  | .file data => data
  | .program => ['\x7f', 'E', 'L', 'F', '\x00']
  | _ => []

end Entry

/-- When scripts begin, in nanoseconds as the system counts them: at the turn of a year. -/
def startTime : Nat := 1767225600000000000

/-- What every system has at a path; the root is the empty path. -/
def commonEntry? (path : String) : Option Entry :=
  if Catalog.folders.contains path then
    some
      { node := .folder
        mode := if Catalog.isShared path then 0o1777 else 0o755
        changed := if path = Catalog.startFolder then startTime else 0 }
  else if Catalog.devices.contains path then some ⟨.device, 0o666, 0, 0⟩
  else
    match Catalog.links.lookup path with
    | some target => some ⟨.link target.toList, 0o777, 0, 0⟩
    | none =>
      match Catalog.texts.lookup path with
      | some text => some ⟨.file text.toList, 0o644, 0, 0⟩
      | none => (Catalog.programOf? path).map fun _ => ⟨.program, 0o755, 0, 0⟩

/-! ## Files -/

/-- A change of what stands at a path. -/
structure Edit where
  time : Nat
  /-- The number of the process that made it. -/
  maker : Nat
  path : String
  entry : Option Entry

/-- All files, the present time, and the changes. -/
structure Files where
  made : NameMap Entry := .empty
  clock : Nat := 0
  /-- The number of the process that makes changes now. -/
  maker : Nat := 0
  /-- The number of changes so far. -/
  version : Nat := 0
  /-- The changes made so far, the latest first. -/
  edits : List Edit := []
  /-- The changes that processes running at the same time will have made, the earliest first. -/
  coming : List Edit := []
  /-- Paths that share their data. -/
  twins : List (List String) := []

namespace Files

/-- What stands at a path without links in it. -/
def entry? (f : Files) (path : String) : Option Entry :=
  match f.made.find? path with
  | some e => some e
  | none => commonEntry? path

/-- The present time in nanoseconds as the system counts it. -/
def now (f : Files) : Nat := startTime + f.clock

/-- The time that a change of a file gets now: the system counts these in ticks of four milliseconds. -/
def stamp (f : Files) : Nat := f.now - f.now % 4000000

/-- What stands at the paths after a change. -/
def applied (made : NameMap Entry) (path : String) : Option Entry → NameMap Entry
  | some e => made.insert path e
  | none => made.erase path

/-- Sets what stands at a path. -/
def set (f : Files) (path : String) (e : Option Entry) : Files :=
  let e := e.map fun e => { e with version := f.version + 1 }
  { f with
    made := applied f.made path e
    version := f.version + 1
    edits := ⟨f.clock, f.maker, path, e⟩ :: f.edits }

/-- Lets a path share its data no longer. -/
def alone (f : Files) (path : String) : Files :=
  if f.twins.isEmpty then f
  else { f with twins := (f.twins.map (·.filter (· ≠ path))).filter fun group => 1 < group.length }

/-- The paths that share the data of a path, with that path. -/
def sharing (f : Files) (path : String) : List String :=
  (f.twins.find? (·.contains path)).getD [path]

/-- Puts something new at a path. -/
def put (f : Files) (path : String) (node : Node) (mode : Nat) : Files :=
  (f.alone path).set path (some { node, mode, changed := f.stamp })

/-- Removes what stands at a path. -/
def erase (f : Files) (path : String) : Files := (f.alone path).set path none

/-- Lets a new path share the data of another one. -/
def share (f : Files) (path new : String) : Files :=
  let group := new :: f.sharing path
  { f.set new (f.entry? path) with
    twins := group :: f.twins.filter fun other => !other.contains path }

/-- Changes what stands at a path and shares its data. -/
def update (f : Files) (path : String) (e : Entry) : Files :=
  (f.sharing path).foldl (fun f p => f.set p (some e)) f

/-- Moves what stands at a path to another one. -/
def relocate (f : Files) (source target : String) : Files :=
  let group := f.sharing source
  let moved := (((f.alone target).set target (f.entry? source)).alone source).set source none
  if group.length ≤ 1 then moved
  else
    { moved with
      twins := (target :: group.filter (· ≠ source)) :: moved.twins.filter fun other =>
        !other.any group.contains }

/-- Makes a change that was made elsewhere. -/
def apply (f : Files) (e : Edit) : Files :=
  { f with
    made := applied f.made e.path (e.entry.map fun x => { x with version := f.version + 1 })
    version := f.version + 1
    edits := e :: f.edits }

/-- Lets the clock go on to a time, and makes the changes that have come. -/
def advance (f : Files) (time : Nat) : Files :=
  let now := max f.clock time
  let (due, coming) := f.coming.span (·.time ≤ now)
  due.foldl apply { f with clock := now, coming }

/-- Adds changes that are to come. -/
def expect (f : Files) (edits : List Edit) : Files :=
  if edits.isEmpty then f
  else { f with coming := (f.coming ++ edits).mergeSort fun a b => a.time ≤ b.time }

end Files

/-! ## Paths -/

/-- Why a path leads nowhere, or something cannot be done at its end. -/
inductive PathFault where
  | missing
  | notFolder
  | isFolder
  | tooLong
  | loops
  | occupied
  | notEmpty
  | invalid
  /-- There is no input. -/
  | closed
  deriving DecidableEq

/-- How a fault is reported. -/
def PathFault.text : PathFault → String
  | missing => "No such file or directory"
  | notFolder => "Not a directory"
  | isFolder => "Is a directory"
  | tooLong => "File name too long"
  | loops => "Too many levels of symbolic links"
  | occupied => "File exists"
  | notEmpty => "Directory not empty"
  | invalid => "Invalid argument"
  | closed => "Bad file descriptor"

/-- A path without its last name. -/
def parentPath (path : String) : String :=
  String.ofList ((path.toList.reverse.dropWhile (· ≠ '/')).drop 1).reverse

/-- The last name of a path. -/
def lastName (path : String) : String :=
  String.ofList (path.toList.reverse.takeWhile (· ≠ '/')).reverse

/-- A path as it is shown. -/
def shownPath (path : String) : Octets := if path.isEmpty then ['/'] else path.toList

/-- Where a path leads. -/
structure Place where
  path : String
  entry : Option Entry

/-- Whether a place is a folder. -/
def Place.isFolder (p : Place) : Bool := p.entry.any Entry.isFolder

/-- How many links a path may lead through. -/
def linkLimit : Nat := 40

namespace Files

/-- Follows names from a folder, through a number of links at most. At the end a link may be followed
    or not; every link on the way is. -/
def walk (f : Files) (followsLast : Bool) : Nat → Nat → String → List Octets →
    Except PathFault Place
  | 0, _, _, _ => .error .loops
  | _ + 1, _, here, [] => .ok ⟨here, f.entry? here⟩
  | fuel + 1, links, here, name :: rest =>
    if name = [] ∨ name = ['.'] then walk f followsLast fuel links here rest
    else if name = ['.', '.'] then walk f followsLast fuel links (parentPath here) rest
    else if 255 < name.length then .error .tooLong
    else
      let path := here ++ "/" ++ String.ofList name
      match f.entry? path with
      | none => if rest.all List.isEmpty then .ok ⟨path, none⟩ else .error .missing
      | some e =>
        match e.node with
        | .folder => walk f followsLast fuel links path rest
        | .link target =>
          if rest.isEmpty ∧ !followsLast then .ok ⟨path, some e⟩
          else if links = 0 then .error .loops
          else
            walk f followsLast fuel (links - 1) (if target.head? = some '/' then "" else here)
              (partsAt '/' target ++ rest)
        | _ => if rest.isEmpty then .ok ⟨path, some e⟩ else .error .notFolder

/-- Where a path leads from a folder. -/
def findWith (f : Files) (followsLast : Bool) (folder : String) (path : Octets) :
    Except PathFault Place :=
  if path.isEmpty then .error .missing
  else if 4095 < path.length then .error .tooLong
  else
    walk f followsLast (4096 * (linkLimit + 2)) linkLimit
      (if path.head? = some '/' then "" else folder) (partsAt '/' path)

/-- Where a path leads from a folder, with all links followed. -/
def find (f : Files) (folder : String) (path : Octets) : Except PathFault Place :=
  f.findWith true folder path

/-- What stands at the end of a path from a folder. -/
def look? (f : Files) (folder : String) (path : Octets) : Option Entry :=
  match f.find folder path with
  | .ok place => place.entry
  | .error _ => none

/-- What stands at the end of a path from a folder, without following a link there. -/
def lookAt? (f : Files) (folder : String) (path : Octets) : Option Entry :=
  match f.findWith false folder path with
  | .ok place => place.entry
  | .error _ => none

/-! ## Contents -/

/-- The names in a folder, in ascending order. -/
def children (f : Files) (folder : String) : List String :=
  let front := folder ++ "/"
  let inside (path : String) : Option String :=
    let rest := path.toList.drop front.length
    if front.isPrefixOf path ∧ !rest.isEmpty ∧ !rest.contains '/' then some (String.ofList rest)
    else none
  let names := f.made.keys.filterMap inside ++ Catalog.paths.filterMap inside
  (NameMap.ofList (names.map fun name => (name, ()))).keys

/-- The paths below a folder that were made, each folder before what is in it. -/
def below (f : Files) (folder : String) : List String :=
  f.made.keys.filter (folder ++ "/").isPrefixOf

/-- Puts a file at a path below the folder in which scripts begin, and the folders that it needs. -/
def provide (f : Files) (path : String) (data : Octets) : Files :=
  let names := (partsAt '/' (octetsOf path)).filter fun name => !name.isEmpty && name ≠ ['.']
  let front (n : Nat) : String :=
    "/".intercalate (Catalog.startFolder :: (names.take n).map String.ofList)
  let step (f : Files) (n : Nat) : Files := f.put (front n) .folder 0o755
  ((List.range names.length).tail.foldl step f).put (front names.length) (.file data) 0o644

/-- The data that a path leads to, of an endless source so much as is asked for; and whether there is
    more of it. -/
def read (f : Files) (most : Nat) (folder : String) (path : Octets) :
    Except PathFault (Octets × Bool) := do
  let place ← f.find folder path
  match place.entry with
  | none => .error .missing
  | some e =>
    match e.node with
    | .folder => .error .isFolder
    | .device =>
      if Catalog.endless.contains place.path then return (List.replicate most '\x00', true)
      else return ([], false)
    | _ => return (e.data, false)

/-- Replaces the data of a file, which may be new. A sink takes anything. -/
def write (f : Files) (path : String) (mode : Nat) (data : Octets) : Files :=
  match f.entry? path with
  | some e =>
    if e.node = .device ∨ e.node = .fifo then f else f.update path { e with node := .file data, changed := f.stamp }
  | none => f.put path (.file data) mode

end Files

end Foreman.Shell
