import Foreman.Shell.Files
import Foreman.Shell.Quotation

/-!
# `Foreman.Shell.Scene` — what a utility finds and does

A utility is a program that needs nothing of the shell around it. It finds a scene and gives a report.

## Contents
- **`Scene`**: the input, the environment and the files; `readPath`.
- **`Report`**: what a utility writes and changes, how much of its input it takes, and its status.
- `textOut`, `lineOut`, `failure`: plain reports.
-/

namespace Foreman.Shell

/-! ## Scenes -/

/-- What a utility finds. -/
structure Scene where
  /-- The name under which the utility was called. -/
  name : String := ""
  input : Octets := []
  /-- Whether more input would come than is known. -/
  isCut : Bool := false
  /-- Whether there is an input at all. -/
  hasInput : Bool := true
  /-- The file that the input comes from, and that to which the output goes, if they are files. -/
  inputPath? : Option String := none
  outputPath? : Option String := none
  /-- Where in that file the output begins. -/
  outputStart : Nat := 0
  environment : List (String × Octets) := []
  files : Files := {}
  folder : String := Catalog.startFolder
  shownFolder : Octets := Catalog.startFolder.toList
  mask : Nat := 0o022
  /-- How much of an endless source is known. -/
  room : Nat := 0
  /-- What comes through the places where processes meet. -/
  arrivals : List (String × Octets) := []
  /-- The number of the process, and of its parent. -/
  process : Nat := 0
  parent : Nat := 0

namespace Scene

/-- The value of a variable of the environment. -/
def valueOf? (s : Scene) (name : String) : Option Octets := s.environment.lookup name

/-- Whether a path stands for the input. -/
def isInput (path : Octets) : Bool :=
  path = ['-'] || path = "/dev/stdin".toList || path = "/dev/fd/0".toList

/-- The data that a path leads to, and whether there is more of it. -/
def readPath (s : Scene) (path : Octets) : Except PathFault (Octets × Bool) :=
  if isInput path then if s.hasInput then .ok (s.input, s.isCut) else .error .closed
  else
    match s.files.find s.folder path with
    | .ok ⟨place, some ⟨.fifo, _, _, _⟩⟩ => .ok ((s.arrivals.lookup place).getD [], false)
    | _ => s.files.read s.room s.folder path

/-- Where a path leads. -/
def find (s : Scene) (path : Octets) : Except PathFault Place := s.files.find s.folder path

/-- What stands at the end of a path. -/
def look? (s : Scene) (path : Octets) : Option Entry := s.files.look? s.folder path

/-- What stands at the end of a path, without following a link there. -/
def lookAt? (s : Scene) (path : Octets) : Option Entry := s.files.lookAt? s.folder path

/-- The size of the file that the input comes from, if it does. -/
def inputSize? (s : Scene) : Option Nat :=
  (s.inputPath?.bind s.files.entry?).map fun e => e.data.length

/-- The file that an operand leads to. -/
def fileOf? (s : Scene) (path : Octets) : Option String :=
  if isInput path then s.inputPath?
  else
    match s.find path with
    | .ok p => some p.path
    | .error _ => none

/-- Whether the output goes to the file that an operand leads to. -/
def isOutput (s : Scene) (path : Octets) : Bool :=
  match s.outputPath?, s.fileOf? path with
  | some sink, some source => sink = source || (s.files.sharing source).contains sink
  | _, _ => false

/-- The mode of something new. -/
def newMode (s : Scene) (mode : Nat) : Nat := mode - (mode &&& s.mask)

end Scene

/-! ## Reports -/

/-- How much of its input a utility takes. -/
inductive Appetite where
  | nothing
  /-- A number of bytes. What was read too much can perhaps be given back. -/
  | bytes (n : Nat)
  /-- A number of bytes, of which none is read too much. -/
  | exactly (n : Nat)
  | everything
  deriving DecidableEq

/-- What a utility writes and changes, and its status. -/
structure Report where
  /-- The texts that it writes, in order, with their descriptors. -/
  texts : List (Nat × Octets) := []
  status : Nat := 0
  appetite : Appetite := .nothing
  /-- Whether it needs more data than are known. -/
  isHungry : Bool := false
  /-- The files, if it changes them. -/
  files : Option Files := none
  /-- How long it sleeps, in nanoseconds. -/
  pause : Nat := 0
  /-- Whether it writes without end, as long as somebody takes it. -/
  isEndless : Bool := false

namespace Report

/-- Writes something to the output. -/
def out (r : Report) (text : Octets) : Report :=
  if text.isEmpty then r else { r with texts := r.texts ++ [(1, text)] }

/-- Writes a line of complaint. -/
def err (r : Report) (text : Octets) : Report := { r with texts := r.texts ++ [(2, text ++ ['\n'])] }

/-- Adds what comes after. The status is the greater one. -/
def and (r later : Report) : Report :=
  { texts := r.texts ++ later.texts
    status := max r.status later.status
    appetite := if later.appetite = .nothing then r.appetite else later.appetite
    isHungry := r.isHungry || later.isHungry
    files := later.files.orElse fun _ => r.files
    pause := r.pause + later.pause }

/-- Everything that goes to the output. -/
def output (r : Report) : Octets := (r.texts.filter (·.1 = 1)).flatMap Prod.snd

/-- The report with complaints in front of all output, as of a utility that gathers its output. -/
def gathered (r : Report) : Report :=
  { r with
    texts := r.texts.filter (·.1 ≠ 1) ++
      let text := r.output
      if text.isEmpty then [] else [(1, text)] }

end Report

/-- What a utility does. -/
abbrev Utility : Type := Scene → List Octets → Report

/-- A report of output. -/
def textOut (text : Octets) : Report := ({} : Report).out text

/-- A report of a line of output. -/
def lineOut (text : Octets) : Report := textOut (text ++ ['\n'])

/-- A report of a failure. -/
def failure (status : Nat) (text : Octets) : Report := { ({} : Report).err text with status }

end Foreman.Shell
