import Foreman.Collection.NameMap
import Foreman.Shell.Files
import Foreman.Shell.Syntax

/-!
# `Foreman.Shell.State` — what a shell has done so far

A shell is a process with variables, descriptors and a folder, in a world with files, open streams and
everything that was written. Output is kept in parts, each with the pipe that it went to and the time,
so that processes that run side by side can be run one after the other and their outputs put in order
afterwards.

## Contents
- **`Stream`**, **`Source`**, **`Pipe`**, **`Part`**: what descriptors lead to.
- **`World`**: what all processes share; **`Process`**: what a new process copies from its parent;
  **`Job`**: a process in the background; **`State`**.
- **`Outcome`**, **`Act`**: a step of the shell, which may leave the commands around it.
- **Time**: `pass`, `stepCost`.
- **Processes**: `inProcess`.
-/

namespace Foreman.Shell

/-! ## Streams -/

/-- What a stream leads to. -/
inductive Channel where
  /-- A pipe that takes data. The first two are the output of the script and its complaints. -/
  | pipe (number : Nat)
  /-- Data that can be read once. -/
  | source (number : Nat)
  | file (path : String)
  /-- Takes anything and gives nothing. -/
  | nowhere
  /-- Takes anything, or nothing at all, and gives zeros. -/
  | zeros (takesAll : Bool)
  deriving DecidableEq

/-- An open file or pipe, which several descriptors of several processes may share. -/
structure Stream where
  channel : Channel
  canRead : Bool
  canWrite : Bool
  appends : Bool := false
  position : Nat := 0
  /-- What is left of a file, as long as it has the given version. -/
  ahead : Octets := []
  version : Nat := 0

/-- Why only the front of some data is known. -/
inductive Cut where
  /-- It takes too long until more comes. -/
  | late
  /-- There was no room for more. -/
  | full
  deriving DecidableEq

/-- Data to be read, in parts with the times at which they come. -/
structure Source where
  parts : List (Nat × Octets)
  /-- Why more would come than is known, if that is so. -/
  cut : Option Cut := none
  /-- When no more can come. -/
  ends : Nat

/-- A pipe while it is written to. -/
structure Pipe where
  size : Nat := 0
  /-- When nobody reads it any more, if that is known. -/
  brokenAt : Option Nat := none
  /-- What it keeps for a process that may come to read it, the latest first. What is written to other
      pipes is not kept here. -/
  kept? : Option (List (Nat × Octets)) := none
  /-- How much of it was read. -/
  taken : Nat := 0

/-- A part of what was written. -/
structure Part where
  time : Nat
  maker : Nat
  pipe : Nat
  text : Octets

/-- Until when a process keeps a pipe open. -/
structure Hold where
  maker : Nat
  pipe : Nat
  ends : Nat

/-- A pipe at a path, through which processes meet. -/
structure Meeting where
  place : String
  pipe : Nat
  /-- The number of the process that came to write. -/
  maker : Nat
  /-- Whether that process has also come to read. -/
  isHeld : Bool := false
  /-- When another process came to read, and its number. -/
  takenAt? : Option Nat := none
  taker : Nat := 0

/-- A signal on its way. -/
structure Notice where
  time : Nat
  sender : Nat
  target : Nat
  signal : Nat
  /-- Whether it goes to all processes that began after its target, too. -/
  isForAll : Bool := false
  /-- The processes that have acted on it. -/
  taken : List Nat := []

/-- Whether a signal goes to a process that has not acted on it. -/
def Notice.reaches (n : Notice) (number : Nat) : Bool :=
  (n.target = number || (n.isForAll && n.target < number)) && !n.taken.contains number

/-! ## The world -/

/-- What all processes share. -/
structure World where
  files : Files := {}
  streams : Array Stream := #[]
  sources : Array Source := #[]
  pipes : Array Pipe := #[{}, {}]
  /-- Everything written, the latest first. -/
  written : List Part := []
  notices : List Notice := []
  /-- The pipes that processes in the background have open. -/
  holds : List Hold := []
  meetings : List Meeting := []
  /-- Where and since when the process waits that was run last, if it waits for another one. -/
  awaited? : Option (String × Nat) := none
  /-- The number of the latest process. -/
  processes : Nat
  /-- How many commands may still be run. -/
  steps : Nat
  /-- How much a pipe takes before somebody reads it. -/
  room : Nat
  /-- When the script is stopped. -/
  deadline : Nat

/-- The present time in nanoseconds. -/
def World.clock (w : World) : Nat := w.files.clock

/-! ## Processes -/

/-- A variable. One without a value may still have marks. -/
structure Variable where
  value : Option Octets := none
  isExported : Bool := false
  isReadOnly : Bool := false

/-- What a new process copies from its parent. -/
structure Process where
  /-- The number of the process. -/
  number : Nat
  /-- The number of the shell that this process belongs to. -/
  shell : Nat
  /-- The numbers of the processes that wait for this one. -/
  ancestors : List Nat := []
  vars : NameMap Variable
  /-- The name of the script. -/
  name : Octets := ['s', 'h']
  parameters : List Octets := []
  functions : NameMap Command := .empty
  /-- The aliases in the order in which they were made. -/
  aliases : List (String × Octets) := []
  /-- The programs that were found before. -/
  hashed : List String := []
  /-- What to do on a signal; the number zero stands for the end of the shell. -/
  traps : List (Nat × Octets) := []
  /-- The letters of the options that are on. -/
  options : List Char := []
  /-- Whether the status of the present command is tested by a command around it. -/
  isTested : Bool := false
  /-- The number of loops around the present command. -/
  loops : Nat := 0
  /-- For each function in progress, the variables that it hides. -/
  hidden : List (List (String × Option Variable)) := []
  line : Nat := 1
  /-- The command of the shell or the file with commands that is in progress, for messages. -/
  command : Octets := []
  status : Nat := 0
  /-- The status of the last command whose output was substituted into the present one. -/
  substituted : Nat := 0
  /-- The streams of the descriptors. -/
  descriptors : List (Nat × Nat) := []
  /-- The present folder, and the path that led to it. -/
  folder : String := Catalog.startFolder
  shownFolder : Octets := Catalog.startFolder.toList
  mask : Nat := 0o022
  /-- The number of the last process in the background. -/
  background : Option Nat := none
  /-- The number of the argument that is read for options next, and how far the one before it has been
      read, if it is not finished. -/
  optionIndex : Nat := 1
  optionPlace : Option Nat := none
  /-- Whether the process is one in the background, or belongs to one. -/
  isAside : Bool := false
  /-- Whether the process goes on as a program that it runs. -/
  isReplaced : Bool := false
  /-- How nice the process is to others. -/
  niceness : Int := 0
  /-- The environment, if it is not that of a shell. -/
  environment? : Option (List (String × Octets)) := none

/-- A process in the background. It is run as a whole when it begins, and once more if a signal comes to
    it later. -/
structure Job where
  start : Process
  files : Files
  body : Command
  began : Nat
  ended : Nat
  status : Nat
  /-- The numbers of the first and the last process that it began. -/
  family : Nat × Nat
  /-- The signals that came to it. -/
  notices : List Notice
  /-- Whether a signal ended it. -/
  isKilled : Bool := false
  /-- Where and since when it waits for a process that writes. -/
  awaits? : Option (String × Nat) := none
  /-- When it ends, if it need not wait for processes that read. -/
  planned : Nat := 0

/-- The state of a shell. -/
structure State extends Process where
  jobs : List Job := []
  world : World

namespace State

/-- Whether an option is on. -/
def has (s : State) (option : Char) : Bool := s.options.contains option

/-- The state with other files. -/
def withFiles (s : State) (files : Files) : State := { s with world := { s.world with files } }

/-- The stream of a descriptor. -/
def stream? (s : State) (descriptor : Nat) : Option Stream :=
  (s.descriptors.lookup descriptor).bind fun n => s.world.streams[n]?

end State

/-! ## Steps -/

/-- How a command leaves the commands around it. -/
inductive Way where
  /-- Out of the given number of loops. -/
  | breaks (n : Nat)
  /-- On with the loop that is the given number of loops further out. -/
  | continues (n : Nat)
  | returns
  | exits
  | killed (signal : Nat)
  /-- The script does not end in time, or not with the room that there is for data. -/
  | stalls (cut : Cut)
  deriving DecidableEq

/-- What a step leads to. -/
inductive Outcome (α : Type) where
  | done (value : α) (state : State)
  | left (way : Way) (state : State)

/-- A step of the shell. -/
def Act (α : Type) : Type := State → Outcome α

instance : Monad Act where
  pure a := fun s => .done a s
  bind act next := fun s =>
    match act s with
    | .done a t => next a t
    | .left way t => .left way t

namespace Act

/-- The present state, in part. -/
def read {α : Type} (f : State → α) : Act α := fun s => .done (f s) s

/-- Changes the state. -/
def change (f : State → State) : Act Unit := fun s => .done () (f s)

/-- Leaves the commands around. -/
def leave {α : Type} (way : Way) : Act α := fun s => .left way s

/-- Does something after a step, also when the step leaves. -/
def andAlways {α : Type} (act : Act α) (f : State → State) : Act α := fun s =>
  match act s with
  | .done a t => .done a (f t)
  | .left way t => .left way (f t)

/-- Changes the world. -/
def changeWorld (f : World → World) : Act Unit := change fun s => { s with world := f s.world }

end Act

/-- Sets the status. -/
def setStatus (n : Nat) : Act Unit := .change fun s => { s with status := n }

/-! ## Time -/

/-- How long a command of the shell takes, in nanoseconds. -/
def stepCost : Nat := 1000

/-- How long it takes until a new process or program runs, in nanoseconds. -/
def processCost : Nat := 100000

/-- The pipes that the descriptors of a process lead to. -/
def State.openPipes (s : State) : List Nat :=
  s.descriptors.filterMap fun (_, n) =>
    match (s.world.streams[n]?).map Stream.channel with
    | some (.pipe k) => some k
    | _ => none

/-- Notes that a process keeps its pipes open until the present time. -/
def State.holding (s : State) : State :=
  let ends := s.world.clock
  let rest := s.world.holds.filter fun h => h.maker ≠ s.number
  { s with
    world := { s.world with
      holds := (s.openPipes.map fun pipe => ⟨s.number, pipe, ends⟩) ++ rest } }

/-- Until when a pipe is kept open. -/
def World.heldUntil (w : World) (pipe : Nat) : Nat :=
  w.holds.foldl (fun t h => if h.pipe = pipe then max t h.ends else t) 0

/-- What a process does on a signal that has no action of its own. -/
def isDeadly (signal : Nat) : Bool :=
  signal ≠ 0 && signal ≠ 17 && signal ≠ 18 && signal ≠ 23 && signal ≠ 28

/-- The signal that ends a process up to a time, if one does. -/
def State.fatal? (s : State) (time : Nat) : Option Notice :=
  s.world.notices.find? fun n =>
    n.reaches s.number && n.time ≤ time && isDeadly n.signal &&
      (n.signal = 9 || (s.traps.lookup n.signal) ≠ some [])

/-- The signal that ends a shell together with the programs that it runs, if one has come. -/
def State.doom? (s : State) : Option Notice :=
  s.world.notices.find? fun n =>
    n.isForAll && n.reaches s.number && n.time ≤ s.world.clock && isDeadly n.signal &&
      (n.signal = 9 || (s.traps.lookup n.signal).isNone)

/-- Lets time pass. A script whose time is over is stopped, and so is a program that a signal ends. -/
def pass (nanos : Nat) : Act Unit := fun s =>
  let time := s.world.clock + nanos
  let fatal := if s.isReplaced ∧ !s.world.notices.isEmpty then s.fatal? time else none
  match fatal with
  | some n =>
    .left (.killed n.signal) (s.withFiles (s.world.files.advance n.time)).holding
  | none =>
    let t := s.withFiles (s.world.files.advance time)
    if s.world.deadline ≤ time then .left (.stalls .late) t.holding
    else .done () (if s.isAside ∧ stepCost < nanos then t.holding else t)

/-- Lets time pass until a time. -/
def passUntil (time : Nat) : Act Unit := fun s => pass (time - s.world.clock) s

/-- Counts a command. -/
def countStep : Act Unit := fun s =>
  if s.world.steps = 0 then .left (.stalls .late) s
  else pass stepCost { s with world := { s.world with steps := s.world.steps - 1 } }

/-! ## New processes -/

/-- The state of a shell after another process has ended. -/
def State.after (outer inner : State) : State :=
  { outer with
    status := inner.status % 256
    world := { inner.world with files := { inner.world.files with maker := outer.number } } }

/-- The state in which a new process begins. -/
def State.begun (s : State) : State :=
  let number := s.world.processes + 1
  { s with
    number
    ancestors := s.number :: s.ancestors
    traps := s.traps.filter fun t => t.2.isEmpty && t.1 ≠ 0
    jobs := []
    isReplaced := false
    world := { s.world with
      processes := number
      files := { s.world.files with maker := number } } }

/-- Runs a step in a process of its own. The result is the signal that ended it, if one did. The script
    as a whole does not go on if the process could not. -/
def inProcess (act : Act Unit) : Act (Option Nat) := fun s =>
  match act s.begun with
  | .done _ t => .done none (s.after t)
  | .left (.killed signal) t => .done (some signal) (s.after { t with status := 128 + signal })
  | .left (.stalls cut) t => .left (.stalls cut) (s.after t)
  | .left _ t => .done none (s.after t)

end Foreman.Shell
