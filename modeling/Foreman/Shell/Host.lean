import Foreman.Launch
import Foreman.Shell

/-!
# `Foreman.Shell.Host` — commands that run in a shell

The commands of an execution run in a shell, among files that they change. A command sees the changes
that the attempts before it have made. Commands that run at the same time see each other's changes, too:
those that a later attempt makes meanwhile have to be foreseen, and are found by executing the plan again.

This is one way to run commands. What is shown of tasks that are commands is shown for any processes.

## Contents
- `history`: attempts with the changes that they make to files.
- **`processes`**, with changes that are foreseen, and `foreseenIn`: the changes that an execution of a
  plan makes meanwhile.
- `contentsAt`: what a path leads to.
- **`host`**.
-/

namespace Foreman.Shell

/-! ## Commands -/

/-- How many steps a command may take before it counts as endless. -/
def stepLimit : Nat := 3000000

/-- When an attempt begins, in nanoseconds. -/
def beginning (c : Call) : Nat := c.startedAt * 1000000

/-- How the command of an attempt ends that finds some files and the changes that others make to them. -/
def exitAmong (files : Files) (changes : List Edit) (c : Call) (o : Order) : Exit :=
  let foreign := changes.map fun e => { e with maker := 0 }
  let known := (environment c).map fun (name, value) => (name, octetsOf value)
  run stepLimit (o.limit * nanosPerSec) ((files.expect foreign).advance (beginning c)) known
    (octetsOf o.command)

/-- How the command of an attempt ends, if it has one that can run. -/
def exitOf? (files : Files) (changes : List Edit) (c : Call) : Option Exit :=
  match Order.ofPayload c.task c.payload with
  | .ok order => if order.isPossible c then some (exitAmong files changes c order) else none
  | .error _ => none

/-- Attempts with the ways in which their commands end, given changes that each of them foresees. The
    latest attempt comes first. -/
def history (files : Files) (foreseen : Call → List Edit) : List Call → List (Call × Exit)
  | [] => []
  | c :: before =>
    let past := history files foreseen before
    let changes := past.reverse.flatMap fun (_, exit) => exit.edits
    match exitOf? files (changes ++ foreseen c) c with
    | some exit => (c, exit) :: past
    | none => past

/-- What becomes of commands among some files. A command sees the changes that the attempts before it
    make, and those that it is said to foresee. -/
def processes (files : Files) (foreseen : Call → List Edit) : Processes := fun before c o =>
  let changes := (history files foreseen before).reverse.flatMap fun (_, exit) => exit.edits
  let exit := exitAmong files (changes ++ foreseen c) c o
  (if exit.isLate then .late else .exited ⟨exit.status, exit.out, exit.err⟩,
    .clamp (exit.ended - beginning c))

/-! ## Commands at the same time -/

/-- Whether two attempts are the same one. -/
def isSame (a b : Call) : Bool := a.task = b.task && a.attempt = b.attempt

/-- The changes that an attempt foresees after an execution: those of the attempts that come after it,
    but are made after it began. The latest attempt comes first. -/
def foresight (past : List (Call × Exit)) (c : Call) : List Edit :=
  let later := past.takeWhile fun e => !isSame e.1 c
  if later.length = past.length then []
  else (later.reverse.flatMap fun e => e.2.edits).filter fun e => beginning c < e.time

/-- Whether an attempt runs while a later one changes files. -/
def overlaps (past : List (Call × Exit)) : Bool :=
  past.any fun (c, exit) => (foresight past c).any fun e => e.time < exit.ended

/-- How often an execution is repeated so that commands see the changes of others that run at the same
    time. -/
def repetitions : Nat := 3

/-- The changes that the commands of an execution have to foresee. As long as there are changes that an
    earlier command could have seen, the execution is repeated with these foreseen. -/
def foreseenIn (files : Files) (execute : Processes → Option Execution) :
    Nat → (Call → List Edit) → Call → List Edit
  | 0, foreseen => foreseen
  | rounds + 1, foreseen =>
    match execute (processes files foreseen) with
    | none => foreseen
    | some x =>
      let past := history files foreseen x.world.calls
      if overlaps past then foreseenIn files execute rounds (foresight past) else foreseen

/-! ## Files -/

/-- What a path leads to among some files. -/
def contentsAt (files : Files) (path : String) : Contents :=
  if path.contains '\x00' then .error .nullInPath
  else match files.read 0 Catalog.startFolder (octetsOf path) with
  | .ok (data, _) => .ok ⟨(data.map fun c => c.toNat.toUInt8).toArray⟩
  | .error .notFolder => .error .blocked
  | .error .isFolder => .error .directory
  | .error .tooLong => .error .tooLong
  | .error .loops => .error .loops
  | .error _ => .error .missing

/-- The surroundings of a program whose commands run in a shell, among some files. -/
def host (files : Files) (contents : Contents) (seconds : RunResult → String) : Host :=
  { contents
    processes := fun execute => processes files (foreseenIn files execute repetitions fun _ => [])
    seconds }

end Foreman.Shell
