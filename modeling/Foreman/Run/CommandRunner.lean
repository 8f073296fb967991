import Foreman.Run.Runner
import Foreman.Text.Blank
import Foreman.Text.Octets

/-!
# `Foreman.Run.CommandRunner` — tasks that are commands

The payload of such a task has the command in its field `cmd`, and may have a time limit in seconds in
its field `timeout_secs`. A command that ends with status zero succeeds, and what it wrote is the
output of the task.

What a command does when it runs is not said here: a runner of commands is given what becomes of their
processes.

## Contents
- **`Order`**: what a payload asks for.
- `environment`: what a command can know about its task.
- **`ProcessEnd`** and **`Processes`**: what becomes of commands.
- `CommandExit.concluded`: what the end of a command makes of the attempt.
- **`commandRunner`**.
-/

namespace Foreman

/-! ## Orders -/

/-- What a payload asks for. -/
structure Order where
  command : String
  limitSecs : Option Nat

/-- The order in the payload of a task. -/
def Order.ofPayload (task : TaskId) (payload : Value) : Except TaskError Order :=
  match (payload.field? "cmd").bind Value.asText? with
  | some command => .ok ⟨command, (payload.field? "timeout_secs").bind Value.asNat?⟩
  | none => .error (.invalidInput ("task '" ++ task ++ "' has no `cmd` string in its payload"))

/-- The time limit of a command in seconds. -/
def Order.limit (o : Order) : Nat := o.limitSecs.getD (2 ^ 64)

/-- The name of a session as a command sees it: one that the memory service made up is as long as names
    that it makes up are. -/
def sessionName : Handle → String
  | .issued n => "session-00000000-0000-4000-8000-" ++ hexText 12 n
  | .foreign text => text

/-- What a command can know about its task. -/
def environment (c : Call) : List (String × String) :=
  [("AGENTDAG_WORKFLOW_ID", c.workflow), ("AGENTDAG_TASK_ID", c.task),
    ("AGENTDAG_AGENT_ID", c.agent), ("AGENTDAG_SESSION_ID", sessionName c.session),
    ("AGENTDAG_ATTEMPT", toString c.attempt)]

/-- Whether a command can be handed to a process. -/
def Order.isPossible (o : Order) (c : Call) : Bool :=
  !(o.command :: (environment c).map Prod.snd).any fun s => s.toList.contains '\x00'

/-! ## Processes -/

/-- How the process of a command ended. -/
structure CommandExit where
  /-- The status, unless a signal ended it. -/
  status : Option Nat
  out : Octets
  err : Octets

/-- What becomes of the process of a command. -/
inductive ProcessEnd where
  /-- It is not started. -/
  | unspawned (reason : String)
  /-- It is started, but its end is not told. -/
  | unawaited (reason : String)
  /-- It does not end in time. -/
  | late
  | exited (exit : CommandExit)

/-- What becomes of the process of each attempt, and how long that takes, given all attempts made before,
    the latest first. -/
abbrev Processes := List Call → Call → Order → ProcessEnd × Duration

/-! ## Endings -/

/-- How many lines of complaints a report of a failure repeats. -/
def complaintLines : Nat := 5

/-- The report of a command that failed with a status: the status and its last complaints. -/
def failureText (status : Int) (complaints : List String) : String :=
  let last := complaints.drop (complaints.length - complaintLines)
  "command exited with status " ++ toString status ++
    (if last.isEmpty then "" else ": ") ++ " | ".intercalate last

/-- What the end of a command makes of the attempt. A command that a signal ended has the status `-1`. -/
def CommandExit.concluded (exit : CommandExit) : Ending :=
  match exit.status with
  | some 0 =>
    .succeed
      { value := some (.ofFields
          [("exit_code", .int 0), ("stdout", .text (trimBlanksEnd (lossyText exit.out)))])
        affectedEntities := [] }
  | status =>
    let number : Int := match status with
      | some n => n
      | none => -1
    .fail (.agentFailure (failureText number (linesOf (lossyText exit.err))))

/-- The error of a task whose command cannot be started. -/
def spawnError (task : TaskId) (reason : String) : TaskError :=
  .system ("spawning process for task '" ++ task ++ "': " ++ reason)

/-- What becomes of an attempt with its process. -/
def ProcessEnd.ending (task : TaskId) (o : Order) : ProcessEnd → Ending
  | unspawned reason => .fail (spawnError task reason)
  | unawaited reason =>
    .fail (.system ("waiting for process of task '" ++ task ++ "': " ++ reason))
  | late => .fail (.timeout ("command did not finish within " ++ toString o.limit ++ "s"))
  | exited exit => exit.concluded

/-! ## Commands that run -/

/-- Runs the order of an attempt. -/
def Order.run (processes : Processes) (before : List Call) (c : Call) (o : Order) : Behaviour :=
  if o.isPossible c then
    let (processEnd, length) := processes before c o
    { course := [.pause length], ending := processEnd.ending c.task o }
  else
    { course := [], ending := .fail (spawnError c.task "nul byte found in provided data") }

/-- The runner of tasks that are commands. -/
def commandRunner (processes : Processes) : Runner := fun before c =>
  match Order.ofPayload c.task c.payload with
  | .ok order => order.run processes before c
  | .error e => { course := [], ending := .fail e }

end Foreman
