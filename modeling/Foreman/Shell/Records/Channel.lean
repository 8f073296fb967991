import Foreman.Shell.Launcher
import Foreman.Shell.Process
import Foreman.Shell.Records.Machine

/-!
# `Foreman.Shell.Records.Channel` — files and commands that a program reads and writes

Input is read in blocks, so that a process that reads on from the same descriptor does not find them. A
command that gives lines runs as soon as one is wanted; one that takes output is run when it is closed,
as of the time at which it was opened.

## Contents
- **Reading**: `Feed.line?`; `openFile`, `openCommand`.
- **Records**: `nextRecord`, `lineFrom`.
- **Writing**: `emit`, `sinkFor`.
- **Closing**: `closeChannel`, `closeAll`.
-/

namespace Foreman.Shell.Records

/-! ## Reading -/

/-- How much input is read at once. -/
def inputSize : Nat := 262144

/-- Reads a block, waiting until all of it has come or the input is over. -/
def Feed.refill (f : Feed) : Act Feed := do
  match ← Act.read fun s => s.supplyOf f.descriptor with
  | none => return { f with isOver := true }
  | some supply =>
    let text := supply.data.take inputSize
    let isOver := decide (text.length < inputSize)
    match isOver, supply.cut with
    | true, some cut => .leave (.stalls cut)
    | _, _ =>
      consume f.descriptor text.length false isOver
      return { f with rest := f.rest ++ text, isOver }

/-- Reads a record, reading blocks as long as it takes. -/
def Feed.line? (border : Border) : Nat → Feed → Act (Option Octets × Feed)
  | 0, f => return (none, f)
  | fuel + 1, f => do
    match border.cut? f.isOver f.rest with
    | some (record, rest) => return (some record, { f with rest })
    | none =>
      if f.isOver then return (none, { f with rest := [] })
      else line? border fuel (← f.refill)

/-- Reads a record. -/
def Feed.record? (f : Feed) : Run (Option Octets × Feed) := do
  let border := (← get).border
  match ← doing (Act.read fun s => (s.supplyOf f.descriptor).isSome) with
  | true =>
    let room ← doing (Act.read fun s => s.world.room)
    doing (f.line? border (room + 3))
  | false => stopWith "read error (Bad file descriptor)".toList

/-- Gives a stream a descriptor. -/
def attach (stream : Nat) : Run Nat := do
  let n := (← get).nextDescriptor
  modify fun m => { m with nextDescriptor := n + 1 }
  doing (pointTo n (some stream))
  return n

/-- Opens a file to read from, if it can be opened. -/
def openFile (name : Octets) : Run (Except Octets Feed) := do
  if name = ['-'] then return .ok { descriptor := 0 }
  else
    let s ← doing (Act.read id)
    let fault : Option PathFault :=
      if (descriptorAt? name).isSome then none
      else
        match s.world.files.find s.folder name with
        | .error fault => some fault
        | .ok ⟨_, none⟩ => some .missing
        | .ok _ => none
    match fault, ← doing (openPath .read name) with
    | some fault, _ => return .error fault.text.toList
    | none, .error text => return .error text
    | none, .ok stream =>
      if (s.world.files.look? s.folder name).any Entry.isFolder then
        stopWith "read error (Is a directory)".toList
      else return .ok { descriptor := ← attach stream }

/-- The words that run a command. -/
def commandWords (command : Octets) : List Octets :=
  ["/bin/sh".toList, "-c".toList, command, "/bin/sh".toList]

/-- Runs a command whose output is read. -/
def openCommand (launch : Launch) (command : Octets) : Run Feed := do
  let _ ← flushAll
  let (stream, status, ends) ← doing fun s =>
    let began := s.world.clock
    let act : Act Unit := do
      let _ ← launch (commandWords command)
    let (source, t) := intoPipe none act s
    match newSource source ({ t with descriptors := s.descriptors }.at began) with
    | .done stream t => .done (stream, t.status, source.ends) t
    | .left way t => .left way t
  return { descriptor := ← attach stream, status, ends }

/-! ## Records -/

/-- The variable of a name. -/
def Machine.sharedOf? (m : Machine) (name : String) : Option VariableId :=
  (m.program.shared.idxOf? name).map VariableId.shared

/-- An argument that assigns to a variable: the name and the value. -/
def assignmentIn? (arg : Octets) : Option (String × Octets) :=
  let name := arg.takeWhile fun c => c.isAlphanum || c = '_'
  match arg.drop name.length with
  | '=' :: value => if name.isEmpty ∨ (name.headD 'x').isDigit then none else some (String.ofList name, value)
  | _ => none

/-- Assigns a text from outside to a variable, with its escapes replaced. -/
def assignOutside (name : String) (value : Octets) : Run Unit := do
  let c := Cell.input (replaceEscapes (value.length + 1) value)
  if name = "NF" then assignFieldCount c
  else
    match (← get).sharedOf? name with
    | some v => assignVariable v c
    | none => pure ()

/-- Begins to read a file. -/
def beginFile (name : Octets) (feed : Feed) : Run Unit := do
  assignVariable .fileName (.input name)
  countVariable .fileRecordNumber 0
  modify fun m => { m with input := some feed, hasFile := true }

/-- Goes on to the next file among the arguments; with none left, all input has been read. -/
def nextFile : Nat → Run Unit
  | 0 => modify fun m => { m with isInputOver := true }
  | fuel + 1 => do
    let n := (← get).nextArgument
    let count := (← readVariable .argumentCount).toNumber.wholePart
    if count ≤ n then
      if (← get).hasFile then modify fun m => { m with isInputOver := true }
      else beginFile ['-'] { descriptor := 0 }
    else
      modify fun m => { m with nextArgument := n + 1 }
      let arguments ← tableOf .arguments
      let arg ← textOf ((← readTable arguments).value (.number n))
      if arg.isEmpty then nextFile fuel
      else
        match assignmentIn? arg with
        | some (name, value) =>
          assignOutside name value
          nextFile fuel
        | none =>
          match ← openFile arg with
          | .ok feed => beginFile arg feed
          | .error text =>
            stopWith ("cannot open \"".toList ++ arg ++ "\" (".toList ++ text ++ [')'])

/-- Ends the present file. -/
def leaveFile : Run Unit := do
  match (← get).input with
  | some feed =>
    if 50 ≤ feed.descriptor then doing (pointTo feed.descriptor none)
    modify fun m => { m with input := none }
  | none => pure ()

/-- The next record of the input, which is counted. -/
def nextRecord : Nat → Run (Option Octets)
  | 0 => return none
  | fuel + 1 => do
    if (← get).isInputOver then return none
    else
      match (← get).input with
      | none =>
        nextFile 100000
        nextRecord fuel
      | some feed =>
        modify fun m => { m with input := none }
        let (record, feed) ← feed.record?
        modify fun m => { m with input := some feed }
        match record with
        | some t =>
          let count (v : VariableId) : Run Unit := do
            assignVariable v (.number ((← readVariable v).toNumber.add (.ofNat 1)))
          count .recordNumber
          count .fileRecordNumber
          return some t
        | none =>
          leaveFile
          nextRecord fuel

/-- The next line of a file or of a command; none if the file cannot be opened. -/
def lineFrom (launch : Launch) (isCommand : Bool) (name : Octets) : Run (Option (Option Octets)) := do
  let key := (isCommand, name)
  let known := ((← get).feeds.find? fun f => (f.1, f.2.1) = key).map fun f => f.2.2
  let feed ← match known with
    | some feed => pure (some feed)
    | none =>
      if isCommand then some <$> openCommand launch name
      else
        match ← openFile name with
        | .ok feed => pure (some feed)
        | .error _ => pure none
  match feed with
  | none => return none
  | some feed =>
    let (record, feed) ← feed.record?
    modify fun m =>
      { m with feeds := (isCommand, name, feed) :: m.feeds.filter fun f => (f.1, f.2.1) ≠ key }
    return some record

/-! ## Writing -/

/-- Adds a text to what is to be written. -/
def Sink.add (s : Sink) (text : Octets) : Sink :=
  if text.isEmpty then s
  else { s with waiting := text :: s.waiting, size := s.size + text.length }

/-- Whether a name stands for the output of the program. -/
def isOutputName (name : Octets) : Bool := name = ['-'] || name = "/dev/stdout".toList

/-- Opens what output goes to, unless it is open. -/
def sinkFor (d : Direction) (name : Octets) : Run Unit := do
  let isCommand := d = .command
  if !(← get).sinks.any fun s => s.1 = name && s.2.isCommand = isCommand then
    let began ← doing (Act.read fun s => s.world.clock)
    let sink : Sink ←
      if isCommand then do
        let _ ← flushAll
        pure { descriptor := 0, isCommand, began }
      else do
        let s ← doing (Act.read id)
        let fault : Option Octets :=
          if (descriptorAt? name).isSome then none
          else
            match s.world.files.find s.folder name with
            | .error fault => some fault.text.toList
            | .ok place => if place.isFolder then some "Is a directory".toList else none
        let refuse (text : Octets) : Run Sink :=
          stopWith ("cannot open \"".toList ++ name ++ "\" for output (".toList ++ text ++ [')'])
        match fault with
        | some text => refuse text
        | none =>
          match ← doing (openPath (if d = .newFile then .clobber else .append) name) with
          | .error text => refuse text
          | .ok stream => pure { descriptor := ← attach stream, began }
    modify fun m => { m with sinks := (name, sink) :: m.sinks }

/-- Writes a text to the output. -/
def emitOut (text : Octets) : Run Unit := do
  modify fun m => { m with output := m.output.add text }
  if outputSize ≤ (← get).output.size then
    let (fault, output) ← doing ((← get).output.flush false)
    modify fun m => { m with output }
    match fault with
    | some fault => outputFault fault
    | none => pure ()

/-- Writes a text. -/
def emit (target : Option (Direction × Octets)) (text : Octets) : Run Unit := do
  match target with
  | none => emitOut text
  | some (d, name) =>
    if d ≠ .command ∧ isOutputName name then emitOut text
    else
      sinkFor d name
      let isCommand := d = .command
      let sinks ← (← get).sinks.mapM fun (other, s) => do
        if other = name ∧ s.isCommand = isCommand then
          let s := s.add text
          let isUrgent := name = "/dev/stderr".toList
          if isUrgent ∨ outputSize ≤ s.size then
            let (fault, s) ← doing (s.flush isUrgent)
            match fault with
            | some fault => outputFault fault
            | none => return (other, s)
          else return (other, s)
        else return (other, s)
      modify fun m => { m with sinks }

/-! ## Closing -/

/-- Runs a command that output went to. The result is its status. -/
def runSink (launch : Launch) (name : Octets) (s : Sink) : Act Nat := fun state =>
  let now := state.world.clock
  let text := s.waiting.reverse.flatten
  let source : Source := { parts := if text.isEmpty then [] else [(now, text)], ends := now }
  let act : Act Unit := do
    let _ ← launch (commandWords name)
  match fromPipe source (min s.began now) act state with
  | .done _ t => .done t.status ({ t with descriptors := state.descriptors }.at (max now t.world.clock))
  | .left way t => .left way { t with descriptors := state.descriptors }

/-- Closes what output goes to. -/
def closeSink (launch : Launch) (name : Octets) (s : Sink) : Act Nat := do
  if s.isCommand then runSink launch name s
  else
    let (_, s) ← s.flush true
    pointTo s.descriptor none
    return 0

/-- Closes what lines come from. -/
def closeFeed (isCommand : Bool) (f : Feed) : Act Nat := do
  if f.descriptor ≠ 0 then pointTo f.descriptor none
  if isCommand then passUntil f.ends
  return f.status

/-- Closes all that have a name. The result is a status, or less than zero if there are none. -/
def closeChannel (launch : Launch) (name : Octets) : Run Int := do
  let m ← get
  let feeds := m.feeds.filter fun f => f.2.1 = name
  let sinks := m.sinks.filter fun s => s.1 = name
  modify fun m =>
    { m with
      feeds := m.feeds.filter fun f => f.2.1 ≠ name
      sinks := m.sinks.filter fun s => s.1 ≠ name }
  let a ← sinks.mapM fun (name, s) => doing (closeSink launch name s)
  let b ← feeds.mapM fun (isCommand, _, f) => doing (closeFeed isCommand f)
  return ((a ++ b).getLast?.map Int.ofNat).getD (-1)

/-- Writes what has been gathered under a name, or everything. -/
def flushChannel (name : Octets) : Run Int := do
  if name.isEmpty ∨ isOutputName name then
    let _ ← flushAll
    return 0
  else if (← get).sinks.any fun s => s.1 = name then
    let _ ← flushAll
    return 0
  else return -1

/-- Closes everything at the end of a program: commands are run before the output is written. -/
def closeAll (launch : Launch) : Run Unit := do
  let sinks := (← get).sinks
  modify fun m => { m with sinks := [] }
  let (commands, files) := sinks.partition fun s => s.2.isCommand
  (files ++ commands).forM fun (name, s) => do
    let _ ← doing (closeSink launch name s)
  let feeds := (← get).feeds
  feeds.forM fun (isCommand, _, f) => do
    let _ ← doing (closeFeed isCommand f)
  match ← flushAll with
  | some fault =>
    let name := (← get).name
    doing (write 2 (name ++ ": close failed on file \"/dev/stdout\" (" ++ fault.text ++ ")\n").toList)
    modify fun m => { m with status := 2 }
  | none => pure ()

end Foreman.Shell.Records
