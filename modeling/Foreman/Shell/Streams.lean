import Foreman.Shell.State

/-!
# `Foreman.Shell.Streams` — reading and writing through descriptors

## Contents
- **Writing**: `writeTo`, with **`WriteFault`**; `write` for a shell's own messages; `complain`, `abort`.
- **Reading**: **`Supply`**, `supplyOf`, `consume`.
- **Opening**: `openPath`, `pointTo`, `streamFor`.
- **Pipes**: `newPipe`, `sourceOf`, `textsOf`.
-/

namespace Foreman.Shell

/-! ## Writing -/

/-- Why data could not be written. -/
inductive WriteFault where
  | closed
  | full
  /-- Nobody reads the pipe any more. -/
  | broken
  deriving DecidableEq

/-- How a fault is reported. -/
def WriteFault.text : WriteFault → String
  | closed => "Bad file descriptor"
  | full => "No space left on device"
  | broken => "Broken pipe"

/-- Adds a text to a pipe. -/
def World.append (w : World) (pipe : Nat) (text : Octets) : World :=
  let isKept := (w.pipes[pipe]?.bind Pipe.kept?).isSome
  { w with
    written := if isKept then w.written else ⟨w.clock, w.files.maker, pipe, text⟩ :: w.written
    pipes := w.pipes.modify pipe fun p =>
      { p with size := p.size + text.length, kept? := p.kept?.map ((w.clock, text) :: ·) } }

/-- Writes to a pipe. -/
def writeToPipe (n : Nat) (text : Octets) : Act (Option WriteFault) := fun s =>
  let pipe := s.world.pipes[n]?.getD {}
  if pipe.brokenAt.any (· < s.world.clock) then .done (some .broken) s
  else
    let rest := s.world.room - pipe.size
    let part := text.take rest
    let t := { s with world := s.world.append n part }
    if part.length = text.length then .done none t
    else if pipe.brokenAt.isSome then .done (some .broken) t
    else .left (.stalls .full) t

/-- The data of a file with a text in the place of what is at a position. -/
def overwritten (data : Octets) (position : Nat) (text : Octets) : Octets :=
  let front := data.take position
  front ++ List.replicate (position - front.length) '\x00' ++ text ++
    data.drop (position + text.length)

/-- Writes to a file at the position of a stream, or at its end. -/
def writeToFile (id : Nat) (stream : Stream) (path : String) (text : Octets) :
    Act (Option WriteFault) := fun s =>
  match s.world.files.entry? path with
  | none => .done none s
  | some e =>
    let data := e.data
    let position := if stream.appends then data.length else stream.position
    if s.world.room < position + text.length then .left (.stalls .full) s
    else
      let files := s.world.files.write path e.mode (overwritten data position text)
      let streams := s.world.streams.modify id fun x => { x with position := position + text.length }
      .done none { s with world := { s.world with files, streams } }

/-- Writes a text to a descriptor. -/
def writeTo (descriptor : Nat) (text : Octets) : Act (Option WriteFault) := do
  if text.isEmpty then return none
  let s ← Act.read id
  match s.descriptors.lookup descriptor with
  | none => return some .closed
  | some number =>
    match s.world.streams[number]? with
    | none => return some .closed
    | some stream =>
      if !stream.canWrite then return some .closed
      else
        match stream.channel with
        | .pipe n => writeToPipe n text
        | .source _ => return some .closed
        | .file path => writeToFile number stream path text
        | .nowhere => return none
        | .zeros takesAll => return if takesAll then none else some .full

/-- Whether a process pays no attention to a signal. -/
def State.ignores (s : State) (signal : Nat) : Bool := s.traps.lookup signal = some []

/-- Writes a text of the shell itself. Nothing reports that it could not be written, but a pipe that
    nobody reads ends the process. -/
def write (descriptor : Nat) (text : Octets) : Act Unit := do
  match ← writeTo descriptor text with
  | some .broken => if !(← Act.read fun s => s.ignores 13) then .leave (.killed 13)
  | _ => pure ()

/-- The beginning of a message. -/
def State.blame (s : State) : Octets :=
  s.name ++ (": " ++ toString s.line ++ ": ").toList ++
    if s.command.isEmpty then [] else s.command ++ ": ".toList

/-- Reports something, with the line of the present command. -/
def complain (text : Octets) : Act Unit := do
  write 2 ((← Act.read State.blame) ++ text ++ ['\n'])

/-- Reports something that the script survives. -/
def fail (status : Nat) (text : Octets) : Act Unit := do
  complain text
  setStatus status

/-- Reports something that ends the shell. -/
def abort {α : Type} (text : Octets) : Act α := do
  complain text
  setStatus 2
  .leave .exits

/-! ## Reading -/

/-- What a descriptor gives. -/
structure Supply where
  data : Octets
  /-- Why more would come than is known, if that is so. -/
  cut : Option Cut
  /-- Whether what was not needed can be given back. -/
  canSeek : Bool

/-- What is left of a file for a stream. -/
def Stream.left (x : Stream) (e : Entry) : Octets :=
  if x.version = e.version ∧ e.version ≠ 0 then x.ahead else e.data.drop x.position

/-- All data that are left. -/
def Source.data (source : Source) : Octets :=
  match source.parts with
  | [] => []
  | [(_, text)] => text
  | parts => parts.flatMap Prod.snd

/-- The parts that are left when a number of bytes was taken, and the time at which the last of them
    came. -/
def takenFrom : Nat → Nat → List (Nat × Octets) → List (Nat × Octets) × Nat
  | time, _, [] => ([], time)
  | time, n, (t, text) :: rest =>
    if n = 0 then ((t, text) :: rest, time)
    else
      let left := text.drop n
      if left.isEmpty then takenFrom t (n - text.length) rest else ((t, left) :: rest, t)

/-- What a pipe keeps that was not read, in parts with their times. -/
def World.keptParts (w : World) (pipe : Nat) : List (Nat × Octets) :=
  match w.pipes[pipe]? with
  | none => []
  | some p =>
    let parts := ((p.kept?.getD []).reverse).mergeSort fun a b => a.1 ≤ b.1
    (takenFrom 0 p.taken parts).1

/-- What a descriptor gives; none if it cannot be read. -/
def State.supplyOf (s : State) (descriptor : Nat) : Option Supply :=
  match s.stream? descriptor with
  | none => none
  | some x =>
    if !x.canRead then none
    else
      match x.channel with
      | .pipe n =>
        let isKept := (s.world.pipes[n]?.bind Pipe.kept?).isSome
        some ⟨(s.world.keptParts n).flatMap Prod.snd, if isKept then some .late else none, false⟩
      | .nowhere => some ⟨[], none, false⟩
      | .zeros _ => some ⟨List.replicate s.world.room '\x00', some .full, false⟩
      | .source n =>
        match s.world.sources[n]? with
        | some source => some ⟨source.data, source.cut, false⟩
        | none => some ⟨[], none, false⟩
      | .file path =>
        match s.world.files.entry? path with
        | some e => some ⟨x.left e, none, true⟩
        | none => some ⟨[], none, true⟩

/-- How much a program reads at once. -/
def blockSize : Nat := 8192

/-- The number of bytes that are read when at least some are wanted: a whole number of blocks, as far as
    they are there when the last of the wanted bytes comes. -/
def readAhead (n : Nat) (parts : List (Nat × Octets)) : Nat :=
  let time := (takenFrom 0 n parts).2
  let there := (parts.filter fun p => p.1 ≤ time).foldl (fun k p => k + p.2.length) 0
  max n (min there ((n + blockSize - 1) / blockSize * blockSize))

/-- Takes a number of bytes from a descriptor, or somewhat more than that if it takes whole blocks;
    perhaps also waits for the end of the data. -/
def consume (descriptor : Nat) (n : Nat) (inBlocks toEnd : Bool) : Act Unit := do
  let s ← Act.read id
  match s.descriptors.lookup descriptor with
  | none => pure ()
  | some number =>
    match s.world.streams[number]?.map Stream.channel with
    | some (.source k) =>
      let source := s.world.sources[k]?.getD ⟨[], none, 0⟩
      let n := if inBlocks then readAhead n source.parts else n
      let (parts, time) := takenFrom 0 n source.parts
      .changeWorld fun w => { w with sources := w.sources.modify k fun x => { x with parts } }
      passUntil (if toEnd then max time source.ends else time)
    | some (.pipe k) =>
      let (_, time) := takenFrom 0 n (s.world.keptParts k)
      .changeWorld fun w => { w with pipes := w.pipes.modify k fun p => { p with taken := p.taken + n } }
      passUntil time
    | some (.file path) =>
      let e := (s.world.files.entry? path).getD { node := .folder, mode := 0 }
      .changeWorld fun w =>
        { w with streams := w.streams.modify number fun x =>
            { x with
              position := x.position + n
              ahead := (x.left e).drop n
              version := e.version } }
    | _ => pure ()

/-! ## Opening -/

/-- Adds a stream, and gives its number. -/
def newStream (x : Stream) : Act Nat := fun s =>
  .done s.world.streams.size { s with world := { s.world with streams := s.world.streams.push x } }

/-- Sends a descriptor to a stream, or closes it. -/
def pointTo (descriptor : Nat) (stream : Option Nat) : Act Unit := .change fun s =>
  { s with
    descriptors := (stream.toList.map fun n => (descriptor, n)) ++
      s.descriptors.filter (·.1 ≠ descriptor) }

/-- The descriptor that a path stands for. -/
def descriptorAt? (path : Octets) : Option Nat :=
  match String.ofList path with
  | "/dev/stdin" => some 0
  | "/dev/stdout" => some 1
  | "/dev/stderr" => some 2
  | text =>
    let front := if text.startsWith "/dev/fd/" then 8 else if text.startsWith "/proc/self/fd/" then 14 else 0
    if front = 0 then none else (String.ofList (path.drop front)).toNat?

/-- Why a file could not be opened, as the shell tells it. -/
def openingFault (isNew : Bool) (fault : PathFault) : Octets :=
  match fault with
  | .missing | .notFolder => (if isNew then "Directory nonexistent" else "No such file").toList
  | fault => fault.text.toList

/-- The stream of a file that is opened, or why it is not. -/
def State.opened (s : State) (opening : Opening) (path : Octets) : Except Octets (Stream × State) :=
  let files := s.world.files
  let isNew := opening ≠ .read
  let canRead := opening = .read || opening = .readWrite
  let canWrite := opening ≠ .read
  let stream (channel : Channel) : Stream := { channel, canRead, canWrite, appends := opening = .append }
  match files.find s.folder path with
  | .error fault => .error (openingFault isNew fault)
  | .ok ⟨place, none⟩ =>
    if !isNew then .error (openingFault false .missing)
    else if path.getLast? = some '/' then .error (openingFault true .isFolder)
    else
      let mode := 0o666 - (0o666 &&& s.mask)
      .ok (stream (.file place), s.withFiles (files.put place (.file []) mode))
  | .ok ⟨place, some e⟩ =>
    match e.node with
    | .folder =>
      if isNew then .error (openingFault true .isFolder) else .ok (stream .nowhere, s)
    | .device =>
      if place = "/dev/tty" then .error "No such device or address".toList
      else if Catalog.endless.contains place then .ok (stream (.zeros (place ≠ "/dev/full")), s)
      else .ok (stream .nowhere, s)
    | _ =>
      if opening = .write ∧ s.has 'C' then .error (openingFault true .occupied)
      else if opening = .write ∨ opening = .clobber then
        .ok (stream (.file place), s.withFiles (files.write place e.mode []))
      else .ok (stream (.file place), s)

/-! ## Pipes -/

/-- Adds a pipe, and gives its number and the number of the stream that leads to it. -/
def newPipe (brokenAt : Option Nat) : Act (Nat × Nat) := do
  let pipe ← Act.read fun s => s.world.pipes.size
  .changeWorld fun w => { w with pipes := w.pipes.push { brokenAt } }
  return (pipe, ← newStream { channel := .pipe pipe, canRead := false, canWrite := true })

/-- How far apart in nanoseconds two parts may come that count as one. -/
def mergingTime : Nat := 1000000

/-- Joins parts that come at almost the same time. The time of a part is that of its end. -/
def merged : List (Nat × List Octets) → List (Nat × Octets) → List (Nat × Octets)
  | acc, [] => (acc.map fun (t, texts) => (t, texts.reverse.flatten)).reverse
  | (t, texts) :: acc, (u, text) :: rest =>
    if u < t + mergingTime then merged ((t, text :: texts) :: acc) rest
    else merged ((u, [text]) :: (t, texts) :: acc) rest
  | [], (u, text) :: rest => merged [(u, [text])] rest

/-- The texts that went to a pipe with their times, in order. -/
def textsOf (pipe : Nat) (written : List Part) : List (Nat × Octets) :=
  let own := (written.filter fun p => p.pipe = pipe).reverse
  merged [] ((own.mergeSort fun a b => a.time ≤ b.time).map fun p => (p.time, p.text))

/-- Adds data to be read, and gives the number of the stream that gives them. -/
def newSource (source : Source) : Act Nat := do
  let n ← Act.read fun s => s.world.sources.size
  .changeWorld fun w => { w with sources := w.sources.push source }
  newStream { channel := .source n, canRead := true, canWrite := false }

/-! ## Meetings -/

/-- The place at the end of a path where processes meet, if it is one. -/
def State.meetingPlace? (s : State) (path : Octets) : Option String :=
  match s.world.files.find s.folder path with
  | .ok ⟨place, some e⟩ => if e.node = .fifo then some place else none
  | _ => none

/-- Waits for another process that does not come, or until a signal does. -/
def awaitOther {α : Type} (place : String) : Act α := do
  .changeWorld fun w => { w with awaited? := some (place, w.clock) }
  let s ← Act.read id
  match s.fatal? s.world.deadline with
  | some n =>
    passUntil n.time
    .leave (.killed n.signal)
  | none =>
    passUntil s.world.deadline
    .leave (.stalls .late)

/-- Adds a pipe that keeps what is written, at a place. -/
def newMeeting (place : String) (isHeld : Bool) : Act Nat := do
  let s ← Act.read id
  let pipe := s.world.pipes.size
  .changeWorld fun w =>
    { w with
      pipes := w.pipes.push { kept? := some [] }
      meetings := { place, pipe, maker := s.number, isHeld } :: w.meetings }
  return pipe

/-- Whether a process need not wait for another one to read: it runs beside others, or one of them waits. -/
def State.mayMeet (s : State) (place : String) : Bool :=
  s.isAside || s.number ≠ s.shell || s.jobs.any fun job => job.awaits?.any (·.1 = place)

/-- The number of the stream that is opened at a place where processes meet. -/
def openMeeting (opening : Opening) (place : String) : Act Nat := do
  let s ← Act.read id
  let here := s.world.meetings.filter (·.place = place)
  let canRead := opening = .read || opening = .readWrite
  let canWrite := opening ≠ .read
  match here.find? (·.isHeld) with
  | some m => newStream { channel := .pipe m.pipe, canRead, canWrite }
  | none =>
    match opening with
    | .readWrite => newStream { channel := .pipe (← newMeeting place true), canRead, canWrite }
    | .read =>
      let due := here.filter (·.takenAt?.isNone)
      if due.isEmpty then awaitOther place
      else
        let parts := due.flatMap fun m => s.world.keptParts m.pipe
        let now := s.world.clock
        let ends := due.foldl (fun t m => max t (s.world.heldUntil m.pipe)) now
        .changeWorld fun w =>
          { w with meetings := w.meetings.map fun m =>
              if m.place = place ∧ m.takenAt?.isNone then { m with takenAt? := some now, taker := s.number }
              else m }
        newSource { parts := merged [] (parts.mergeSort fun a b => a.1 ≤ b.1), ends }
    | _ =>
      if s.mayMeet place then
        newStream { channel := .pipe (← newMeeting place false), canRead, canWrite }
      else awaitOther place

/-- The number of the stream of a path, or why there is none. -/
def openPath (opening : Opening) (path : Octets) : Act (Except Octets Nat) := do
  let s ← Act.read id
  match descriptorAt? path, s.meetingPlace? path with
  | some descriptor, _ =>
    match s.descriptors.lookup descriptor with
    | some number => return .ok number
    | none => return .error (openingFault (opening ≠ .read) .missing)
  | none, some place => return .ok (← openMeeting opening place)
  | none, none =>
    match s.opened opening path with
    | .error text => return .error text
    | .ok (stream, t) =>
      .change fun _ => t
      return .ok (← newStream stream)

end Foreman.Shell
