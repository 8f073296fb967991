import Foreman.Shell.Signal
import Foreman.Shell.Streams

/-!
# `Foreman.Shell.Process` — processes whose output or input is a pipe

## Contents
- `capture`: what a step writes to its output.
- `intoPipe`, `fromPipe`: a step at one end of a pipe; `inPipe`: a step at each end.
-/

namespace Foreman.Shell

/-- Reports the signal that ended a process, if one did. -/
def reportSignal (signal : Option Nat) : Act Unit := do
  match signal, ← Act.read State.doom? with
  | some _, some n => .leave (.killed n.signal)
  | some n, none => if n = 2 ∨ n = 13 then pure () else write 2 (signalText n ++ "\n").toList
  | none, _ => pure ()

/-- Goes on after a process was ended by a signal, if it was: that is reported, or ends the present
    process, too, if this one was replaced by the other. -/
def endBy (isOwn : Bool) (signal : Option Nat) : Act Unit :=
  match isOwn, signal with
  | false, some n => .leave (.killed n)
  | _, signal => reportSignal signal

/-- Runs a step in a process of its own, and takes what it writes to its output. -/
def capture (act : Act Unit) : Act Octets := do
  let (pipe, stream) ← newPipe none
  let written ← Act.read fun s => s.world.written
  .changeWorld fun w => { w with written := [] }
  let inner : Act (Option Nat) := inProcess do
    pass processCost
    pointTo 1 (some stream)
    act
  let signal ← inner.andAlways fun s => { s with world := { s.world with
    written := s.world.written ++ written } }
  let own (p : Part) : Bool := p.pipe = pipe
  let text ← Act.read fun s => (textsOf pipe s.world.written).flatMap Prod.snd
  .changeWorld fun w =>
    { w with written := if w.written.any own then w.written.filter (!own ·) else w.written }
  passUntil (← Act.read fun s => s.world.heldUntil pipe)
  reportSignal signal
  return text.filter (· ≠ '\x00')

/-- Runs a step in a process of its own with its output going to a pipe; what comes out, and the state
    after it. -/
def intoPipe (brokenAt : Option Nat) (act : Act Unit) (s : State) : Source × State :=
  let whole : Act (Nat × Way) := fun s =>
    match newPipe brokenAt s with
    | .done (pipe, stream) s =>
      let inner : Act Unit := do
        pass processCost
        pointTo 1 (some stream)
        act
      match inner s.begun with
      | .done _ t => .done (pipe, .exits) (s.after t)
      | .left (.killed signal) t =>
        match reportSignal (some signal) (s.after t) with
        | .done _ t | .left _ t => .done (pipe, .exits) t
      | .left way t => .done (pipe, way) (s.after t)
    | .left way s => .left way s
  match whole s with
  | .done (pipe, way) t =>
    let parts := textsOf pipe t.world.written
    let written := t.world.written.filter fun p => p.pipe ≠ pipe
    let ends := max t.world.clock (t.world.heldUntil pipe)
    let cut := match way with
      | .stalls cut => some cut
      | _ => none
    ({ parts, cut, ends }, { t with world := { t.world with written } })
  | .left _ t => ({ parts := [], ends := t.world.clock }, t)

/-- The state with the clock set. -/
def State.at (s : State) (time : Nat) : State :=
  s.withFiles { s.world.files with clock := time }

/-- Runs a step with its input coming from a source, in a process of its own that begins at a time. -/
def fromPipe (source : Source) (began : Nat) (act : Act Unit) : Act Unit := fun s =>
  let inner : Act Unit := do
    let stream ← newSource source
    let signal ← inProcess do
      pass processCost
      pointTo 0 (some stream)
      act
    reportSignal signal
  inner (s.at began)

/-- Runs two steps with a pipe between them. The first one is run as far as it can be without the second
    one; if it does not end, or writes later than the second one ends, it is run again knowing that. -/
def inPipe (first second : Act Unit) : Act Unit := fun s =>
  let began := s.world.clock
  let descriptors (t : State) : State := { t with descriptors := s.descriptors }
  let finish (source : Source) (t : State) : Outcome Unit :=
    .done () (descriptors (t.at (max t.world.clock (min source.ends s.world.deadline))))
  let (source, t) := intoPipe none first s
  match fromPipe source began second t with
  | .left way u => .left way (descriptors u)
  | .done _ u =>
    let isLate := source.parts.any fun p => u.world.clock + mergingTime < p.1
    if source.cut.isNone ∧ !isLate then finish source u
    else
      let (source, t) := intoPipe (some (u.world.clock + mergingTime)) first s
      match source.cut with
      | some cut => .left (.stalls cut) (descriptors t)
      | none =>
        match fromPipe source began second t with
        | .left way u => .left way (descriptors u)
        | .done _ u => finish source u

end Foreman.Shell
