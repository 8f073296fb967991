import Foreman.Text.Digits
import Foreman.Text.Octets

/-!
# `Foreman.Shell.Signal` — signals by name and number

## Contents
- `signalNames`, `signalName`, `signalNumber?`.
- `signalText`: what is said of a process that a signal ended.
-/

namespace Foreman.Shell

/-- The names of the first signals in the order of their numbers, which start at zero. -/
def signalNames : List String :=
  ["EXIT", "HUP", "INT", "QUIT", "ILL", "TRAP", "ABRT", "BUS", "FPE", "KILL", "USR1", "SEGV", "USR2",
    "PIPE", "ALRM", "TERM", "16", "CHLD", "CONT", "STOP", "TSTP", "TTIN", "TTOU", "URG", "XCPU", "XFSZ",
    "VTALRM", "PROF", "WINCH", "IO", "PWR", "SYS", "32", "33", "RTMIN"]

/-- The number of the last signal. -/
def lastSignal : Nat := 64

/-- The name of a signal. -/
def signalName (n : Nat) : String :=
  if n < signalNames.length then signalNames[n]?.getD ""
  else if n < 50 then "RTMIN+" ++ toString (n - 34)
  else if n < 64 then "RTMAX-" ++ toString (64 - n)
  else "RTMAX"

/-- The number of a signal from its number or name. -/
def signalNumber? (cs : Octets) : Option Nat :=
  if !cs.isEmpty ∧ cs.all Char.isDigit then
    let n := digitsValue cs
    if n ≤ lastSignal then some n else none
  else
    let name := String.ofList (cs.map Char.toUpper)
    (List.range (lastSignal + 1)).find? fun n => signalName n = name

/-- A name of a signal without the letters that may stand in front of it. -/
def plainSignal (text : Octets) : Octets :=
  if (text.take 3).map Char.toUpper = "SIG".toList then text.drop 3 else text

/-- What is said of a process that a signal ended. -/
def signalText (signal : Nat) : String :=
  match signal with
  | 1 => "Hangup"
  | 2 => "Interrupt"
  | 3 => "Quit"
  | 4 => "Illegal instruction"
  | 5 => "Trace/breakpoint trap"
  | 6 => "Aborted"
  | 7 => "Bus error"
  | 8 => "Floating point exception"
  | 9 => "Killed"
  | 10 => "User defined signal 1"
  | 11 => "Segmentation fault"
  | 12 => "User defined signal 2"
  | 13 => "Broken pipe"
  | 14 => "Alarm clock"
  | 15 => "Terminated"
  | 16 => "Stack fault"
  | 24 => "CPU time limit exceeded"
  | 25 => "File size limit exceeded"
  | 26 => "Virtual timer expired"
  | 27 => "Profiling timer expired"
  | 29 => "I/O possible"
  | 30 => "Power failure"
  | 31 => "Bad system call"
  | n => if 34 ≤ n then "Real-time signal " ++ toString (n - 34) else "Unknown signal " ++ toString n

end Foreman.Shell
