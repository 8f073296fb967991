import Foreman.Text.Digits
import Foreman.Time.Timestamp

/-!
# `Foreman.Toml.Moment` — dates and times in TOML documents

A document may hold a date, a time of day, both, or both with an offset from universal time. They are
kept as written, up to the spelling of their marks.

## Contents
- **`Moment`** with `Moment.parse?` and `Moment.text`.
-/

namespace Foreman.Toml

/-- A day of the calendar. -/
structure Day where
  year : Nat
  month : Nat
  day : Nat
  deriving DecidableEq

/-- A time of day. -/
structure Clock where
  hour : Nat
  minute : Nat
  /-- Up to 60, for leap seconds. -/
  second : Nat
  nanos : Nat
  deriving DecidableEq

/-- The distance from universal time. -/
inductive Offset where
  | universal
  | minutes (n : Int)
  deriving DecidableEq

/-- A date, a time, or both, the latter possibly with an offset. -/
inductive Moment where
  | day (d : Day)
  | clock (c : Clock)
  | both (d : Day) (c : Clock)
  | instant (d : Day) (c : Clock) (o : Offset)
  deriving DecidableEq

/-! ## Reading -/

/-- Reads a number of exactly the given digit count, between two bounds. -/
def readField (width least most : Nat) (cs : List Char) : Option (Nat × List Char) :=
  let ds := cs.take width
  let n := digitsValue ds
  if ds.length = width ∧ ds.all Char.isDigit ∧ least ≤ n ∧ n ≤ most then
    some (n, cs.drop width)
  else none

/-- Reads one character. -/
def readMark (mark : Char) : List Char → Option (List Char)
  | c :: rest => if c = mark then some rest else none
  | [] => none

/-- Reads a date. -/
def Day.read (cs : List Char) : Option (Day × List Char) := do
  let (year, cs) ← readField 4 0 9999 cs
  let cs ← readMark '-' cs
  let (month, cs) ← readField 2 1 12 cs
  let cs ← readMark '-' cs
  let (day, cs) ← readField 2 1 (daysInMonth year month) cs
  return (⟨year, month, day⟩, cs)

/-- Reads the places of a second after its point; places after the ninth are dropped. -/
def readPlaces (cs : List Char) : Option (Nat × List Char) :=
  let ds := cs.takeWhile Char.isDigit
  let kept := ds.take 9
  if ds.isEmpty then none
  else some (digitsValue kept * 10 ^ (9 - kept.length), cs.drop ds.length)

/-- Reads a time of day. The seconds may be missing. -/
def Clock.read (cs : List Char) : Option (Clock × List Char) := do
  let (hour, cs) ← readField 2 0 23 cs
  let cs ← readMark ':' cs
  let (minute, cs) ← readField 2 0 59 cs
  match cs with
  | ':' :: cs =>
    let (second, cs) ← readField 2 0 60 cs
    match cs with
    | '.' :: cs =>
      let (nanos, cs) ← readPlaces cs
      return (⟨hour, minute, second, nanos⟩, cs)
    | _ => return (⟨hour, minute, second, 0⟩, cs)
  | _ => return (⟨hour, minute, 0, 0⟩, cs)

/-- Reads an offset up to the end. -/
def Offset.read : List Char → Option Offset
  | c :: rest => do
    if (c = 'Z' ∨ c = 'z') ∧ rest.isEmpty then return .universal
    let sign : Int ← if c = '+' then some 1 else if c = '-' then some (-1) else none
    let (hours, rest) ← readField 2 0 23 rest
    let rest ← readMark ':' rest
    let (past, rest) ← readField 2 0 59 rest
    if rest.isEmpty then return .minutes (sign * (hours * 60 + past : Nat)) else none
  | [] => none

namespace Moment

/-- The moment that a word writes. -/
def parse? (cs : List Char) : Option Moment :=
  match Day.read cs with
  | some (d, []) => some (.day d)
  | some (d, mark :: rest) =>
    if mark = 'T' ∨ mark = 't' ∨ mark = ' ' then
      match Clock.read rest with
      | some (c, []) => some (.both d c)
      | some (c, rest) => (Offset.read rest).map (.instant d c)
      | none => none
    else none
  | none =>
    match Clock.read cs with
    | some (c, []) => some (.clock c)
    | _ => none

/-! ## Writing -/

/-- A date as text. -/
def dayText (d : Day) : String := padded 4 d.year ++ "-" ++ padded 2 d.month ++ "-" ++ padded 2 d.day

/-- A time as text; the places of the second end with the last one that is not zero. -/
def clockText (c : Clock) : String :=
  let places := ((padded 9 c.nanos).toList.reverse.dropWhile (· = '0')).reverse
  padded 2 c.hour ++ ":" ++ padded 2 c.minute ++ ":" ++ padded 2 c.second ++
    if places.isEmpty then "" else "." ++ String.ofList places

/-- An offset as text. -/
def offsetText : Offset → String
  | .universal => "Z"
  | .minutes n =>
    (if n < 0 then "-" else "+") ++ padded 2 (n.natAbs / 60) ++ ":" ++ padded 2 (n.natAbs % 60)

/-- A moment as text, with `T` between date and time. -/
def text : Moment → String
  | .day d => dayText d
  | .clock c => clockText c
  | .both d c => dayText d ++ "T" ++ clockText c
  | .instant d c o => dayText d ++ "T" ++ clockText c ++ offsetText o

end Moment

end Foreman.Toml
