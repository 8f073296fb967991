import Foreman.Text.Blank
import Foreman.Text.Digits

/-!
# `Foreman.Time.Timestamp` — instants of the civil calendar

Documents carry the time of their creation as an RFC 3339 text. A `Timestamp` is the instant in
universal time: seconds since 1970-01-01T00:00:00Z and nanoseconds. A leap second is the second
before it with more than `999999999` nanoseconds.

## Contents
- **Calendar**: `daysInMonth`, `daysFromCivil`, `civilFromDays` on the proleptic Gregorian calendar.
- **Civil times**: `Civil`, a date and a time of day with an offset, with `Civil.instant?` and
  `Timestamp.civil` between them and the instants.
- **Reading**: `Civil.read?` and `Timestamp.parse?` accept RFC 3339 with blanks between the parts, a
  blank for the `T`, and any offset below a day.
- **Writing**: `Timestamp.text`, always in universal time with 0, 3, 6 or 9 places.
-/

namespace Foreman

/-! ## Calendar -/

/-- Whether a year has a 29th of February. -/
def isLeapYear (y : Int) : Bool := y % 4 = 0 && (y % 100 ≠ 0 || y % 400 = 0)

/-- Number of days of a month. -/
def daysInMonth (y : Int) (m : Nat) : Nat :=
  match m with
  | 2 => if isLeapYear y then 29 else 28
  | 4 | 6 | 9 | 11 => 30
  | _ => 31

/-- Days from 1970-01-01 to a date. Years are counted from March, so that the leap day is the last
    day of a year. -/
def daysFromCivil (y : Int) (m d : Nat) : Int :=
  let y := if m ≤ 2 then y - 1 else y
  let era := y / 400
  let yearOfEra := y - era * 400
  let shifted : Int := ((m + 9) % 12 : Nat)
  let dayOfYear := (153 * shifted + 2) / 5 + (d : Int) - 1
  let dayOfEra := yearOfEra * 365 + yearOfEra / 4 - yearOfEra / 100 + dayOfYear
  era * 146097 + dayOfEra - 719468

/-- The date that lies a number of days after 1970-01-01. -/
def civilFromDays (days : Int) : Int × Nat × Nat :=
  let z := days + 719468
  let era := z / 146097
  let dayOfEra := z - era * 146097
  let yearOfEra := (dayOfEra - dayOfEra / 1460 + dayOfEra / 36524 - dayOfEra / 146096) / 365
  let dayOfYear := dayOfEra - (365 * yearOfEra + yearOfEra / 4 - yearOfEra / 100)
  let shifted := (5 * dayOfYear + 2) / 153
  let d := (dayOfYear - (153 * shifted + 2) / 5 + 1).toNat
  let m := (if shifted < 10 then shifted + 3 else shifted - 9).toNat
  let y := yearOfEra + era * 400
  (if m ≤ 2 then y + 1 else y, m, d)

/-! ## Instants -/

/-- An instant in universal time. -/
structure Timestamp where
  seconds : Int
  nanos : Nat
  deriving DecidableEq

namespace Timestamp

/-- 1970-01-01T00:00:00Z. -/
def epoch : Timestamp := ⟨0, 0⟩

instance : Inhabited Timestamp := ⟨epoch⟩

/-! ## Civil times -/

/-- A date and a time of day, which is ahead of universal time by an offset in seconds. Second 60 is a
    leap second, and the fraction counts nanoseconds. -/
structure Civil where
  year : Int
  month : Nat
  day : Nat
  hour : Nat
  minute : Nat
  second : Nat
  fraction : Nat
  offset : Int

/-- The first second of the year -262143, and of the year 262143. Instants are between them. -/
def firstSecond : Int := daysFromCivil (-262143) 1 1 * 86400

@[inherit_doc firstSecond] def endSecond : Int := daysFromCivil 262143 1 1 * 86400

/-- The instant of a civil time, if there is such a date and such a time of day. -/
def Civil.instant? (c : Civil) : Option Timestamp :=
  if c.month < 1 ∨ 12 < c.month ∨ c.day < 1 ∨ daysInMonth c.year c.month < c.day then none
  else if 23 < c.hour ∨ 59 < c.minute ∨ 60 < c.second then none
  else if c.year < -262143 ∨ 262142 < c.year then none
  else
    let leap := c.second = 60
    let ofDay : Nat := c.hour * 3600 + c.minute * 60 + if leap then 59 else c.second
    let seconds := daysFromCivil c.year c.month c.day * 86400 + (ofDay : Int) - c.offset
    if seconds < firstSecond ∨ endSecond ≤ seconds then none
    else some ⟨seconds, if leap then c.fraction + 1000000000 else c.fraction⟩

/-- The civil time of an instant, without an offset. -/
def civil (t : Timestamp) : Civil :=
  let (year, month, day) := civilFromDays (t.seconds / 86400)
  let ofDay := (t.seconds % 86400).toNat
  let leap := 1000000000 ≤ t.nanos
  { year, month, day
    hour := ofDay / 3600
    minute := ofDay / 60 % 60
    second := ofDay % 60 + if leap then 1 else 0
    fraction := if leap then t.nanos - 1000000000 else t.nanos
    offset := 0 }

/-! ## Reading -/

/-- Reads between one and `most` digits after optional blanks. -/
def readNumber (most : Nat) (cs : List Char) : Option (Nat × List Char) :=
  let cs := dropBlanks cs
  let ds := (cs.take most).takeWhile Char.isDigit
  if ds.isEmpty then none else some (digitsValue ds, cs.drop ds.length)

/-- Reads a year: up to four digits, or a sign and any number of digits. -/
def readYear (cs : List Char) : Option (Int × List Char) :=
  match dropBlanks cs with
  | '-' :: rest => signed rest (-1)
  | '+' :: rest => signed rest 1
  | rest => (readNumber 4 rest).map fun (n, r) => ((n : Int), r)
where
  signed (cs : List Char) (sign : Int) : Option (Int × List Char) :=
    let ds := cs.takeWhile Char.isDigit
    if ds.isEmpty then none else some (sign * (digitsValue ds : Int), cs.drop ds.length)

/-- Reads one character after optional blanks. -/
def readMark (mark : Char) (cs : List Char) : Option (List Char) :=
  match dropBlanks cs with
  | c :: rest => if c = mark then some rest else none
  | [] => none

/-- Reads an optional fraction of a second as nanoseconds; places after the ninth are dropped. -/
def readFraction (cs : List Char) : Option (Nat × List Char) :=
  match cs with
  | '.' :: rest =>
    let ds := rest.takeWhile Char.isDigit
    if ds.isEmpty then none
    else
      let kept := ds.take 9
      some (digitsValue kept * 10 ^ (9 - kept.length), rest.drop ds.length)
  | _ => some (0, cs)

/-- Reads the offset from universal time in seconds. -/
def readOffset (cs : List Char) : Option (Int × List Char) :=
  match dropBlanks cs with
  | [] => none
  | c :: rest =>
    if c = 'Z' ∨ c = 'z' then some (0, rest)
    else if (c :: rest.take 2).map Char.toUpper = ['U', 'T', 'C'] then some (0, rest.drop 2)
    else if c = '+' then hoursMinutes rest 1
    else if c = '-' ∨ c = '\u2212' then hoursMinutes rest (-1)
    else none
where
  hoursMinutes (cs : List Char) (sign : Int) : Option (Int × List Char) :=
    match cs with
    | h₁ :: h₂ :: rest =>
      if h₁.isDigit && h₂.isDigit then
        match rest.dropWhile fun c => c = ':' || isBlank c with
        | m₁ :: m₂ :: rest =>
          if m₁.isDigit && m₂.isDigit && m₁ < '6' then
            let offset := digitsValue [h₁, h₂] * 3600 + digitsValue [m₁, m₂] * 60
            if offset < 86400 then some (sign * (offset : Int), rest) else none
          else none
        | _ => none
      else none
    | _ => none

/-- Reads the mark between a date and a time of day. -/
def readDivider : List Char → Option (List Char)
  | c :: rest => if c = 'T' ∨ c = 't' ∨ c = ' ' then some rest else none
  | [] => none

/-- Reads the year, the month and the day of a date. -/
def readDate (cs : List Char) : Option ((Int × Nat × Nat) × List Char) := do
  let (year, cs) ← readYear cs
  let cs ← readMark '-' cs
  let (month, cs) ← readNumber 2 cs
  let cs ← readMark '-' cs
  let (day, cs) ← readNumber 2 cs
  return ((year, month, day), cs)

/-- Reads the hour, the minute, the second and the fraction of a time of day. -/
def readTime (cs : List Char) : Option ((Nat × Nat × Nat × Nat) × List Char) := do
  let (hour, cs) ← readNumber 2 cs
  let cs ← readMark ':' cs
  let (minute, cs) ← readNumber 2 cs
  let cs ← readMark ':' cs
  let (second, cs) ← readNumber 2 cs
  let (fraction, cs) ← readFraction cs
  return ((hour, minute, second, fraction), cs)

/-- Reads the civil time of an RFC 3339 text. -/
def Civil.read? (cs : List Char) : Option Civil := do
  let ((year, month, day), cs) ← readDate cs
  let cs ← readDivider cs
  let ((hour, minute, second, fraction), cs) ← readTime cs
  let (offset, cs) ← readOffset cs
  if (dropBlanks cs).isEmpty then
    return { year, month, day, hour, minute, second, fraction, offset }
  else none

/-- The instant written by an RFC 3339 text. -/
def parse? (s : String) : Option Timestamp := (Civil.read? s.toList).bind Civil.instant?

/-! ## Writing -/

/-- A year with at least four digits, and a sign outside 0 to 9999. -/
def yearText (y : Int) : String :=
  if 0 ≤ y ∧ y ≤ 9999 then padded 4 y.toNat
  else (if y < 0 then "-" else "+") ++ padded 4 y.natAbs

/-- A fraction of a second with the fewest of 0, 3, 6 or 9 places that keep its value. -/
def fractionText (nanos : Nat) : String :=
  if nanos = 0 then ""
  else if nanos % 1000000 = 0 then "." ++ padded 3 (nanos / 1000000)
  else if nanos % 1000 = 0 then "." ++ padded 6 (nanos / 1000)
  else "." ++ padded 9 nanos

/-- The text of a date. -/
def dateText (year : Int) (month day : Nat) : String :=
  yearText year ++ "-" ++ padded 2 month ++ "-" ++ padded 2 day

/-- The text of a time of day. -/
def timeText (hour minute second fraction : Nat) : String :=
  padded 2 hour ++ ":" ++ padded 2 minute ++ ":" ++ padded 2 second ++ fractionText fraction

/-- The RFC 3339 text of a civil time without an offset. -/
def Civil.text (c : Civil) : String :=
  dateText c.year c.month c.day ++ "T" ++ timeText c.hour c.minute c.second c.fraction ++ "Z"

/-- The RFC 3339 text of an instant, in universal time. -/
def text (t : Timestamp) : String := t.civil.text

end Timestamp

end Foreman
