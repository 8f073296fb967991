import Foreman.Shell.Utility.Basic
import Foreman.Time.Timestamp

/-!
# `Foreman.Shell.Utility.Clock` — dates as utilities write them

All times are universal times, counted in nanoseconds since 1970.

## Contents
- **`Civil`**: a date and time of day; **`Zone`**: how far clocks are ahead of the universal time.
- **Directives**: **`DateDirective`**, a part of a format with its flags.
- `formatDate`: a time by a format.
-/

namespace Foreman.Shell.Utility

/-! ## Dates -/

/-- A date and time of day. -/
structure Civil where
  year : Int
  month : Nat
  day : Nat
  hour : Nat := 0
  minute : Nat := 0
  second : Nat := 0

/-- The seconds since 1970 of a date. -/
def Civil.seconds (c : Civil) : Int :=
  daysFromCivil c.year c.month c.day * 86400 + c.hour * 3600 + c.minute * 60 + c.second

/-- The date that is a number of seconds after 1970. -/
def Civil.ofSeconds (seconds : Int) : Civil :=
  let days := seconds / 86400
  let (year, month, day) := civilFromDays days
  let rest := (seconds % 86400).toNat
  { year, month, day, hour := rest / 3600, minute := rest / 60 % 60, second := rest % 60 }

/-- Whether there is such a date. -/
def Civil.isPossible (c : Civil) : Bool :=
  1 ≤ c.month && c.month ≤ 12 && 1 ≤ c.day && c.day ≤ daysInMonth c.year c.month && c.hour < 24 &&
    c.minute < 60 && c.second ≤ 60

/-- The names of the months. -/
def monthNames : List String :=
  ["January", "February", "March", "April", "May", "June", "July", "August", "September", "October",
    "November", "December"]

/-- The names of the days. -/
def dayNames : List String :=
  ["Sunday", "Monday", "Tuesday", "Wednesday", "Thursday", "Friday", "Saturday"]

/-- The day of the week of a number of days after 1970; Sunday is zero. -/
def weekday (days : Int) : Nat := ((days + 4) % 7).toNat

/-! ## Zones -/

/-- How far the clocks of a place are ahead of the universal time. -/
structure Zone where
  name : Octets := "UTC".toList
  /-- The seconds. -/
  ahead : Int := 0

/-- The zone that a setting writes: a name, and how far its clocks are behind. Other settings stand for
    the universal time. -/
def Zone.ofSetting (setting : Octets) : Zone :=
  let (name, rest) := match setting with
    | '<' :: rest =>
      let name := rest.takeWhile (· ≠ '>')
      (name, rest.drop (name.length + 1))
    | rest =>
      let name := rest.takeWhile Char.isAlpha
      (name, rest.drop name.length)
  let (isEast, digits) := match rest with
    | '-' :: ds => (true, ds)
    | '+' :: ds => (false, ds)
    | ds => (false, ds)
  match (partsAt ':' digits).mapM natNumber? with
  | some (h :: others) =>
    let seconds : Int := h * 3600 + (others.getD 0 0) * 60 + others.getD 1 0
    if name.length < 3 ∨ 2 < others.length ∨ 24 < h then {}
    else { name, ahead := if isEast then seconds else -seconds }
  | _ => if setting.isEmpty ∨ name.length < 3 ∨ !rest.isEmpty then {} else { name }

/-! ## Writing -/

/-- The number of the week of a day in its year, with weeks that begin at a day of the week. -/
def weekOf (dayOfYear day start : Nat) : Nat := (dayOfYear + 7 - (day + 7 - start) % 7) / 7

/-- The year and week that a day belongs to, if weeks belong to the year of their Thursday. -/
def isoWeek (days : Int) : Int × Nat :=
  let thursday := days - (((days + 3) % 7 : Int)) + 3
  let (year, _, _) := civilFromDays thursday
  let first := daysFromCivil year 1 1
  (year, ((thursday - first) / 7).toNat + 1)

/-- How a part of a date is written. -/
structure DateDirective where
  /-- What fills the field: zeros, blanks, zeros and a sign, or nothing. -/
  fill : Option Char := none
  isUpper : Bool := false
  /-- Whether capital and small letters change. -/
  isChanged : Bool := false
  width : Option Nat := none
  /-- A letter that asks for another calendar or other digits; both are the same here. -/
  variant : Option Char := none
  colons : Nat := 0

namespace DateDirective

/-- A word in its field. -/
def word (d : DateDirective) (text : Octets) : Octets :=
  let text := if d.isUpper then text.map Char.toUpper else text
  match d.fill, d.width with
  | some '-', _ | _, none => text
  | some '0', some n | some '+', some n => List.replicate (n - text.length) '0' ++ text
  | _, some n => padLeft n text

/-- Digits after a sign in their field. -/
def signed (d : DateDirective) (fallback : Char) (width : Nat) (sign digits : Octets) : Octets :=
  let gap := d.width.getD width - sign.length - digits.length
  match d.fill.getD fallback with
  | '-' => sign ++ digits
  | '_' => List.replicate gap ' ' ++ sign ++ digits
  | _ => sign ++ List.replicate gap '0' ++ digits

/-- A number in its field. -/
def number (d : DateDirective) (fallback : Char) (width : Nat) (n : Int) : Octets :=
  d.signed fallback width (if n < 0 then ['-'] else []) (natText n.natAbs)

/-- A year in its field; a large one may have a sign. -/
def year (d : DateDirective) (width : Nat) (n : Int) : Octets :=
  let isLarge := 10 ^ width ≤ n || width < d.width.getD width
  let sign : Octets := if n < 0 then ['-'] else if d.fill = some '+' ∧ isLarge then ['+'] else []
  d.signed '0' width sign (natText n.natAbs)

/-- The fraction of a second. -/
def fraction (d : DateDirective) (nanos : Nat) : Octets :=
  let width := match d.width with
    | some 0 | none => 9
    | some n => n
  let digits := (padded 9 nanos).toList.take width
  let kept := (digits.reverse.dropWhile (· = '0')).reverse
  let kept := if kept.isEmpty then digits.take 1 else kept
  if d.fill = some '_' then padRight width kept
  else kept ++ List.replicate (width - kept.length) '0'

/-- How far the clocks of a zone are ahead; none if there are too many colons. -/
def zone? (d : DateDirective) (ahead : Int) : Option Octets :=
  let sign : Octets := [if ahead < 0 then '-' else '+']
  let seconds := ahead.natAbs
  let (h, m, s) := (seconds / 3600, seconds / 60 % 60, seconds % 60)
  let two (n : Nat) : Octets := (padded 2 n).toList
  let short := natText h ++ ':' :: two m
  let whole := short ++ ':' :: two s
  match d.colons with
  | 0 => some (d.signed '0' 5 sign (natText (h * 100 + m)))
  | 1 => some (d.signed '0' 6 sign short)
  | 2 => some (d.signed '0' 9 sign whole)
  | 3 =>
    if s ≠ 0 then some (d.signed '0' 9 sign whole)
    else if m ≠ 0 then some (d.signed '0' 6 sign short)
    else some (d.signed '0' 3 sign (natText h))
  | _ => none

/-- The format that a letter stands for. -/
def format? (c : Char) : Option String :=
  match c with
  | 'c' => some "%a %b %e %H:%M:%S %Y"
  | 'D' | 'x' => some "%m/%d/%y"
  | 'F' => some "%+4Y-%m-%d"
  | 'r' => some "%I:%M:%S %p"
  | 'R' => some "%H:%M"
  | 'T' | 'X' => some "%H:%M:%S"
  | _ => none

/-- The text of a directive without a format of its own, if there is such a directive. -/
def text? (d : DateDirective) (zone : Zone) (instant : Int) (c : Char) : Option Octets :=
  let seconds := instant / 1000000000 + zone.ahead
  let days := seconds / 86400
  let t := Civil.ofSeconds seconds
  let dayOfYear := (days - daysFromCivil t.year 1 1).toNat
  let day := weekday days
  let half := if t.hour % 12 = 0 then 12 else t.hour % 12
  let name (names : List String) (n : Nat) : Octets := ((names[n]?).getD "").toList
  let named (text : Octets) : Octets := { d with isUpper := d.isUpper || d.isChanged }.word text
  let noon (text : String) : Octets := if d.isChanged then d.word (text.toList.map Char.toLower) else d.word text.toList
  if d.colons ≠ 0 ∧ c ≠ 'z' then none
  else
    match c with
    | 'a' => some (named ((name dayNames day).take 3))
    | 'A' => some (named (name dayNames day))
    | 'b' | 'h' => some (named ((name monthNames (t.month - 1)).take 3))
    | 'B' => some (named (name monthNames (t.month - 1)))
    | 'C' => some (if t.year < 0 then d.signed '0' 2 ['-'] (natText (t.year.natAbs / 100)) else d.year 2 (t.year / 100))
    | 'd' => some (d.number '0' 2 t.day)
    | 'e' => some (d.number '_' 2 t.day)
    | 'g' => some (d.number '0' 2 ((isoWeek days).1 % 100))
    | 'G' => some (d.year 4 (isoWeek days).1)
    | 'H' => some (d.number '0' 2 t.hour)
    | 'I' => some (d.number '0' 2 half)
    | 'j' => some (d.number '0' 3 (dayOfYear + 1))
    | 'k' => some (d.number '_' 2 t.hour)
    | 'l' => some (d.number '_' 2 half)
    | 'm' => some (d.number '0' 2 t.month)
    | 'M' => some (d.number '0' 2 t.minute)
    | 'n' => some (d.word ['\n'])
    | 'N' => some (d.fraction (instant % 1000000000).toNat)
    | 'p' => some (noon (if t.hour < 12 then "AM" else "PM"))
    | 'P' => some ({ d with isUpper := false }.word (if t.hour < 12 then "am" else "pm").toList)
    | 'q' => some (d.number '0' 1 ((t.month + 2) / 3))
    | 's' => some (d.number '0' 1 (instant / 1000000000))
    | 'S' => some (d.number '0' 2 t.second)
    | 't' => some (d.word ['\t'])
    | 'u' => some (d.number '0' 1 (if day = 0 then 7 else day))
    | 'U' => some (d.number '0' 2 (weekOf dayOfYear day 0))
    | 'V' => some (d.number '0' 2 (isoWeek days).2)
    | 'w' => some (d.number '0' 1 day)
    | 'W' => some (d.number '0' 2 (weekOf dayOfYear day 1))
    | 'y' => some (d.number '0' 2 (t.year.natAbs % 100 : Nat))
    | 'Y' => some (d.year 4 t.year)
    | 'z' => d.zone? zone.ahead
    | 'Z' => some (d.word (if d.isChanged then zone.name.map Char.toLower else zone.name))
    | _ => none

/-- Reads the flags of a directive. -/
def withFlags (d : DateDirective) : Octets → DateDirective × Octets
  | c :: rest =>
    if "-_0+".toList.contains c then withFlags { d with fill := some c } rest
    else if c = '^' then withFlags { d with isUpper := true } rest
    else if c = '#' then withFlags { d with isChanged := true } rest
    else (d, c :: rest)
  | [] => (d, [])

/-- Reads what comes between a percent sign and the letter of a directive. -/
def read (cs : Octets) : DateDirective × Octets :=
  let (d, rest) := withFlags {} cs
  let digits := rest.takeWhile Char.isDigit
  let rest := rest.drop digits.length
  let variant := rest.head?.filter fun c => c = 'E' || c = 'O'
  let rest := if variant.isSome then rest.tail else rest
  let colons := (rest.takeWhile (· = ':')).length
  let colons := if (rest.drop colons).head? = some 'z' then colons else 0
  ({ d with width := if digits.isEmpty then none else some (digitsValue digits), variant, colons },
    rest.drop colons)

/-- Whether a directive has the variant that is asked for. -/
def hasVariant (d : DateDirective) (c : Char) : Bool :=
  match d.variant with
  | some 'E' => "cCxXyY".toList.contains c
  | some _ => "BbhCdegGHIjklmMSsuUVwWyY".toList.contains c
  | none => true

end DateDirective

/-- A time by a format. A directive that there is not stands for itself. -/
def dateText (zone : Zone) (instant : Int) (isUpper : Bool) : Nat → Octets → Octets
  | 0, _ => []
  | _ + 1, [] => []
  | fuel + 1, '%' :: whole =>
    match whole with
    | '%' :: rest => '%' :: dateText zone instant isUpper fuel rest
    | whole =>
      let (d, rest) := DateDirective.read whole
      let d := { d with isUpper := d.isUpper || isUpper }
      match rest with
      | [] => d.word ('%' :: whole)
      | '%' :: _ =>
        d.word ('%' :: whole.take (whole.length - rest.length)) ++ dateText zone instant isUpper fuel rest
      | c :: after =>
        let itself := d.word ('%' :: whole.take (whole.length - after.length))
        let text := match DateDirective.format? c with
          | some format =>
            if d.colons ≠ 0 ∨ !d.hasVariant c then itself
            else if c = 'F' ∧ (d.fill.isSome ∨ d.width.isSome) then
              let sign : Octets := (d.fill.map fun c => [c]).getD []
              let width := d.width.getD 0 - 6
              dateText zone instant d.isUpper fuel
                ('%' :: sign ++ (if width = 0 then [] else natText width) ++ "Y-%m-%d".toList)
            else d.word (dateText zone instant d.isUpper fuel format.toList)
          | none => if d.hasVariant c then (d.text? zone instant c).getD itself else itself
        text ++ dateText zone instant isUpper fuel after
  | fuel + 1, c :: rest =>
    (if isUpper then c.toUpper else c) :: dateText zone instant isUpper fuel rest

/-- A time by a format. -/
def formatDate (instant : Int) (format : Octets) (zone : Zone := {}) : Octets :=
  dateText zone instant false (format.length + 40) format

end Foreman.Shell.Utility
