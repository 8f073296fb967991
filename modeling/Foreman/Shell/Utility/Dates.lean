import Foreman.Shell.Utility.Clock

/-!
# `Foreman.Shell.Utility.Dates` — dates as utilities read them

A date is written in items, in any order: dates, times of day, zones, days of the week, and distances like
`2 days ago`. What no item gives is taken from the present time; without a time of day and without a
distance alone, the day begins.

## Contents
- **`DateToken`**, `dateTokens`: the words and numbers of a text.
- **`DateReading`**: what is known after some items; `readItem`.
- `DateReading.instant?`: the time that is meant.
- `readInstant?`, `readDate?`; `readStamp?` for dates in digits only.
- `date`.
-/

namespace Foreman.Shell.Utility

/-! ## Words -/

/-- A unit of distances in time. -/
inductive DateUnit where
  | year
  | month
  | day
  | hour
  | minute
  | second
  deriving DecidableEq

/-- A word, a number or a mark of a date. -/
inductive DateToken where
  /-- A number without a sign, and how many digits it has. -/
  | plain (n : Int) (digits : Nat)
  /-- A number with a sign, which counts even for zero. -/
  | signed (n : Int) (digits : Nat) (isNegative : Bool)
  /-- Seconds with a fraction, in nanoseconds. -/
  | fraction (nanos : Int) (isSigned : Bool)
  | half (isAfternoon : Bool)
  | month (n : Nat)
  | weekday (n : Nat)
  /-- A zone, and how many seconds its clocks are ahead. -/
  | zone (seconds : Int)
  /-- The clocks of the present place. -/
  | here
  | summer
  | unit (u : DateUnit) (n : Int)
  | shift (days : Int)
  | ordinal (n : Int)
  | ago (factor : Int)
  | mark (c : Char)
  deriving DecidableEq

/-- The place of a word in a list of names, from one on. Three letters are enough. -/
def nameIn? (names : List String) (word : Octets) : Option Nat :=
  let isShort := word.length = 3 || (word.length = 4 && word[3]? = some '.')
  let found := names.findIdx? fun name =>
    let name := name.toList.map Char.toUpper
    if isShort then name.take 3 = word.take 3 else name = word
  found.map (· + 1)

/-- The zones with names: how many half hours their clocks are ahead, in winter and in summer. -/
def namedZones : List (String × Int) :=
  [("GMT", 0), ("UT", 0), ("UTC", 0), ("WET", 0), ("WEST", 2), ("BST", 2), ("ART", -6), ("BRT", -6),
    ("BRST", -4), ("NST", -7), ("NDT", -5), ("AST", -8), ("ADT", -6), ("CLT", -8), ("CLST", -6),
    ("EST", -10), ("EDT", -8), ("CST", -12), ("CDT", -10), ("MST", -14), ("MDT", -12), ("PST", -16),
    ("PDT", -14), ("AKST", -18), ("AKDT", -16), ("HST", -20), ("HAST", -20), ("HADT", -18),
    ("SST", -24), ("WAT", 2), ("CET", 2), ("CEST", 4), ("MET", 2), ("MEZ", 2), ("MEST", 4),
    ("MESZ", 4), ("EET", 4), ("EEST", 6), ("CAT", 4), ("SAST", 4), ("EAT", 6), ("MSK", 6), ("MSD", 8),
    ("IST", 11), ("SGT", 16), ("KST", 18), ("JST", 18), ("GST", 20), ("NZST", 24), ("NZDT", 26)]

/-- The units. -/
def dateUnits : List (String × DateToken) :=
  [("YEAR", .unit .year 1), ("MONTH", .unit .month 1), ("FORTNIGHT", .unit .day 14),
    ("WEEK", .unit .day 7), ("DAY", .unit .day 1), ("HOUR", .unit .hour 1), ("MINUTE", .unit .minute 1),
    ("MIN", .unit .minute 1), ("SECOND", .unit .second 1), ("SEC", .unit .second 1)]

/-- Other words. -/
def dateWords : List (String × DateToken) :=
  [("TOMORROW", .shift 1), ("YESTERDAY", .shift (-1)), ("TODAY", .shift 0), ("NOW", .shift 0),
    ("LAST", .ordinal (-1)), ("THIS", .ordinal 0), ("NEXT", .ordinal 1), ("FIRST", .ordinal 1),
    ("THIRD", .ordinal 3), ("FOURTH", .ordinal 4), ("FIFTH", .ordinal 5), ("SIXTH", .ordinal 6),
    ("SEVENTH", .ordinal 7), ("EIGHTH", .ordinal 8), ("NINTH", .ordinal 9), ("TENTH", .ordinal 10),
    ("ELEVENTH", .ordinal 11), ("TWELFTH", .ordinal 12), ("AGO", .ago (-1)), ("HENCE", .ago 1)]

/-- What a single letter stands for: a zone, but for two letters that have another use. -/
def letterToken? (c : Char) : Option DateToken :=
  if c = 'T' ∨ c = 'J' then some (.mark c)
  else if 'A' ≤ c ∧ c ≤ 'I' then some (.zone ((c.toNat - 64 : Int) * 3600))
  else if 'K' ≤ c ∧ c ≤ 'M' then some (.zone ((c.toNat - 65 : Int) * 3600))
  else if 'N' ≤ c ∧ c ≤ 'Y' then some (.zone ((77 - c.toNat : Int) * 3600))
  else if c = 'Z' then some (.zone 0)
  else none

/-- What a word stands for. -/
def wordToken? (place : Zone) (word : Octets) : Option DateToken :=
  let word := (word.take 19).map Char.toUpper
  let name := String.ofList word
  let zone? (name : String) : Option DateToken :=
    match name with
    | "GMT" | "UT" | "UTC" => some (.zone 0)
    | name =>
      if name.toList = place.name then some .here
      else (namedZones.lookup name).map fun halves => .zone (halves * 1800)
  match name with
  | "AM" | "A.M." => some (.half false)
  | "PM" | "P.M." => some (.half true)
  | "SEPT" => some (.month 9)
  | "TUES" => some (.weekday 2)
  | "WEDNES" => some (.weekday 3)
  | "THUR" | "THURS" => some (.weekday 4)
  | "DST" => some .summer
  | name =>
    let single := if word.getLast? = some 'S' then String.ofList word.dropLast else name
    ((nameIn? monthNames word).map DateToken.month).or <|
      ((nameIn? dayNames word).map fun n => .weekday (n - 1)).or <|
      (zone? name).or <| (dateUnits.lookup name).or <| (dateUnits.lookup single).or <|
      (dateWords.lookup name).or <|
      match word with
      | [c] => letterToken? c
      | word => if word.contains '.' then zone? (String.ofList (word.filter (· ≠ '.'))) else none

/-- The text after a bracket with brackets in it; none if it has no end. -/
def afterBracket : Nat → Octets → Option Octets
  | _, [] => none
  | depth, c :: rest =>
    if c = '(' then afterBracket (depth + 1) rest
    else if c = ')' then if depth ≤ 1 then some rest else afterBracket (depth - 1) rest
    else afterBracket depth rest

/-- The nanoseconds of a number with a fraction, rounded down. -/
def fractionNanos (isNegative : Bool) (whole : Nat) (digits : Octets) : Int :=
  let nanos := digitsValue ((digits ++ List.replicate 9 '0').take 9)
  let more : Int := if isNegative ∧ (digits.drop 9).any (· ≠ '0') then 1 else 0
  let n : Int := whole * 1000000000 + nanos
  if isNegative then -n - more else n

/-- The words, numbers and marks of a text of at most a given length; none if there is a word that means
    nothing. What stands in brackets does not count. -/
def dateTokens (place : Zone) : Nat → Octets → Option (List DateToken)
  | 0, _ => some []
  | fuel + 1, cs =>
    let number (sign : Option Bool) (ds : Octets) : Option (List DateToken) := do
      let digits := ds.takeWhile Char.isDigit
      let rest := ds.drop digits.length
      let n := digitsValue digits
      if 2 ^ 63 ≤ n then none
      let isNegative := sign = some true
      match rest with
      | point :: more =>
        let places := more.takeWhile Char.isDigit
        if (point = '.' ∨ point = ',') ∧ !places.isEmpty then
          return .fraction (fractionNanos isNegative n places) sign.isSome ::
            (← dateTokens place fuel (more.drop places.length))
        else pure ()
      | [] => pure ()
      let token : DateToken := if sign.isSome then .signed (if isNegative then -n else n) digits.length isNegative
        else .plain n digits.length
      return token :: (← dateTokens place fuel rest)
    match cs with
    | [] => some []
    | c :: rest =>
      if c.isWhitespace then dateTokens place fuel rest
      else if c.isDigit then number none cs
      else if c = '-' ∨ c = '+' then
        let rest := rest.dropWhile Char.isWhitespace
        if rest.head?.any Char.isDigit then number (some (c = '-')) rest else dateTokens place fuel rest
      else if c.isAlpha then do
        let word := cs.takeWhile fun c => c.isAlpha || c = '.'
        let token ← wordToken? place word
        return token :: (← dateTokens place fuel (cs.drop word.length))
      else if c = '(' then
        match afterBracket 1 rest with
        | some rest => dateTokens place fuel rest
        | none => some []
      else do return .mark c :: (← dateTokens place fuel rest)

/-! ## Items -/

/-- A distance in time. -/
structure Shift where
  years : Int := 0
  months : Int := 0
  days : Int := 0
  nanos : Int := 0

/-- A number of units. -/
def Shift.of (u : DateUnit) (n : Int) : Shift :=
  match u with
  | .year => { years := n }
  | .month => { months := n }
  | .day => { days := n }
  | .hour => { nanos := n * 3600000000000 }
  | .minute => { nanos := n * 60000000000 }
  | .second => { nanos := n * 1000000000 }

/-- What is known of a date after some of its items. -/
structure DateReading where
  year : Int
  /-- How many digits the year is written with; none if it is not written. -/
  yearDigits : Nat := 0
  month : Int
  day : Int
  hour : Int
  minute : Int
  /-- The second, in nanoseconds. -/
  nanos : Int
  /-- Whether the hour is one of the afternoon, if it is one of twelve. -/
  isAfternoon : Option Bool := none
  /-- Which of the days of the week is meant. -/
  dayOrdinal : Int := 0
  weekday : Nat := 0
  /-- How many seconds the clocks are ahead. -/
  zone : Option Int := none
  shift : Shift := {}
  /-- How many items of each kind there are. -/
  dates : Nat := 0
  times : Nat := 0
  weekdays : Nat := 0
  zones : Nat := 0
  hasShift : Bool := false

namespace DateReading

/-- Adds a distance, so many times. -/
def shifted (r : DateReading) (s : Shift) (factor : Int := 1) : DateReading :=
  { r with
    hasShift := true
    shift :=
      { years := r.shift.years + factor * s.years
        months := r.shift.months + factor * s.months
        days := r.shift.days + factor * s.days
        nanos := r.shift.nanos + factor * s.nanos } }

/-- Takes a distance, which may be one back. -/
def withShift (r : DateReading) (s : Shift) (rest : List DateToken) : DateReading × List DateToken :=
  match rest with
  | .ago factor :: rest => (r.shifted s factor, rest)
  | rest => (r.shifted s, rest)

/-- Takes a date. -/
def withDate (r : DateReading) (month day : Int) : DateReading :=
  { r with month, day, dates := r.dates + 1 }

/-- Takes a date with a year. -/
def withFullDate (r : DateReading) (year : Int) (yearDigits : Nat) (month day : Int) : DateReading :=
  { r with year, yearDigits, month, day, dates := r.dates + 1 }

/-- Takes a time of day. -/
def withTime (r : DateReading) (hour minute nanos : Int) (isAfternoon : Option Bool) : DateReading :=
  { r with hour, minute, nanos, isAfternoon, times := r.times + 1 }

/-- Takes a zone. -/
def withZone (r : DateReading) (seconds : Int) : DateReading :=
  { r with zone := some seconds, zones := r.zones + 1 }

/-- Takes a zone in hours and minutes, which may follow a colon. -/
def withOffset? (r : DateReading) (base : Int) (n : Int) (digits : Nat) (isNegative : Bool)
    (rest : List DateToken) : Option (DateReading × List DateToken) := do
  let n' := if digits ≤ 2 then n * 100 else n
  let (minutes, rest) : Int × List DateToken ← match rest with
    | .mark ':' :: .plain m _ :: rest => some (n * 60 + if isNegative then -m else m, rest)
    | .mark ':' :: _ => none
    | rest => some (n'.tdiv 100 * 60 + n'.tmod 100, rest)
  if 1440 < minutes.natAbs then none
  else some (r.withZone (base + minutes * 60), rest)

/-- Takes digits alone: a date, a time of day, or the year of a date without one. -/
def withDigits (r : DateReading) (n : Int) (digits : Nat) : DateReading :=
  if r.dates ≠ 0 ∧ r.yearDigits = 0 ∧ !r.hasShift ∧ (r.times ≠ 0 ∨ 2 < digits) then
    { r with year := n, yearDigits := digits }
  else if 4 < digits then r.withFullDate (n / 10000) (digits - 4) (n / 100 % 100) (n % 100)
  else if digits ≤ 2 then r.withTime n 0 0 none
  else r.withTime (n / 100) (n % 100) 0 none

/-- Reads a time of day with a colon or with a zone. -/
def readTime? (r : DateReading) (ts : List DateToken) : Option (DateReading × List DateToken) := do
  match ts with
  | .plain h _ :: .mark ':' :: .plain m _ :: rest =>
    let (nanos, rest) : Int × List DateToken ← match rest with
      | .mark ':' :: .plain s _ :: rest => some (s * 1000000000, rest)
      | .mark ':' :: .fraction nanos false :: rest => some (nanos, rest)
      | .mark ':' :: _ => none
      | rest => some (0, rest)
    match rest with
    | .half isAfternoon :: rest => some (r.withTime h m nanos (some isAfternoon), rest)
    | .signed n digits isNegative :: rest => (r.withTime h m nanos none).withOffset? 0 n digits isNegative rest
    | rest => some (r.withTime h m nanos none, rest)
  | .plain h _ :: .signed n digits isNegative :: rest => (r.withTime h 0 0 none).withOffset? 0 n digits isNegative rest
  | _ => none

/-- Reads an item. -/
def readItem (r : DateReading) (ts : List DateToken) : Option (DateReading × List DateToken) :=
  match ts with
  | .plain h _ :: .half isAfternoon :: rest => some (r.withTime h 0 0 (some isAfternoon), rest)
  | .plain _ _ :: .mark ':' :: _ => r.readTime? ts
  | .plain a n :: .mark '/' :: .plain b _ :: .mark '/' :: .plain c m :: rest =>
    some (if 4 ≤ n then r.withFullDate a n b c else r.withFullDate c m a b, rest)
  | .plain _ _ :: .mark '/' :: .plain _ _ :: .mark '/' :: _ => none
  | .plain a _ :: .mark '/' :: .plain b _ :: rest => some (r.withDate a b, rest)
  | .plain y n :: .signed m _ _ :: .signed d _ _ :: rest =>
    let r := r.withFullDate y n (-m) (-d)
    match rest with
    | .mark 'T' :: rest => r.readTime? rest
    | rest => some (r, rest)
  | .plain a n :: .signed b _ _ :: .unit u k :: rest =>
    some ((r.withDigits a n).shifted (.of u (b * k)), rest)
  | .plain _ _ :: .signed _ _ _ :: _ => r.readTime? ts
  | .plain a _ :: .unit u k :: rest => some (r.withShift (.of u (a * k)) rest)
  | .plain d _ :: .month m :: .signed y n _ :: rest => some (r.withFullDate (-y) n m d, rest)
  | .plain d _ :: .month m :: .plain y n :: rest => some (r.withFullDate y n m d, rest)
  | .plain d _ :: .month m :: rest => some (r.withDate m d, rest)
  | .plain a _ :: .weekday w :: rest =>
    some ({ r with dayOrdinal := a, weekday := w, weekdays := r.weekdays + 1 }, rest)
  | .plain a n :: rest => some (r.withDigits a n, rest)
  | .signed a _ _ :: .unit u k :: rest => some (r.withShift (.of u (a * k)) rest)
  | .fraction nanos _ :: .unit .second _ :: rest => some (r.withShift { nanos } rest)
  | .month m :: .signed d _ _ :: .signed y n _ :: rest => some (r.withFullDate (-y) n m (-d), rest)
  | .month m :: .plain d _ :: .mark ',' :: .plain y n :: rest => some (r.withFullDate y n m d, rest)
  | .month _ :: .plain _ _ :: .mark ',' :: _ => none
  | .month m :: .plain d _ :: rest => some (r.withDate m d, rest)
  | .weekday w :: .mark ',' :: rest | .weekday w :: rest =>
    some ({ r with dayOrdinal := 0, weekday := w, weekdays := r.weekdays + 1 }, rest)
  | .ordinal a :: .weekday w :: rest =>
    some ({ r with dayOrdinal := a, weekday := w, weekdays := r.weekdays + 1 }, rest)
  | .ordinal a :: .unit u k :: rest => some (r.withShift (.of u (a * k)) rest)
  | .unit u k :: rest => some (r.withShift (.of u k) rest)
  | .shift days :: rest => some (r.shifted { days }, rest)
  | .zone z :: .signed a _ _ :: .unit u k :: rest => some ((r.withZone z).shifted (.of u (a * k)), rest)
  | .zone z :: .signed a n isNegative :: rest => r.withOffset? z a n isNegative rest
  | .zone z :: .summer :: rest => some (r.withZone (z + 3600), rest)
  | .zone z :: rest => some (r.withZone z, rest)
  | .mark 'T' :: .signed a _ _ :: .unit u k :: rest =>
    some ((r.withZone (-25200)).shifted (.of u (a * k)), rest)
  | .mark 'T' :: .signed _ _ _ :: _ => none
  | .mark 'T' :: rest => some (r.withZone (-25200), rest)
  | .here :: rest | .mark 'J' :: rest => some ({ r with zones := r.zones + 1 }, rest)
  | _ => none

/-- Reads items up to the end. -/
def readItems : Nat → DateReading → List DateToken → Option DateReading
  | 0, r, _ => some r
  | _ + 1, r, [] => some r
  | fuel + 1, r, ts => do
    let (r, rest) ← r.readItem ts
    readItems fuel r rest

/-! ## Times -/

/-- The hour of the day, if there is such an hour. -/
def hourOfDay? (r : DateReading) : Option Int :=
  match r.isAfternoon with
  | none => if 0 ≤ r.hour ∧ r.hour < 24 then some r.hour else none
  | some isAfternoon =>
    if 1 ≤ r.hour ∧ r.hour ≤ 12 then some (r.hour % 12 + if isAfternoon then 12 else 0) else none

/-- The time that is meant, in nanoseconds since 1970, if there is such a time. -/
def instant? (r : DateReading) (place : Zone) : Option Int := do
  if 1 < r.dates ∨ 1 < r.times ∨ 1 < r.weekdays ∨ 1 < r.zones then none
  let year := if 0 ≤ r.year ∧ r.yearDigits = 2 then r.year + (if r.year < 69 then 2000 else 1900)
    else (r.year.natAbs : Int)
  let isTimed := r.times ≠ 0 ∨ (r.hasShift ∧ r.dates = 0 ∧ r.weekdays = 0)
  let hour ← if isTimed then r.hourOfDay? else some 0
  let (minute, nanos) := if isTimed then (r.minute, r.nanos) else (0, 0)
  if year < 0 ∨ 2 ^ 31 ≤ year ∨ r.month < 1 ∨ 12 < r.month ∨ r.day < 1 then none
  let c : Civil :=
    { year, month := r.month.toNat, day := r.day.toNat, hour := hour.toNat, minute := minute.toNat }
  if !c.isPossible ∨ minute < 0 ∨ 60000000000 ≤ nanos then none
  let days := daysFromCivil year r.month.toNat r.day.toNat
  let days :=
    if r.weekdays = 0 ∨ r.dates ≠ 0 then days
    else
      let today := Utility.weekday days
      let weeks := r.dayOrdinal - (if 0 < r.dayOrdinal ∧ today ≠ r.weekday then 1 else 0)
      days + ((r.weekday + 7 - today) % 7 : Nat) + 7 * weeks
  let (year, month, day) := civilFromDays days
  let months := (year + r.shift.years) * 12 + ((month : Int) - 1) + r.shift.months
  let first := daysFromCivil (months / 12) ((months % 12).toNat + 1) 1
  let days := first + (day : Int) - 1 + r.shift.days
  let seconds := days * 86400 + hour * 3600 + minute * 60 - r.zone.getD place.ahead
  return seconds * 1000000000 + nanos + r.shift.nanos

end DateReading

/-- The time that a text means, in nanoseconds since 1970, given the present time. Times before 1970 are
    negative. -/
def readInstant? (text : Octets) (now : Nat) (place : Zone := {}) : Option Int := do
  let text := text.dropWhile Char.isWhitespace
  let ts ← dateTokens place (text.length + 1) (if text.isEmpty then ['0'] else text)
  match ts with
  | [.mark '@', .plain n _] | [.mark '@', .signed n _ _] => some (n * 1000000000)
  | [.mark '@', .fraction nanos _] => some nanos
  | ts =>
    let seconds := (now : Int) / 1000000000 + place.ahead
    let c := Civil.ofSeconds seconds
    let present : DateReading :=
      { year := c.year, month := c.month, day := c.day, hour := c.hour, minute := c.minute,
        nanos := c.second * 1000000000 + (now % 1000000000 : Nat) }
    (← present.readItems (ts.length + 1) ts).instant? place

/-- The nanoseconds since 1970 of a date in words and numbers. -/
def readDate? (text : Octets) (now : Nat) : Option Nat := (readInstant? text now).map Int.toNat

/-- The nanoseconds since 1970 of a date in digits: two for each part, four for a year if it is given in
    full, and seconds after a point. -/
def readStamp? (text : Octets) (now : Nat) : Option Nat := do
  let digits := text.takeWhile Char.isDigit
  let second ← match text.drop digits.length with
    | [] => some 0
    | '.' :: rest => if rest.length = 2 then natNumber? rest else none
    | _ => none
  let pairs (cs : Octets) : List Nat :=
    (List.range (cs.length / 2)).map fun k => digitsValue ((cs.drop (2 * k)).take 2)
  let present := Civil.ofSeconds (now / 1000000000)
  let c : Civil ← match pairs digits, digits.length with
    | [month, day, hour, minute], 8 => some { year := present.year, month, day, hour, minute, second }
    | [year, month, day, hour, minute], 10 =>
      some { year := if year < 69 then 2000 + year else 1900 + year, month, day, hour, minute, second }
    | [century, year, month, day, hour, minute], 12 =>
      some { year := century * 100 + year, month, day, hour, minute, second }
    | _, _ => none
  if c.isPossible then some (c.seconds * 1000000000).toNat else none

/-! ## Showing the time -/

/-- The formats of the long options, by the arguments that they know. -/
def isoFormats : List (String × String) :=
  [("hours", "%Y-%m-%dT%H%:z"), ("minutes", "%Y-%m-%dT%H:%M%:z"), ("date", "%Y-%m-%d"),
    ("seconds", "%Y-%m-%dT%H:%M:%S%:z"), ("ns", "%Y-%m-%dT%H:%M:%S,%N%:z")]

/-- The formats of dates with a blank, by the arguments that they know. -/
def spacedFormats : List (String × String) :=
  [("date", "%Y-%m-%d"), ("seconds", "%Y-%m-%d %H:%M:%S%:z"), ("ns", "%Y-%m-%d %H:%M:%S.%N%:z")]

/-- The format that an argument chooses, which may be cut short. -/
def chooseFormat (name : String) (option : String) (formats : List (String × String)) (text : Octets) :
    Except Report String :=
  (wordOf name option (formats.map Prod.fst) text).map fun word => (formats.lookup word).getD ""

/-- The format that the options choose, if they choose one. -/
def dateFormat (name : String) (a : Arguments) : Except Report (Option String) :=
  let chosen : List (Except Report String) := a.options.filterMap fun (option, text) =>
    match option with
    | "I" =>
      some (if text.isEmpty then .ok "%Y-%m-%d" else chooseFormat name "--iso-8601" isoFormats text)
    | "rfc-3339" => some (chooseFormat name "--rfc-3339" spacedFormats text)
    | "R" => some (.ok "%a, %d %b %Y %H:%M:%S %z")
    | _ => none
  match chosen with
  | [] => .ok none
  | [format] => format.map some
  | .error r :: _ => .error r
  | _ => .error (faultOf 1 name "multiple output formats specified".toList)

/-- Shows a time, the present one if none is given. -/
def date : Utility := fun s args =>
  let g : Grammar :=
    { letters := "d:f:I::r:Rs:u"
      words := [("date", "d", .something), ("file", "f", .something), ("utc", "u", .nothing),
        ("universal", "u", .nothing), ("uct", "u", .nothing), ("reference", "r", .something),
        ("iso-8601", "I", .perhaps), ("rfc-3339", "rfc-3339", .something),
        ("rfc-email", "R", .nothing), ("rfc-822", "R", .nothing), ("rfc-2822", "R", .nothing),
        ("set", "s", .something)] }
  withArguments s.name 1 g args fun a =>
    let now := s.files.now
    let zone : Zone := if a.has "u" then {} else ((s.valueOf? "TZ").map Zone.ofSetting).getD {}
    let isGiven := a.hasAny ["d", "f", "r"]
    match dateFormat s.name a with
    | .error r => r
    | .ok chosen =>
      if 1 < (["d", "f", "r"].filter a.has).length then
        misuse 1 s.name "the options to specify dates for printing are mutually exclusive".toList
      else
        let format : Except Report Octets := match a.operands with
          | _ :: extra :: _ => .error (misuse 1 s.name ("extra operand ".toList ++ quotedText extra))
          | [('+' :: format)] =>
            if chosen.isSome then
              .error (faultOf 1 s.name "multiple output formats specified".toList)
            else .ok format
          | [other] =>
            if isGiven then
              .error (misuse 1 s.name ("the argument ".toList ++ quotedText other ++
                (" lacks a leading '+';\nwhen using an option to specify date(s), any non-option\n" ++
                  "argument must be a format string beginning with '+'").toList))
            else .error (faultOf 1 s.name ("invalid date ".toList ++ quotedText other))
          | [] => .ok (chosen.getD "%a %b %e %H:%M:%S %Z %Y").toList
        match format with
        | .error r => r
        | .ok format =>
          let shown (instant : Int) : Report :=
            let seconds := instant / 1000000000
            if (Civil.ofSeconds (seconds + zone.ahead)).year < 2 ^ 31 + 1900 then
              lineOut (formatDate instant format zone)
            else faultOf 1 s.name (("time '" ++ toString seconds ++ "' is out of range").toList)
          let read (text : Octets) : Report :=
            match readInstant? text now zone with
            | some t => shown t
            | none => faultOf 1 s.name ("invalid date ".toList ++ quotedText text)
          match a.value? "d", a.value? "r", a.value? "f" with
          | some text, _, _ => read text
          | _, some path, _ =>
            match s.look? path with
            | some e => shown e.changed
            | none => faultOf 1 s.name (nameInMessage path ++ ": No such file or directory".toList)
          | _, _, some path =>
            s.eachFile [path] (s.unreadable 1) (fromWhole fun d =>
              (linesIn d.data).foldl (fun (r : Report) line => r.and (read line)) {})
          | none, none, none => shown now

end Foreman.Shell.Utility
