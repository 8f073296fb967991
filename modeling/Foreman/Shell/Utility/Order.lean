import Foreman.Shell.Format
import Foreman.Shell.Utility.Basic
import Foreman.Shell.Utility.Versions

/-!
# `Foreman.Shell.Utility.Order` — lines in order

## Contents
- **Comparison**: **`Sorting`**, how texts are compared; numbers and months.
- **Keys**: **`Key`**, a part of a line with its own way of comparison; `readKey`.
- `sort`.
- `uniq`.
-/

namespace Foreman.Shell.Utility

/-! ## Comparison -/

/-- The order of two texts, byte by byte. -/
def compareBytes : Octets → Octets → Ordering
  | [], [] => .eq
  | [], _ :: _ => .lt
  | _ :: _, [] => .gt
  | a :: as, b :: bs => if a = b then compareBytes as bs else if a < b then .lt else .gt

/-- Whether a character is a blank. -/
def isBlankByte (c : Char) : Bool := c = ' ' || c = '\t'

/-- A number with digits before and after a point, as a text begins with it. -/
structure Written where
  isNegative : Bool := false
  whole : Octets := []
  places : Octets := []

/-- The number that a text begins with. -/
def Written.ofText (cs : Octets) : Written :=
  let cs := cs.dropWhile isBlankByte
  let (isNegative, cs) := match cs with
    | '-' :: rest => (true, rest)
    | cs => (false, cs)
  let whole := cs.takeWhile Char.isDigit
  let places := match cs.drop whole.length with
    | '.' :: rest => rest.takeWhile Char.isDigit
    | _ => []
  let places := (places.reverse.dropWhile (· = '0')).reverse
  { isNegative := isNegative && (whole.any (· ≠ '0') || !places.isEmpty)
    whole := whole.dropWhile (· = '0')
    places }

/-- The order of two written numbers. -/
def Written.compare (x y : Written) : Ordering :=
  let size (x y : Written) : Ordering :=
    ((Ord.compare x.whole.length y.whole.length).then (compareBytes x.whole y.whole)).then
      (compareBytes x.places y.places)
  match x.isNegative, y.isNegative with
  | false, false => size x y
  | true, true => size y x
  | true, false => .lt
  | false, true => .gt

/-- The place of the unit after a number in the order of units; zero without one. -/
def unitPlace (cs : Octets) : Int :=
  let cs := cs.dropWhile isBlankByte
  let isNegative := cs.head? = some '-'
  let digits := (if isNegative then cs.tail else cs).dropWhile fun c => c.isDigit || c = '.'
  let place : Nat := match digits with
    | 'K' :: _ | 'k' :: _ => 1
    | 'M' :: _ => 2
    | 'G' :: _ => 3
    | 'T' :: _ => 4
    | 'P' :: _ => 5
    | 'E' :: _ => 6
    | 'Z' :: _ => 7
    | 'Y' :: _ => 8
    | _ => 0
  if isNegative then -place else place

/-- The number of the month that a text begins with, or zero. -/
def monthNumber (cs : Octets) : Nat :=
  let name := String.ofList (((cs.dropWhile isBlankByte).take 3).map Char.toUpper)
  (["JAN", "FEB", "MAR", "APR", "MAY", "JUN", "JUL", "AUG", "SEP", "OCT", "NOV", "DEC"].idxOf name + 1) % 13

/-- How texts are compared. -/
structure Sorting where
  /-- The letters of the options, but not the one for blanks. -/
  letters : List Char := []
  skipsBlanks : Bool := false
  isReversed : Bool := false

/-- The characters of a text that count, as they are compared. -/
def Sorting.relevant (o : Sorting) (cs : Octets) : Octets :=
  let cs := if o.letters.contains 'd' then cs.filter fun c => c.isAlphanum || isBlankByte c else cs
  let cs := if o.letters.contains 'i' then cs.filter fun c => ' ' ≤ c && c ≤ '~' else cs
  if o.letters.contains 'f' then cs.map Char.toUpper else cs

/-- The order of two numbers, with texts that are none in front. -/
def compareDoubles (x y : Octets) : Ordering :=
  let read (cs : Octets) : Option Binary64 :=
    let cs := cs.dropWhile Char.isWhitespace
    let (value, rest) := readDouble cs
    if rest.length = cs.length then none else some value
  match read x, read y with
  | none, none => .eq
  | none, some _ => .lt
  | some _, none => .gt
  | some a, some b =>
    let isNumber (z : Binary64) := !(z.reading matches .nan)
    match isNumber a, isNumber b with
    | true, true => if a.lt b then .lt else if b.lt a then .gt else .eq
    | false, true => .lt
    | true, false => .gt
    | false, false => .eq

/-- The order of two texts. -/
def Sorting.compare (o : Sorting) (x y : Octets) : Ordering :=
  let has (c : Char) := o.letters.contains c
  let order :=
    if has 'n' then (Written.ofText x).compare (Written.ofText y)
    else if has 'g' then compareDoubles x y
    else if has 'h' then
      (Ord.compare (unitPlace x) (unitPlace y)).then ((Written.ofText x).compare (Written.ofText y))
    else if has 'M' then Ord.compare (monthNumber x) (monthNumber y)
    else if has 'V' then
      let (x, y) := (o.relevant x, o.relevant y)
      compareVersions x y
    else compareBytes (o.relevant x) (o.relevant y)
  if o.isReversed then order.swap else order

/-! ## Keys -/

/-- A part of a line with its own way of comparison. -/
structure Key where
  /-- The field and the character in it where the part begins, both counted from zero. -/
  field : Nat := 0
  char : Nat := 0
  /-- The field in which the part ends, and how many of its characters belong to it; without a number,
      all do. -/
  last : Option (Nat × Nat) := none
  endSkipsBlanks : Bool := false
  sorting : Sorting := {}

/-- What is left of a line after a number of fields. -/
def afterFields (tab : Option Char) : Nat → Octets → Octets
  | 0, cs => cs
  | n + 1, cs =>
    match tab with
    | some t =>
      match cs.dropWhile (· ≠ t) with
      | [] => []
      | _ :: rest => afterFields tab n rest
    | none => afterFields tab n ((cs.dropWhile isBlankByte).dropWhile (!isBlankByte ·))

/-- The length of a line up to the end of a number of fields, without the separator after the last one. -/
def endOfFields (tab : Option Char) (n : Nat) (line : Octets) : Nat :=
  match n with
  | 0 => 0
  | n + 1 =>
    let rest := afterFields tab n line
    let field := match tab with
      | some t => rest.takeWhile (· ≠ t)
      | none =>
        let blanks := rest.takeWhile isBlankByte
        blanks ++ (rest.drop blanks.length).takeWhile (!isBlankByte ·)
    line.length - rest.length + field.length

/-- The part of a line that a key stands for. -/
def Key.part (k : Key) (tab : Option Char) (line : Octets) : Octets :=
  let rest := afterFields tab k.field line
  let rest := if k.sorting.skipsBlanks then rest.dropWhile isBlankByte else rest
  let rest := rest.drop k.char
  let start := line.length - rest.length
  let stop := match k.last with
    | none => line.length
    | some (field, 0) => endOfFields tab (field + 1) line
    | some (field, n) =>
      let last := afterFields tab field line
      let last := if k.endSkipsBlanks then last.dropWhile isBlankByte else last
      min line.length (line.length - last.length + n)
  rest.take (stop - start)

/-- Reads a number in a key. -/
def keyNumber (what : String) (cs : Octets) : Except Octets (Nat × Octets) :=
  let digits := cs.takeWhile Char.isDigit
  if digits.isEmpty then
    .error ("invalid number ".toList ++ what.toList ++ ": invalid count at start of ".toList ++ quotedText cs)
  else .ok (digitsValue digits, cs.drop digits.length)

/-- The letters of ways of comparison. -/
def sortingLetters : List Char := "bdfghiMnRrV".toList

/-- The key that a text writes. Without letters of its own it is compared as all others. -/
def readKey (all : Sorting) (cs : Octets) : Except Octets Key := do
  let wrong (text : String) : Octets := text.toList ++ ": invalid field specification ".toList ++ quotedText cs
  let (field, rest) ← keyNumber "at field start" cs
  if field = 0 then throw (wrong "field number is zero")
  let (char, rest) ← match rest with
    | '.' :: rest => keyNumber "after '.'" rest
    | rest => .ok (1, rest)
  if char = 0 then throw (wrong "character offset is zero")
  let letters := rest.takeWhile sortingLetters.contains
  let rest := rest.drop letters.length
  let (last, more, rest) ← match rest with
    | ',' :: rest => do
      let (field, rest) ← keyNumber "after ','" rest
      if field = 0 then throw (wrong "field number is zero")
      let (n, rest) ← match rest with
        | '.' :: rest => keyNumber "after '.'" rest
        | rest => .ok (0, rest)
      let more := rest.takeWhile sortingLetters.contains
      .ok (some (field - 1, n), more, rest.drop more.length)
    | rest => .ok (none, [], rest)
  if !rest.isEmpty then throw (wrong "stray character in field spec")
  let own := letters ++ more
  let sorting : Sorting :=
    if own.isEmpty then all
    else
      { letters := own.filter fun c => c ≠ 'b' && c ≠ 'r', skipsBlanks := letters.contains 'b'
        isReversed := own.contains 'r' }
  return { field := field - 1, char := char - 1, last, sorting
           endSkipsBlanks := if own.isEmpty then all.skipsBlanks else more.contains 'b' }

/-! ## Sorting -/

/-- The order of two lines by some keys. -/
def compareKeys (tab : Option Char) (keys : List Key) (x y : Octets) : Ordering :=
  keys.foldl (fun order k => order.then (k.sorting.compare (k.part tab x) (k.part tab y))) .eq

/-- Drops each line that is equal to the one before it, after some lines, the latest first. -/
def withoutRepeats (isSame : Octets → Octets → Bool) (done : List Octets) : List Octets → List Octets
  | [] => done.reverse
  | line :: rest =>
    match done with
    | last :: _ =>
      if isSame last line then withoutRepeats isSame done rest
      else withoutRepeats isSame (line :: done) rest
    | [] => withoutRepeats isSame [line] rest

/-- The first line that is out of order, with its number. -/
def disorder? (isFine : Octets → Octets → Bool) (n : Nat) : List Octets → Option (Nat × Octets)
  | a :: b :: rest => if isFine a b then disorder? isFine (n + 1) (b :: rest) else some (n + 1, b)
  | _ => none

/-- Sorts the lines of files. -/
def sort : Utility := fun s args =>
  let g : Grammar :=
    { letters := "bcCdfghik:mMno:rRsS:t:T:uVz"
      words := [("ignore-leading-blanks", "b", .nothing), ("dictionary-order", "d", .nothing),
        ("ignore-case", "f", .nothing), ("general-numeric-sort", "g", .nothing),
        ("ignore-nonprinting", "i", .nothing), ("month-sort", "M", .nothing),
        ("human-numeric-sort", "h", .nothing), ("numeric-sort", "n", .nothing),
        ("reverse", "r", .nothing), ("version-sort", "V", .nothing), ("check", "c", .perhaps),
        ("key", "k", .something), ("merge", "m", .nothing), ("output", "o", .something),
        ("stable", "s", .nothing), ("field-separator", "t", .something), ("unique", "u", .nothing),
        ("zero-terminated", "z", .nothing), ("parallel", "parallel", .something),
        ("buffer-size", "S", .something)] }
  withArguments s.name 2 g args fun a =>
    let fault (text : Octets) : Report := faultOf 2 s.name text
    let letters := a.options.filterMap fun o => match o.1.toList with
      | [c] => if sortingLetters.contains c then some c else none
      | _ => none
    let all : Sorting :=
      { letters := letters.filter fun c => c ≠ 'b' && c ≠ 'r', skipsBlanks := letters.contains 'b'
        isReversed := letters.contains 'r' }
    let kinds := "ghMnRV".toList.filter all.letters.contains
    if 1 < kinds.length then
      fault ("options '-".toList ++ "MRVghn".toList.filter kinds.contains ++ "' are incompatible".toList)
    else
      match (a.valuesOf "k").mapM (readKey all), a.value? "t" with
      | .error text, _ => fault text
      | _, some [] => fault "empty tab".toList
      | .ok keys, tab =>
        let tab? : Except Octets (Option Char) := match tab with
          | none => .ok none
          | some ['\\', '0'] => .ok (some '\x00')
          | some [c] => .ok (some c)
          | some text => .error ("multi-character tab ".toList ++ quotedText text)
        match tab? with
        | .error text => fault text
        | .ok tab =>
          let ending := if a.has "z" then '\x00' else '\n'
          let byKeys := compareKeys tab (if keys.isEmpty then [{ sorting := all }] else keys)
          let order (x y : Octets) : Ordering :=
            let byLine := if a.has "u" ∨ a.has "s" then .eq
              else if all.isReversed then compareBytes y x else compareBytes x y
            (byKeys x y).then byLine
          let bad : Option (Octets × PathFault) :=
            (s.readAll (orInput a.operands)).findSome? fun (path, d) => match d with
              | .ok _ => none
              | .error fault => some (path, fault)
          match bad with
          | some (path, .isFolder) => fault ("read failed: ".toList ++ path ++ ": Is a directory".toList)
          | some (path, f) =>
            fault ("cannot read: ".toList ++ nameInMessage path ++ ": ".toList ++ f.text.toList)
          | none =>
            let (ds, r) := s.gather a.operands fun _ _ => {}
            let lines := ds.flatMap fun d => linesBy ending d.data
            if a.has "c" ∨ a.has "C" then
              let isFine (x y : Octets) : Bool :=
                if a.has "u" then byKeys x y = .lt else order x y ≠ .gt
              match disorder? isFine 1 lines with
              | none => r
              | some (n, line) =>
                if a.has "C" ∨ (a.value? "c").any (fun v => v = "quiet".toList || v = "silent".toList) then
                  { r with status := 1 }
                else
                  let path := (ds.head?.map FileData.path).getD []
                  r.and (faultOf 1 s.name (path ++ (":" ++ toString n ++ ": disorder: ").toList ++ line))
            else
              let isFine (x y : Octets) : Bool := order x y ≠ .gt
              let sorted :=
                if a.has "m" then
                  ds.foldl (fun lines d => List.merge lines (linesBy ending d.data) isFine) []
                else lines.mergeSort isFine
              let sorted := if a.has "u" then withoutRepeats (fun x y => byKeys x y = .eq) [] sorted else sorted
              let text := endedBy ending sorted
              match a.value? "o" with
              | none => r.and (textOut text)
              | some path =>
                match s.find path with
                | .error f => fault ("open failed: ".toList ++ path ++ ": ".toList ++ f.text.toList)
                | .ok place =>
                  if place.isFolder then fault ("open failed: ".toList ++ path ++ ": Is a directory".toList)
                  else { r with files := some (s.files.write place.path (s.newMode 0o666) text) }

/-! ## Equal lines -/

/-- Runs of equal lines, after some runs, the latest first; each run has its lines in reverse order. -/
def runsOf (isSame : Octets → Octets → Bool) (done : List (List Octets)) :
    List Octets → List (List Octets)
  | [] => done.reverse
  | line :: rest =>
    match done with
    | (last :: more) :: others =>
      if isSame last line then runsOf isSame ((line :: last :: more) :: others) rest
      else runsOf isSame ([line] :: done) rest
    | _ => runsOf isSame ([line] :: done) rest

/-- Writes one line of each run of equal lines. -/
def uniq : Utility := fun s args =>
  let g : Grammar :=
    { letters := "cdDf:is:uw:z"
      words := [("count", "c", .nothing), ("repeated", "d", .nothing), ("all-repeated", "D", .perhaps),
        ("skip-fields", "f", .something), ("ignore-case", "i", .nothing), ("skip-chars", "s", .something),
        ("unique", "u", .nothing), ("check-chars", "w", .something), ("zero-terminated", "z", .nothing)] }
  withArguments s.name 1 g args fun a =>
    let number (name what : String) : Except Octets (Option Nat) :=
      match a.value? name with
      | none => .ok none
      | some text =>
        match natNumber? text with
        | some n => .ok (some n)
        | none => .error (text ++ (": invalid number of " ++ what).toList)
    match number "f" "fields to skip", number "s" "bytes to skip", number "w" "bytes to compare" with
    | .error text, _, _ | _, .error text, _ | _, _, .error text => faultOf 1 s.name text
    | .ok fields, .ok chars, .ok width =>
      let compared (line : Octets) : Octets :=
        let rest := (afterFields none (fields.getD 0) line).drop (chars.getD 0)
        let rest := match width with
          | some n => rest.take n
          | none => rest
        if a.has "i" then rest.map Char.toUpper else rest
      let ending := if a.has "z" then '\x00' else '\n'
      match a.operands with
      | _ :: _ :: extra :: _ =>
        misuse 1 s.name ("extra operand ".toList ++ quotedText extra)
      | operands =>
        if a.has "D" ∧ a.has "c" then
          misuse 1 s.name "printing all duplicated lines and repeat counts is meaningless".toList
        else
          let (ds, r) := s.gather (operands.take 1) fun path fault =>
            match fault with
            | .isFolder => faultOf 1 s.name ("error reading ".toList ++ quotedName path ++ ": Is a directory".toList)
            | fault => s.unreadable 1 path fault
          let lines := ds.flatMap fun d => linesBy ending d.data
          let runs := runsOf (fun x y => compared x = compared y) [] lines
          let shown := runs.flatMap fun run =>
            let isRepeated := 1 < run.length
            let first := (run.getLast?).getD []
            if a.has "D" then if isRepeated then run.reverse else []
            else if (a.has "d" ∧ !isRepeated) ∨ (a.has "u" ∧ isRepeated) then []
            else if a.has "c" then [padLeft 7 (natText run.length) ++ ' ' :: first]
            else [first]
          let text := endedBy ending shown
          match operands with
          | [_, target] =>
            match s.find target with
            | .ok place => { r with files := some (s.files.write place.path (s.newMode 0o666) text) }
            | .error f => r.and (s.unreadable 1 target f)
          | _ => r.and (textOut text)

end Foreman.Shell.Utility
