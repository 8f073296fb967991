import Foreman.Number.Extended
import Foreman.Shell.Format
import Foreman.Shell.Utility.Columns

/-!
# `Foreman.Shell.Utility.Scaling` — numbers with units

A number in a field of a line may have a letter after it that stands for a power of 1000 or of 1024. It is
written again in another unit.

## Contents
- **`Scale`**: the powers that letters stand for.
- **`Scaling`**: what the options say. `Scaling.number` reads a number and `Scaling.text` writes it.
- **`NumeralFault`**: why a text is no number.
- `numfmt`.
-/

namespace Foreman.Shell.Utility

/-- The powers that letters stand for. -/
inductive Scale where
  | none
  /-- Powers of 1000, or of 1024 if an `i` follows. -/
  | auto
  | si
  | iec
  /-- Powers of 1024; an `i` has to follow. -/
  | iecWithMark
  deriving DecidableEq

/-- The number whose powers letters stand for. -/
def Scale.base : Scale → Nat
  | .iec | .iecWithMark => 1024
  | _ => 1000

/-- Which whole number stands for one that lies between two of them. -/
inductive RoundingMode where
  | up
  | down
  | fromZero
  | towardsZero
  | nearest
  deriving DecidableEq

/-- What happens at a text that is no number. -/
inductive FaultMode where
  | abort
  | fail
  | warn
  | ignore
  deriving DecidableEq

/-- Why a text is no number. -/
inductive NumeralFault where
  | tooLarge
  | noNumber
  | forbiddenUnit
  | unknownUnit
  | missingMark
  /-- A text after the number. -/
  | trailing (rest : Octets)

/-- How a fault of a text is reported. -/
def NumeralFault.text (f : NumeralFault) (input : Octets) : Octets :=
  let input := quotedText input
  match f with
  | .tooLarge => "value too large to be converted: ".toList ++ input
  | .noNumber => "invalid number: ".toList ++ input
  | .forbiddenUnit =>
    "rejecting suffix in input: ".toList ++ input ++ " (consider using --from)".toList
  | .unknownUnit => "invalid suffix in input: ".toList ++ input
  | .missingMark => "missing 'i' suffix in input: ".toList ++ input ++ " (e.g Ki/Mi/Gi)".toList
  | .trailing rest => "invalid suffix in input ".toList ++ input ++ ": ".toList ++ quotedText rest

/-- The letters of units, from the first power on. -/
def unitLetters : List Char := "KMGTPEZY".toList

/-- How numbers are read and written. -/
structure Scaling where
  source : Scale := .none
  target : Scale := .none
  sourceUnit : Nat := 1
  targetUnit : Nat := 1
  rounding : RoundingMode := .fromZero
  /-- What is written after a number, and may stand after one. -/
  suffix : Octets := []
  /-- The width of a number, with blanks, and of its digits, with zeros. -/
  width : Nat := 0
  digitsWidth : Nat := 0
  isLeft : Bool := false
  places? : Option Nat := none
  /-- What stands before and after numbers. -/
  front : Octets := []
  back : Octets := []
  /-- The fields with numbers; the first one if there are none. -/
  fields : List Span := []
  delimiter? : Option Char := none
  header : Nat := 0
  mode : FaultMode := .abort
  ending : Char := '\n'

namespace Scaling

/-! ## Reading -/

/-- The whole number at the front of a text. -/
def wholeAt (text : Octets) : Except NumeralFault (Bool × Extended × Octets) :=
  let (isNegative, body) := match text with
    | '-' :: rest => (true, rest)
    | rest => (false, rest)
  let ds := body.takeWhile Char.isDigit
  let rest := body.drop ds.length
  if 27 < (ds.dropWhile (· = '0')).length then .error .tooLarge
  else if ds.isEmpty ∧ rest.head? ≠ some '.' then .error .noNumber
  else
    let step (x : Extended) (c : Char) : Extended := (x.mul (.ofInt 10)).add (.ofInt (c.toNat - 48))
    let n := ds.foldl step (.ofInt 0)
    .ok (isNegative, if isNegative then { n with significand := -n.significand } else n, rest)

/-- The number at the front of a text, its places, and the text after it. -/
def decimalAt (text : Octets) : Except NumeralFault (Extended × Nat × Octets) := do
  let (isNegative, whole, rest) ← wholeAt text
  match rest with
  | '.' :: rest =>
    let (isOdd, part, after) ← wholeAt rest
    if isOdd then .error .noNumber
    else
      let places := rest.length - after.length
      let part := part.div (.ofInt (10 ^ places))
      return (if isNegative then whole.sub part else whole.add part, places, after)
  | rest => return (whole, 0, rest)

/-- The number that a text writes with its unit, and its places. -/
def number (o : Scaling) (text : Octets) : Except NumeralFault (Extended × Nat) := do
  let (x, places, rest) ← decimalAt text
  let unit := rest.dropWhile fun c => c = ' ' || c = '\t'
  let (power, base, places, rest) ←
    if rest.isEmpty then .ok (0, o.source.base, places, [])
    else
      match unit.head?.map unitLetters.idxOf with
      | some 8 => .error .unknownUnit
      | found =>
        if o.source = .none then .error .forbiddenUnit
        else
          let power := found.elim 0 (· + 1)
          match o.source, unit.drop 1 with
          | .auto, 'i' :: rest => .ok (power, 1024, 0, rest)
          | _, rest => .ok (power, o.source.base, 0, rest)
  let rest ← if o.source ≠ .iecWithMark then .ok rest
    else
      match rest with
      | 'i' :: rest => .ok rest
      | _ => .error .missingMark
  if rest.isEmpty then return (x.mul (.ofInt (base ^ power)), places)
  else .error (.trailing rest)

/-! ## Writing -/

/-- A number that is divided by a base until it is below it, and how often it was divided. -/
def reduced (base : Nat) : Nat → Nat → Extended → Extended × Nat
  | 0, power, x => (x, power)
  | fuel + 1, power, x =>
    if x.isAtLeast base then reduced base fuel (power + 1) (x.div (.ofInt base)) else (x, power)

/-- The whole number that stands for a number. -/
def RoundingMode.apply (mode : RoundingMode) (x : Extended) : Int :=
  let half : Extended := .ofRatio 1 2
  match mode with
  | .up => x.ceiling
  | .down => x.floor
  | .fromZero => if x.isNegative then x.floor else x.ceiling
  | .towardsZero => x.truncated
  | .nearest => (if x.isNegative then x.sub half else x.add half).truncated

/-- A number rounded to places. -/
def rounded (o : Scaling) (places : Nat) (x : Extended) : Extended :=
  let unit : Extended := .ofInt (10 ^ places)
  (Extended.ofInt (RoundingMode.apply o.rounding (x.mul unit))).div unit

/-- A number with places, with zeros in front up to its width. -/
def digits (o : Scaling) (places : Nat) (x : Extended) : Octets :=
  let (a, b) := x.ratio
  let sign : Octets := if x.isNegative then ['-'] else []
  let text := fixedText places a.natAbs b false
  sign ++ List.replicate (o.digitsWidth - sign.length - text.length) '0' ++ text

/-- A number in the unit of the target. -/
def inUnit (o : Scaling) (places : Nat) (x : Extended) : Octets :=
  if o.target = .none then o.digits places (o.rounded places x)
  else
    let base := o.target.base
    let (x, power) := reduced base 100 0 x
    let kept := match o.places? with
      | some n => min (3 * power) n
      | none => if x.isAtLeast 10 then 0 else 1
    let x := o.rounded kept x
    let (x, power) := if x.isAtLeast base then (x.div (.ofInt base), power + 1) else (x, power)
    let showsPlace : Bool := x.significand ≠ 0 && !x.isAtLeast 10 && 0 < power
    let places := o.places?.getD (if showsPlace then 1 else 0)
    let letter : Octets := if power = 0 then [] else (unitLetters.drop (power - 1)).take 1
    let mark : Octets := if o.target = .iecWithMark ∧ 0 < power then ['i'] else []
    o.digits places x ++ letter ++ mark

/-- A number in a message. -/
def briefText (x : Extended) : Octets :=
  let (a, b) := x.ratio
  (if x.isNegative then ['-'] else []) ++ generalText 'e' 6 a.natAbs b false

/-- A number as it is written, or why it cannot be. -/
def text (o : Scaling) (places : Nat) (x : Extended) : Except Octets Octets :=
  let places := o.places?.getD places
  let power := (reduced 10 100 0 x).2
  let tooLarge (what more : String) : Except Octets Octets :=
    .error ((what ++ " too large to be printed: '").toList ++ briefText x ++ more.toList)
  if o.target = .none ∧ 18 < power + places then
    if places = 0 then tooLarge "value" "' (consider using --to)"
    else tooLarge "value/precision" ("/" ++ toString places ++ "' (consider using --to)")
  else if 26 < power then tooLarge "value" "' (cannot handle values > 999Y)"
  else .ok (o.inUnit places x ++ o.suffix)

/-! ## Lines -/

/-- What stands for a field, and a complaint about it. -/
def field (o : Scaling) (n : Nat) (text : Octets) : Octets × Option Octets :=
  let isChosen := if o.fields.isEmpty then n = 1 else o.fields.any fun r => r.has n
  if !isChosen then (text, none)
  else
    let text := if o.suffix.length < text.length ∧ o.suffix.isSuffixOf text then
        text.take (text.length - o.suffix.length)
      else text
    let body := text.dropWhile fun c => c = ' ' || c = '\t'
    let width := if o.width ≠ 0 ∨ o.delimiter?.isSome then o.width
      else if body.length < text.length ∨ 1 < n then text.length
      else 0
    match o.number body with
    | .error f => (text, some (f.text body))
    | .ok (x, places) =>
      let x := if o.sourceUnit = 1 ∧ o.targetUnit = 1 then x
        else (x.mul (.ofInt o.sourceUnit)).div (.ofInt o.targetUnit)
      match o.text places x with
      | .error complaint => (text, some complaint)
      | .ok shown =>
        let shown := if o.isLeft then padRight width shown else padLeft width shown
        (o.front ++ shown ++ o.back, none)

/-- The fields of a line. Without a delimiter, a field has the blanks before it, less the one that ends
    the field before. -/
def fieldsOf (o : Scaling) : Nat → Octets → List Octets
  | 0, line => [line]
  | fuel + 1, line =>
    match o.delimiter? with
    | some c => partsAt c line
    | none =>
      let isBlank (c : Char) : Bool := c = ' ' || c = '\t' || c = '\n'
      let blanks := line.takeWhile isBlank
      let word := (line.drop blanks.length).takeWhile (!isBlank ·)
      match line.drop (blanks.length + word.length) with
      | [] => [line]
      | _ :: rest => (blanks ++ word) :: fieldsOf o fuel rest

/-- What was written, the latest text first. -/
structure Progress where
  texts : List (Nat × Octets) := []
  isValid : Bool := true
  isOver : Bool := false

/-- Writes a line, with a text after it. -/
def line (o : Scaling) (name : String) (p : Progress) (line : Octets × Octets) : Progress :=
  let between : Octets := [o.delimiter?.getD ' ']
  let step (p : Progress) (e : Octets × Nat) : Progress :=
    if p.isOver then p
    else
      let p := if 1 < e.2 then { p with texts := (1, between) :: p.texts } else p
      let (text, complaint) := o.field e.2 e.1
      let p := match complaint with
        | some complaint =>
          let texts := if o.mode = .ignore then p.texts
            else (2, (name ++ ": ").toList ++ complaint ++ ['\n']) :: p.texts
          { p with texts, isValid := false, isOver := o.mode = .abort }
        | none => p
      if p.isOver then p else { p with texts := (1, text) :: p.texts }
  let p := ((o.fieldsOf (line.1.length + 1) line.1).zipIdx 1).foldl step p
  if p.isOver ∨ line.2.isEmpty then p else { p with texts := (1, line.2) :: p.texts }

/-! ## Options -/

/-- The unit that a text writes: a number with a letter for a power of 1000, or with a letter and an `i`
    for a power of 1024. -/
def unit? (text : Octets) : Option Nat :=
  let ds := text.takeWhile Char.isDigit
  let factor? : Option Nat := match text.drop ds.length with
    | [] => if ds.isEmpty then none else some 1
    | [c] => (unitLetters.idxOf? c).map fun k => 1000 ^ (k + 1)
    | [c, 'i'] => (unitLetters.idxOf? c).map fun k => 1024 ^ (k + 1)
    | _ => none
  let n := if ds.isEmpty then 1 else digitsValue ds
  (factor?.map (n * ·)).filter fun n => n ≠ 0 ∧ n < 2 ^ 64

/-- Where the directive of a format begins, with the length of the text before it, in which two percent
    signs count as one character. -/
def directiveAt : Nat → Octets → Option (Nat × Octets)
  | _, [] => none
  | n, '%' :: '%' :: rest => directiveAt (n + 1) rest
  | n, '%' :: rest => some (n, rest)
  | n, _ :: rest => directiveAt (n + 1) rest

/-- Whether there is a directive in a text. -/
def hasDirective (text : Octets) : Bool := (directiveAt 0 text).isSome

/-- What a format says about numbers. -/
def withFormat (o : Scaling) (format : Octets) : Except Octets Scaling := do
  let shown := quotedText format
  match directiveAt 0 format with
  | none => .error ("format ".toList ++ shown ++ " has no % directive".toList)
  | some (n, rest) =>
    let flags := rest.takeWhile fun c => c = ' ' || c = '\'' || c = '0'
    let fills := flags.contains '0'
    let rest := rest.drop flags.length
    let (sign, body) := match rest with
      | '-' :: rest => (['-'], rest)
      | '+' :: rest => (['+'], rest)
      | rest => ([], rest)
    let ds := body.takeWhile Char.isDigit
    let pad := digitsValue ds
    if 2 ^ 63 ≤ pad then .error ("invalid format ".toList ++ shown ++ " (width overflow)".toList)
    let o := if pad = 0 then o
      else if sign = ['-'] then { o with isLeft := true, width := pad }
      else if fills then { o with digitsWidth := pad }
      else { o with width := pad }
    let rest := if ds.isEmpty then rest else body.drop ds.length
    if rest.isEmpty then .error ("format ".toList ++ shown ++ " ends in %".toList)
    let (places?, rest) ← match rest with
      | '.' :: rest =>
        let ds := rest.takeWhile Char.isDigit
        if ds.isEmpty ∧ rest.head?.any fun c => c = '-' || c = '+' || c = ' ' || c = '\t' then
          .error ("invalid precision in format ".toList ++ shown)
        else .ok (some (digitsValue ds), rest.drop ds.length)
      | rest => .ok (o.places?, rest)
    match rest with
    | 'f' :: back =>
      if hasDirective back then
        .error ("format ".toList ++ shown ++ " has too many % directives".toList)
      else return { o with places?, front := format.take n, back }
    | _ =>
      .error ("invalid format ".toList ++ shown ++ ", directive must be %[0]['][-][N][.][N]f".toList)

/-- The scales by their names. -/
def scaleNames : List (String × Scale) :=
  [("none", .none), ("auto", .auto), ("si", .si), ("iec", .iec), ("iec-i", .iecWithMark)]

/-- What an option says. -/
def withOption (name : String) (o : Scaling) (option : String × Octets) : Except Report Scaling := do
  let value := option.2
  let fault {α : Type} (text : Octets) : Except Report α := .error (faultOf 1 name text)
  let word {α : Type} (table : List (String × α)) (default : α) : Except Report α :=
    (wordOf name ("--" ++ option.1) (table.map Prod.fst) value).map fun w =>
      (table.lookup w).getD default
  let unit : Except Report Nat := match unit? value with
    | some n => .ok n
    | none => fault ("invalid unit size: ".toList ++ quotedText value)
  match option.1 with
  | "from" => return { o with source := ← word scaleNames .none }
  | "to" => return { o with target := ← word (scaleNames.filter (·.2 ≠ .auto)) .none }
  | "from-unit" => return { o with sourceUnit := ← unit }
  | "to-unit" => return { o with targetUnit := ← unit }
  | "round" =>
    let rounding ← word [("up", RoundingMode.up), ("down", .down), ("from-zero", .fromZero),
      ("towards-zero", .towardsZero), ("nearest", .nearest)] .fromZero
    return { o with rounding }
  | "invalid" =>
    let mode ← word [("abort", FaultMode.abort), ("fail", .fail), ("warn", .warn), ("ignore", .ignore)]
      .abort
    return { o with mode }
  | "padding" =>
    match boundedNumber "" (-2 ^ 62) (2 ^ 62) value with
    | .ok n =>
      if n = 0 then fault ("invalid padding value ".toList ++ quotedText value)
      else return { o with width := n.natAbs, isLeft := n < 0 }
    | .error _ => fault ("invalid padding value ".toList ++ quotedText value)
  | "suffix" => return { o with suffix := value }
  | "z" => return { o with ending := '\x00' }
  | "d" =>
    match value with
    | [] => return { o with delimiter? := some '\x00' }
    | [c] => return { o with delimiter? := some c }
    | _ => fault "the delimiter must be a single character".toList
  | "header" =>
    if value.isEmpty then return { o with header := 1 }
    match natNumber? value with
    | some (n + 1) => return { o with header := n + 1 }
    | _ => fault ("invalid header value ".toList ++ quotedText value)
  | "field" =>
    if !o.fields.isEmpty then fault "multiple field specifications".toList
    else if value = ['-'] then return { o with fields := [⟨1, none⟩] }
    else
      let items := partsAt ',' (value.map fun c => if c = ' ' ∨ c = '\t' then ',' else c)
      match items.mapM (readSpan true) with
      | .error text => .error (misuse 1 name text)
      | .ok fields => return { o with fields }
  | _ => return o

end Scaling

/-- Writes numbers in other units. -/
def numfmt : Utility := fun s args =>
  let g : Grammar :=
    { letters := "d:z"
      words := [("from", "from", .something), ("from-unit", "from-unit", .something),
        ("to", "to", .something), ("to-unit", "to-unit", .something), ("round", "round", .something),
        ("padding", "padding", .something), ("suffix", "suffix", .something),
        ("grouping", "grouping", .nothing), ("delimiter", "d", .something), ("field", "field", .something),
        ("debug", "debug", .nothing), ("header", "header", .perhaps), ("format", "format", .something),
        ("invalid", "invalid", .something), ("zero-terminated", "z", .nothing)] }
  withArguments s.name 1 g args fun a =>
    match a.options.foldlM (Scaling.withOption s.name) {} with
    | .error r => r
    | .ok o =>
      let fault (text : String) : Report := faultOf 1 s.name text.toList
      if a.has "format" ∧ a.has "grouping" then fault "--grouping cannot be combined with --format"
      else
        let notes : List String :=
          if !a.has "debug" then []
          else (if !a.hasAny ["grouping", "format"] ∧ o.width = 0 ∧ o.source = .none ∧ o.target = .none then
              ["no conversion option specified"]
            else []) ++
            if !a.operands.isEmpty ∧ a.has "header" then ["--header ignored with command-line input"] else []
        let notes : Report := notes.foldl (fun r text => r.and { fault text with status := 0 }) {}
        match (a.value? "format").elim (.ok o) o.withFormat with
        | .error text => notes.and (faultOf 1 s.name text)
        | .ok o =>
          if a.has "grouping" ∧ o.target ≠ .none then
            notes.and (fault "grouping cannot be combined with --to")
          else
            let fromInput := a.operands.isEmpty
            let lines := if fromInput then linesKept o.ending s.input else a.operands.map (· ++ [o.ending])
            let (headers, lines) := if fromInput then lines.splitAt o.header else ([], lines)
            let parted (line : Octets) : Octets × Octets :=
              if line.getLast? = some o.ending then (line.dropLast, [o.ending]) else (line, [])
            let p := (lines.map parted).foldl (o.line s.name) {}
            let r := (notes.out headers.flatten).and { texts := p.texts.reverse }
            let r := if a.has "debug" ∧ !p.isValid ∧ !p.isOver then
                r.and { fault "failed to convert some of the input numbers" with status := 0 }
              else r
            { r with
              status := if !p.isValid ∧ (o.mode = .abort ∨ o.mode = .fail) then 2 else r.status
              appetite := if fromInput then .everything else .nothing
              isHungry := fromInput && s.isCut }

end Foreman.Shell.Utility
