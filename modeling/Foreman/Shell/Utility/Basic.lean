import Foreman.Collection.Sum
import Foreman.Shell.Utility.Arguments
import Foreman.Text.Digits

/-!
# `Foreman.Shell.Utility.Basic` — operands that are files

## Contents
- **Lines**: `linesIn`, `withEnds`, `linesKept`.
- **Operands**: `Scene.readAll` reads the files that operands name, or the input; `eachFile`, `gather`.
- **Numbers**: `sizeNumber?`, a number with a unit.
-/

namespace Foreman.Shell

/-! ## Lines -/

/-- The lines of a text, each without its end; the last one may lack an end. -/
def linesBy (ending : Char) (text : Octets) : List Octets :=
  let parts := partsAt ending text
  if parts.getLast? = some [] then parts.dropLast else parts

/-- The lines of a text, each without its end. -/
def linesIn (text : Octets) : List Octets := linesBy '\n' text

/-- Lines with their ends. -/
def endedBy (ending : Char) (lines : List Octets) : Octets := lines.flatMap (· ++ [ending])

/-- Lines with their ends. -/
def withEnds (lines : List Octets) : Octets := endedBy '\n' lines

/-- The lines of a text, each with the end that it has, after some lines, the latest first, and
    characters of the next one in reverse order. -/
def linesAfter (ending : Char) (done : List Octets) (acc : Octets) : Octets → List Octets
  | [] => (if acc.isEmpty then done else acc.reverse :: done).reverse
  | c :: rest =>
    if c = ending then linesAfter ending ((c :: acc).reverse :: done) [] rest
    else linesAfter ending done (c :: acc) rest

/-- The lines of a text, each with the end that it has. -/
def linesKept (ending : Char) (text : Octets) : List Octets := linesAfter ending [] [] text

/-- A line without its end, and the end. -/
def splitEnd (line : Octets) : Octets × Octets :=
  if line.getLast? = some '\n' then (line.dropLast, ['\n']) else (line, [])

/-! ## Operands -/

/-- What an operand gives. -/
structure FileData where
  /-- The operand, or the dash that stands for the input. -/
  path : Octets
  data : Octets
  isCut : Bool := false

/-- Whether the data come from the input. -/
def FileData.isInput (d : FileData) : Bool := Scene.isInput d.path

/-- The report of an operand that cannot be read. -/
def Scene.unreadable (s : Scene) (status : Nat) (path : Octets) (fault : PathFault) : Report :=
  faultOf status s.name (nameInMessage path ++ ": ".toList ++ fault.text.toList)

/-- What operands give, one after the other. The input gives its data only once. -/
def Scene.readAll (s : Scene) : List Octets → List (Octets × Except PathFault FileData)
  | [] => []
  | path :: rest =>
    let d := (s.readPath path).map fun (data, isCut) => ({ path, data, isCut } : FileData)
    let s := if Scene.isInput path then { s with input := [], isCut := false } else s
    (path, d) :: s.readAll rest

/-- Operands, or the input if there are none. -/
def orInput (operands : List Octets) : List Octets := if operands.isEmpty then [['-']] else operands

/-- How much a utility takes of its input that reads some operands as a whole. -/
def appetiteOf (operands : List Octets) : Appetite :=
  if operands.any Scene.isInput then .everything else .nothing

/-- A report that is made of all data of an operand. -/
def fromWhole (f : FileData → Report) (d : FileData) : Report :=
  { f d with isHungry := d.isCut, appetite := if d.isInput then .everything else .nothing }

/-- Reads operands one after the other, or the input if there are none, and reports what each gives. -/
def Scene.eachFile (s : Scene) (operands : List Octets) (blame : Octets → PathFault → Report)
    (f : FileData → Report) : Report :=
  let step (r : Report) (e : Octets × Except PathFault FileData) : Report :=
    r.and (match e.2 with
      | .ok d => f d
      | .error fault => blame e.1 fault)
  (s.readAll (orInput operands)).foldl step {}

/-- All data of some operands, and a report of those that cannot be read. -/
def Scene.gather (s : Scene) (operands : List Octets) (blame : Octets → PathFault → Report) :
    List FileData × Report :=
  let ds := s.readAll (orInput operands)
  let step (r : Report) (e : Octets × Except PathFault FileData) : Report :=
    r.and (match e.2 with
      | .ok d => { isHungry := d.isCut }
      | .error fault => blame e.1 fault)
  let blames := ds.foldl step {}
  (ds.filterMap fun (_, d) => d.toOption, { blames with appetite := appetiteOf (orInput operands) })

/-! ## Numbers -/

/-- How much a unit multiplies a number by. -/
def unitFactor? (unit : String) : Option Nat :=
  match unit with
  | "" => some 1
  | "b" => some 512
  | "k" | "K" | "KiB" => some 1024
  | "kB" | "KB" => some 1000
  | "M" | "MiB" | "m" => some (1024 ^ 2)
  | "MB" => some (1000 ^ 2)
  | "G" | "GiB" => some (1024 ^ 3)
  | "GB" => some (1000 ^ 3)
  | "T" | "TiB" => some (1024 ^ 4)
  | "TB" => some (1000 ^ 4)
  | "P" | "PiB" => some (1024 ^ 5)
  | "PB" => some (1000 ^ 5)
  | "E" | "EiB" => some (1024 ^ 6)
  | "EB" => some (1000 ^ 6)
  | _ => none

/-- The number that a text with a unit writes. -/
def sizeNumber? (cs : Octets) : Option Nat :=
  let digits := cs.takeWhile Char.isDigit
  if digits.isEmpty then none
  else (unitFactor? (String.ofList (cs.drop digits.length))).map (digitsValue digits * ·)

/-- The number that digits write. -/
def natNumber? (cs : Octets) : Option Nat :=
  if !cs.isEmpty ∧ cs.all Char.isDigit then some (digitsValue cs) else none

/-- The number that the value of an option writes, within bounds, or a complaint. -/
def boundedNumber (what : String) (least most : Int) (text : Octets) : Except Octets Int :=
  let body := text.dropWhile Char.isWhitespace
  let (isNegative, digits) := match body with
    | '-' :: rest => (true, rest)
    | '+' :: rest => (false, rest)
    | rest => (false, rest)
  let complaint := (what ++ ": ").toList ++ quotedText text
  match natNumber? digits with
  | none => .error complaint
  | some n =>
    let n : Int := if isNegative then -n else n
    if least ≤ n ∧ n ≤ most then .ok n
    else if 2 ^ 30 ≤ n.natAbs then
      .error (complaint ++ ": Value too large for defined data type".toList)
    else .error (complaint ++ ": Numerical result out of range".toList)

/-- A text at the right end of a field. -/
def padLeft (width : Nat) (text : Octets) : Octets := List.replicate (width - text.length) ' ' ++ text

/-- A text at the left end of a field. -/
def padRight (width : Nat) (text : Octets) : Octets := text ++ List.replicate (width - text.length) ' '

/-- A number as text. -/
def natText (n : Nat) : Octets := (toString n).toList

/-- A number as text. -/
def intText (n : Int) : Octets := (toString n).toList

end Foreman.Shell
