import Foreman.Shell.Records.Fields
import Foreman.Shell.Records.Table
import Foreman.Shell.Streams

/-!
# `Foreman.Shell.Records.Machine` — a program on its way

Variables have places: those that all functions share come first, and those of the functions in progress
follow. A parameter for which a variable was given that nothing is known about is a link to that variable,
so that it can still turn out to be an array.

## Contents
- **`Machine`**: what a program has done so far; **`Run`**: its steps, which may be left with an **`Escape`**.
- **Streams**: **`Feed`**, **`Sink`**; `flushAll`.
- **Faults**: `stopWith`, `runtimeFault`.
- **Variables**: `readVariable`, `assignVariable`, `tableOf`.
- **Fields**: `readField`, `assignField`, `fieldCount`, `assignFieldCount`.
-/

namespace Foreman.Shell.Records

/-! ## Machines -/

/-- What is at the place of a variable. -/
inductive Slot where
  | unset
  | value (c : Cell)
  | table (number : Nat)
  | link (place : Nat)

instance : Inhabited Slot := ⟨.unset⟩

/-- What lines come from. -/
structure Feed where
  descriptor : Nat
  /-- What has been read, but not been used. -/
  rest : Octets := []
  isOver : Bool := false
  /-- The status of the command that the lines come from, and when it ends. -/
  status : Nat := 0
  ends : Nat := 0

/-- What output goes to. -/
structure Sink where
  /-- The descriptor, unless it is a command, which gets all output at its end. -/
  descriptor : Nat
  isCommand : Bool := false
  /-- What has not been written yet, the latest first, and how much it is. -/
  waiting : List Octets := []
  size : Nat := 0
  /-- When it was opened. -/
  began : Nat := 0

/-- A program on its way. -/
structure Machine where
  /-- The name under which the program is run, for messages. -/
  name : String
  program : Program
  slots : Array Slot
  /-- Where the variables of the function in progress begin. -/
  base : Nat
  tables : Array Table := #[]
  record : Cell := .text []
  fields : Array Cell := #[]
  /-- Whether the fields are those of the record. -/
  isSplit : Bool := true
  separator : Separator := .blanks
  border : Border := .single '\n'
  /-- For each rule with two expressions, whether it has found the first one. -/
  isWithin : Array Bool
  /-- The input, and the number of the argument that is read next. -/
  input : Option Feed := none
  nextArgument : Nat := 1
  /-- Whether an argument was a file, and whether all input has been read. -/
  hasFile : Bool := false
  isInputOver : Bool := false
  /-- The files and commands that lines come from, by their names. -/
  feeds : List (Bool × Octets × Feed) := []
  /-- The output and its complaints, and the files and commands that output goes to, by their names. -/
  output : Sink := { descriptor := 1 }
  sinks : List (Octets × Sink) := []
  /-- The next descriptor. -/
  nextDescriptor : Nat := 50
  /-- What is pending of expressions around the present one. -/
  pending : Nat := 0
  /-- How many calls are in progress. -/
  calls : Nat := 0
  status : Nat := 0
  seed : Cell := .number (.zero false)
  random : Nat := 1

/-- How a statement leaves the statements around it. -/
inductive Escape where
  | breaks
  | continues
  | next
  | nextFile
  | exits
  | returns (c : Cell)
  /-- The program ends at once. -/
  | stops

/-- A step of a program. -/
abbrev Run (α : Type) : Type := ExceptT Escape (StateT Machine Act) α

/-- A step of the process that runs the program. -/
def doing {α : Type} (act : Act α) : Run α := fun m => do return (.ok (← act), m)

/-! ## Output -/

/-- How much output is gathered before it is written. -/
def outputSize : Nat := 4096

/-- Writes what has been gathered: all of it, or whole blocks. -/
def Sink.flush (isAll : Bool) (s : Sink) : Act (Option WriteFault × Sink) := do
  if s.isCommand ∨ s.size = 0 then return (none, s)
  else
    let text := s.waiting.reverse.flatten
    let n := if isAll then s.size else s.size - s.size % outputSize
    let rest := text.drop n
    match ← writeTo s.descriptor (text.take n) with
    | some .broken =>
      if ← Act.read fun t => t.ignores 13 then return (some .broken, { s with waiting := [], size := 0 })
      else .leave (.killed 13)
    | fault =>
      return (fault, { s with waiting := if rest.isEmpty then [] else [rest], size := rest.length })

/-- Writes everything that has been gathered. -/
def flushAll : Run (Option WriteFault) := do
  let (fault, output) ← doing ((← get).output.flush true)
  modify fun m => { m with output }
  let sinks ← (← get).sinks.mapM fun (name, s) => do return (name, (← doing (s.flush true)).2)
  modify fun m => { m with sinks }
  return fault

/-! ## Faults -/

/-- Ends the program with a complaint. -/
def stopWith {α : Type} (text : Octets) : Run α := do
  let name := (← get).name
  doing (write 2 ((name ++ ": ").toList ++ text ++ ['\n']))
  modify fun m => { m with status := 2 }
  throw .stops

/-- Ends the program because output cannot be written. -/
def outputFault {α : Type} (fault : WriteFault) : Run α :=
  stopWith ("unexpected write error (" ++ fault.text ++ ")").toList

/-- The value at a shared place. -/
def Machine.valueAt (m : Machine) (place : Nat) : Cell :=
  match m.slots[place]? with
  | some (.value c) => c
  | _ => .unset

/-- The text of a value for a message. -/
def shownCell (c : Cell) : Octets := (c.text? plainFormat).getD []

/-- The format of numbers that a variable has. -/
def Machine.formatAt (m : Machine) (place : Nat) : Octets :=
  match m.valueAt place with
  | .text t | .input t => t
  | _ => plainFormat

/-- The place of a variable. -/
def Machine.placeOf (m : Machine) : VariableId → Nat
  | .shared n => n
  | .own n => m.base + n

/-- Ends the program with a complaint about what it does. -/
def runtimeFault {α : Type} (text : Octets) : Run α := do
  let m ← get
  let value (v : VariableId) : Octets := shownCell (m.valueAt (m.placeOf v))
  stopWith ("run time error: ".toList ++ text ++ "\n\tFILENAME=\"".toList ++ value .fileName ++
    "\" FNR=".toList ++ value .fileRecordNumber ++ " NR=".toList ++ value .recordNumber)

/-- Ends the program with a complaint about an expression to be matched. -/
def patternFault {α : Type} (fault : PatternFault) (text : Octets) : Run α :=
  runtimeFault (("regular expression compile failed (" ++ fault.text ++ ")\n").toList ++ text)

/-! ## Texts -/

/-- The text of a value. -/
def textOf (c : Cell) : Run Octets := do
  match c with
  | .text t | .input t => return t
  | c =>
    let m ← get
    let format := m.formatAt (m.placeOf .conversionFormat)
    match c.text? format with
    | some t => return t
    | none => runtimeFault ("illegal format assigned to CONVFMT: ".toList ++ format)

/-- The text of a value that is printed. -/
def printedText (c : Cell) : Run Octets := do
  match c with
  | .text t | .input t => return t
  | c =>
    let m ← get
    let format := m.formatAt (m.placeOf .outputFormat)
    match c.text? format with
    | some t => return t
    | none => runtimeFault ("illegal format assigned to OFMT: ".toList ++ format)

/-! ## Arrays -/

/-- The number of the array at a place. A variable that has not been used becomes one. -/
def tableAt : Nat → Nat → Run Nat
  | 0, _ => return 0
  | fuel + 1, place => do
    match (← get).slots[place]? with
    | some (.table n) => return n
    | some (.link other) =>
      let n ← tableAt fuel other
      modify fun m => { m with slots := m.slots.setIfInBounds place (.table n) }
      return n
    | _ =>
      let n := (← get).tables.size
      modify fun m =>
        { m with tables := m.tables.push {}, slots := m.slots.setIfInBounds place (.table n) }
      return n

/-- The number of the array of a variable. -/
def tableOf (v : VariableId) : Run Nat := do
  let m ← get
  let place := m.placeOf v
  tableAt (m.slots.size + 1) place

/-- Changes an array. -/
def changeTable (n : Nat) (f : Table → Table) : Run Unit :=
  modify fun m => { m with tables := m.tables.modify n f }

/-- An array. -/
def readTable (n : Nat) : Run Table := do return (← get).tables.getD n {}

/-! ## Records and fields -/

/-- Makes a text the record. -/
def setRecord (t : Octets) : Run Unit := modify fun m => { m with record := .input t, isSplit := false }

/-- Splits the record into fields, unless that has been done. -/
def splitRecord : Run Unit := do
  if !(← get).isSplit then
    let t ← textOf (← get).record
    modify fun m => { m with fields := ((m.separator.split t).map Cell.input).toArray, isSplit := true }

/-- Makes the record out of the fields. -/
def joinFields : Run Unit := do
  let texts ← (← get).fields.toList.mapM textOf
  let m ← get
  let separator ← textOf (m.valueAt (m.placeOf .outputFieldSeparator))
  modify fun m => { m with record := .input (separator.intercalate texts) }

/-- The number of fields. -/
def fieldCount : Run Nat := do
  splitRecord
  return (← get).fields.size

/-- The value of a field; number zero is the record. -/
def readField (n : Nat) : Run Cell := do
  if n = 0 then return (← get).record
  else
    splitRecord
    return (← get).fields.getD (n - 1) (.text [])

/-- Gives the record a number of fields. -/
def resizeFields (n : Nat) : Run Unit := modify fun m =>
  { m with fields := m.fields.take n ++ Array.replicate (n - m.fields.size) (.text []) }

/-- Assigns to a field. -/
def assignField (n : Nat) (c : Cell) : Run Unit := do
  if n = 0 then setRecord (← textOf c)
  else
    splitRecord
    if (← get).fields.size < n then resizeFields n
    modify fun m => { m with fields := m.fields.setIfInBounds (n - 1) c }
    joinFields

/-- Changes the number of fields. -/
def assignFieldCount (c : Cell) : Run Unit := do
  let n := c.toNumber.wholePart
  if n < 0 then runtimeFault "negative value assigned to NF".toList
  splitRecord
  resizeFields n.toNat
  joinFields

/-! ## Variables -/

/-- The value of a variable. -/
def readVariable (v : VariableId) : Run Cell := do
  let m ← get
  return m.valueAt (m.placeOf v)

/-- Assigns to a variable. What stands between fields and records takes effect at once. -/
def assignVariable (v : VariableId) (c : Cell) : Run Unit := do
  if v = .fieldSeparator then
    splitRecord
    let t ← textOf c
    match separatorOf t with
    | .ok separator => modify fun m => { m with separator }
    | .error fault => patternFault fault t
  else if v = .recordSeparator then
    let t ← textOf c
    match borderOf t with
    | .ok border => modify fun m => { m with border }
    | .error fault => patternFault fault t
  modify fun m => { m with slots := m.slots.setIfInBounds (m.placeOf v) (.value c) }

/-- Sets a variable to a number. -/
def countVariable (v : VariableId) (n : Nat) : Run Unit := assignVariable v (.ofNat n)

end Foreman.Shell.Records
