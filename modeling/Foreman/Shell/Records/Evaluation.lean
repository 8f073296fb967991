import Foreman.Shell.Records.Channel
import Foreman.Shell.Utility.Clock

/-!
# `Foreman.Shell.Records.Evaluation` — expressions and statements

## Contents
- **Targets**: **`Target`**, `readTarget`, `assignTarget`.
- **Functions of the language**: `callBuiltin`, `partOf`, `placeIn`.
- **Loops**: `repeatRun`, `loopRound`.
- **Expressions and statements**: `eval`, `resolve`, `call`, `exec`.
-/

namespace Foreman.Shell.Records

/-- Ends a program that takes too long. -/
def tooLate {α : Type} : Run α := doing (.leave (.stalls .late))

/-- How much may be pending of expressions around the present one. -/
def pendingLimit : Nat := 1006

/-- How many calls may be in progress. -/
def callLimit : Nat := 2500

/-- The number of the last field that can be handled in time. -/
def fieldLimit : Nat := 1000000

/-- Runs a step while something is pending. -/
def besides {α : Type} (n : Nat) (act : Run α) : Run α := do
  modify fun m => { m with pending := m.pending + n }
  let a ← act
  modify fun m => { m with pending := m.pending - n }
  return a

/-! ## Targets -/

/-- What is assigned to. -/
inductive Target where
  | variable (v : VariableId)
  | element (table : Nat) (key : Key)
  | field (n : Nat)
  | fieldCount

/-- The value of a target. -/
def readTarget : Target → Run Cell
  | .variable v => readVariable v
  | .element n key => do
    changeTable n fun t => t.use true key
    return (← readTable n).value key
  | .field n => readField n
  | .fieldCount => do return .ofNat (← fieldCount)

/-- Assigns to a target. -/
def assignTarget (target : Target) (c : Cell) : Run Unit :=
  match target with
  | .variable v => assignVariable v c
  | .element n key => changeTable n fun t => (t.use true key).set key c
  | .field n => assignField n c
  | .fieldCount => assignFieldCount c

/-! ## Functions of the language -/

/-- The place of a text in another one, from one on; zero if there is none. -/
def placeIn (part : Octets) : Nat → Octets → Nat
  | n, [] => if part.isEmpty then n else 0
  | n, c :: cs => if part.isPrefixOf (c :: cs) then n else placeIn part (n + 1) cs

/-- A part of a text, from a place on and of some length. A place before the text makes the part longer. -/
def partOf (t : Octets) (place : Int) (length : Option Int) : Octets :=
  let length := length.getD t.length
  let (first, length) : Int × Int :=
    if place < 0 then (1, shortWord (length - place)) else if place = 0 then (1, length) else (place, length)
  if length ≤ 0 then []
  else (t.drop (first - 1).toNat).take length.toNat

/-- The seconds of a date whose parts may be too large. -/
def momentOf (t : Octets) : Int :=
  let words := (partsAt ' ' t).filter (!·.isEmpty)
  let numbers := words.map fun w => (readDouble w).1.wholePart
  match numbers with
  | y :: mo :: d :: h :: mi :: s :: _ =>
    let year := y + (mo - 1) / 12
    let month := ((mo - 1) % 12).toNat + 1
    Utility.Civil.seconds { year, month, day := 1 } + (d - 1) * 86400 + h * 3600 + mi * 60 + s
  | _ => -1

/-- The next random number. -/
def nextRandom (n : Nat) : Nat := (6364136223846793005 * n + 1442695040888963407) % 2 ^ 64

/-- What comes of a format with values, and what is reported if that is not all. -/
def fill (who : String) (args : List Cell) : Run (Octets × Option Octets) := do
  let format ← textOf (args.headD .unset)
  let m ← get
  let (text, fault) := fillPieces (m.formatAt (m.placeOf .conversionFormat)) 1 []
    (readPieces (format.length + 1) format) args.tail
  return (text, fault.map fun fault => fault.text who format)

/-- The present time. -/
def presentSeconds : Run Nat := do
  return (← doing (Act.read fun s => s.world.files.now)) / 1000000000

/-- Calls a function of the language. -/
def callBuiltin (launch : Launch) (f : Builtin) (args : List Cell) : Run Cell := do
  let cell (n : Nat) : Cell := args.getD n .unset
  let x := (cell 0).toNumber
  let numeric (g : Float → Float) : Run Cell := return .number (machineFunction g x)
  match f with
  | .index =>
    let t ← textOf (cell 0)
    let part ← textOf (cell 1)
    return .ofNat (placeIn part 1 t)
  | .substr =>
    let t ← textOf (cell 0)
    let word (c : Cell) : Int := shortWord (signedWord c.toNumber)
    return .text (partOf t (word (cell 1)) (args[2]?.map word))
  | .sprintf =>
    match ← fill "sprintf" args with
    | (_, some fault) => runtimeFault fault
    | (text, none) => return .text text
  | .sine => numeric Float.sin
  | .cosine => numeric Float.cos
  | .arctangent => return .number (machineFunction₂ Float.atan2 x (cell 1).toNumber)
  | .exp => numeric Float.exp
  | .log => numeric Float.log
  | .sqrt => numeric Float.sqrt
  | .int => return .number x.truncated
  | .random =>
    let n := nextRandom (← get).random
    modify fun m => { m with random := n }
    return .number (.ofRatio false (n / 2 ^ 11) (2 ^ 53))
  | .seed =>
    let old := (← get).seed
    let seed ← match args with
      | c :: _ => pure c
      | [] => do pure (Cell.ofNat (← presentSeconds))
    modify fun m => { m with seed, random := seed.toNumber.bits.toNat }
    return old
  | .lower => return .text ((← textOf (cell 0)).map Char.toLower)
  | .upper => return .text ((← textOf (cell 0)).map Char.toUpper)
  | .time => return .ofNat (← presentSeconds)
  | .moment => return .ofInt (momentOf (← textOf (cell 0)))
  | .timeText =>
    let format ← if args.isEmpty then pure [] else textOf (cell 0)
    let seconds : Int ← match args[1]? with
      | some c => pure c.toNumber.wholePart
      | none => do pure (Int.ofNat (← presentSeconds))
    let format := if format.isEmpty then "%c".toList else format
    return .text (Utility.formatDate (seconds * 1000000000) format)
  | .close => return .ofInt (← closeChannel launch (← textOf (cell 0)))
  | .flush => return .ofInt (← flushChannel (← textOf (cell 0)))
  | .system =>
    let command ← textOf (cell 0)
    let _ ← flushAll
    match ← doing (launch ["sh".toList, "-c".toList, command]) with
    | .ended (some n) => return .ofNat (256 + n)
    | _ => return .ofNat (← doing (Act.read fun s => s.status))

/-! ## Loops -/

/-- Repeats a round as long as it asks for that. -/
def repeatRun (round : Run Bool) : Nat → Machine → State → Outcome (Except Escape Unit × Machine)
  | 0, _, s => .left (.stalls .late) s
  | n + 1, m, s =>
    match countStep s with
    | .left way t => .left way t
    | .done _ t =>
      match round m t with
      | .left way u => .left way u
      | .done (.ok true, m) u => repeatRun round n m u
      | .done (.ok false, m) u => .done (.ok (), m) u
      | .done (.error e, m) u => .done (.error e, m) u

/-- Repeats a round as long as it asks for that. -/
def repeating (round : Run Bool) : Run Unit := do
  let steps ← doing (Act.read fun s => s.world.steps)
  fun m s => repeatRun round (steps + 1) m s

/-- Runs the body of a loop, and tells whether the loop goes on. -/
def loopRound (body : Run Unit) : Run Bool := fun m => do
  match ← body m with
  | (.ok _, m) | (.error .continues, m) => return (.ok true, m)
  | (.error .breaks, m) => return (.ok false, m)
  | (.error e, m) => return (.error e, m)

/-! ## Expressions and statements -/

mutual

/-- The value of an expression. -/
def eval (launch : Launch) : Nat → Expr → Run Cell
  | 0, _ => tooLate
  | fuel + 1, e => do
    let truth (e : Expr) : Run Bool := do return (← eval launch fuel e).isTrue
    let text (e : Expr) : Run Octets := do textOf (← eval launch fuel e)
    match e with
    | .number x => return .number x
    | .text t => return .text t
    | .here r => return .ofBool (r.isIn false (← textOf (← readField 0)))
    | .read s => readTarget (← resolve launch fuel s)
    | .assign s op e =>
      let target ← resolve launch fuel s
      let value ← besides 1 (eval launch fuel e)
      let value ← match op with
        | none => pure value
        | some op => do pure (.number (op.apply (← readTarget target).toNumber value.toNumber))
      assignTarget target value
      return value
    | .step s isUp isBefore =>
      let target ← resolve launch fuel s
      let old := (← readTarget target).toNumber
      let new := (if isUp then Arithmetic.add else Arithmetic.sub).apply old (.ofNat 1)
      assignTarget target (.number new)
      return .number (if isBefore then new else old)
    | .not e => return .ofBool (!(← truth e))
    | .sign isNegative e =>
      let x := (← eval launch fuel e).toNumber
      return .number (if isNegative then x.neg else x)
    | .arithmetic op a b =>
      let x := (← eval launch fuel a).toNumber
      let y := (← besides 1 (eval launch fuel b)).toNumber
      return .number (op.apply x y)
    | .concat a b =>
      let x ← eval launch fuel a
      let y ← besides 1 (eval launch fuel b)
      return .text ((← textOf x) ++ (← textOf y))
    | .compare op a b =>
      let x ← eval launch fuel a
      let y ← besides 1 (eval launch fuel b)
      match x.number?, y.number? with
      | some x, some y => return .ofBool (op.holds (numberOrder x y))
      | _, _ => return .ofBool (op.holds (textOrder (← textOf x) (← textOf y)))
    | .fits isNegated a pattern =>
      let t ← text a
      let r ← regexOf launch fuel pattern
      return .ofBool (r.isIn false t != isNegated)
    | .and a b => if ← truth a then return .ofBool (← truth b) else return .ofBool false
    | .or a b => if ← truth a then return .ofBool true else return .ofBool (← truth b)
    | .choose test a b => if ← truth test then eval launch fuel a else eval launch fuel b
    | .has keys array =>
      let key ← keyOf launch fuel keys
      let n ← tableOf array
      changeTable n fun t => t.use false key
      return .ofBool ((← readTable n).has key)
    | .call f args => call launch fuel f args
    | .builtin f args => callBuiltin launch f (← evalAll launch fuel args)
    | .length e =>
      let array? : Option Nat ← match e with
        | .read (.variable v) => do
          let m ← get
          match m.slots[m.placeOf v]? with
          | some (.table n) => pure (some n)
          | _ => pure none
        | _ => pure none
      match array? with
      | some n => return .ofNat (← readTable n).size
      | none => return .ofNat (← text e).length
    | .replace isGlobal pattern replacement s =>
      let r ← regexOf launch fuel pattern
      let template ← text replacement
      let target ← resolve launch fuel s
      let (t, count) := substitute r template isGlobal (← textOf (← readTarget target))
      if count ≠ 0 then assignTarget target (.text t)
      return .ofNat count
    | .find e pattern =>
      let t ← text e
      let r ← regexOf launch fuel pattern
      let (place, length) : Int × Int := match r.findFrom? { text := t.toArray } 0 with
        | some m => (m.first + 1, m.last - m.first)
        | none => (0, -1)
      assignVariable .matchStart (.ofInt place)
      assignVariable .matchLength (.ofInt length)
      return .ofInt place
    | .split e array separator =>
      let t ← text e
      let n ← tableOf array
      let separator : Separator ← match separator with
        | none => do pure (← get).separator
        | some (.fixed r source) => pure (if source.isEmpty then .nothing else .pattern r)
        | some (.dynamic e) => do
          let source ← text e
          match separatorOf source with
          | .ok s => pure s
          | .error fault => patternFault fault source
      let pieces := separator.split t
      changeTable n fun _ => .ofPieces pieces
      return .ofNat pieces.length
    | .getLine source target =>
      let target ← match target with
        | some s => some <$> resolve launch fuel s
        | none => pure none
      let line ← match source with
        | .input => some <$> nextRecord 100000
        | .file e => do lineFrom launch false (← text e)
        | .command e => do lineFrom launch true (← text e)
      match line with
      | none => return .ofInt (-1)
      | some none => return .ofNat 0
      | some (some t) =>
        match target with
        | some target => assignTarget target (.input t)
        | none => setRecord t
        return .ofNat 1

/-- The values of expressions. -/
def evalAll (launch : Launch) : Nat → List Expr → Run (List Cell)
  | 0, _ => tooLate
  | _ + 1, [] => return []
  | fuel + 1, e :: rest => do
    let c ← eval launch fuel e
    return c :: (← besides 1 (evalAll launch fuel rest))

/-- The key that expressions stand for. -/
def keyOf (launch : Launch) : Nat → List Expr → Run Key
  | 0, _ => tooLate
  | fuel + 1, keys => do
    match ← evalAll launch fuel keys with
    | [c] =>
      let m ← get
      let format := m.formatAt (m.placeOf .conversionFormat)
      match Key.ofCell? format c with
      | some key => return key
      | none => return .text (← textOf c)
    | cells =>
      let separator ← textOf (← readVariable .keySeparator)
      return .text (separator.intercalate (← cells.mapM textOf))

/-- The target that a spot stands for. -/
def resolve (launch : Launch) : Nat → Spot → Run Target
  | 0, _ => tooLate
  | _ + 1, .variable v => return .variable v
  | fuel + 1, .element array keys => do
    let key ← keyOf launch fuel keys
    let n ← tableOf array
    changeTable n fun t => t.use true key
    return .element n key
  | fuel + 1, .field e => do
    let n := (← eval launch fuel e).toNumber.wholePart
    if n < 0 then runtimeFault ("negative field index $" ++ toString n).toList
    if fieldLimit < n then tooLate
    return .field n.toNat
  | _ + 1, .fieldCount => return .fieldCount

/-- The expression to be matched. -/
def regexOf (launch : Launch) : Nat → Matcher → Run Regex
  | 0, _ => tooLate
  | _ + 1, .fixed r _ => return r
  | fuel + 1, .dynamic e => do
    let source ← textOf (← eval launch fuel e)
    match readPattern source with
    | .ok r => return r
    | .error fault => patternFault fault source

/-- What parameters get. -/
def argumentSlots (launch : Launch) : Nat → List Expr → Run (List Slot)
  | 0, _ => tooLate
  | _ + 1, [] => return []
  | fuel + 1, e :: rest => do
    let slot : Slot ← match e with
      | .read (.variable v) => do
        let m ← get
        let place := m.placeOf v
        match m.slots.getD place .unset with
        | .unset => pure (.link place)
        | slot => pure slot
      | e => do pure (.value (← eval launch fuel e))
    return slot :: (← besides 1 (argumentSlots launch fuel rest))

/-- Calls a function of the program. -/
def call (launch : Launch) : Nat → Nat → List Expr → Run Cell
  | 0, _, _ => tooLate
  | fuel + 1, number, args => do
    let slots ← argumentSlots launch fuel args
    let m ← get
    match m.program.functions[number]? with
    | none => return .unset
    | some f =>
      let pending := m.pending
      let base := m.base
      let place := m.slots.size
      if pendingLimit < pending + f.parameters then
        let name := m.name
        doing (write 2 (name ++ ": program limit exceeded: eval stack size=1024\n").toList)
        modify fun m => { m with status := 2 }
        throw .stops
      if callLimit < m.calls then doing (.leave (.killed 11))
      modify fun m =>
        { m with
          slots := m.slots ++ (slots ++ List.replicate (f.parameters - slots.length) Slot.unset).toArray
          base := place
          calls := m.calls + 1
          pending := pending + f.parameters }
      let body : Run Unit := exec launch fuel f.body
      let value ← fun m => do
        match ← body m with
        | (.ok _, m) => return (.ok .unset, m)
        | (.error (.returns c), m) => return (.ok c, m)
        | (.error e, m) => return (.error e, m)
      modify fun m => { m with slots := m.slots.shrink place, base, pending, calls := m.calls - 1 }
      return value

/-- Runs a statement. -/
def exec (launch : Launch) : Nat → Statement → Run Unit
  | 0, _ => tooLate
  | fuel + 1, s => do
    let target? (target : Option (Direction × Expr)) : Run (Option (Direction × Octets)) := do
      match target with
      | none => return none
      | some (d, e) => return some (d, ← textOf (← eval launch fuel e))
    let truth (e : Expr) : Run Bool := do return (← eval launch fuel e).isTrue
    match s with
    | .block body => execAll launch fuel body
    | .expression e =>
      let _ ← eval launch fuel e
    | .print args target =>
      let texts ← if args.isEmpty then do pure [← textOf (← readField 0)]
        else do (← evalAll launch fuel args).mapM printedText
      let target ← target? target
      let separator ← textOf (← readVariable .outputFieldSeparator)
      let ending ← textOf (← readVariable .outputRecordSeparator)
      emit target (separator.intercalate texts ++ ending)
    | .printf args target =>
      let cells ← evalAll launch fuel args
      let target ← target? target
      let (text, fault) ← fill "printf" cells
      emit target text
      match fault with
      | some fault => runtimeFault fault
      | none => pure ()
    | .branch test a b =>
      if ← truth test then exec launch fuel a
      else
        match b with
        | some b => exec launch fuel b
        | none => pure ()
    | .loop test body =>
      repeating do
        if ← truth test then loopRound (exec launch fuel body) else return false
    | .loopAfter body test =>
      repeating do
        if ← loopRound (exec launch fuel body) then truth test else return false
    | .count start test step body =>
      match start with
      | some e =>
        let _ ← eval launch fuel e
      | none => pure ()
      repeating do
        let goes ← match test with
          | some e => truth e
          | none => pure true
        if !goes then return false
        else if ← loopRound (exec launch fuel body) then
          match step with
          | some e =>
            let _ ← eval launch fuel e
          | none => pure ()
          return true
        else return false
    | .each v array body =>
      let n ← tableOf array
      let (keys, table) := (← readTable n).keys
      changeTable n fun _ => table
      eachKey launch fuel v body keys
    | .breaks => throw .breaks
    | .continues => throw .continues
    | .next => throw .next
    | .nextFile => throw .nextFile
    | .exits e =>
      match e with
      | some e =>
        let n := (← eval launch fuel e).toNumber
        modify fun m => { m with status := (signedWord n % 256).toNat }
      | none => pure ()
      throw .exits
    | .returns e =>
      match e with
      | some e => throw (.returns (← eval launch fuel e))
      | none => throw (.returns .unset)
    | .delete array keys =>
      match keys with
      | some keys =>
        let key ← keyOf launch fuel keys
        let n ← tableOf array
        changeTable n fun t => t.erase key
      | none =>
        let n ← tableOf array
        changeTable n fun _ => {}

/-- Runs statements. -/
def execAll (launch : Launch) : Nat → List Statement → Run Unit
  | 0, _ => tooLate
  | _ + 1, [] => pure ()
  | fuel + 1, s :: rest => do
    exec launch fuel s
    execAll launch fuel rest

/-- Runs the body of a loop for each key. -/
def eachKey (launch : Launch) : Nat → VariableId → Statement → List Octets → Run Unit
  | 0, _, _, _ => tooLate
  | _ + 1, _, _, [] => pure ()
  | fuel + 1, v, body, key :: rest => do
    doing countStep
    assignVariable v (.text key)
    if ← loopRound (exec launch fuel body) then eachKey launch fuel v body rest

end

end Foreman.Shell.Records
