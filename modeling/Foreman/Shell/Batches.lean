import Foreman.Shell.Launcher

/-!
# `Foreman.Shell.Batches` — commands for the words of an input

Words of the input are gathered until a command has as many as it may have, or as many lines; or every line takes
the place of a mark in a command.

## Contents
- **Words**: **`WordEvent`**; `wordEvents`, for text with quotes, and `itemEvents`, for items between delimiters.
- **Commands**: **`Batching`**; `Batching.plan`, the commands for words, and what goes wrong after them.
- **Options**: **`BatchOptions`**, `BatchOptions.take`.
- `xargs`.
-/

namespace Foreman.Shell.Batches

/-! ## Words -/

/-- What is found in an input of words. -/
inductive WordEvent where
  | word (text : Octets)
  /-- The end of a line that counts. -/
  | line
  /-- The end of words that belong together. -/
  | pause
  /-- Something to be said. -/
  | remark (text : Octets)
  /-- Something for which nothing more is read. -/
  | fault (text : Octets)

/-- Where a reader of words is. -/
inductive Place where
  | gap
  | plain
  | quote (mark : Char)
  | escape
  deriving DecidableEq

/-- How words are read. -/
structure WordRules where
  /-- Whether a line is one word. -/
  isByLine : Bool := false
  /-- The word that ends the input. -/
  ending? : Option Octets := none
  /-- How many characters a word has at most. -/
  widest : Nat

/-- What a reader of words has read. -/
structure WordState where
  place : Place := .gap
  /-- The characters of the present word, the latest first. -/
  text : Octets := []
  /-- The character before. -/
  before : Option Char := none
  /-- Whether no word came before the present one among those that belong together. -/
  isFirst : Bool := true
  hasRemarked : Bool := false
  /-- What was found, the latest first. -/
  found : List WordEvent := []

/-- The complaint about a quote without another one. -/
def unmatchedQuote (mark : Char) : Octets :=
  "unmatched ".toList ++ (if mark = '"' then "double".toList else "single".toList) ++
    " quote; by default quotes are special to xargs unless you use the -0 option".toList

/-- The remark on a character that no argument can have. -/
def nullRemark : Octets :=
  ("WARNING: a NUL character occurred in the input.  It cannot be passed through in the argument list.  " ++
    "Did you mean to use the --null option?").toList

/-- The present word. -/
def WordState.word (w : WordState) : Octets := (w.text.reverse).takeWhile (· ≠ '\x00')

/-- What was found when nothing more is read. -/
def WordState.closed (w : WordState) (more : List WordEvent) : List WordEvent := w.found.reverse ++ more

/-- What is found when a word ends the input. -/
def WordState.ended (w : WordState) : List WordEvent := w.closed (if w.isFirst then [] else [.pause])

/-- Reads words of a text. -/
def wordEvents (r : WordRules) (w : WordState) : Octets → List WordEvent
  | [] =>
    if w.text.isEmpty then w.closed []
    else
      match w.place with
      | .quote mark => w.closed [.fault (unmatchedQuote mark)]
      | _ => if w.isFirst ∧ r.ending? = some w.word then w.closed [] else w.closed [.word w.word, .pause]
  | c :: rest =>
    let w' := { w with before := some c }
    let store : List WordEvent :=
      let isNew := c = '\x00' && !w.hasRemarked
      let w' := { w' with
        text := c :: w.text
        hasRemarked := w.hasRemarked || c = '\x00'
        found := if isNew then .remark nullRemark :: w.found else w.found
        place := match w.place with
          | .quote mark => .quote mark
          | _ => .plain }
      if r.widest ≤ w.text.length then w.closed [.fault "argument line too long".toList]
      else wordEvents r w' rest
    let plain : List WordEvent :=
      if c = '\n' then
        let found := if w.before = some ' ' ∨ w.before = some '\t' then w.found else .line :: w.found
        if r.ending? = some w.word then { w with found }.ended
        else
          wordEvents r { found := .pause :: .word w.word :: found, hasRemarked := w.hasRemarked } rest
      else if !r.isByLine ∧ (c = ' ' ∨ c = '\t') then
        if r.ending? = some w.word then w.ended
        else
          wordEvents r { w' with place := .gap, text := [], isFirst := false, found := .word w.word :: w.found } rest
      else if c = '\\' then wordEvents r { w' with place := .escape } rest
      else if c = '\'' ∨ c = '"' then wordEvents r { w' with place := .quote c } rest
      else store
    match w.place with
    | .gap => if c.isWhitespace ∨ c = '\x0b' ∨ c = '\x0c' then wordEvents r w' rest else plain
    | .plain => plain
    | .quote mark =>
      if c = '\n' then w.closed [.fault (unmatchedQuote mark)]
      else if c = mark then wordEvents r { w' with place := .plain } rest
      else store
    | .escape => store

/-- Reads items between delimiters. -/
def itemEvents (delimiter : Char) (widest : Nat) (input : Octets) : List WordEvent :=
  let items := partsAt delimiter input
  let isOpen := items.getLast? ≠ some []
  let last := items.length - 1
  (items.zipIdx).flatMap fun (item, k) =>
    if widest < item.length then [.fault "argument line too long".toList]
    else
      let word := WordEvent.word (item.takeWhile (· ≠ '\x00'))
      if k < last then [.line, word, .pause] else if isOpen then [word, .pause] else []

/-! ## Commands -/

/-- How commands are made of words. -/
structure Batching where
  /-- The words of every command. -/
  command : List Octets
  /-- What stands for a word in a command. -/
  mark? : Option Octets := none
  mostWords : Option Nat := none
  mostLines : Option Nat := none
  /-- How many characters a command has at most. -/
  room : Nat := 131072
  /-- Whether a command that is too long is a fault. -/
  isStrict : Bool := false
  /-- Whether there is a command if there is no word. -/
  runsAlways : Bool := true

/-- What is done with words. -/
inductive BatchStep where
  | run (command : List Octets)
  | remark (text : Octets)

/-- Words on their way to a command. -/
structure Batch where
  /-- The words of the present command, the latest first. -/
  words : List Octets := []
  size : Nat
  lines : Nat := 0
  /-- What is done, the latest first. -/
  steps : List BatchStep := []

/-- How much room words take. -/
def roomOf (words : List Octets) : Nat := sumOf (fun w => w.length + 1) words

namespace Batching

/-- The batch with which a command begins. -/
def start (b : Batching) : Batch := { size := roomOf b.command }

/-- Makes a command of a batch. -/
def flush (b : Batching) (x : Batch) : Batch :=
  { b.start with lines := x.lines, steps := .run (b.command ++ x.words.reverse) :: x.steps }

/-- The complaint about a word for which there is no room in any command. -/
def singleFault : Octets := "cannot fit single argument within argument list size limit".toList

/-- The complaint about a command that is too long. -/
def listFault : Octets := "argument list too long".toList

/-- A word of a command with a word in the place of each mark. -/
def replaced (room : Nat) (mark word : Octets) : Nat → Octets → Octets → Except Octets Octets
  | 0, _, _ => .error "command too long".toList
  | fuel + 1, acc, cs =>
    if room ≤ acc.length then .error "command too long".toList
    else
      match cs with
      | [] => .ok acc.reverse
      | c :: rest =>
        if mark.isEmpty then replaced room mark word fuel (word.reverse ++ acc) cs
        else if mark.isPrefixOf cs then replaced room mark word fuel (word.reverse ++ acc) (cs.drop mark.length)
        else replaced room mark word fuel (c :: acc) rest

/-- The command in which a word takes the place of the mark. The first word of a command stays as it is. -/
def substitute (b : Batching) (mark word : Octets) : Except Octets (List Octets) :=
  match b.command with
  | [] => .ok []
  | name :: rest => do
    if b.room < name.length + 1 then throw singleFault
    let step (command : List Octets) (part : Octets) : Except Octets (List Octets) := do
      let part ← if mark.isEmpty ∧ part.isEmpty then pure word
        else replaced (b.room - 1) mark word (b.room + part.length) [] part
      if b.room < roomOf command + part.length + 1 then
        throw (if command.length = 1 then singleFault else listFault)
      return command ++ [part]
    rest.foldlM step [name]

/-- Adds a word to a batch. -/
def push (b : Batching) (x : Batch) (word : Octets) : Except (Batch × Octets) Batch := do
  let isLong := b.room < x.size + word.length + 1
  if isLong ∧ x.words.isEmpty then throw (x, singleFault)
  if isLong ∧ b.isStrict ∧ (b.mostWords.isSome ∨ b.mostLines.isSome) then throw (x, listFault)
  let x := if isLong then b.flush x else x
  let x := { x with words := word :: x.words, size := x.size + word.length + 1 }
  return if b.mostWords = some x.words.length then b.flush x else x

/-- What an event leads to. -/
def take (b : Batching) (x : Batch) (event : WordEvent) : Except (Batch × Octets) Batch :=
  match event with
  | .word word =>
    match b.mark? with
    | none => b.push x word
    | some mark =>
      match b.substitute mark word with
      | .ok command => .ok { x with steps := .run command :: x.steps }
      | .error text => .error (x, text)
  | .line => .ok { x with lines := x.lines + 1 }
  | .pause =>
    .ok (if b.mostLines.any (· ≤ x.lines) then { b.flush x with lines := 0 } else x)
  | .remark text => .ok { x with steps := .remark text :: x.steps }
  | .fault text =>
    .error (if b.mark?.isNone ∧ !x.words.isEmpty ∧ !b.isStrict then b.flush x else x, text)

/-- What is done for the events of an input, and what goes wrong in the end. -/
def plan (b : Batching) (events : List WordEvent) : List BatchStep × Option Octets :=
  if b.mark?.isNone ∧ b.room < roomOf b.command then ([], some singleFault)
  else
    match events.foldlM b.take b.start with
    | .error (x, text) => (x.steps.reverse, some text)
    | .ok x =>
      let isRun (step : BatchStep) : Bool := match step with
        | .run _ => true
        | .remark _ => false
      let isLeft := b.mark?.isNone && (!x.words.isEmpty || (b.runsAlways && !x.steps.any isRun))
      ((if isLeft then b.flush x else x).steps.reverse, none)

end Batching

/-! ## Options -/

/-- What the options ask for. -/
structure BatchOptions where
  mark? : Option Octets := none
  mostWords : Option Nat := none
  mostLines : Option Nat := none
  room : Nat := 131072
  ending? : Option Octets := none
  delimiter? : Option Char := none
  isStrict : Bool := false
  /-- What is to be said about the options, the latest first. -/
  remarks : List Octets := []

/-- The number in the value of an option. -/
def numberIn? (text : Octets) : Option Int :=
  match text.dropWhile Char.isWhitespace with
  | '-' :: digits => (numeral? 10 digits).map fun n => -n
  | '+' :: digits => (numeral? 10 digits).map Int.ofNat
  | digits => (numeral? 10 digits).map Int.ofNat

/-- The delimiter that a text stands for. -/
def delimiterIn (text : Octets) : Except Octets Char :=
  let invalid := "Invalid escape sequence ".toList ++ text ++ " in input delimiter specification".toList
  let code (base most : Nat) (shown : String) (digits : Octets) : Except Octets Char :=
    let own := digits.takeWhile fun c => (digit? base c).isSome
    let value := (numeral? base own).getD 0
    let rest := digits.drop own.length
    if most < value then throw (invalid ++ ("; character values must not exceed " ++ shown ++ ".").toList)
    else if !rest.isEmpty then
      throw (invalid ++ "; trailing characters ".toList ++ rest ++ " not recognised.".toList)
    else pure (Char.ofNat value)
  match text with
  | [c] => .ok c
  | '\\' :: c :: rest =>
    match c with
    | 'x' => code 16 255 "ff" rest
    | 'e' => .error (invalid ++ ['.'])
    | c =>
      if c.isDigit then code 8 255 "377" (c :: rest)
      else
        match letterEscape? c with
        | some d => .ok d
        | none => .error (invalid ++ ['.'])
  | text =>
    .error ("Invalid input delimiter specification ".toList ++ text ++
      ": the delimiter must be either a single character or an escape sequence starting with \\.".toList)

namespace BatchOptions

/-- Notes that an option takes back another one. -/
def overrides (o : BatchOptions) (option other : String) : BatchOptions :=
  { o with
    remarks := ("warning: options " ++ other ++ " and " ++ option ++
      " are mutually exclusive, ignoring previous " ++ other ++ " value").toList :: o.remarks }

/-- The number of an option that is at least some number, or a complaint. -/
def numberOf (letter : String) (least : Int) (text : Octets) : Except Octets Int :=
  let option : Octets := (" for -" ++ letter ++ " option").toList
  match numberIn? text with
  | none => .error ("invalid number \"".toList ++ text ++ ['"'] ++ option)
  | some n =>
    if n < least then .error ("value ".toList ++ text ++ option ++ (" should be >= " ++ toString least).toList)
    else .ok n

/-- Takes an option. The complaint is one about the usage, if it is marked so. -/
def take (o : BatchOptions) (option : String × Octets) : Except (Bool × List Octets) BatchOptions :=
  let (key, value) := option
  let usage {α : Type} (r : Except Octets α) : Except (Bool × List Octets) α :=
    r.mapError fun text => (true, (text :: o.remarks).reverse)
  match key with
  | "I" | "i" =>
    let o := if o.mostLines.isSome then { o.overrides "--replace/-I/-i" "--max-lines" with mostLines := none } else o
    let o := if o.mostWords.isSome then { o.overrides "--replace/-I/-i" "--max-args" with mostWords := none } else o
    .ok { o with mark? := some (if key = "i" ∧ value.isEmpty then ['\x7b', '\x7d'] else value) }
  | "L" | "l" => do
    let n ← if key = "l" ∧ value.isEmpty then pure 1 else usage (numberOf key 1 value)
    let name := if key = "L" then "-L" else "--max-lines/-l"
    let o := if o.mostWords.isSome then { o.overrides name "--max-args" with mostWords := none } else o
    let o := if o.mark?.isSome then { o.overrides name "--replace" with mark? := none } else o
    return { o with mostLines := some n.toNat }
  | "n" => do
    let n ← usage (numberOf key 1 value)
    let o := if o.mostLines.isSome then { o.overrides "--max-args/-n" "--max-lines" with mostLines := none } else o
    if o.mark?.isSome then
      if n = 1 then return { o with mostWords := none }
      return { o.overrides "--max-args/-n" "--replace" with mark? := none, mostWords := some n.toNat }
    return { o with mostWords := some n.toNat }
  | "P" => do
    let _ ← usage (numberOf key 0 value)
    return o
  | "s" =>
    match numberIn? value, numberOf key 1 value with
    | some _, .error text => .ok { o with room := 1, remarks := text :: o.remarks }
    | _, n => do
      let n ← usage n
      return { o with room := min n.toNat 131072 }
  | "E" | "e" => .ok { o with ending? := if value.isEmpty then none else some value }
  | "0" => .ok { o with delimiter? := some '\x00' }
  | "d" =>
    match delimiterIn value with
    | .ok c => .ok { o with delimiter? := some c }
    | .error text => .error (false, (text :: o.remarks).reverse)
  | "x" => .ok { o with isStrict := true }
  | _ => .ok o

end BatchOptions

/-- The options that are known. -/
def grammar : Grammar :=
  { letters := "0a:d:E:I:L:n:oP:prts:xi::l::e::"
    words := [("null", "0", .nothing), ("arg-file", "a", .something), ("delimiter", "d", .something),
      ("eof", "e", .perhaps), ("replace", "i", .perhaps), ("max-lines", "l", .perhaps),
      ("max-args", "n", .something), ("open-tty", "o", .nothing), ("interactive", "p", .nothing),
      ("no-run-if-empty", "r", .nothing), ("max-chars", "s", .something), ("verbose", "t", .nothing),
      ("show-limits", "limits", .nothing), ("exit", "x", .nothing), ("max-procs", "P", .something),
      ("process-slot-var", "slot", .something)]
    isStrict := true }

/-! ## Running -/

/-- A command as it is shown. -/
def shownCommand (command : List Octets) : Octets :=
  [' '].intercalate (command.map ((Quotation.shell false true).apply []))

/-- Runs a command. The result is a status with which everything ends, if it does, and the status otherwise. -/
def runOne (launch : Launch) (name : String) (command : List Octets) : Act (Option Nat × Nat) := do
  let shown := command.headD []
  match ← launch command with
  | .ended (some n) =>
    blameProgram name 125 (shown ++ (": terminated by signal " ++ toString n).toList)
    return (some 125, 125)
  | .ended none =>
    let status ← Act.read fun s => s.status
    if status = 255 then
      blameProgram name 124 (shown ++ ": exited with status 255; aborting".toList)
      return (some 124, 124)
    return (none, if status = 0 then 0 else 123)
  | .notFound =>
    let isForbidden := (← Act.read fun s => s.status) = 126
    let status := if isForbidden then 126 else 127
    blameProgram name status
      (shown ++ (if isForbidden then ": Permission denied" else ": No such file or directory").toList)
    return (some status, status)

/-- Runs commands one after the other. A fault is reported when the last command has begun. The result
    is the worst status. -/
def runSteps (launch : Launch) (name : String) (isShown asks : Bool) (fault : Option Octets) :
    List BatchStep → Nat → Act Nat
  | [], worst =>
    match fault with
    | some text => do
      blameProgram name 1 text
      return 1
    | none => pure worst
  | .remark text :: rest, worst => do
    blameProgram name 0 text
    runSteps launch name isShown asks fault rest worst
  | .run command :: rest, worst => do
    if isShown then write 2 (shownCommand command ++ (if asks then [] else ['\n']))
    if asks then
      blameProgram name 1 "failed to open /dev/tty for reading: No such device or address".toList
      return 1
    match rest, fault with
    | [], some text =>
      blameProgram name 1 text
      let _ ← runOne launch name command
      return 1
    | rest, _ =>
      match ← runOne launch name command with
      | (some status, _) => return status
      | (none, status) => runSteps launch name isShown asks fault rest (max worst status)

/-- The input, from a file or from the process, if it can be read. -/
def inputOf (name : String) (source : Option Octets) : Act (Option Octets) := do
  let scene ← Act.read fun s => s.scene
  match source with
  | none =>
    takeInput { appetite := .everything }
    match ← Act.read fun s => (s.supplyOf 0).bind Supply.cut with
    | some cut => .leave (.stalls cut)
    | none => return some scene.input
  | some path =>
    match scene.readPath path with
    | .ok (data, _) => return some data
    | .error fault =>
      blameProgram name 1 ("Cannot open input file ".toList ++ quotedText path ++ ": ".toList ++ fault.text.toList)
      return none

/-- Runs commands for words of the input. -/
def xargs (launch : Launch) (name : String) (args : List Octets) : Act Unit := do
  match grammar.read args with
  | .error f => refuse name 1 f
  | .ok a =>
    match a.options.foldlM BatchOptions.take {} with
    | .error (isUsage, texts) =>
      (texts.dropLast).forM (blameProgram name 0)
      let last := texts.getLast?.getD []
      follow name (if isUsage then misuse 1 name last else faultOf 1 name last)
    | .ok o =>
      o.remarks.reverse.forM (blameProgram name 0)
      if o.delimiter?.isSome ∧ o.ending?.isSome then
        blameProgram name 0 "warning: the -E option has no effect if -0 or -d is used.\n".toList
      match ← inputOf name (a.value? "a") with
      | none => pure ()
      | some input =>
        let command := if a.operands.isEmpty then ["echo".toList] else a.operands
        let b : Batching :=
          { command, mark? := o.mark?, mostWords := o.mostWords, mostLines := o.mostLines, room := o.room
            isStrict := o.isStrict || o.mark?.isSome || o.mostLines.isSome, runsAlways := !a.has "r" }
        let widest := o.room - 1 - (if o.mark?.isSome then 0 else roomOf command)
        let events := match o.delimiter? with
          | some c => itemEvents c widest input
          | none => wordEvents { isByLine := o.mark?.isSome, ending? := o.ending?, widest } {} input
        let (steps, fault) := b.plan events
        let old ← Act.read id
        match a.value? "slot" with
        | some key =>
          let v : Variable := { value := some ['0'], isExported := true }
          .change fun s => { s with vars := s.vars.insert (String.ofList key) v }
        | none => pure ()
        if (a.value? "a").isNone then pointTo 0 (some (← newSource { parts := [], ends := 0 }))
        let act : Act Unit := do
          let asks := a.has "p"
          let worst ← runSteps launch name (a.has "t" || asks) asks fault steps 0
          setStatus worst
        act.andAlways fun s => { s with descriptors := old.descriptors, vars := old.vars }

end Foreman.Shell.Batches
