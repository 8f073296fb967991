import Foreman.Collection.Sum
import Foreman.Shell.Expansion
import Foreman.Shell.Format
import Foreman.Shell.Signal
import Foreman.Shell.Test

/-!
# `Foreman.Shell.Builtin` — commands that change the shell

## Contents
- **Reports**: `State.scene`, `follow`: what a utility finds in a shell, and what it does to it.
- **Variables**: `exportVariables`, `unset`, `hideVariables`, `readInput`, `getopts`.
- **Options**: `setOptions`, `shift`.
- **Control**: `leaveWith`, `loopControl`.
- **Folders**: `changeFolder`, `showFolder`, `maskCommand`.
- **Names**: `aliasCommand`, `describe`, `hashCommand`, `State.program?`.
- **Processes**: `wait`, `showJobs`, `trap`.
- **Text**: `echo`, `printf`, `testCommand`.
- `builtin?`: the command of a name.
-/

namespace Foreman.Shell

/-! ## Reports -/

/-- What a utility finds in a shell. -/
def State.scene (s : State) : Scene :=
  let supply := s.supplyOf 0
  let fileAt (descriptor : Nat) : Option String :=
    match (s.stream? descriptor).map Stream.channel with
    | some (.file path) => some path
    | _ => none
  { input := (supply.map Supply.data).getD []
    isCut := (supply.bind Supply.cut).isSome
    hasInput := supply.isSome
    inputPath? := fileAt 0
    outputPath? := fileAt 1
    outputStart := match s.stream? 1, fileAt 1 with
      | some x, some path =>
        if x.appends then ((s.world.files.entry? path).map fun e => e.data.length).getD 0 else x.position
      | _, _ => 0
    environment := s.environment
    files := s.world.files
    folder := s.folder
    shownFolder := s.shownFolder
    mask := s.mask
    room := s.world.room
    process := s.world.processes + 1
    parent := s.number }

/-- Opens the places among some arguments where processes meet, and waits for what comes through them;
    also whether more could come. -/
def arriving : List Octets → Act (List (String × Octets) × Bool)
  | [] => pure ([], false)
  | arg :: rest => do
    match ← Act.read fun s => s.meetingPlace? arg with
    | none => arriving rest
    | some place =>
      let number ← openMeeting .read place
      let s ← Act.read id
      let supply := ({ s with descriptors := [(0, number)] } : State).supplyOf 0
      match s.world.streams[number]?.map Stream.channel with
      | some (.source k) => passUntil ((s.world.sources[k]?.map Source.ends).getD 0)
      | _ => pure ()
      let (more, isOpen) ← arriving rest
      return ((place, (supply.map Supply.data).getD []) :: more, isOpen || (supply.bind Supply.cut).isSome)

/-- Writes a text to the places among some arguments where processes meet. -/
def sending (text : Octets) (args : List Octets) : Act Unit :=
  args.forM fun arg => do
    match ← Act.read fun s => s.meetingPlace? arg with
    | none => pure ()
    | some place =>
      let old ← Act.read fun s => s.descriptors
      pointTo 1 (some (← openMeeting .write place))
      let _ ← writeTo 1 text
      .change fun s => { s with descriptors := old }

/-- Takes over what a report takes of the input. -/
def takeInput (r : Report) : Act Unit := do
  match r.appetite, ← Act.read fun s => s.supplyOf 0 with
  | .nothing, _ | _, none => pure ()
  | .bytes n, some supply => consume 0 n (!supply.canSeek) false
  | .exactly n, some _ => consume 0 n false false
  | .everything, some supply => consume 0 supply.data.length false true

/-- Writes texts in order, as long as somebody takes them. The result is the first fault. -/
def writeAll : List (Nat × Octets) → Act (Option (Nat × WriteFault))
  | [] => pure none
  | (descriptor, text) :: rest => do
    match ← writeTo descriptor text, descriptor with
    | some fault, 1 => return some (1, fault)
    | some .broken, n => return some (n, .broken)
    | _, _ => writeAll rest

/-- Takes over what a program does, and its status. -/
def follow (name : String) (r : Report) : Act Unit := do
  let cut ← Act.read fun s => (s.supplyOf 0).bind Supply.cut
  takeInput r
  match r.files with
  | some files =>
    .change fun s => s.withFiles { files with clock := max files.clock s.world.clock }
  | none => pure ()
  let fault ← writeAll r.texts
  if r.pause ≠ 0 then pass r.pause
  setStatus r.status
  match fault with
  | some (_, fault) =>
    let s ← Act.read id
    if fault = .broken ∧ !s.ignores 13 then
      if s.isReplaced then .leave (.killed 13) else setStatus (128 + 13)
    else
      let what := if name = "cat" ∨ name = "yes" then "standard output: " else "write error: "
      let _ ← writeTo 2 ((name ++ ": " ++ what ++ fault.text ++ "\n").toList)
      setStatus 1
  | none =>
    if r.isEndless then
      let s ← Act.read id
      match if s.isReplaced then s.fatal? s.world.deadline else none with
      | some n => passUntil n.time
      | none => pure ()
      let isSink := match (← Act.read fun s => s.stream? 1).map Stream.channel with
        | some .nowhere | some (.zeros _) => true
        | _ => false
      .leave (.stalls (if isSink then .late else .full))
    if r.isHungry then .leave (.stalls (cut.getD .full))

/-- Takes over what a command of the shell writes, complaints first, and its status. -/
def tell (r : Report) : Act Unit := do
  let (complaints, texts) := r.texts.partition (·.1 = 2)
  complaints.forM fun (_, text) => do
    write 2 ((← Act.read State.blame) ++ text)
  setStatus r.status
  match ← writeAll texts with
  | some (_, fault) =>
    if fault = .broken ∧ !(← Act.read fun s => s.ignores 13) then .leave (.killed 13)
    let command ← Act.read fun s => s.command
    complain (command ++ ": I/O error".toList)
    .change fun s => { s with status := max 1 s.status }
  | none => pure ()

/-! ## Options of commands -/

/-- The letters of the options of a command, each with its value if it has one, and the operands. -/
def readLetters (letters : String) : Nat → List (Char × Octets) → List Octets →
    Act (List (Char × Octets) × List Octets)
  | 0, acc, args => pure (acc.reverse, args)
  | fuel + 1, acc, args =>
    match args with
    | ['-', '-'] :: rest => pure (acc.reverse, rest)
    | ('-' :: c :: more) :: rest => do
      match (letters.toList.dropWhile (· ≠ c)) with
      | [] => abort ("Illegal option -".toList ++ [c])
      | _ :: ':' :: _ =>
        match more, rest with
        | [], [] => abort ("No arg for -".toList ++ [c] ++ " option".toList)
        | [], value :: rest => readLetters letters fuel ((c, value) :: acc) rest
        | more, rest => readLetters letters fuel ((c, more) :: acc) rest
      | _ =>
        if c = ':' then abort ("Illegal option -".toList ++ [c])
        readLetters letters fuel ((c, []) :: acc) (if more.isEmpty then rest else ('-' :: more) :: rest)
    | args => pure (acc.reverse, args)

/-- The options of a command and its operands. -/
def optionsOf (letters : String) (args : List Octets) : Act (List (Char × Octets) × List Octets) :=
  readLetters letters (sumOf List.length args + args.length + 1) [] args

/-! ## Variables -/

/-- A text in quotes, so that it can be read back. -/
def singleQuoted (text : Octets) : Octets :=
  let rec parts : Nat → Octets → Octets
    | 0, _ => []
    | fuel + 1, cs =>
      let plain := cs.takeWhile (· ≠ '\'')
      let rest := cs.drop plain.length
      let marks := rest.takeWhile (· = '\'')
      let rest := rest.drop marks.length
      (if plain.isEmpty ∧ !marks.isEmpty then [] else '\'' :: plain ++ ['\'']) ++
        (if marks.isEmpty then [] else '"' :: marks ++ ['"']) ++
        if rest.isEmpty then [] else parts fuel rest
  parts (text.length + 1) text

/-- The variables of a kind, as commands that would make them. -/
def variableLines (front : String) (isShown : Variable → Bool) (s : State) : Octets :=
  (s.vars.entries.filter fun e => isShown e.2).flatMap fun (name, v) =>
    front.toList ++ name.toList ++
      (match v.value with
        | some value => '=' :: singleQuoted value
        | none => []) ++ ['\n']

/-- Sets the variables that arguments name, and marks them. -/
def setArguments (mark : Variable → Variable) : List Octets → Act Unit
  | [] => setStatus 0
  | a :: rest => do
    let (name, value) := match settingName? a with
      | some (name, value) => (name, some value)
      | none => (String.ofList (a.takeWhile (· ≠ '=')), none)
    if !isName name.toList then abort (name.toList ++ ": bad variable name".toList)
    match value with
    | some value => setVariable name value
    | none => pure ()
    markVariable name mark
    setArguments mark rest

/-- Marks variables, or shows those that have the mark. -/
def markArguments (command : String) (has : Variable → Bool) (mark : Variable → Variable)
    (args : List Octets) : Act Unit := do
  let (_, names) ← optionsOf "p" args
  if names.isEmpty then
    tell (textOut (variableLines (command ++ " ") has (← Act.read id)))
  else setArguments mark names

/-- Removes the variables or functions that arguments name. -/
def unset (args : List Octets) : Act Unit := do
  let (options, names) ← optionsOf "vf" args
  let isFunction := (options.getLast?.map Prod.fst) = some 'f'
  names.forM fun a => do
    let name := String.ofList a
    if isFunction then .change fun s => { s with functions := s.functions.erase name }
    else
      if !isName a then abort (a ++ ": bad variable name".toList)
      if ← Act.read fun s => (s.vars.find? name).any Variable.isReadOnly then
        abort (a ++ ": is read only".toList)
      .change fun s => { s with vars := s.vars.erase name }
  setStatus 0

/-- Hides variables until the end of the present function. -/
def hideVariables : List Octets → Act Unit
  | [] => setStatus 0
  | a :: rest => do
    match ← Act.read fun s => s.hidden with
    | [] => abort "not in a function".toList
    | hidden :: outer =>
      let name := match settingName? a with
        | some (name, _) => name
        | none => String.ofList a
      if a ≠ ['-'] then
        if !isName name.toList then abort (a ++ ": bad variable name".toList)
        .change fun s => { s with hidden := ((name, s.vars.find? name) :: hidden) :: outer }
        match settingName? a with
        | some (name, value) => setVariable name value
        | none => pure ()
      else
        .change fun s =>
          { s with hidden := (("-", some { value := some s.options }) :: hidden) :: outer }
    hideVariables rest

/-- A line as glyphs, with the characters after backslashes quoted; how many bytes it took, and whether
    the line has an end. -/
def inputLine (isRaw : Bool) : Nat → List Glyph → Octets → List Glyph × Nat × Bool
  | n, acc, [] => (acc.reverse, n, false)
  | n, acc, '\\' :: c :: rest =>
    if isRaw then
      if c = '\n' then ((⟨'\\', false⟩ :: acc).reverse, n + 2, true)
      else inputLine isRaw (n + 2) (⟨c, false⟩ :: ⟨'\\', false⟩ :: acc) rest
    else if c = '\n' then inputLine isRaw (n + 2) acc rest
    else inputLine isRaw (n + 2) (⟨c, true⟩ :: acc) rest
  | n, acc, c :: rest =>
    if c = '\n' then (acc.reverse, n + 1, true)
    else inputLine isRaw (n + 1) (if c = '\x00' then acc else ⟨c, false⟩ :: acc) rest

/-- Gives the fields of a line to variables; the last one takes all that is left. -/
def giveFields (blanks marks : List Char) : List String → List Glyph → Act Unit
  | [], _ => pure ()
  | name :: names, line => do
    let isBlank (g : Glyph) : Bool := !g.isQuoted && blanks.contains g.char
    let isMark (g : Glyph) : Bool := !g.isQuoted && marks.contains g.char
    let line := line.dropWhile isBlank
    if names.isEmpty then
      let short := (line.reverse.dropWhile isBlank).reverse
      -- a single mark at the end belongs to the field before it
      let short := match short.reverse with
        | g :: front =>
          if isMark g ∧ !front.any fun h => isMark h || isBlank h then front.reverse else short
        | [] => short
      setVariable name (textOf short)
    else
      let field := line.takeWhile fun g => !isBlank g && !isMark g
      setVariable name (textOf field)
      let rest := (line.drop field.length).dropWhile isBlank
      let rest := match rest with
        | g :: more => if isMark g then more else g :: more
        | [] => []
      giveFields blanks marks names rest

/-- Reads a line of the input into variables. -/
def readInput (args : List Octets) : Act Unit := do
  let (options, names) ← optionsOf "p:r" args
  let isRaw := options.any (·.1 = 'r')
  if names.isEmpty then abort "arg count".toList
  match names.find? fun a => !isName a with
  | some a => abort (a ++ ": bad variable name".toList)
  | none =>
    match ← Act.read fun s => s.supplyOf 0 with
    | none => setStatus 1
    | some supply =>
      let (line, n, isEnded) := inputLine isRaw 0 [] supply.data
      consume 0 n false (!isEnded)
      if !isEnded then
        match supply.cut with
        | some cut => .leave (.stalls cut)
        | none => pure ()
      let (blanks, marks) ← Act.read State.separators
      giveFields blanks marks (names.map String.ofList) line
      setStatus (if isEnded then 0 else 1)

/-- What an option letter means among the given ones: whether it has a value; none if it is unknown. -/
def optionKind? (c : Char) : Octets → Option Bool
  | [] => none
  | d :: ':' :: rest => if c = d then some true else optionKind? c rest
  | d :: rest => if c = d then some false else optionKind? c rest

/-- Takes the next option letter from arguments. -/
def nextOption (letters : Octets) (name : String) (args : List Octets) : Act Unit := do
  let (index, place) ← Act.read fun s => (s.optionIndex, s.optionPlace)
  let index := if args.length + 1 < index then 1 else index
  let isQuiet := letters.head? = some ':'
  let known := if isQuiet then letters.tail else letters
  let report (index : Nat) (place : Option Nat) (c : Char) (value : Option Octets) (status : Nat) :
      Act Unit := do
    setVariable "OPTIND" (toString index).toList
    match value with
    | some value => setVariable "OPTARG" value
    | none => .change fun s => { s with vars := s.vars.erase "OPTARG" }
    setVariable name [c]
    .change fun s => { s with optionIndex := index, optionPlace := place, status }
  let old ← Act.read fun s => s.valueOf? "OPTARG"
  let present := (args[index - 2]?).getD []
  let rest : Octets := match place with
    | some n => if 1 < index then present.drop n else []
    | none => []
  let found : Option (Octets × Nat) :=
    if !rest.isEmpty then some (rest, index)
    else
      match args[index - 1]? with
      | some ('-' :: c :: more) => if c = '-' ∧ more.isEmpty then none else some (c :: more, index + 1)
      | _ => none
  match found with
  | none =>
    let index := if rest.isEmpty ∧ args[index - 1]? = some ['-', '-'] then index + 1 else index
    report index none '?' old 1
  | some ([], index) => report index none '?' old 1
  | some (c :: more, index) =>
    let place := ((args[index - 2]?).getD []).length - more.length
    let goOn : Option Nat := if more.isEmpty then none else some place
    match if c = ':' then none else optionKind? c known with
    | none =>
      if isQuiet then report index goOn '?' (some [c]) 0
      else
        write 2 ("Illegal option -".toList ++ [c, '\n'])
        report index goOn '?' none 0
    | some false => report index goOn c (some []) 0
    | some true =>
      match more, args[index - 1]? with
      | [], some value => report (index + 1) none c (some value) 0
      | [], none =>
        if isQuiet then report index none ':' (some [c]) 0
        else
          write 2 ("No arg for -".toList ++ c :: " option\n".toList)
          report index none '?' none 0
      | more, _ => report index none c (some more) 0

/-- Takes the next option letter from the parameters or from arguments. -/
def getopts (args : List Octets) : Act Unit := do
  match args with
  | letters :: name :: rest =>
    let args ← if rest.isEmpty then Act.read fun s => s.parameters else pure rest
    if !isName name then abort (name ++ ": bad variable name".toList)
    nextOption letters (String.ofList name) args
  | _ => abort "Usage: getopts optstring var [arg...]".toList

/-! ## Options -/

/-- The names of the options with their letters. -/
def optionNames : List (String × Option Char) :=
  [("errexit", some 'e'), ("noglob", some 'f'), ("ignoreeof", some 'I'), ("interactive", some 'i'),
    ("monitor", some 'm'), ("noexec", some 'n'), ("stdin", some 's'), ("xtrace", some 'x'),
    ("verbose", some 'v'), ("vi", some 'V'), ("emacs", some 'E'), ("noclobber", some 'C'),
    ("allexport", some 'a'), ("notify", some 'b'), ("nounset", some 'u'), ("privileged", some 'p'),
    ("nolog", none), ("debug", none)]

/-- Switches an option. -/
def switchOption (isOn : Bool) (c : Char) : Act Unit := .change fun s =>
  let others := s.options.filter (· ≠ c)
  { s with options := if isOn then c :: others else others }

/-- Switches options by their letters. -/
def switch (isOn : Bool) : List Char → Act Unit
  | [] => pure ()
  | c :: rest => do
    if !optionLetters.contains c then abort ("Illegal option -".toList ++ [c])
    switchOption isOn c
    switch isOn rest

/-- Switches an option by its name. -/
def switchNamed (isOn : Bool) (name : Octets) : Act Unit := do
  match optionNames.lookup (String.ofList name) with
  | some (some c) => switchOption isOn c
  | some none => pure ()
  | none => abort ("Illegal option ".toList ++ (if isOn then '-' else '+') :: "o ".toList ++ name)

/-- The list of all options. -/
def optionList (asCommands : Bool) (s : State) : Octets :=
  let isOn (c : Option Char) : Bool := c.any s.has
  if asCommands then
    ofLines (optionNames.map fun (name, c) => ((if isOn c then "set -o " else "set +o ") ++ name).toList)
  else
    ofLines ("Current option settings".toList :: optionNames.map fun (name, c) =>
      name.toList ++ List.replicate (16 - name.length) ' ' ++ (if isOn c then "on" else "off").toList)
where
  /-- Lines with their ends. -/
  ofLines (lines : List Octets) : Octets := lines.flatMap (· ++ ['\n'])

/-- Switches options at the front of arguments, and gives the arguments after them; and whether these
    are parameters even if there are none. -/
def readSettings : List Octets → Act (List Octets × Bool)
  | [] => pure ([], false)
  | ['-', '-'] :: rest => pure (rest, true)
  | ['-'] :: rest => do
    switchOption false 'x'
    switchOption false 'v'
    return (rest, false)
  | [['-', 'o']] => do
    tell (textOut (optionList false (← Act.read id)))
    return ([], false)
  | [['+', 'o']] => do
    tell (textOut (optionList true (← Act.read id)))
    return ([], false)
  | ['-', 'o'] :: name :: rest => do
    switchNamed true name
    readSettings rest
  | ['+', 'o'] :: name :: rest => do
    switchNamed false name
    readSettings rest
  | ('-' :: c :: letters) :: rest => do
    switch true (c :: letters)
    readSettings rest
  | ('+' :: c :: letters) :: rest => do
    switch false (c :: letters)
    readSettings rest
  | rest => pure (rest, false)

/-- Switches options, and sets the parameters of the script if any are given. -/
def setOptions (args : List Octets) : Act Unit := do
  if args.isEmpty then
    let shown (v : Variable) : Bool := v.value.isSome
    tell (textOut (variableLines "" shown (← Act.read id)))
  else
    setStatus 0
    let (parameters, isGiven) ← readSettings args
    if isGiven ∨ !parameters.isEmpty then
      .change fun s => { s with parameters, optionIndex := 1, optionPlace := none }

/-- The natural number that an argument writes, or the end of the command. -/
def naturalArgument (a : Octets) : Act Nat :=
  match decimal? a with
  | some n => if 0 ≤ n ∧ n < 2 ^ 31 then pure n.toNat else abort ("Illegal number: ".toList ++ a)
  | none => abort ("Illegal number: ".toList ++ a)

/-- Drops parameters of the script from the front. -/
def shift (args : List Octets) : Act Unit := do
  let n ← match args with
    | [] => pure 1
    | a :: _ => naturalArgument a
  if (← Act.read fun s => s.parameters.length) < n then abort "can't shift that many".toList
  .change fun s =>
    { s with parameters := s.parameters.drop n, optionIndex := 1, optionPlace := none, status := 0 }

/-! ## Control -/

/-- Leaves a function or the shell, with the given status or the last one. -/
def leaveWith (way : Way) (args : List Octets) : Act Unit := do
  match args with
  | [] => pure ()
  | a :: _ => setStatus (← naturalArgument a)
  .leave way

/-- Leaves loops, at most those that there are. -/
def loopControl (way : Nat → Way) (args : List Octets) : Act Unit := do
  let n ← match args with
    | [] => pure 1
    | a :: _ => naturalArgument a
  if n = 0 then abort "Illegal number: 0".toList
  setStatus 0
  let loops ← Act.read fun s => s.loops
  if loops ≠ 0 then .leave (way (min n loops))

/-! ## Folders -/

/-- A path from a folder, with names of parents taken together. -/
def joinedPath (folder path : Octets) : Octets :=
  let start := if path.head? = some '/' then [] else partsAt '/' folder
  let parts := (start ++ partsAt '/' path).foldl (fun parts name =>
    if name.isEmpty ∨ name = ['.'] then parts
    else if name = ['.', '.'] then parts.dropLast
    else parts ++ [name]) []
  '/' :: ['/'].intercalate parts

/-- The folder that a change leads to, and how it is shown. -/
def State.folderAt? (s : State) (isPhysical : Bool) (path : Octets) : Option (String × Octets) :=
  let path := if isPhysical then path else joinedPath s.shownFolder path
  match s.world.files.find s.folder (if path.isEmpty then ['.'] else path) with
  | .ok place =>
    if place.isFolder then some (place.path, if isPhysical then shownPath place.path else path)
    else none
  | .error _ => none

/-- Goes to a folder. -/
def changeFolder (args : List Octets) : Act Unit := do
  let (options, operands) ← optionsOf "LP" args
  let isPhysical := (options.getLast?.map Prod.fst) = some 'P'
  let s ← Act.read id
  let target := operands.headD ((s.valueOf? "HOME").getD [])
  let isBack := decide (target = ['-'])
  let target := if isBack then (s.valueOf? "OLDPWD").getD [] else target
  let isOpen := match target with
    | '/' :: _ | ['.'] | ['.', '.'] | '.' :: '/' :: _ | '.' :: '.' :: '/' :: _ => false
    | _ => true
  let searched := if isOpen then partsAt ':' ((s.valueOf? "CDPATH").getD []) else []
  let tries := (searched.filter (!·.isEmpty)).map (fun folder => (folder ++ '/' :: target, true)) ++
    [(target, isBack)]
  match tries.findSome? fun (path, isShown) =>
      (s.folderAt? isPhysical path).map fun place => (place, isShown) with
  | none => abort ("can't cd to ".toList ++ target)
  | some ((folder, shown), isShown) =>
    .change fun s => { s with folder, shownFolder := shown }
    setVariable "OLDPWD" s.shownFolder
    setVariable "PWD" shown
    let exported (v : Variable) : Variable := { v with isExported := true }
    markVariable "OLDPWD" exported
    markVariable "PWD" exported
    tell (if isShown then lineOut shown else {})

/-- Writes the present folder. -/
def showFolder (args : List Octets) : Act Unit := do
  let (options, _) ← optionsOf "LP" args
  let s ← Act.read id
  tell (lineOut (if (options.getLast?.map Prod.fst) = some 'P' then shownPath s.folder else s.shownFolder))

/-- The rights of a mode in letters. -/
def maskText (mask : Nat) : Octets :=
  let rights (shift : Nat) : Octets :=
    [(4, 'r'), (2, 'w'), (1, 'x')].filterMap fun (bit, c) =>
      if (mask >>> shift) &&& bit = 0 then some c else none
  "u=".toList ++ rights 6 ++ ",g=".toList ++ rights 3 ++ ",o=".toList ++ rights 0

/-- Rights in bits, for some of owner, group and others. -/
def spread (who : List Nat) (bits : Nat) : Nat :=
  who.foldl (fun n shift => n ||| (bits <<< shift)) 0

/-- Reads changes of rights like `u+rw,g=`: the next mode from a mode. Without a name the given mask
    spares some rights. -/
def readModeUpTo (mask : Nat) (isFolder : Bool) : Nat → Nat → Octets → Option Nat
  | 0, _, _ => none
  | fuel + 1, mode, cs => do
    let names := cs.takeWhile fun c => c = 'u' || c = 'g' || c = 'o' || c = 'a'
    let rest := cs.drop names.length
    let who := if names.isEmpty ∨ names.contains 'a' then [6, 3, 0]
      else names.map fun c => if c = 'u' then 6 else if c = 'g' then 3 else 0
    let rec operations : Nat → Nat → Octets → Option (Nat × Octets)
      | 0, _, _ => none
      | fuel + 1, mode, cs =>
        match cs with
        | op :: rest =>
          if op = '+' ∨ op = '-' ∨ op = '=' then
            let letters := rest.takeWhile fun c => "rwxXstugo".toList.contains c
            let bits := letters.foldl (fun n c =>
              match c with
              | 'r' => n ||| 4
              | 'w' => n ||| 2
              | 'x' => n ||| 1
              | 'X' => if isFolder ∨ mode &&& 0o111 ≠ 0 then n ||| 1 else n
              | 'u' => n ||| ((mode >>> 6) &&& 7)
              | 'g' => n ||| ((mode >>> 3) &&& 7)
              | 'o' => n ||| (mode &&& 7)
              | _ => n) 0
            let special := (if letters.contains 't' then 0o1000 else 0) |||
              if letters.contains 's' then
                (if who.contains 6 then 0o4000 else 0) ||| if who.contains 3 then 0o2000 else 0
              else 0
            let spared := if names.isEmpty then mask else 0
            let bits := (spread who bits ||| special) - ((spread who bits ||| special) &&& spared)
            let mode := match op with
              | '+' => mode ||| bits
              | '-' => mode - (mode &&& bits)
              | _ =>
                let all := spread who 7
                (mode - (mode &&& (all - (all &&& spared)))) ||| bits
            operations fuel mode (rest.drop letters.length)
          else some (mode, cs)
        | [] => some (mode, [])
    if !rest.head?.any (fun c => c = '+' || c = '-' || c = '=') then none
    let (mode, rest) ← operations (rest.length + 1) mode rest
    match rest with
    | [] => some mode
    | ',' :: rest => readModeUpTo mask isFolder fuel mode rest
    | _ => none

/-- The mode that a text makes of a mode: an octal number, or changes of rights. -/
def readMode (mask : Nat) (isFolder : Bool) (mode : Nat) (cs : Octets) : Option Nat :=
  if cs.head?.any Char.isDigit then (numeral? 8 cs).bind fun n => if n ≤ 0o7777 then some n else none
  else readModeUpTo mask isFolder (cs.length + 1) mode cs

/-- Shows or changes the rights that new files lack. -/
def maskCommand (args : List Octets) : Act Unit := do
  let (options, operands) ← optionsOf "S" args
  let mask ← Act.read fun s => s.mask
  match operands with
  | [] => tell (lineOut (if options.isEmpty then (paddedIn 8 4 mask).toList else maskText mask))
  | a :: _ =>
    if a.head?.any Char.isDigit then
      match numeral? 8 a with
      | some n =>
        .change fun s => { s with mask := n &&& 0o777 }
        setStatus 0
      | none => abort ("Illegal number: ".toList ++ a)
    else
      match readMode 0 false (0o777 - mask) a with
      | some mode =>
        .change fun s => { s with mask := 0o777 - (mode &&& 0o777) }
        setStatus 0
      | none => abort ("Illegal mode: ".toList ++ a)

/-! ## Names -/

/-- An alias as it is shown. -/
def aliasLine (a : String × Octets) : Octets := a.1.toList ++ '=' :: singleQuoted a.2

/-- Makes aliases, or shows them. -/
def aliasCommand (args : List Octets) : Act Unit := do
  setStatus 0
  if args.isEmpty then
    let aliases ← Act.read fun s => s.aliases
    let lines := (tableOrder 39 (fun a => a.1.toList) aliases).map fun a => aliasLine a ++ ['\n']
    tell (textOut lines.flatten)
  args.forM fun a => do
    let name := String.ofList (a.takeWhile (· ≠ '='))
    if name.length < a.length ∧ name ≠ "" then
      let value := a.drop (name.length + 1)
      .change fun s =>
        { s with aliases :=
            if s.aliases.any (·.1 = name) then
              s.aliases.map fun e => if e.1 = name then (name, value) else e
            else s.aliases ++ [(name, value)] }
    else
      match (← Act.read fun s => s.aliases).lookup (String.ofList a) with
      | some value => write 1 (aliasLine (String.ofList a, value) ++ ['\n'])
      | none =>
        write 2 ("alias: ".toList ++ a ++ " not found\n".toList)
        setStatus 1

/-- Removes aliases. -/
def unaliasCommand (args : List Octets) : Act Unit := do
  let (options, names) ← optionsOf "a" args
  setStatus 0
  if !options.isEmpty then .change fun s => { s with aliases := [] }
  names.forM fun a => do
    let name := String.ofList a
    if (← Act.read fun s => s.aliases.any (·.1 = name)) then
      .change fun s => { s with aliases := s.aliases.filter (·.1 ≠ name) }
    else
      write 2 ("unalias: ".toList ++ a ++ " not found\n".toList)
      setStatus 1

/-- Where a program is found: its path, or whether there is something that is no program. -/
inductive Finding where
  | program (path : Octets)
  | forbidden
  | missing

/-- Where a name with a slash leads. -/
def State.programAt (s : State) (path : Octets) : Finding :=
  match s.world.files.find s.folder path with
  | .ok ⟨_, some e⟩ => if e.isFile ∧ e.isExecutable then .program path else .forbidden
  | .ok ⟨_, none⟩ | .error .missing | .error .notFolder => .missing
  | .error _ => .forbidden

/-- What runs a script. -/
inductive Interpreter where
  | shell
  /-- A program that the first line names, with the argument that it is given there. -/
  | named (path : Octets) (extra : List Octets)
  | forbidden
  | missing

/-- What runs a script with the given text. A first line that names a script without such a line of its
    own, or nothing, leaves it to the shell. -/
def State.interpreter (s : State) (data : Octets) : Interpreter :=
  if data.take 2 ≠ ['#', '!'] then .shell
  else
    let isBlank (c : Char) : Bool := c = ' ' || c = '\t'
    let line := ((data.drop 2).takeWhile (· ≠ '\n')).dropWhile isBlank
    let path := line.takeWhile (!isBlank ·)
    let extra := (line.drop path.length).dropWhile isBlank
    let extra := (extra.reverse.dropWhile isBlank).reverse
    if path.isEmpty then .shell
    else
      match s.programAt path, s.world.files.look? s.folder path with
      | .program _, some e =>
        if e.node = .program ∨ e.data.take 2 = ['#', '!'] then
          .named path (if extra.isEmpty then [] else [extra])
        else .shell
      | .forbidden, _ => .forbidden
      | _, _ => .missing

/-- Where a program with a name is found. -/
def State.program? (s : State) (search : Octets) (name : Octets) : Finding :=
  if name.contains '/' then s.programAt name
  else
    (partsAt ':' search).foldl (fun found folder =>
      match found with
      | .program path => .program path
      | found =>
        match s.programAt (if folder.isEmpty then name else folder ++ '/' :: name) with
        | .missing => found
        | other => other) .missing

/-- Where programs are searched. -/
def State.search (s : State) : Option Octets := s.valueOf? "PATH"

/-- Where a program is found by its name. -/
def State.findProgram (s : State) (name : Octets) : Finding :=
  if name.isEmpty then .missing
  else
    match s.search with
    | some search => s.program? search name
    | none => if name.contains '/' then s.programAt name else .missing

/-- The program that is found under a name when a program runs another one. -/
def State.findLaunched (s : State) (name : Octets) : Finding :=
  if name.isEmpty then .missing else s.program? (s.search.getD "/bin:/usr/bin".toList) name

/-- The regular commands of the shell. -/
def regularBuiltins : List String :=
  ["[", "alias", "bg", "cd", "chdir", "command", "echo", "false", "fg", "getopts", "hash", "jobs",
    "kill", "printf", "pwd", "read", "test", "true", "type", "ulimit", "umask", "unalias", "wait"]

/-- Whether a name belongs to a command of the shell whose faults end the shell. -/
def isSpecialBuiltin (name : String) : Bool := specialBuiltins.contains name

/-- Whether a name belongs to a command of the shell. -/
def isBuiltin (name : String) : Bool := isSpecialBuiltin name || regularBuiltins.contains name

/-- Tells what a name stands for: in words, or as the text that is run. -/
def describe (inWords : Bool) (a : Octets) : Act Unit := do
  let name := String.ofList a
  let s ← Act.read id
  let say (text words : Octets) : Act Unit := tell (lineOut (if inWords then words else text))
  if reservedWords.contains name then say a (a ++ " is a shell keyword".toList)
  else
    match s.aliases.lookup name with
    | some value =>
      say ("alias ".toList ++ aliasLine (name, value)) (a ++ " is an alias for ".toList ++ value)
    | none =>
      if (s.functions.find? name).isSome then say a (a ++ " is a shell function".toList)
      else if isSpecialBuiltin name then say a (a ++ " is a special shell builtin".toList)
      else if isBuiltin name then say a (a ++ " is a shell builtin".toList)
      else
        match s.findProgram a with
        | .program path =>
          let isTracked := s.hashed.contains name
          if !a.contains '/' ∧ !isTracked then .change fun s => { s with hashed := s.hashed ++ [name] }
          say path (a ++ (if isTracked then " is a tracked alias for " else " is ").toList ++ path)
        | _ =>
          if inWords then tell (lineOut (a ++ ": not found".toList))
          setStatus 127

/-- Tells what names stand for. -/
def typeCommand (args : List Octets) : Act Unit := do
  setStatus 0
  let statuses ← args.mapM fun a => do
    describe true a
    Act.read fun s => s.status
  setStatus (statuses.foldl max 0)

/-- Looks for programs, or shows those that were found. -/
def hashCommand (args : List Octets) : Act Unit := do
  let (options, names) ← optionsOf "rv" args
  setStatus 0
  if options.any (·.1 = 'r') then .change fun s => { s with hashed := [] }
  else if names.isEmpty then
    let s ← Act.read id
    let paths := (tableOrder 31 String.toList s.hashed).filterMap fun name =>
      match s.findProgram name.toList with
      | .program path => some (path ++ ['\n'])
      | _ => none
    tell (textOut paths.flatten)
  names.forM fun a => do
    let s ← Act.read id
    if !isBuiltin (String.ofList a) then
      match s.findProgram a with
      | .program _ =>
        .change fun s => { s with hashed := s.hashed.filter (· ≠ String.ofList a) ++ [String.ofList a] }
      | _ =>
        complain (a ++ ": not found".toList)
        setStatus 1

/-! ## Processes -/

/-- The jobs of a shell with their numbers, the first one first. -/
def State.numberedJobs (s : State) : List (Nat × Job) :=
  s.jobs.reverse.zipIdx.map fun (job, i) => (i + 1, job)

/-- The job that an argument names: by its place, or by its process. -/
def State.job? (s : State) (a : Octets) : Option Job :=
  match a with
  | '%' :: rest =>
    if rest.isEmpty ∨ rest = ['%'] ∨ rest = ['+'] then s.jobs.head?
    else if rest = ['-'] then s.jobs[1]?
    else (numeral? 10 rest).bind fun n => (s.numberedJobs.find? (·.1 = n)).map Prod.snd
  | a => (numeral? 10 a).bind fun n => s.jobs.find? fun job => job.start.number = n

/-- The first signal with an action that comes to a process up to a time. -/
def State.interrupted? (s : State) (time : Nat) : Option Notice :=
  let own := s.world.notices.filter fun n =>
    n.reaches s.number && n.time ≤ time && (s.traps.lookup n.signal) ≠ some [] &&
      ((s.traps.lookup n.signal).isSome || isDeadly n.signal)
  own.foldl (fun first n =>
    match first with
    | none => some n
    | some m => if n.time < m.time then some n else some m) none

/-- Waits until a time, or until a signal comes. Whether it has not come. -/
def waitUntil (time : Nat) : Act Bool := do
  match ← Act.read fun s => s.interrupted? time with
  | some n =>
    passUntil n.time
    setStatus (128 + n.signal)
    return false
  | none =>
    passUntil time
    return true

/-- Waits for commands in the background. -/
def wait (args : List Octets) : Act Unit := do
  let (_, args) ← optionsOf "" args
  if args.isEmpty then
    let ends ← Act.read fun s => s.jobs.foldl (fun t job => max t job.ended) 0
    if ← waitUntil ends then setStatus 0
  else
    args.forM fun a => do
      let s ← Act.read id
      match s.job? a with
      | some job =>
        let isNew := s.world.clock ≤ job.ended
        if ← waitUntil job.ended then
          setStatus job.status
          let signal := job.status - 128
          if isNew ∧ job.isKilled ∧ signal ≠ 2 ∧ signal ≠ 13 then
            write 2 (signalText signal ++ "\n").toList
      | none =>
        if a.head? = some '%' then abort ("No such job: ".toList ++ a)
        let _ ← naturalArgument a
        setStatus 127

/-- The state of a job in words. -/
def Job.text (job : Job) (clock : Nat) : String :=
  if clock < job.ended then "Running"
  else if job.isKilled then signalText (job.status - 128)
  else if job.status = 0 then "Done"
  else "Done(" ++ toString job.status ++ ")"

/-- Shows the jobs. Those that have ended are shown once. -/
def showJobs (args : List Octets) : Act Unit := do
  let (options, _) ← optionsOf "lp" args
  let s ← Act.read id
  let clock := s.world.clock
  let lines := s.numberedJobs.reverse.zipIdx.map fun ((n, job), i) =>
    let mark := if i = 0 then "+" else if i = 1 then "-" else " "
    let front := "[" ++ toString n ++ "] " ++ mark ++ " " ++
      (if options.any (·.1 = 'l') then toString job.start.number ++ " " else "") ++ job.text clock
    if options.any (·.1 = 'p') then toString job.start.number ++ "\n"
    else front ++ String.ofList (List.replicate (33 - front.length) ' ') ++ "\n"
  tell (textOut (lines.flatMap String.toList))
  .change fun s => { s with jobs := s.jobs.filter fun job => clock < job.ended }

/-- Sets what to do on signals, or shows it. -/
def trap (args : List Octets) : Act Unit := do
  let (_, args) ← optionsOf "" args
  match args with
  | [] =>
    let traps ← Act.read fun s => s.traps.mergeSort fun a b => a.1 ≤ b.1
    let lines := traps.map fun (n, action) =>
      "trap -- ".toList ++ singleQuoted action ++ ' ' :: (signalName n).toList ++ ['\n']
    tell (textOut lines.flatten)
  | action :: signals =>
    let isReset := signals.isEmpty || action = ['-']
    let rec each : List Octets → Act Unit
      | [] => setStatus 0
      | a :: rest => do
        match signalNumber? a with
        | none =>
          write 2 ("trap: ".toList ++ a ++ ": bad trap\n".toList)
          setStatus 1
        | some n =>
          .change fun s =>
            { s with traps := (if isReset then [] else [(n, action)]) ++ s.traps.filter (·.1 ≠ n) }
          each rest
    each (if signals.isEmpty then args else signals)

/-! ## Text -/

/-- Writes its arguments with blanks between them, and a line break unless the first one is `-n`. -/
def echo (args : List Octets) : Report :=
  let isOpen := args.head? = some ['-', 'n']
  let text := [' '].intercalate (if isOpen then args.tail else args)
  let (text, ends) := unescape text
  textOut (if isOpen || ends then text else text ++ ['\n'])

/-- Writes formatted arguments. -/
def printf (args : List Octets) : Act Unit := do
  let (_, args) ← optionsOf "" args
  match args with
  | [] => abort "usage: printf format [arg ...]".toList
  | format :: rest =>
    let f := formatted format rest
    f.doubts.reverse.forM complain
    match f.fault with
    | some fault =>
      complain fault
      tell { textOut f.text with status := 2 }
    | none => tell { textOut f.text with status := if f.doubts.isEmpty then 0 else 1 }

/-- Tests its arguments. -/
def testCommand (args : List Octets) : Act Unit := do
  match judge (← Act.read State.scene) args with
  | .ok truth => setStatus (if truth then 0 else 1)
  | .error text => abort text

/-- The names of limits with what they count. -/
def limitNames : List (Char × String × String) :=
  [('t', "time", "seconds"), ('f', "file", "blocks"), ('d', "data", "kbytes"), ('s', "stack", "kbytes"),
    ('c', "coredump", "blocks"), ('m', "memory", "kbytes"), ('l', "locked memory", "kbytes"),
    ('p', "process", ""), ('n', "nofiles", ""), ('v', "vmemory", "kbytes"), ('w', "locks", ""),
    ('r', "rtprio", "")]

/-- Shows a limit. Nothing is limited, and no limit can be set. -/
def limitCommand (args : List Octets) : Act Unit := do
  let (options, operands) ← optionsOf "HSatfdscmlpnvwr" args
  if !operands.isEmpty then setStatus 0
  else if options.any (·.1 = 'a') then
    tell (textOut (limitNames.flatMap fun (_, name, unit) =>
      let front := name ++ if unit.isEmpty then "" else "(" ++ unit ++ ")"
      front.toList ++ List.replicate (21 - front.length) ' ' ++ "unlimited\n".toList))
  else tell (lineOut "unlimited".toList)

/-! ## All commands -/

/-- The command of a name, if it runs no other command. -/
def builtin? (name : String) : Option (List Octets → Act Unit) :=
  match name with
  | ":" | "true" => some fun _ => setStatus 0
  | "false" => some fun _ => setStatus 1
  | "echo" => some fun args => tell (echo args)
  | "printf" => some printf
  | "test" => some testCommand
  | "[" => some fun args =>
    if args.getLast? = some [']'] then testCommand args.dropLast else abort "missing ]".toList
  | "exit" => some (leaveWith .exits)
  | "return" => some (leaveWith .returns)
  | "break" => some (loopControl .breaks)
  | "continue" => some (loopControl .continues)
  | "export" => some (markArguments name Variable.isExported fun v => { v with isExported := true })
  | "readonly" => some (markArguments name Variable.isReadOnly fun v => { v with isReadOnly := true })
  | "local" => some hideVariables
  | "unset" => some unset
  | "set" => some setOptions
  | "shift" => some shift
  | "read" => some readInput
  | "getopts" => some getopts
  | "cd" | "chdir" => some changeFolder
  | "pwd" => some showFolder
  | "umask" => some maskCommand
  | "ulimit" => some limitCommand
  | "times" => some fun _ =>
    tell (textOut "0m0.000000s 0m0.000000s\n0m0.000000s 0m0.000000s\n".toList)
  | "alias" => some aliasCommand
  | "unalias" => some unaliasCommand
  | "type" => some typeCommand
  | "hash" => some hashCommand
  | "trap" => some trap
  | "wait" => some wait
  | "jobs" => some showJobs
  | _ => none

end Foreman.Shell
