import Foreman.Shell.Builtin
import Foreman.Shell.Utility.Basic

/-!
# `Foreman.Shell.Launcher` — programs that run other programs

## Contents
- **`Launch`**: how a program is run; `launchOrBlame`.
- **Environments**: `env`, with `splitWords` for several arguments in one.
- **Time**: `timeout`.
- **Manners**: `nice`, `nohup`, `setsid`, `stdbuf`, `flock` run a program in a process that is different in a way
  that hardly shows.
-/

namespace Foreman.Shell

/-- How running a program went. -/
inductive Launched where
  /-- It cannot be run, for which the status is the reason. -/
  | notFound
  /-- It ended, perhaps by a signal. -/
  | ended (signal : Option Nat)

/-- Runs a program with arguments. -/
abbrev Launch : Type := List Octets → Act Launched

/-- Writes a complaint of a program. -/
def blameProgram (name : String) (status : Nat) (text : Octets) : Act Unit := do
  write 2 ((name ++ ": ").toList ++ text ++ ['\n'])
  setStatus status

/-- Takes over a report of wrong usage. -/
def refuse (name : String) (status : Nat) (f : OptionFault) : Act Unit :=
  follow name (misuse status name f.text)

/-- Runs a program in the place of the present one, or reports that it cannot be found. -/
def launchOrBlame (launch : Launch) (name : String) (wording : Octets → Octets) (command : List Octets) :
    Act Unit := do
  match ← launch command with
  | .ended (some n) => .leave (.killed n)
  | .ended none => pure ()
  | .notFound =>
    let status ← Act.read fun s => s.status
    blameProgram name status (wording (command.headD []) ++
      (if status = 126 then ": Permission denied" else ": No such file or directory").toList)

/-- How most complain about a program that cannot be run. -/
def failedToRun (quote : Octets → Octets) (shown : Octets) : Octets :=
  "failed to run command ".toList ++ quote shown

/-! ## Environments -/

/-- The environment as text. -/
def environmentText (ending : Char) (environment : List (String × Octets)) : Octets :=
  environment.flatMap fun (name, value) => name.toList ++ '=' :: value ++ [ending]

/-- How far a text with several arguments has been read. -/
structure WordsRead where
  /-- The arguments, and the characters of the last one, both in reverse order. -/
  words : List Octets := []
  word? : Option Octets := none
  /-- The quote around the present character. -/
  quote? : Option Char := none

namespace WordsRead

/-- Adds characters to the present argument, which may be a new one. -/
def add (x : WordsRead) (text : Octets) : WordsRead := { x with word? := some (text.reverse ++ x.word?.getD []) }

/-- Ends the present argument. -/
def cut (x : WordsRead) : WordsRead :=
  { x with words := (x.word?.map List.reverse).toList ++ x.words, word? := none }

/-- The arguments. -/
def result (x : WordsRead) : List Octets := x.cut.words.reverse

end WordsRead

/-- Reads a text with several arguments. -/
def splitWords (valueOf? : String → Option Octets) : Nat → WordsRead → Octets → Except Octets (List Octets)
  | 0, x, _ => .ok x.result
  | fuel + 1, x, cs =>
    let go (x : WordsRead) (rest : Octets) := splitWords valueOf? fuel x rest
    let isSingle := x.quote? = some '\''
    let isDouble := x.quote? = some '"'
    match cs with
    | [] => if x.quote?.isSome then .error "no terminating quote in -S string".toList else .ok x.result
    | '\\' :: rest =>
      let isKept := isSingle && !(rest.head? = some '\\' || rest.head? = some '\'')
      if isKept then go (x.add ['\\']) rest
      else
        match rest with
        | [] => .error "invalid backslash at end of string in -S".toList
        | '_' :: rest => if isDouble then go (x.add [' ']) rest else go x.cut rest
        | 'c' :: _ =>
          if isDouble then .error "'\\c' must not appear in double-quoted -S string".toList else .ok x.result
        | 'f' :: rest => go (x.add ['\x0c']) rest
        | 'n' :: rest => go (x.add ['\n']) rest
        | 'r' :: rest => go (x.add ['\r']) rest
        | 't' :: rest => go (x.add ['\t']) rest
        | 'v' :: rest => go (x.add ['\x0b']) rest
        | c :: rest =>
          if "\"#$'\\".toList.contains c then go (x.add [c]) rest
          else .error ("invalid sequence '\\".toList ++ [c] ++ "' in -S".toList)
    | c :: rest =>
      if (c = '\'' ∧ !isDouble) ∨ (c = '"' ∧ !isSingle) then
        go { x.add [] with quote? := if x.quote?.isSome then none else some c } rest
      else if x.quote?.isNone ∧ (c = ' ' ∨ ('\t' ≤ c ∧ c ≤ '\r')) then go x.cut rest
      else if c = '#' ∧ x.word?.isNone then .ok x.result
      else if c = '$' ∧ !isSingle then
        match rest with
        | '\x7b' :: inner =>
          let name := inner.takeWhile isNameChar
          match inner.drop name.length, isName name with
          | '\x7d' :: after, true =>
            match valueOf? (String.ofList name) with
            | some value => go (x.add value) after
            | none => go x after
          | _, _ => .error ("only $\x7bVARNAME\x7d expansion is supported, error at: ".toList ++ cs)
        | _ => .error ("only $\x7bVARNAME\x7d expansion is supported, error at: ".toList ++ cs)
      else go (x.add [c]) rest

/-- The options of `env`. -/
def envGrammar : Grammar :=
  { letters := "iu:C:0vS:"
    words := [("ignore-environment", "i", .nothing), ("null", "0", .nothing), ("unset", "u", .something),
      ("chdir", "C", .something), ("default-signal", "default", .perhaps),
      ("ignore-signal", "ignore", .perhaps), ("block-signal", "ignore", .perhaps),
      ("list-signal-handling", "list", .nothing), ("debug", "v", .nothing),
      ("split-string", "S", .something)]
    isStrict := true }

/-- What is told about a text that was split. -/
def splitStory (text : Octets) (words : List Octets) : List Octets :=
  let line (k : Nat) (word : Octets) : Octets := (if k = 0 then " into:    " else "     &    ").toList ++ quotedText word
  ("split -S:  ".toList ++ quotedText text) :: words.zipIdx.map fun (word, k) => line k word

/-- Why options of `env` cannot be read. -/
inductive EnvFault where
  | option (fault : OptionFault)
  | split (text : Octets)

/-- Reads the options of `env`, where the words of a text to be split go on as arguments; also what is
    told about that. Options are gathered in reverse order. -/
def readEnv (valueOf? : String → Option Octets) :
    Nat → List (String × Octets) → List Octets → List Octets → Except EnvFault (Arguments × List Octets)
  | 0, options, story, args => .ok (⟨options.reverse, args⟩, story)
  | fuel + 1, options, story, args =>
    let next (r : Except OptionFault (List (String × Octets) × List Octets)) :
        Except EnvFault (Arguments × List Octets) :=
      match r with
      | .error f => .error (.option f)
      | .ok (("S", text) :: options, rest) =>
        match splitWords valueOf? (text.length + 1) {} text with
        | .error text => .error (.split text)
        | .ok words =>
          let story := if options.any (·.1 = "v") then story ++ splitStory text words else story
          readEnv valueOf? fuel options story (words ++ rest)
      | .ok (options, rest) => readEnv valueOf? fuel options story rest
    match args with
    | ['-', '-'] :: rest => .ok (⟨options.reverse, rest⟩, story)
    | ('-' :: '-' :: text) :: rest => next (envGrammar.readLong options rest text)
    | ('-' :: c :: text) :: rest => next (envGrammar.readLetters options rest (c :: text))
    | args => .ok (⟨options.reverse, args⟩, story)

/-- The signals that a value names, separated by commas, or the first name that is none. -/
def signalsIn (text : Octets) : Except Octets (List Nat) :=
  if text.isEmpty then .ok ((List.range 32).filter fun n => n ≠ 0 && n ≠ 9 && n ≠ 19)
  else
    (partsAt ',' text).mapM fun part =>
      match signalNumber? (plainSignal part) with
      | some n => .ok n
      | none => .error part

/-- Changes what happens on signals, as an option asks for. -/
def changeSignals (isIgnored : Bool) (signals : List Nat) : Act Unit := .change fun s =>
  let others := s.traps.filter fun t => !signals.contains t.1
  { s with traps := if isIgnored then signals.map (fun n => (n, [])) ++ others else others }

/-- Writes a line about what is done. -/
def tellStep (isTold : Bool) (text : Octets) : Act Unit := if isTold then write 2 (text ++ ['\n']) else pure ()

/-- Changes the folder of the process, if it can be done. -/
def enterFolder (path : Octets) : Act (Option PathFault) := do
  match ← Act.read fun s => s.world.files.find s.folder path with
  | .ok ⟨place, some e⟩ =>
    if e.isFolder then
      .change fun s => { s with folder := place, shownFolder := shownPath place }
      return none
    else return some .notFolder
  | .ok ⟨_, none⟩ => return some .missing
  | .error fault => return some fault

/-- Runs a program in a changed environment, or shows the environment. -/
def env (launch : Launch) (name : String) (args : List Octets) : Act Unit := do
  let s ← Act.read id
  let outer := s.environment
  match readEnv (fun key => outer.lookup key) (sumOf (fun a => a.length + 1) args + 1) [] [] args with
  | .error (.option f) => refuse name 125 f
  | .error (.split text) => blameProgram name 125 text
  | .ok (a, story) =>
    let isTold := a.has "v"
    story.forM (tellStep true)
    let signals : Except Octets (List (Bool × List Nat)) :=
      (a.options.filter fun o => o.1 = "ignore" || o.1 = "default").mapM fun o => do
        return (o.1 = "ignore", ← signalsIn o.2)
    match signals with
    | .error text => follow name (misuse 125 name (quotedText text ++ ": invalid signal".toList))
    | .ok signals =>
      let isBare := a.has "i" || a.operands.head? = some ['-']
      let operands := if a.operands.head? = some ['-'] then a.operands.tail else a.operands
      if isBare then tellStep isTold "cleaning environ".toList
      let unset := if isBare then [] else a.valuesOf "u"
      match unset.find? fun u => u.isEmpty || u.contains '=' with
      | some bad => blameProgram name 125 ("cannot unset ".toList ++ quotedText bad ++ ": Invalid argument".toList)
      | none =>
        unset.forM fun u => tellStep isTold ("unset:    ".toList ++ u)
        let settings := operands.takeWhile (·.contains '=')
        let command := operands.drop settings.length
        settings.forM fun text => tellStep isTold ("setenv:   ".toList ++ text)
        let kept := if isBare then [] else outer.filter fun e => !unset.contains e.1.toList
        let set (entries : List (String × Octets)) (text : Octets) : List (String × Octets) :=
          let key := text.takeWhile (· ≠ '=')
          setEntry entries (String.ofList key) (text.drop (key.length + 1))
        let environment := settings.foldl set kept
        if a.has "0" ∧ !command.isEmpty then
          follow name (misuse 125 name "cannot specify --null (-0) with command".toList)
        else if a.has "C" ∧ command.isEmpty then
          follow name (misuse 125 name "must specify command with --chdir (-C)".toList)
        else if command.isEmpty then
          follow name (textOut (environmentText (if a.has "0" then '\x00' else '\n') environment))
        else
          signals.forM fun (isIgnored, signals) => changeSignals isIgnored signals
          let folder := a.value? "C"
          folder.toList.forM fun path => tellStep isTold ("chdir:    ".toList ++ quotedName path)
          match folder, ← folder.elim (pure none) enterFolder with
          | some path, some fault =>
            blameProgram name 125
              ("cannot change directory to ".toList ++ quotedName path ++ ": ".toList ++ fault.text.toList)
          | _, _ =>
            tellStep isTold ("executing: ".toList ++ command.headD [])
            command.zipIdx.forM fun (arg, k) =>
              tellStep isTold (("   arg[" ++ toString k ++ "]= ").toList ++ quotedText arg)
            .change fun s => s.withEnvironment environment
            launchOrBlame launch name quotedText command

/-! ## Time -/

/-- The nanoseconds that an argument writes: seconds with places, or with a unit. -/
def nanosOf? (cs : Octets) : Option Nat :=
  let (x, unit) := readDouble cs
  let factor? : Option Nat := match unit with
    | [] | ['s'] => some 1
    | ['m'] => some 60
    | ['h'] => some 3600
    | ['d'] => some 86400
    | _ => none
  match factor?, x.reading with
  | some k, .finite false m e =>
    if unit.length = cs.length then none
    else if 0 ≤ e then some (m * 2 ^ (min e 200).toNat * k * 1000000000)
    else some (m * k * 1000000000 / 2 ^ (-e).toNat)
  | some k, .infinite false => some (2 ^ 200 * k)
  | _, _ => none

/-- What `timeout` was asked to do. -/
structure Limit where
  nanos : Nat
  signal : Nat
  /-- How long after the signal the program is killed. -/
  grace? : Option Nat
  keepsStatus : Bool
  isTold : Bool
  isForeground : Bool

/-- The limit that options ask for, or what is wrong with them. -/
def limitOf (a : Arguments) (limit : Octets) : Except Octets Limit := do
  let interval (text : Octets) : Except Octets Nat := match nanosOf? text with
    | some n => .ok n
    | none => .error ("invalid time interval ".toList ++ quotedText text)
  let grace? ← (a.value? "k").mapM interval
  let signal ← match a.value? "s" with
    | none => pure 15
    | some text =>
      match signalNumber? (plainSignal text) with
      | some n => pure n
      | none => throw (quotedText text ++ ": invalid signal".toList)
  let nanos ← interval limit
  return { nanos, signal, grace? := if grace? = some 0 then none else grace?, keepsStatus := a.has "p"
           isTold := a.has "v", isForeground := a.has "f" }

/-- Runs a program, to which signals are sent when its time is over. -/
def runLimited (launch : Launch) (name : String) (l : Limit) (command : List Octets) : Act Unit := fun s =>
  let expiry := s.world.clock + l.nanos
  let whole := s.world.deadline
  let shown := command.headD []
  let act := launch command
  let notice (time signal : Nat) : Notice :=
    { time, sender := s.number, target := s.world.processes + 1, signal, isForAll := true }
  let notices := notice expiry l.signal :: (l.grace?.map fun k => notice (expiry + k) 9).toList
  let story (clock : Nat) : List Octets :=
    notices.filterMap fun n =>
      if l.isTold ∧ n.time ≤ clock then
        some ((name ++ ": sending signal " ++ signalName n.signal ++ " to command ").toList ++ quotedText shown ++ ['\n'])
      else none
  let restore (t : State) : State :=
    { t with world := { t.world with
      deadline := whole, notices := t.world.notices.filter fun n => n.sender ≠ s.number } }
  /- What follows once the program has ended after its time. -/
  let ending (signal : Option Nat) (status : Nat) : Act Unit := do
    (story (← Act.read fun s => s.world.clock)).forM (write 2)
    match signal with
    | some 9 => if l.isForeground then setStatus 137 else .leave (.killed 9)
    | some n => setStatus (if l.keepsStatus then 128 + n else 124)
    | none => setStatus (if l.keepsStatus then status else 124)
  let begun := { s with world := { s.world with notices := s.world.notices ++ notices } }
  match act begun with
  | .done (.ended signal) t =>
    let t := restore t
    if t.world.clock < expiry then
      match signal with
      | some n => .left (.killed n) t
      | none => .done () t
    else ending signal t.status t
  | .done .notFound t =>
    blameProgram name t.status (failedToRun quotedText shown ++
      (if t.status = 126 then ": Permission denied" else ": No such file or directory").toList) (restore t)
  | .left (.stalls .late) t =>
    if whole ≤ expiry ∨ whole ≤ t.world.clock then .left (.stalls .late) (restore t)
    else
      match act { s with world := { s.world with deadline := expiry } } with
      | .left (.stalls .late) t =>
        let t := restore t
        ending (some l.signal) 0 (t.withFiles { t.world.files with clock := expiry })
      | .left way t => .left way (restore t)
      | .done _ t => .done () (restore t)
  | .left way t => .left way (restore t)

/-- Runs a program for some time at most. -/
def timeout (launch : Launch) (name : String) (args : List Octets) : Act Unit := do
  let g : Grammar :=
    { letters := "s:k:v"
      words := [("kill-after", "k", .something), ("signal", "s", .something), ("verbose", "v", .nothing),
        ("foreground", "f", .nothing), ("preserve-status", "p", .nothing)]
      isStrict := true }
  match g.read args with
  | .error f => refuse name 125 f
  | .ok a =>
    match a.operands with
    | limit :: program :: rest =>
      match limitOf a limit with
      | .error text => follow name (misuse 125 name text)
      | .ok l =>
        if l.nanos = 0 then launchOrBlame launch name (failedToRun quotedText) (program :: rest)
        else runLimited launch name l (program :: rest)
    | _ => follow name (failure 125 ("Try '" ++ name ++ " --help' for more information.").toList)

/-! ## Manners -/

/-- The adjustment that an argument of `nice` gives without an option's name. -/
def plainAdjustment? (arg : Octets) : Option Octets :=
  match arg with
  | '-' :: c :: rest =>
    let digits := if c = '-' ∨ c = '+' then rest else c :: rest
    if digits.head?.any Char.isDigit then some (c :: rest) else none
  | _ => none

/-- Reads the options of `nice`: the adjustment, if one is given, and the program. -/
def readNice (g : Grammar) : Nat → Option Octets → List Octets → Except OptionFault (Option Octets × List Octets)
  | 0, adjustment, args => .ok (adjustment, args)
  | fuel + 1, adjustment, args =>
    match args with
    | [] => .ok (adjustment, [])
    | arg :: rest =>
      match plainAdjustment? arg with
      | some text => readNice g fuel (some text) rest
      | none =>
        let next (r : Except OptionFault (List (String × Octets) × List Octets)) :
            Except OptionFault (Option Octets × List Octets) :=
          r.bind fun (options, rest) =>
            readNice g fuel ((options.head?.map Prod.snd).orElse fun _ => adjustment) rest
        match arg with
        | ['-', '-'] => .ok (adjustment, rest)
        | '-' :: '-' :: text => next (g.readLong [] rest text)
        | '-' :: c :: text => next (g.readLetters [] rest (c :: text))
        | _ => .ok (adjustment, args)

/-- Runs a program that is nicer to others, or shows how nice the process is. -/
def nice (launch : Launch) (name : String) (args : List Octets) : Act Unit := do
  let g : Grammar := { letters := "n:", words := [("adjustment", "n", .something)] }
  match readNice g (args.length + 1) none args with
  | .error f => refuse name 125 f
  | .ok (text, command) =>
    let number? (text : Octets) : Option Int :=
      match text with
      | '-' :: digits => (numeral? 10 digits).map fun n => -n
      | '+' :: digits => (numeral? 10 digits).map Int.ofNat
      | digits => (numeral? 10 digits).map Int.ofNat
    match text, (text.map number?).getD (some 10) with
    | some text, none => blameProgram name 125 ("invalid adjustment ".toList ++ quotedText text)
    | text, n =>
      match command, text with
      | [], some _ => follow name (misuse 125 name "a command must be given with an adjustment".toList)
      | [], none =>
        let niceness ← Act.read fun s => s.niceness
        follow name (lineOut (toString niceness).toList)
      | command, _ =>
        .change fun s => { s with niceness := max (-20) (min 19 (s.niceness + n.getD 0)) }
        launchOrBlame launch name quotedText command

/-- Runs a program with options that make no difference here. -/
def plainly (g : Grammar) (status : Nat) (missing : String) (wording : Octets → Octets) (launch : Launch)
    (name : String) (args : List Octets) : Act Unit := do
  match { g with isStrict := true }.read args with
  | .error f => refuse name status f
  | .ok a =>
    if a.operands.isEmpty then follow name (misuse status name missing.toList)
    else launchOrBlame launch name wording a.operands

/-- Runs a program that is not ended when others are. -/
def nohup : Launch → String → List Octets → Act Unit :=
  plainly {} 125 "missing operand" (failedToRun quotedName)

/-- Runs a program in a session of its own. -/
def setsid : Launch → String → List Octets → Act Unit :=
  plainly { letters := "cfw", words := [("ctty", "c", .nothing), ("fork", "f", .nothing), ("wait", "w", .nothing)] }
    1 "no command specified" ("failed to execute ".toList ++ ·)

/-- Runs a program that writes as soon as it has something. -/
def stdbuf (launch : Launch) (name : String) (args : List Octets) : Act Unit := do
  let g : Grammar :=
    { letters := "i:o:e:"
      words := [("input", "i", .something), ("output", "o", .something), ("error", "e", .something)]
      isStrict := true }
  let isMode (value : Octets) : Bool :=
    value = ['L'] || (value.head?.any Char.isDigit && (sizeNumber? value).isSome)
  match g.read args with
  | .error f => refuse name 125 f
  | .ok a =>
    let fault (o : String × Octets) : Option Report :=
      if o.1 = "i" ∧ o.2 = ['L'] then some (misuse 125 name "line buffering stdin is meaningless".toList)
      else if isMode o.2 then none
      else some (faultOf 125 name ("invalid mode ".toList ++ quotedText o.2))
    match a.options.findSome? fault with
    | some r => follow name r
    | none =>
      if a.operands.isEmpty then follow name (misuse 125 name "missing operand".toList)
      else if a.options.isEmpty then
        follow name (misuse 125 name "you must specify a buffering mode option".toList)
      else launchOrBlame launch name (failedToRun quotedText) a.operands

/-- Runs a program while a file is locked. Nobody else wants the lock. -/
def flock (launch : Launch) (name : String) (args : List Octets) : Act Unit := do
  let g : Grammar :=
    { letters := "sexnoufE:w:F"
      words := [("shared", "s", .nothing), ("exclusive", "x", .nothing), ("unlock", "u", .nothing),
        ("nonblock", "n", .nothing), ("nb", "n", .nothing), ("timeout", "w", .something),
        ("wait", "w", .something), ("conflict-exit-code", "E", .something), ("close", "o", .nothing),
        ("no-fork", "F", .nothing), ("verbose", "verbose", .nothing)]
      isStrict := true }
  let complain (status : Nat) (text : Octets) : Act Unit := follow name (faultOf status name text)
  if args.isEmpty then follow name (misuse 64 name "not enough arguments".toList)
  else
    match g.read args with
    | .error f => refuse name 64 f
    | .ok a =>
      match a.operands with
      | [] => complain 64 "requires file descriptor, file or directory".toList
      | [text] =>
        match numeral? 10 text with
        | none => complain 64 ("bad file descriptor: ".toList ++ '\'' :: text ++ ['\''])
        | some n =>
          match ← Act.read fun s => s.stream? n with
          | some _ => setStatus 0
          | none => complain 65 (text ++ ": Bad file descriptor".toList)
      | path :: command =>
        let run (command : List Octets) : Act Unit := do
          let isFolder ← Act.read fun s => (s.world.files.look? s.folder path).any Entry.isFolder
          let opened ← if isFolder then pure (.ok 0) else openPath .append path
          match opened with
          | .error text => complain 66 ("cannot open lock file ".toList ++ path ++ ": ".toList ++ text)
          | .ok _ => launchOrBlame launch name ("failed to execute ".toList ++ ·) command
        match command with
        | ['-', 'c'] :: rest =>
          match rest with
          | [text] => run ["/bin/sh".toList, ['-', 'c'], text]
          | _ => complain 64 "-c requires exactly one command argument".toList
        | command => run command

end Foreman.Shell
