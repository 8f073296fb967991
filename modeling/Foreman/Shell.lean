import Foreman.Shell.Launchers
import Foreman.Shell.Process
import Foreman.Shell.Utility

/-!
# `Foreman.Shell` — running scripts

A script is run line by line. A step that would go on for too long, by the time it sleeps or by the
number of nested and repeated steps, has no end. Processes that run side by side are run one after the
other: each part of a pipe before the next one, and a process in the background when it begins.

## Contents
- **Redirections**: `redirect`, `redirecting`.
- **Functions and tests**: `inFunction`, `testing`, `stopOnFailure`.
- **Processes**: `beginJob`, `inNewShell`.
- **Execution**: `exec`, with `execSimple` for simple commands and `runLines` for texts.
- **`Exit`** and `Shell.run`: a whole script.
-/

namespace Foreman.Shell

/-! ## Redirections -/

/-- Follows one redirection, and tells whether it could be. -/
def redirect (run : Command → Act Octets) : Redirection → Act Bool
  | .file descriptor opening target => do
    let path ← expandText run target
    match ← openPath opening path with
    | .ok stream =>
      pointTo descriptor (some stream)
      return true
    | .error text =>
      let what := if opening = .read then "cannot open " else "cannot create "
      complain (what.toList ++ path ++ ": ".toList ++ text)
      return false
  | .duplicate descriptor target => do
    match ← expandText run target with
    | ['-'] =>
      pointTo descriptor none
      return true
    | text =>
      match if text.length = 1 then numeral? 10 text else none with
      | none => abort "Syntax error: Bad fd number".toList
      | some n =>
        match ← Act.read fun s => s.descriptors.lookup n with
        | some stream =>
          pointTo descriptor (some stream)
          return true
        | none =>
          complain (text ++ ": Bad file descriptor".toList)
          return false
  | .document descriptor body => do
    let data ← expandText run body
    let clock ← Act.read fun s => s.world.clock
    pointTo descriptor (some (← newSource { parts := [(clock, data)], ends := clock }))
    return true

/-- Follows redirections one after the other, as long as they can be. -/
def redirectAll (run : Command → Act Octets) : List Redirection → Act Bool
  | [] => pure true
  | r :: rest => do
    if ← redirect run r then redirectAll run rest else return false

/-- Runs a step with redirections, which end with it. If one of them cannot be followed, the step does
    not run. -/
def redirecting (run : Command → Act Octets) (redirections : List Redirection) (isSpecial : Bool)
    (act : Act Unit) : Act Unit := do
  if redirections.isEmpty then act
  else
    let descriptors ← Act.read fun s => s.descriptors
    let whole : Act Unit := do
      if ← redirectAll run redirections then act
      else
        setStatus 2
        if isSpecial then .leave .exits
    whole.andAlways fun s => { s with descriptors }

/-! ## Functions and tests -/

/-- Runs a step whose status is tested. -/
def testing (act : Act Unit) : Act Unit := do
  let old ← Act.read fun s => s.isTested
  .change fun s => { s with isTested := true }
  act.andAlways fun s => { s with isTested := old }

/-- Ends the shell after a failure, if it is set to and the failure is not tested. -/
def stopOnFailure : Act Unit := do
  if ← Act.read fun s => s.has 'e' && !s.isTested && s.status ≠ 0 then .leave .exits

/-- How many functions may be in progress. -/
def functionLimit : Nat := 1000

/-- Runs the body of a function with its own parameters and hidden variables. -/
def inFunction (args : List Octets) (act : Act Unit) : Act Unit := fun s =>
  let restored (t : State) : State :=
    let hidden := t.hidden.headD []
    { t with
      parameters := s.parameters
      optionIndex := s.optionIndex
      optionPlace := s.optionPlace
      loops := s.loops
      hidden := s.hidden
      options := match hidden.lookup "-" with
        | some (some v) => v.value.getD []
        | _ => t.options
      vars := restored t.vars (hidden.filter (·.1 ≠ "-")) }
  if functionLimit ≤ s.hidden.length then
    abort ("Maximum function recursion depth (" ++ toString functionLimit ++ ") reached").toList s
  else match act { s with
      parameters := args, optionIndex := 1, optionPlace := none, loops := 0, hidden := [] :: s.hidden } with
  | .done _ t | .left .returns t => .done () (restored t)
  | .left way t => .left way (restored t)

/-- Runs a step with a command in front of its messages. -/
def underName {α : Type} (command : Octets) (act : Act α) : Act α := do
  let old ← Act.read fun s => s.command
  .change fun s => { s with command }
  act.andAlways fun s => { s with command := old }

/-- Runs a command of the shell whose faults do not end the shell. -/
def sparing (act : Act Unit) : Act Unit := fun s =>
  match act s with
  | .left .exits t => .done () t
  | outcome => outcome

/-- Runs a shell up to its end, and then what it does on its end. -/
def finishing (runText : Octets → Act Unit) (act : Act Unit) : Act Unit := fun s =>
  let finish (t : State) : Outcome Unit :=
    match t.traps.lookup 0 with
    | none => .done () t
    | some action =>
      runText action { t with traps := t.traps.filter (·.1 ≠ 0), isTested := true }
  match act s with
  | .done _ t => finish t
  | .left (.killed signal) t => .left (.killed signal) t
  | .left (.stalls cut) t => .left (.stalls cut) t
  | .left _ t => finish t

/-! ## Loops -/

/-- Repeats a round as long as it wants. -/
def iterate (round : Act Bool) : Nat → State → Outcome Unit
  | 0, s => .left (.stalls .late) s
  | n + 1, s =>
    match round s with
    | .done true t => iterate round n t
    | .done false t => .done () t
    | .left way t => .left way t

/-- Repeats a round for each element of a list, as long as it wants. -/
def iterateOver {α : Type} (round : α → Act Bool) : List α → State → Outcome Unit
  | [], s => .done () s
  | x :: rest, s =>
    match round x s with
    | .done true t => iterateOver round rest t
    | .done false t => .done () t
    | .left way t => .left way t

/-- Goes on after the body of a loop: whether with the next round. -/
def loopBody (act : Act Unit) : Act Bool := fun s =>
  match act s with
  | .done _ t => .done true t
  | .left (.continues n) t => if n ≤ 1 then .done true t else .left (.continues (n - 1)) t
  | .left (.breaks n) t => if n ≤ 1 then .done false t else .left (.breaks (n - 1)) t
  | .left way t => .left way t

/-- Runs a loop, during which one more loop is around. -/
def looping (act : Act Unit) : Act Unit := do
  .change fun s => { s with loops := s.loops + 1 }
  act.andAlways fun s => { s with loops := s.loops - 1 }

/-- Runs a loop with a test. Its status is that of the last round. -/
def loopWhile (test body : Act Unit) (whileSuccess : Bool) : Act Unit := looping fun s =>
  let round (status : Nat) : Act (Option Nat) := do
    if ← loopBody (testing test) then
      if (← Act.read fun s => decide (s.status = 0)) ≠ whileSuccess then
        setStatus status
        return none
      else if ← loopBody body then return some (← Act.read fun s => s.status)
      else return none
    else return none
  let rec go : Nat → Nat → State → Outcome Unit
    | 0, _, s => .left (.stalls .late) s
    | n + 1, status, s =>
      match round status s with
      | .done (some status) t => go n status t
      | .done none t => .done () t
      | .left way t => .left way t
  go (s.world.steps + 1) 0 s

/-! ## Jobs -/

/-- How long a signal takes to arrive, in nanoseconds. -/
def signalDelay : Nat := processCost / 2

/-- Runs a job from its beginning with the signals that come to it. The world is that of its parent now;
    what the job does later than some time is still to come there. -/
def Job.run (act : Act Unit) (job : Job) (known : Nat) (world : World) : Job × World :=
  let first := world.processes
  let isOwn (maker : Nat) : Bool :=
    maker = job.start.number || (job.family.1 < maker && maker ≤ job.family.2)
  let kept := { world with
    written := world.written.filter fun p => !isOwn p.maker
    notices := world.notices.filter fun n => !isOwn n.sender
    holds := world.holds.filter fun h => !isOwn h.maker
    meetings := world.meetings.filterMap fun (m : Meeting) =>
      if isOwn m.maker ∧ m.takenAt?.isNone then none
      else some (if isOwn m.taker then { m with takenAt? := none } else m)
    awaited? := none
    files := { world.files with coming := world.files.coming.filter fun e => !isOwn e.maker } }
  let begun : State :=
    { toProcess := job.start
      world := { kept with
        files := { job.files with clock := job.began, maker := job.start.number }
        notices := kept.notices ++ job.notices
        steps := kept.steps / 4 } }
  let whole : Act Unit := do
    pass processCost
    act
  let (t, isKilled, status, planned, awaits?) : State × Bool × Nat × Nat × Option (String × Nat) :=
    match whole begun with
    | .done _ t => (t, false, t.status % 256, t.world.clock, none)
    | .left (.killed signal) t => (t, true, 128 + signal, t.world.clock, none)
    | .left (.stalls _) t => (t, false, 0, max t.world.clock world.deadline, t.world.awaited?)
    | .left _ t => (t, false, t.status % 256, t.world.clock, none)
  let family := (first, t.world.processes)
  let isNew (maker : Nat) : Bool :=
    maker = job.start.number || (family.1 < maker && maker ≤ family.2)
  let made := (t.world.files.edits.reverse ++ t.world.files.coming).filter fun e =>
    isNew e.maker && known < e.time
  let isWaiting (m : Meeting) : Bool := isNew m.maker && !m.isHeld && m.takenAt?.isNone
  let isUnread := t.world.meetings.any isWaiting
  let ended := if isUnread ∧ !isKilled then max planned world.deadline else planned
  let keeps := job.start.isReplaced
  let ended' := min ended world.deadline
  let held := if keeps then t else { t with toProcess := job.start }.at ended' |>.holding
  ({ job with ended, status, isKilled, family, planned, awaits? },
    { t.world with
      files := (kept.files.expect made).advance kept.clock
      notices := t.world.notices.filter fun n => !(n.target = job.start.number)
      holds := held.world.holds
      meetings := if awaits?.isSome then t.world.meetings.filter (!isWaiting ·) else t.world.meetings
      steps := kept.steps - (kept.steps / 4 - t.world.steps) })

/-- The process in which a command in the background begins. -/
def State.asJob (s : State) (isReplaced : Bool) : Process :=
  let begun := s.begun
  { begun.toProcess with
    isReplaced
    isAside := true
    traps := [(2, []), (3, [])] ++ begun.traps.filter fun t => t.1 ≠ 2 && t.1 ≠ 3 }

/-- Begins a job. -/
def beginJob (act : Act Unit) (body : Command) (isReplaced : Bool) : Act Unit := fun s =>
  match newStream { channel := .nowhere, canRead := true, canWrite := false } s with
  | .done stream s =>
    let start := s.asJob isReplaced
    let start := { start with descriptors := (0, stream) :: start.descriptors.filter (·.1 ≠ 0) }
    let world := { s.world with processes := start.number }
    let job : Job :=
      { start, files := world.files, body, began := world.clock, ended := world.clock, status := 0,
        family := (start.number, start.number), notices := [] }
    let (job, world) := job.run act world.clock world
    .done ()
      { s with
        jobs := job :: s.jobs
        background := some start.number
        status := 0
        world := { world with files := { world.files with maker := s.number } } }
  | .left way s => .left way s

/-- The meetings at which a process still may read what it wrote, as those that have it open know. What
    was written where nobody waits is lost when the last one leaves. -/
def State.meetingsNow (s : State) : List Meeting :=
  let isOpen (m : Meeting) : Bool := s.openPipes.contains m.pipe
  s.world.meetings.filterMap fun m =>
    if !m.isHeld ∨ isOpen m ∨ s.isAside then some m
    else if s.mayMeet m.place ∧ !(s.world.keptParts m.pipe).isEmpty then some { m with isHeld := false }
    else none

/-- Lets jobs go on that others have come to meet. -/
def meet (exec : Command → Act Unit) : Act Unit := fun s =>
  if s.world.meetings.isEmpty then .done () s
  else
    let isDue (place : String) (m : Meeting) : Bool :=
      m.place = place && m.takenAt?.isNone && !s.openPipes.contains m.pipe
    let step (acc : World × List Job) (job : Job) : World × List Job :=
      let (world, jobs) := acc
      match job.awaits? with
      | some (place, since) =>
        if world.meetings.any (isDue place) then
          let (job, world) := job.run (exec job.body) since world
          (world, job :: jobs)
        else (world, job :: jobs)
      | none =>
        let isOwn (m : Meeting) : Bool :=
          m.maker = job.start.number || (job.family.1 < m.maker && m.maker ≤ job.family.2)
        let own := world.meetings.filter isOwn
        if job.ended = job.planned ∨ job.isKilled ∨ own.any (·.takenAt?.isNone) then (world, job :: jobs)
        else
          let ended := own.foldl (fun t m => max t (m.takenAt?.getD 0)) job.planned
          let holds := world.holds.map fun h =>
            if h.maker = job.start.number then { h with ends := min h.ends ended } else h
          ({ world with holds }, { job with ended } :: jobs)
    let round (acc : World × List Job) (_ : Job) : World × List Job := acc.2.reverse.foldl step (acc.1, [])
    let (world, jobs) := s.jobs.foldl round ({ s.world with meetings := s.meetingsNow }, s.jobs)
    .done () { s with jobs, world := { world with files := { world.files with maker := s.number } } }

/-- Sends a signal to a job that has not ended; whether there was one. -/
def signalJob (exec : Command → Act Unit) (number signal : Nat) : Act Bool := fun s =>
  match s.jobs.find? fun job => job.start.number = number with
  | none => .done false s
  | some job =>
    if job.ended < s.world.clock then .done false s
    else if signal = 0 then .done true s
    else
      let notice : Notice :=
        { time := s.world.clock + signalDelay, sender := s.number, target := number, signal }
      let job := { job with notices := job.notices ++ [notice] }
      let (job, world) := job.run (exec job.body) s.world.clock s.world
      .done true
        { s with
          jobs := s.jobs.map fun other => if other.start.number = number then job else other
          world := { world with files := { world.files with maker := s.number } } }

/-- The variables with which every shell begins. -/
def startVariables : List (String × String) :=
  [("IFS", " \t\n"), ("OPTIND", "1"), ("PS1", "# "), ("PS2", "> "), ("PS4", "+ ")]

/-- Where a shell searches programs if the environment does not say it. -/
def startPath : String := "/usr/local/sbin:/usr/local/bin:/usr/sbin:/usr/bin:/sbin:/bin"

/-- Runs a shell in a process of its own that gets the environment alone. -/
def inNewShell (name : Octets) (parameters : List Octets) (options : List Char) (act : Act Unit) :
    Act Unit := fun s =>
  let exported := s.vars.entries.filter fun e => e.2.isExported && isName e.1.toList
  let own := startVariables.map fun (name, value) => (name, ({ value := some value.toList } : Variable))
  let parent : Variable := { value := some (toString s.number).toList }
  let vars : NameMap Variable := .ofList (exported.filter (·.1 ≠ "PPID") ++ own ++ [("PPID", parent)])
  let missing (name : String) : Bool := (vars.find? name).isNone
  let vars := if missing "PWD" then
      vars.insert "PWD" { value := some (shownPath s.folder), isExported := true }
    else vars
  let vars := if missing "PATH" then vars.insert "PATH" { value := some startPath.toList } else vars
  let shell : Act Unit := do
    .change fun t =>
      { t with
        shell := t.number
        vars
        environment? := none
        isReplaced := false
        name
        parameters
        options
        functions := .empty
        aliases := []
        hashed := []
        isTested := false
        loops := 0
        hidden := []
        line := 1
        command := []
        status := 0
        background := none
        optionIndex := 1
        optionPlace := none }
    act
  let whole : Act Unit := do
    let signal ← inProcess shell
    endBy false signal
  whole s

/-! ## Execution -/

/-- The value of a setting and the words of a command as they are shown. -/
def settingText (setting : String × Octets) : Octets := setting.1.toList ++ '=' :: setting.2

/-- The setting that a word writes, if it starts with a name and an equals sign. -/
def settingOf? (word : List Piece) : Option (String × List Piece) :=
  match word with
  | .plain text false :: rest =>
    (settingName? text).map fun (name, value) =>
      (name, if value.isEmpty then rest else .plain value false :: rest)
  | _ => none

/-- Expands the words of a command. Settings among the arguments of a command that sets variables are not
    split. -/
def expandArguments (run : Command → Act Octets) (words : List (List Piece)) : Act (List Octets) := do
  let rec go (setsVariables isFirst : Bool) : List (List Piece) → Act (List Octets)
    | [] => pure []
    | word :: rest => do
      match if setsVariables then settingOf? word else none with
      | some (name, value) =>
        let text ← expandValue run value
        return settingText (name, text) :: (← go setsVariables false rest)
      | none =>
        let fields ← expandWord run word
        let sets := if isFirst then
            match fields with
            | first :: _ => ["export", "readonly", "local"].contains (String.ofList first)
            | [] => false
          else setsVariables
        return fields ++ (← go sets (isFirst && fields.isEmpty) rest)
  go false true words

/-- How deep a shell reads its own prompt. -/
def promptDepth : Nat := 1000

/-- Shows a command before it runs, to a stream. -/
def showCommand (run : Command → Act Octets) (stream : Option Nat) (texts : List Octets) :
    Act Unit := do
  if ← Act.read fun s => s.has 'x' then
    let mark ← Act.read fun s => (s.valueOf? "PS4").getD []
    let shown ← match readPieces { lines := 1 } promptDepth true [] none mark with
      | .ok (pieces, _) => do
        .change fun s => { s with options := s.options.filter (· ≠ 'x') }
        let text ← expandText run pieces
        switchOption true 'x'
        pure text
      | .error _ => pure mark
    let old ← Act.read fun s => s.descriptors
    pointTo 2 stream
    (write 2 (shown ++ [' '].intercalate texts ++ ['\n'])).andAlways fun s => { s with descriptors := old }

/-- Runs a command of the shell by way of another one. The faults of a special command do not end the
    shell here, but its purpose may be to end it. -/
def sparingSpecial (name : String) (act : Act Unit) : Act Unit :=
  if ["exit", "exec", "return", "eval"].contains name then act else sparing act

/-- Reads the options of a shell: whether it runs a text, and the operands. -/
def shellOptions (isText : Bool) : List Octets → Act (Bool × List Octets)
  | [] => pure (isText, [])
  | ['-'] :: rest | ['-', '-'] :: rest => pure (isText, rest)
  | ['-', 'o'] :: name :: rest => do
    switchNamed true name
    shellOptions isText rest
  | ['+', 'o'] :: name :: rest => do
    switchNamed false name
    shellOptions isText rest
  | ('-' :: letters) :: rest => do
    switch true (letters.filter (· ≠ 'c'))
    shellOptions (isText || letters.contains 'c') rest
  | ('+' :: c :: letters) :: rest => do
    switch false (c :: letters)
    shellOptions isText rest
  | operands => pure (isText, operands)

/-- Repeats a round on what is left of a text. -/
def overText (round : Octets → Act (Option Octets)) : Nat → Octets → State → Outcome Unit
  | 0, _, s => .done () s
  | n + 1, rest, s =>
    match round rest s with
    | .done (some rest) t => overText round n rest t
    | .done none t => .done () t
    | .left way t => .left way t

mutual

/-- Runs a command. -/
def exec : Nat → Command → Act Unit
  | 0, _ => .leave (.stalls .late)
  | fuel + 1, command => do
    if ← Act.read fun s => s.has 'n' then return
    let process (command : Command) : Act Unit := finishing (runText fuel) (exec fuel command)
    let run (command : Command) : Act Octets := do
      let last ← Act.read fun s => s.status
      let text ← capture do
        .change fun s => { s with isTested := false }
        process command
      .change fun s => { s with substituted := s.status, status := last }
      return text
    match command with
    | .nothing => pure ()
    | .simple line settings words redirections => do
      countStep
      .change fun s => { s with line, substituted := 0 }
      execSimple fuel run settings words redirections
      attend fuel
      stopOnFailure
    | .redirected line body redirections => do
      .change fun s => { s with line }
      redirecting run redirections false (exec fuel body)
      meetAll fuel
    | .sequence first second => do
      exec fuel first
      exec fuel second
    | .andThen first second => do
      testing (exec fuel first)
      if (← Act.read fun s => s.status) = 0 then exec fuel second
    | .orElse first second => do
      testing (exec fuel first)
      if (← Act.read fun s => s.status) ≠ 0 then exec fuel second
    | .inverted body => do
      testing (exec fuel body)
      .change fun s => { s with status := if s.status = 0 then 1 else 0 }
    | .background body => do
      let isReplaced := body matches .simple .. | .redirected ..
      beginJob (process body) body isReplaced
      meetAll fuel
    | .piped source sink => do
      inPipe (process source) (process sink)
      attend fuel
      stopOnFailure
    | .subshell line body => do
      .change fun s => { s with line }
      let signal ← inProcess do
        pass processCost
        process body
      reportSignal signal
      attend fuel
      stopOnFailure
    | .choice test yes no => do
      testing (exec fuel test)
      if (← Act.read fun s => s.status) = 0 then exec fuel yes
      else
        setStatus 0
        exec fuel no
    | .loop test body whileSuccess => loopWhile (exec fuel test) (exec fuel body) whileSuccess
    | .forEach line name words body => do
      .change fun s => { s with line }
      let fields ← match words with
        | some words => expandWords run words
        | none => Act.read fun s => s.parameters
      setStatus 0
      looping (iterateOver (fun word => do
        setVariable name word
        loopBody (exec fuel body)) fields)
    | .cases line subject branches => do
      .change fun s => { s with line }
      let text ← expandText run subject
      fittingBranch fuel run text branches
    | .define _ name body =>
      .change fun s => { s with functions := s.functions.insert name body, status := 0 }

/-- Runs the first branch with a pattern that a text matches. -/
def fittingBranch : Nat → (Command → Act Octets) → Octets → List (List (List Piece) × Command) →
    Act Unit
  | 0, _, _, _ => .leave (.stalls .late)
  | _ + 1, _, _, [] => setStatus 0
  | fuel + 1, run, text, (patterns, body) :: rest => do
    let found ← patterns.anyM fun word => do
      return fits (pattern (← expandGlyphs run word)) text
    if found then
      match body with
      | .nothing => setStatus 0
      | body => exec fuel body
    else fittingBranch fuel run text rest

/-- Runs a simple command. -/
def execSimple : Nat → (Command → Act Octets) → List (String × List Piece) → List (List Piece) →
    List Redirection → Act Unit
  | 0, _, _, _, _ => .leave (.stalls .late)
  | fuel + 1, run, settings, words, redirections => do
    let shown ← Act.read fun s => s.descriptors.lookup 2
    let fields ← expandArguments run words
    match fields with
    | [] =>
      redirecting run redirections false do
        let values ← settings.mapM fun (name, word) => do
          let value ← expandValue run word
          setVariable name value
          return (name, value)
        if !values.isEmpty then showCommand run shown (values.map settingText)
        setStatus (← Act.read fun s => s.substituted)
    | first :: args =>
      let name := String.ofList first
      let isFunction ← Act.read fun s => (s.functions.find? name).isSome
      let isSpecial := isSpecialBuiltin name && (!isFunction || specialBuiltins.contains name)
      let old ← Act.read fun s => settings.map fun (name, _) => (name, s.vars.find? name)
      let body : Act Unit := do
        let values ← settings.mapM fun (name, word) => do
          let value ← expandValue run word
          setVariable name value
          if !isSpecial then markVariable name fun v => { v with isExported := true }
          return (name, value)
        showCommand run shown (values.map settingText ++ fields)
        callNamed fuel first args
      let body := if isSpecial ∨ settings.isEmpty then body
        else body.andAlways fun s => { s with vars := restored s.vars old }
      if name = "exec" ∧ args.isEmpty then
        if ← redirectAll run redirections then
          settings.forM fun (name, word) => do setVariable name (← expandValue run word)
          showCommand run shown fields
          setStatus 0
        else
          setStatus 2
          .leave .exits
      else redirecting run redirections isSpecial body

/-- Runs a simple command whose words are expanded. -/
def callNamed : Nat → Octets → List Octets → Act Unit
  | 0, _, _ => .leave (.stalls .late)
  | fuel + 1, name, args => do
    if isSpecialBuiltin (String.ofList name) then callOwn fuel name args
    else
      match ← Act.read fun s => s.functions.find? (String.ofList name) with
      | some body => inFunction args (exec fuel body)
      | none => callOwn fuel name args

/-- Runs a command of the shell or a program. -/
def callOwn : Nat → Octets → List Octets → Act Unit
  | 0, _, _ => .leave (.stalls .late)
  | fuel + 1, name, args => do
    match String.ofList name, args with
    | "eval", args =>
      let text := [' '].intercalate args
      setStatus 0
      underName name (runLines fuel text)
    | ".", path :: _ => source fuel path
    | ".", [] => setStatus 0
    | "command", args => command fuel args
    | "exec", args =>
      let (_, args) ← underName name (readLetters "a:" (args.length + 1) [] args)
      match args with
      | [] => setStatus 0
      | name :: rest =>
        let found ← Act.read fun s => s.findProgram name
        match found with
        | .program path =>
          .change fun s => { s with isReplaced := true, traps := s.traps.filter fun t => t.2.isEmpty }
          runProgram fuel false path name rest
        | .forbidden =>
          complain ("exec: ".toList ++ name ++ ": Permission denied".toList)
          setStatus 126
        | .missing =>
          complain ("exec: ".toList ++ name ++ ": not found".toList)
          setStatus 127
        .leave .exits
    | "kill", args => underName name (sparing (kill fuel args))
    | "fg", args | "bg", args => underName name (sparing (abort (match args with
      | [] => "No current job".toList
      | a :: _ => "No such job: ".toList ++ a)))
    | text, args =>
      match builtin? text with
      | some act =>
        let act := underName name (act args)
        if isSpecialBuiltin text then act else sparing act
      | none => callFound fuel name args

/-- Runs the commands in a file. -/
def source : Nat → Octets → Act Unit
  | 0, _ => .leave (.stalls .late)
  | fuel + 1, path => do
    let s ← Act.read id
    let candidates := if path.contains '/' then [path]
      else (partsAt ':' (s.search.getD [])).map fun folder =>
        if folder.isEmpty then path else folder ++ '/' :: path
    let data? (path : Octets) : Option Octets :=
      match s.world.files.find s.folder path with
      | .ok ⟨_, some e⟩ => if e.isFile ∨ e.node = .device ∨ path.contains '/' then some e.data else none
      | _ => none
    match candidates.findSome? fun path => (data? path).map fun data => (path, data) with
    | some (found, text) =>
      setStatus 0
      let act := underName (if path.contains '/' then path else found) (runLines fuel text)
      fun s =>
        match act s with
        | .left .returns t => .done () t
        | outcome => outcome
    | none =>
      if path.contains '/' then abort (".: cannot open ".toList ++ path ++ ": No such file".toList)
      else abort (".: ".toList ++ path ++ ": not found".toList)

/-- Runs a command that is no function. -/
def command : Nat → List Octets → Act Unit
  | 0, _ => .leave (.stalls .late)
  | fuel + 1, args => do
    let (options, operands) ← underName "command".toList (readLetters "pvV" (args.length + 1) [] args)
    match operands with
    | [] => setStatus 0
    | name :: rest =>
      setStatus 0
      if options.any (·.1 = 'V') then describe true name
      else if options.any (·.1 = 'v') then describe false name
      else sparingSpecial (String.ofList name) (callOwn fuel name rest)

/-- Sends signals to processes, or shows their names. -/
def kill : Nat → List Octets → Act Unit
  | 0, _ => .leave (.stalls .late)
  | fuel + 1, args => do
    let usage := "Usage: kill [-s sigspec | -signum | -sigspec] [pid | job]... or\nkill -l [exitstatus]".toList
    let send (signal : Nat) (targets : List Octets) : Act Unit := do
      if targets.isEmpty then abort usage
      setStatus 0
      targets.forM fun a => do
        let s ← Act.read id
        let number ← match a with
          | '%' :: _ =>
            match s.job? a with
            | some job => pure job.start.number
            | none => abort ("No such job: ".toList ++ a)
          | a => naturalArgument a
        if number = s.number ∨ s.ancestors.contains number then
          if signal ≠ 0 then
            let notice : Notice := { time := s.world.clock, sender := s.number, target := number, signal }
            .changeWorld fun w => { w with notices := w.notices ++ [notice] }
        else
          if !(← signalJob (fun body => finishing (runText fuel) (exec fuel body)) number signal) then
            complain "No such process\n".toList
            setStatus 1
    match args with
    | [] => abort usage
    | ['-', 'l'] :: rest =>
      match rest with
      | [] =>
        tell (textOut (((List.range (lastSignal + 1)).map fun n =>
          ((if n = 0 then "0" else signalName n) ++ "\n").toList).flatten))
      | a :: _ =>
        let n ← naturalArgument a
        let n := if 128 < n then n - 128 else n
        if n = 0 ∨ lastSignal < n then
          abort ("invalid signal number or exit status: ".toList ++ a)
        tell (lineOut (signalName n).toList)
    | ['-', 's'] :: name :: rest =>
      match signalNumber? name with
      | some n => send n rest
      | none => abort ("invalid signal number or name: ".toList ++ name)
    | ['-', '-'] :: rest => send 15 rest
    | ('-' :: c :: name) :: rest =>
      match signalNumber? (c :: name) with
      | some n => send n rest
      | none => abort ("Illegal option -".toList ++ [c])
    | targets => send 15 targets

/-- Runs a program that is searched by its name. -/
def callFound : Nat → Octets → List Octets → Act Unit
  | 0, _, _ => .leave (.stalls .late)
  | fuel + 1, name, args => do
    match ← Act.read fun s => s.findProgram name with
    | .program path =>
      let text := String.ofList name
      .change fun s =>
        { s with hashed := if name.contains '/' ∨ s.hashed.contains text then s.hashed
            else s.hashed ++ [text] }
      runProgram fuel true path name args
    | .forbidden => fail 126 (name ++ ": Permission denied".toList)
    | .missing => fail 127 (name ++ ": not found".toList)

/-- Runs a program at a path, in a process of its own or in the place of the present one. -/
def runProgram : Nat → Bool → Octets → Octets → List Octets → Act Unit
  | 0, _, _, _, _ => .leave (.stalls .late)
  | fuel + 1, isOwn, path, name, args => do
    pass processCost
    match ← Act.read fun s => s.world.files.find s.folder path with
    | .ok ⟨place, some e⟩ =>
      match e.node with
      | .program => callProgram fuel isOwn ((Catalog.programOf? place).getD "") (String.ofList name) args
      | .file data =>
        match ← Act.read fun s => s.interpreter data with
        | .shell => runShell fuel isOwn "sh".toList (path :: args)
        | .named interpreter extra => runProgram fuel isOwn interpreter interpreter (extra ++ path :: args)
        | .forbidden => fail 126 (name ++ ": Permission denied".toList)
        | .missing => fail 127 (name ++ ": not found".toList)
      | _ => fail 126 (name ++ ": Permission denied".toList)
    | _ => fail 127 (name ++ ": not found".toList)

/-- Runs a program, in a process of its own or in the place of the present one. -/
def callProgram : Nat → Bool → String → String → List Octets → Act Unit
  | 0, _, _, _, _ => .leave (.stalls .late)
  | fuel + 1, isOwn, program, name, args => do
    if program = "dash" ∨ program = "bash" then
      runShell fuel isOwn name.toList args
    else
      match launcher? (launch fuel) program name with
      | some act =>
        let signal ← inProcess (act args)
        endBy isOwn signal
      | none =>
        match utility? program with
        | some utility =>
          if !isOwn then .change fun s => { s with isReplaced := true }
          let (arrivals, isOpen) ← if Catalog.readers.contains program then arriving args else pure ([], false)
          let r ← Act.read fun s => utility { s.scene with name, arrivals } args
          if program = "tee" then sending (← Act.read fun s => s.scene.input) args
          let act : Act Unit := do
            follow name r
            if isOpen then .leave (.stalls .late)
          if isOwn ∧ (← Act.read fun s => s.world.notices.any fun n => n.isForAll) then
            let signal ← inProcess do
              .change fun s => { s with isReplaced := true }
              act
            endBy isOwn signal
          else act
        | none => fail 127 (name.toList ++ ": not found".toList)

/-- Runs a program that is searched by its name, if it is found. -/
def launch : Nat → List Octets → Act Launched
  | 0, _ => .leave (.stalls .late)
  | _ + 1, [] => pure .notFound
  | fuel + 1, name :: args => do
    match ← Act.read fun s => s.findLaunched name with
    | .program path =>
      return .ended (← inProcess (runProgram fuel false path name args))
    | .forbidden =>
      setStatus 126
      return .notFound
    | .missing =>
      setStatus 127
      return .notFound

/-- Runs a shell under a name, with arguments of its own, in a process of its own or in the place of the present one. -/
def runShell : Nat → Bool → Octets → List Octets → Act Unit
  | 0, _, _, _ => .leave (.stalls .late)
  | fuel + 1, isOwn, own, args => do
    let asShell (name : Octets) (parameters : List Octets) (options : List Char) (act : Act Unit) :
        Act Unit :=
      inNewShell name parameters options (finishing (runText fuel) act)
    let begin : Act Unit := do
      .change fun s => { s with name := own, line := 0, command := [], options := [] }
      let (isText, operands) ← shellOptions false args
      let options ← Act.read fun s => s.options
      let readsInput := options.contains 's' || (!isText && operands.isEmpty)
      match isText, operands with
      | true, [] => abort "-c requires an argument".toList
      | true, text :: rest =>
        asShell (rest.headD own) (rest.drop 1) options (runLines fuel text)
      | false, path :: rest =>
        if readsInput then asShell own operands options (runInput fuel)
        else
          match ← Act.read fun s => s.world.files.find s.folder path with
          | .ok ⟨_, some e⟩ => asShell path rest options (runLines fuel e.data)
          | _ => abort ("cannot open ".toList ++ path ++ ": No such file".toList)
      | false, [] => asShell own [] ('s' :: options.filter (· ≠ 's')) (runInput fuel)
    let signal ← inProcess begin
    endBy isOwn signal

/-- Runs the input of a shell line by line. -/
def runInput : Nat → Act Unit
  | 0 => .leave (.stalls .late)
  | fuel + 1 => do
    match ← Act.read fun s => s.supplyOf 0 with
    | none => pure ()
    | some supply =>
      consume 0 supply.data.length false true
      match supply.cut with
      | some cut => .leave (.stalls cut)
      | none => runLines fuel supply.data

/-- Runs a text line by line. -/
def runLines : Nat → Octets → Act Unit
  | 0, _ => .leave (.stalls .late)
  | fuel + 1, text => do
    let lines := text.count '\n' + 1
    let round (rest : Octets) : Act (Option Octets) := do
      if (skipLines rest).isEmpty then return none
      let aliases ← Act.read fun s => s.aliases
      match readLine { lines, aliases } rest with
      | .ok (first, rest) => do
        exec fuel first
        return some rest
      | .error (line, message) => do
        .change fun s => { s with line }
        abort message.toList
    fun s => overText round (text.length + 1) text s

/-- Runs the action of a trap. -/
def runText : Nat → Octets → Act Unit
  | 0, _ => .leave (.stalls .late)
  | fuel + 1, text => do
    let last ← Act.read fun s => s.status
    runLines fuel text
    setStatus last

/-- Lets jobs go on that others have come to meet. -/
def meetAll : Nat → Act Unit
  | 0 => .leave (.stalls .late)
  | fuel + 1 => meet fun body => finishing (runText fuel) (exec fuel body)

/-- Does what is to be done on the signals that have come. -/
def attend : Nat → Act Unit
  | 0 => .leave (.stalls .late)
  | fuel + 1 => do
    meetAll fuel
    let s ← Act.read id
    if s.world.notices.isEmpty then pure ()
    else
      match s.interrupted? s.world.clock with
      | none => pure ()
      | some n =>
        let isIt (m : Notice) : Bool :=
          m.time = n.time && m.sender = n.sender && m.target = n.target && m.signal = n.signal
        .changeWorld fun w =>
          { w with notices := w.notices.map fun m => if isIt m then { m with taken := s.number :: m.taken } else m }
        match if n.signal = 9 then none else s.traps.lookup n.signal with
        | some action =>
          runText fuel action
          attend fuel
        | none =>
          .change fun s => s.holding.at n.time
          .leave (.killed n.signal)

end

/-! ## Scripts -/

/-- How a script ended. -/
structure Exit where
  /-- Whether it did not end in time. -/
  isLate : Bool
  /-- The status, unless a signal ended it. -/
  status : Option Nat
  out : Octets
  err : Octets
  /-- When it ended, in nanoseconds. -/
  ended : Nat
  /-- The changes that it made to files. -/
  edits : List Edit

/-- The number of the first process of a script. -/
def firstProcess : Nat := 1000

/-- The variables of the environment that every script finds. -/
def startEnvironment : List (String × String) :=
  [("HOME", "/root"), ("PATH", startPath),
    ("PWD", Catalog.startFolder)]

/-- The state in which a script begins. -/
def State.start (room steps limit : Nat) (files : Files) (environment : List (String × Octets)) :
    State :=
  let exported (value : Octets) : Variable := { value := some value, isExported := true }
  let own := startVariables.map fun (name, value) => (name, ({ value := some value.toList } : Variable))
  let outer := startEnvironment.map fun (name, value) => (name, exported value.toList)
  let given := environment.map fun (name, value) => (name, exported value)
  let parent : Variable := { value := some (toString (firstProcess - 1)).toList }
  { number := firstProcess
    shell := firstProcess
    vars := .ofList (outer ++ given ++ own ++ [("PPID", parent)])
    descriptors := [(0, 0), (1, 1), (2, 2)]
    world :=
      { files := { files with maker := firstProcess, edits := [] }
        streams :=
          #[{ channel := .nowhere, canRead := true, canWrite := false },
            { channel := .pipe 0, canRead := false, canWrite := true },
            { channel := .pipe 1, canRead := false, canWrite := true }]
        processes := firstProcess
        steps
        room
        deadline := files.clock + limit } }

/-- How deep commands may be nested. -/
def depthLimit : Nat := 100000

/-- Runs a script with some room for data; with no result if it needs more. -/
def runIn (room steps limit : Nat) (files : Files) (environment : List (String × Octets))
    (script : Octets) : Option Exit :=
  let begun := State.start room steps limit files environment
  let text (pipe : Nat) (s : State) : Octets := (textsOf pipe s.world.written).flatMap Prod.snd
  let exit (isLate : Bool) (status : Option Nat) (s : State) : Exit :=
    let ended := max s.world.clock (max (s.world.heldUntil 0) (s.world.heldUntil 1))
    let isLate := isLate || begun.world.deadline ≤ ended
    let edits := (s.world.files.edits.reverse ++ s.world.files.coming).filter fun e => e.maker ≠ 0
    { isLate, status, out := text 0 s, err := text 1 s
      ended := if isLate then begun.world.deadline else ended
      edits := (edits.filter fun e => e.time < begun.world.deadline).mergeSort
        fun a b => a.time ≤ b.time }
  let alone (s : State) : State :=
    match meetAll depthLimit { s with descriptors := [] } with
    | .done _ t | .left _ t => t
  match finishing (runText depthLimit) (runLines depthLimit script) begun with
  | .done _ s => some (exit false (some (s.status % 256)) (alone s))
  | .left (.killed _) s => some (exit false none (alone s))
  | .left (.stalls .full) _ => none
  | .left (.stalls .late) s => some (exit true none s)
  | .left _ s => some (exit false (some (s.status % 256)) (alone s))

/-- How much room a script is given for its data, one after the other. -/
def rooms : List Nat := [65536, 1048576, 16777216]

/-- Runs a script in an environment, with empty input. It is late if it does not end within a time limit
    in nanoseconds, or not within the given number of steps. -/
def run (steps limit : Nat) (files : Files) (environment : List (String × Octets)) (script : Octets) :
    Exit :=
  match rooms.findSome? fun room => runIn room steps limit files environment script with
  | some exit => exit
  | none => { isLate := true, status := none, out := [], err := [], ended := files.clock + limit, edits := [] }

end Foreman.Shell
