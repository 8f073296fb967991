import Foreman.Shell.Launcher
import Foreman.Shell.Utility.Tree

/-!
# `Foreman.Shell.Utility.System` — paths, the system and plain data

## Contents
- **Paths**: `basename`, `dirname`, `realpath`, `readlink`, `pwdProgram`, `which`.
- **The system**: `sleep`, `id`, `uname`, `printenv` and others; `killProgram`.
- **Data**: `yes`, `tee`, `dd`.
-/

namespace Foreman.Shell.Utility

/-! ## Paths -/

/-- Writes texts, each with its end. -/
def allOut (a : Arguments) (texts : List Octets) : Report :=
  textOut (endedBy (if a.has "z" then '\x00' else '\n') texts)

/-- The last name of a path, without an ending. -/
def baseOf (path ending : Octets) : Octets :=
  let name := finalName path
  if path.all (· = '/') then path.take 1
  else if ending.isEmpty ∨ name = ending ∨ !ending.isSuffixOf name then name
  else name.take (name.length - ending.length)

/-- Writes the last names of paths. -/
def basename : Utility := fun s args =>
  let g : Grammar :=
    { letters := "as:z"
      words := [("multiple", "a", .nothing), ("suffix", "s", .something), ("zero", "z", .nothing)]
      isStrict := true }
  withArguments s.name 1 g args fun a =>
    match a.operands with
    | [] => misuse 1 s.name "missing operand".toList
    | path :: rest =>
      if a.hasAny ["a", "s"] then allOut a (a.operands.map fun p => baseOf p ((a.value? "s").getD []))
      else
        match rest with
        | [] => allOut a [baseOf path []]
        | [ending] => allOut a [baseOf path ending]
        | _ :: extra :: _ => misuse 1 s.name ("extra operand ".toList ++ quotedText extra)

/-- A path without its last name. -/
def folderOf (path : Octets) : Octets :=
  let front := ((withoutFinalSlashes path).reverse.dropWhile (· ≠ '/')).reverse
  let parent := (front.reverse.dropWhile (· = '/')).reverse
  if !parent.isEmpty then parent else if path.head? = some '/' then ['/'] else ['.']

/-- Writes paths without their last names. -/
def dirname : Utility := fun s args =>
  withArguments s.name 1 { letters := "z", words := [("zero", "z", .nothing)] } args fun a =>
    if a.operands.isEmpty then misuse 1 s.name "missing operand".toList
    else allOut a (a.operands.map folderOf)

/-- How much of a path must be there. -/
inductive Presence where
  | all
  | allButLast
  | nothing
  deriving DecidableEq

/-- The parts of a path from a folder, with dots followed but no links. -/
def plainPath (folder : String) (path : Octets) : String :=
  let step (here : String) (part : Octets) : String :=
    if part = [] ∨ part = ['.'] then here
    else if part = ['.', '.'] then parentPath here
    else childPath here (String.ofList part)
  (partsAt '/' path).foldl step (if path.head? = some '/' then "" else folder)

/-- A path with all links followed. -/
def canonical (s : Scene) (presence : Presence) (path : Octets) : Except PathFault String :=
  match s.find path with
  | .ok ⟨here, some e⟩ =>
    if path.getLast? = some '/' ∧ !e.isFolder ∧ presence ≠ .nothing then .error .notFolder else .ok here
  | .ok ⟨here, none⟩ => if presence = .all then .error .missing else .ok here
  | .error fault =>
    if presence ≠ .nothing ∨ path.isEmpty then .error fault
    else
      -- As much of the path as there is, and the rest as it is written.
      let fronts := (pathFronts path).reverse
      match fronts.findSome? fun front => (s.find front).toOption.map fun p => (front, p) with
      | some (front, p) => .ok (plainPath p.path (path.drop front.length |>.dropWhile (· = '/')))
      | none => .ok (plainPath s.folder path)

/-- A path as seen from a folder. -/
def seenFrom (folder path : String) : Octets :=
  let parts (p : String) : List Octets := (partsAt '/' p.toList).filter (!·.isEmpty)
  let rec go : List Octets → List Octets → List Octets
    | a :: as, b :: bs => if a = b then go as bs else ((a :: as).map fun _ => ['.', '.']) ++ b :: bs
    | as, bs => (as.map fun _ => ['.', '.']) ++ bs
  let rest := go (parts folder) (parts path)
  if rest.isEmpty then ['.'] else ['/'].intercalate rest

/-- Writes paths with all links followed. -/
def realpath : Utility := fun s args =>
  let g : Grammar :=
    { letters := "eLmPqsz"
      words := [("canonicalize-existing", "e", .nothing), ("canonicalize-missing", "m", .nothing),
        ("strip", "s", .nothing), ("no-symlinks", "s", .nothing), ("quiet", "q", .nothing),
        ("relative-to", "relative-to", .something), ("relative-base", "relative-base", .something),
        ("zero", "z", .nothing)] }
  withArguments s.name 1 g args fun a =>
    let presence : Presence := match a.last? ["e", "m"] with
      | some "e" => .all
      | some _ => .nothing
      | none => .allButLast
    let one (path : Octets) : Report :=
      let found := if a.has "s" then
          match canonical s presence path with
          | .ok _ => Except.ok (plainPath s.folder path)
          | .error fault => .error fault
        else canonical s presence path
      match found with
      | .ok here =>
        match (a.value? "relative-to").bind fun base => (canonical s .nothing base).toOption with
        | some base => allOut a [seenFrom base here]
        | none => allOut a [shownPath here]
      | .error fault => if a.has "q" then { status := 1 } else s.unreadable 1 path fault
    if a.operands.isEmpty then misuse 1 s.name "missing operand".toList
    else a.operands.foldl (fun (r : Report) path => r.and (one path)) {}

/-- Writes where links lead. -/
def readlink : Utility := fun s args =>
  let g : Grammar :=
    { letters := "efmnqsvz"
      words := [("canonicalize", "f", .nothing), ("canonicalize-existing", "e", .nothing),
        ("canonicalize-missing", "m", .nothing), ("no-newline", "n", .nothing), ("verbose", "v", .nothing),
        ("zero", "z", .nothing), ("quiet", "q", .nothing), ("silent", "q", .nothing)] }
  withArguments s.name 1 g args fun a =>
    let cannot (path : Octets) (fault : PathFault) : Report :=
      if a.has "v" then s.unreadable 1 path fault else { status := 1 }
    let one (path : Octets) : Report :=
      let text : Except PathFault Octets := match a.last? ["e", "f", "m"] with
        | some "e" => (canonical s .all path).map shownPath
        | some "f" => (canonical s .allButLast path).map shownPath
        | some _ => (canonical s .nothing path).map shownPath
        | none =>
          match s.files.findWith false s.folder path with
          | .ok ⟨_, some e⟩ =>
            match e.node with
            | .link target => .ok target
            | _ => .error .invalid
          | .ok ⟨_, none⟩ => .error .missing
          | .error fault => .error fault
      match text with
      | .ok text => if a.has "n" ∧ a.operands.length = 1 then textOut text else allOut a [text]
      | .error fault => cannot path fault
    if a.operands.isEmpty then misuse 1 s.name "missing operand".toList
    else a.operands.foldl (fun (r : Report) path => r.and (one path)) {}

/-- Writes the present folder. -/
def pwdProgram : Utility := fun s args =>
  withArguments s.name 1 { letters := "LP" } args fun a =>
    let r : Report :=
      if a.operands.isEmpty then {} else ({} : Report).err ((s.name ++ ": ignoring non-option arguments").toList)
    r.out (shownPath s.folder ++ ['\n'])

/-- Writes the paths of programs. -/
def which : Utility := fun s args =>
  let (options, names) := args.span fun a => a.head? = some '-' && a.length = 2
  let folders := partsAt ':' ((s.valueOf? "PATH").getD [])
  let isProgram (path : Octets) : Bool :=
    (s.look? path).any fun e => !e.isFolder && e.isExecutable
  let found (name : Octets) : List Octets :=
    if name.contains '/' then if isProgram name then [name] else []
    else
      let all := (folders.map fun f => (if f.isEmpty then ['.'] else f) ++ '/' :: name).filter isProgram
      if options.contains ['-', 'a'] then all else all.take 1
  let results := names.map found
  { textOut (withEnds results.flatten) with
    status := if names.isEmpty ∨ results.any List.isEmpty then 1 else 0 }

/-! ## The system -/

/-- Sleeps. -/
def sleep : Utility := fun s args =>
  withArguments s.name 1 {} args fun a =>
    if a.operands.isEmpty then misuse 1 s.name "missing operand".toList
    else
      match a.operands.filter fun text => (nanosOf? text).isNone with
      | [] => { pause := sumOf id (a.operands.filterMap nanosOf?) }
      | bad =>
        let texts := bad.map fun text => "invalid time interval ".toList ++ quotedText text
        let (front, last) := (texts.dropLast, texts.getLast?.getD [])
        (front.foldl (fun (r : Report) text => r.and (faultOf 1 s.name text)) {}).and (misuse 1 s.name last)

/-- The utility that writes the same text in every case and takes no operands. -/
def saying (text : Octets) : Utility := fun s args =>
  withArguments s.name 1 {} args fun a =>
    match a.operands with
    | [] => lineOut text
    | extra :: _ => misuse 1 s.name ("extra operand ".toList ++ quotedText extra)

/-- Writes who the user is. -/
def identity : Utility := fun s args =>
  let g : Grammar :=
    { letters := "agGnruzZ"
      words := [("group", "g", .nothing), ("groups", "G", .nothing), ("name", "n", .nothing),
        ("user", "u", .nothing), ("real", "r", .nothing)] }
  withArguments s.name 1 g args fun a =>
    let users : List (String × String × String × String) :=
      [("root", "0", "0", "root"), ("daemon", "1", "1", "daemon"), ("bin", "2", "2", "bin"),
        ("sys", "3", "3", "sys"), ("nobody", "65534", "65534", "nogroup")]
    let one (user : String × String × String × String) : Report :=
      let (name, number, group, groupName) := user
      if a.has "u" then lineOut (if a.has "n" then name else number).toList
      else if a.hasAny ["g", "G"] then lineOut (if a.has "n" then groupName else group).toList
      else
        let g := group ++ "(" ++ groupName ++ ")"
        lineOut ("uid=" ++ number ++ "(" ++ name ++ ") gid=" ++ g ++ " groups=" ++ g).toList
    if (a.has "n" ∨ a.has "r") ∧ !a.hasAny ["u", "g", "G"] then
      faultOf 1 s.name "cannot print only names or real IDs in default format".toList
    else
      match a.operands with
      | [] => one ("root", "0", "0", "root")
      | names =>
        names.foldl (fun (r : Report) name =>
          match users.find? fun u => u.1.toList = name ∨ u.2.1.toList = name with
          | some user => r.and (one user)
          | none => r.and (faultOf 1 s.name (quotedText name ++ ": no such user".toList))) {}

/-- Writes what the system is called. -/
def uname : Utility := fun s args =>
  let g : Grammar :=
    { letters := "asnrvmpio"
      words := [("all", "a", .nothing), ("kernel-name", "s", .nothing), ("nodename", "n", .nothing),
        ("kernel-release", "r", .nothing), ("kernel-version", "v", .nothing), ("machine", "m", .nothing),
        ("processor", "p", .nothing), ("hardware-platform", "i", .nothing), ("operating-system", "o", .nothing)] }
  withArguments s.name 1 g args fun a =>
    match a.operands with
    | extra :: _ => misuse 1 s.name ("extra operand ".toList ++ quotedText extra)
    | [] =>
      let parts : List (String × String) :=
        [("s", "Linux"), ("n", "localhost"), ("r", "6.1.0"), ("v", "#1 SMP"), ("m", "x86_64"), ("o", "GNU/Linux")]
      let isShown (letter : String) : Bool := a.has "a" || a.has letter || (a.options.isEmpty && letter = "s")
      let shown := parts.filter fun p => isShown p.1
      let shown := if a.has "a" then shown else shown ++ (["p", "i"].filter a.has).map fun l => (l, "unknown")
      lineOut (" ".intercalate (shown.map Prod.snd)).toList

/-- Writes the values of variables of the environment, or all of it. -/
def printenv : Utility := fun s args =>
  withArguments s.name 2 { letters := "0", words := [("null", "0", .nothing)], isStrict := true } args fun a =>
    let ending := if a.has "0" then '\x00' else '\n'
    if a.operands.isEmpty then textOut (environmentText ending s.environment)
    else
      let values := a.operands.map fun name => s.valueOf? (String.ofList name)
      { textOut (endedBy ending (values.filterMap id)) with
        status := if values.all Option.isSome then 0 else 1 }

/-- Shows the numbers and names of signals. Nothing can be signalled from here but unknown processes. -/
def killProgram : Utility := fun s args =>
  match args with
  | ['-', 'l'] :: names =>
    match names with
    | [] => textOut (withEnds [[' '].intercalate (((List.range 31).map (· + 1)).map fun n => (signalName n).toList)])
    | name :: _ =>
      match natNumber? name with
      | some n => if n % 128 = 0 ∨ lastSignal < n % 128 then faultOf 1 s.name ("unknown signal name ".toList ++ name)
        else lineOut (signalName (n % 128)).toList
      | none =>
        match signalNumber? name with
        | some n => lineOut (natText n)
        | none => faultOf 1 s.name ("unknown signal name ".toList ++ name)
  | args =>
    let targets := args.filter fun a => a.head? ≠ some '-'
    targets.foldl (fun (r : Report) a =>
      match natNumber? a with
      | some _ => r.and (faultOf 1 s.name ("(".toList ++ a ++ "): No such process".toList))
      | none => r.and (faultOf 1 s.name ("failed to parse argument: ".toList ++ quotedName a))) {}

/-! ## Data -/

/-- Writes a line without end. -/
def yes : Utility := fun s args =>
  let args := if args.head? = some ['-', '-'] then args.tail else args
  let line := (if args.isEmpty then ['y'] else [' '].intercalate args) ++ ['\n']
  { textOut ((List.replicate (s.room / line.length + 1) line).flatten) with isEndless := true }

/-- Writes the input to files, too. -/
def tee : Utility := fun s args =>
  let g : Grammar :=
    { letters := "aip", words := [("append", "a", .nothing), ("ignore-interrupts", "i", .nothing)] }
  withArguments s.name 1 g args fun a =>
    let step (acc : Files × Report) (path : Octets) : Files × Report :=
      let (files, r) := acc
      let cannot (fault : PathFault) : Files × Report := (files, r.and (s.unreadable 1 path fault))
      match files.find s.folder path with
      | .error fault => cannot fault
      | .ok ⟨here, old⟩ =>
        match String.ofList path with
        | "/dev/stdout" => (files, r)
        | "/dev/stderr" => (files, { r with texts := r.texts ++ [(2, s.input)] })
        | _ =>
          if old.any Entry.isFolder then cannot .isFolder
          else
            let front := if a.has "a" then (old.map Entry.data).getD [] else []
            (files.write here (s.newMode 0o666) (front ++ s.input), r)
    let (files, r) := a.operands.foldl step (s.files, {})
    let copies := (a.operands.filter (· = "/dev/stdout".toList)).length
    { r with
      texts := r.texts ++ List.replicate (copies + 1) (1, s.input)
      files := some files
      appetite := .everything
      isHungry := s.isCut }

/-- The number in an operand of `dd`, which may be a product. -/
def ddNumber? (text : Octets) : Option Nat :=
  let unit (cs : Octets) : Option Nat :=
    let digits := cs.takeWhile Char.isDigit
    match cs.drop digits.length with
    | ['c'] => natNumber? digits
    | ['w'] => (natNumber? digits).map (2 * ·)
    | ['B'] => natNumber? digits
    | _ => sizeNumber? cs
  ((partsAt 'x' text).mapM unit).map fun ns => ns.foldl (· * ·) 1

/-- Copies data in blocks. -/
def dd : Utility := fun s args =>
  let operand (a : Octets) : String × Octets :=
    let name := a.takeWhile (· ≠ '=')
    (String.ofList name, a.drop (name.length + 1))
  let known := ["if", "of", "bs", "ibs", "obs", "count", "skip", "seek", "conv", "status", "iflag", "oflag", "cbs",
    "iseek", "oseek"]
  let operands := args.map operand
  let value? (name : String) : Option Octets := (operands.reverse.find? (·.1 = name)).map Prod.snd
  let numbers := ["bs", "ibs", "obs", "count", "skip", "seek", "iseek", "oseek"]
  match args.find? fun a => !known.contains (operand a).1 ∨ !a.contains '=' with
  | some a => misuse 1 s.name ("unrecognized operand ".toList ++ quotedText a)
  | none =>
    match operands.find? fun o => numbers.contains o.1 ∧ (ddNumber? o.2).isNone with
    | some (_, text) => faultOf 1 s.name ("invalid number: ".toList ++ quotedText text)
    | none =>
      let number (name : String) (fallback : Nat) : Nat := ((value? name).bind ddNumber?).getD fallback
      let size := number "bs" (number "ibs" 512)
      let outSize := number "bs" (number "obs" 512)
      if size = 0 then faultOf 1 s.name ("invalid number: ".toList ++ quotedText ((value? "bs").getD ['0']))
      else
        let flags := partsAt ',' ((value? "conv").getD [])
        let has (flag : String) : Bool := flags.contains flag.toList
        let inBytes := ((value? "iflag").getD []) = "count_bytes".toList
        let most := (value? "count").map fun _ => if inBytes then number "count" 0 else number "count" 0 * size
        let skipped := number "skip" (number "iseek" 0) * size
        let path := (value? "if").getD ['-']
        match s.readPath path with
        | .error fault =>
          faultOf 1 s.name ((if fault = .isFolder then "error reading " else "failed to open ").toList ++ quotedName path ++
            (": " ++ fault.text).toList)
        | .ok (data, isCut) =>
          let rest := data.drop skipped
          let part := match most with
            | some n => rest.take n
            | none => rest
          let isShort := most.all fun n => part.length < n
          let converted := part.map fun c =>
            if has "ucase" then c.toUpper else if has "lcase" then c.toLower else c
          let converted := if has "swab" then swapped converted else converted
          let converted := if has "sync" ∧ converted.length % size ≠ 0 then
              converted ++ List.replicate (size - converted.length % size) '\x00'
            else converted
          let counts (size n : Nat) : String :=
            toString (n / size) ++ "+" ++ (if n % size = 0 then "0" else "1") ++ " records "
          let length := converted.length
          let bytes := toString length ++ (if length = 1 then " byte" else " bytes")
          let summary : List Octets := match String.ofList ((value? "status").getD []) with
            | "none" => []
            | status =>
              [(counts size part.length ++ "in").toList, (counts outSize length ++ "out").toList] ++
                (if status = "noxfer" then [] else [(bytes ++ " copied, 0 s, Infinity B/s").toList])
          let r : Report :=
            { isHungry := isCut && isShort
              appetite := if !Scene.isInput path then .nothing
                else match most with
                  | some n => .exactly (min data.length (skipped + n))
                  | none => .everything }
          let r : Report := match value? "of" with
            | none => r.out converted
            | some target =>
              match s.find target with
              | .error fault =>
                r.and (faultOf 1 s.name ("failed to open ".toList ++ quotedName target ++ (": " ++ fault.text).toList))
              | .ok ⟨here, old⟩ =>
                if old.any Entry.isFolder then
                  r.and (faultOf 1 s.name ("failed to open ".toList ++ quotedName target ++ ": Is a directory".toList))
                else
                  let before := (old.map Entry.data).getD []
                  let place := number "seek" (number "oseek" 0) * outSize
                  let front := before.take place
                  let front := front ++ List.replicate (place - front.length) '\x00'
                  let after := if has "notrunc" then before.drop (place + length) else []
                  { r with files := some (s.files.write here (s.newMode 0o666) (front ++ converted ++ after)) }
          if r.status ≠ 0 then r else summary.foldl Report.err r
where
  /-- A text in which every two bytes change places. -/
  swapped : Octets → Octets
    | a :: b :: rest => b :: a :: swapped rest
    | cs => cs

end Foreman.Shell.Utility
