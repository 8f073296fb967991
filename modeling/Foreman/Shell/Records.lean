import Foreman.Shell.Records.Evaluation
import Foreman.Shell.Records.Reader

/-!
# `Foreman.Shell.Records` — a language for texts made of records

Programs of this language go through their input record by record, and do something with those that match.

## Contents
- **Options**: **`Settings`**, `readSettings`.
- **Running**: `applyRules`, `perform`.
- `awk`: the program that runs programs.
-/

namespace Foreman.Shell.Records

/-! ## Options -/

/-- What the options say. -/
structure Settings where
  /-- What is assigned before the program begins, in order. -/
  assignments : List (String × Octets) := []
  /-- The files with the program. -/
  files : List Octets := []
  /-- Options that mean nothing. -/
  notes : List Octets := []
  /-- What is shown in place of running a program. -/
  shown : Option (List String) := none
  operands : List Octets := []

/-- How the program is used. -/
def usage : List String :=
  ["Usage: mawk [Options] [Program] [file ...]",
    "",
    "Program:",
    "    The -f option value is the name of a file containing program text.",
    "    If no -f option is given, a \"--\" ends option processing; the following",
    "    parameters are the program text.",
    "",
    "Options:",
    "    -f program-file  Program  text is read from file instead of from the",
    "                     command-line.  Multiple -f options are accepted.",
    "    -F value         sets the field separator, FS, to value.",
    "    -v var=value     assigns value to program variable var.",
    "    --               unambiguous end of options.",
    "",
    "    Implementation-specific options are prefixed with \"-W\".  They can be",
    "    abbreviated:",
    "",
    "    -W version       show version information and exit.",
    "    -W compat        pre-POSIX 2001.",
    "    -W dump          show assembler-like listing of program and exit.",
    "    -W help          show this message and exit.",
    "    -W interactive   set unbuffered output, line-buffered input.",
    "    -W exec file     use file as program as well as last option.",
    "    -W posix         stricter POSIX checking.",
    "    -W random=number set initial random seed.",
    "    -W sprintf=number adjust size of sprintf buffer.",
    "    -W usage         show this message and exit."]

/-- The version of the language. -/
def version : List String := ["mawk 1.3.4 20240123"]

/-- Takes an option of the kind that only some versions of the language know. -/
def Settings.special (s : Settings) (word : Octets) : Settings :=
  let isPart (name : String) : Bool := !word.isEmpty && word.isPrefixOf name.toList
  if isPart "version" then { s with shown := some version }
  else if isPart "help" ∨ isPart "usage" then { s with shown := some usage }
  else if ["compat", "interactive", "posix", "dump", "repetitions", "traditional"].any isPart ∨
      ["random=", "sprintf="].any fun name => name.toList.isPrefixOf word then s
  else { s with notes := s.notes ++ ["vacuous option: -W \"".toList ++ word ++ ['"']] }

/-- Takes an option with its value. -/
def Settings.take (s : Settings) (letter : Char) (value : Octets) : Except Octets Settings :=
  match letter with
  | 'F' => .ok { s with assignments := s.assignments ++ [("FS", value)] }
  | 'f' => .ok { s with files := s.files ++ [value] }
  | 'v' =>
    match assignmentIn? value with
    | some a => .ok { s with assignments := s.assignments ++ [a] }
    | none => .error ("improper assignment: -v ".toList ++ value)
  | _ => .ok (s.special value)

/-- Reads options, or tells what is wrong with one. -/
def readSettings : Settings → List Octets → Except Octets Settings
  | s, [] => .ok s
  | s, ['-', '-'] :: rest => .ok { s with operands := rest }
  | s, ('-' :: '-' :: word) :: rest =>
    match String.ofList word with
    | "version" => readSettings { s with shown := some version } rest
    | "help" | "usage" => readSettings { s with shown := some usage } rest
    | _ => .error ("not an option: --".toList ++ word)
  | s, ('-' :: letter :: value) :: rest =>
    if !"FvfW".toList.contains letter then .error ("not an option: -".toList ++ letter :: value)
    else
      match value, rest with
      | [], [] => .error ("option -".toList ++ letter :: " lacks argument".toList)
      | [], value :: rest => do readSettings (← s.take letter value) rest
      | value, rest => do readSettings (← s.take letter value) rest
  | s, arg :: rest => .ok { s with operands := arg :: rest }

/-- Reads the files of a program. -/
def readFiles : List Octets → Act (Except Octets Octets)
  | [] => return .ok []
  | path :: rest => do
    let s ← Act.read id
    let text : Except Octets Octets ←
      if Scene.isInput path then do
        let supply := s.supplyOf 0
        takeInput { appetite := .everything }
        pure (.ok ((supply.map Supply.data).getD []))
      else
        match s.world.files.read s.world.room s.folder path with
        | .ok (data, _) => pure (.ok data)
        | .error fault =>
          pure (.error ("cannot open \"".toList ++ path ++ "\" (".toList ++ fault.text.toList ++ [')']))
    match text with
    | .error fault => return .error fault
    | .ok text =>
      match ← readFiles rest with
      | .error fault => return .error fault
      | .ok more => return .ok (text ++ (if text.getLast? = some '\n' then [] else ['\n']) ++ more)

/-! ## Running -/

/-- How deep expressions, statements and calls may be nested in all. -/
def nestingLimit : Nat := 1000000

/-- Prints the record. -/
def printRecord : Run Unit := do
  emitOut ((← textOf (← readField 0)) ++ (← textOf (← readVariable .outputRecordSeparator)))

/-- Runs the action of a rule. -/
def runAction (launch : Launch) (rule : Rule) : Run Unit :=
  match rule.action with
  | some s => exec launch nestingLimit s
  | none => printRecord

/-- Applies a rule to the record. -/
def applyRule (launch : Launch) (number : Nat) (rule : Rule) : Run Unit := do
  let truth (e : Expr) : Run Bool := do return (← eval launch nestingLimit e).isTrue
  match rule.selection with
  | .always => runAction launch rule
  | .test e => if ← truth e then runAction launch rule
  | .range first last =>
    let isWithin := (← get).isWithin.getD number false
    if isWithin || (← truth first) then
      let isOver ← truth last
      modify fun m => { m with isWithin := m.isWithin.setIfInBounds number !isOver }
      runAction launch rule

/-- Applies rules to the record. -/
def applyRules (launch : Launch) : Nat → List Rule → Run Unit
  | _, [] => pure ()
  | n, rule :: rest => do
    applyRule launch n rule
    applyRules launch (n + 1) rest

/-- Takes the next record, and applies the rules to it; tells whether there was one. -/
def recordRound (launch : Launch) : Run Bool := do
  match ← nextRecord nestingLimit with
  | none => return false
  | some t =>
    setRecord t
    let rules : Run Unit := do applyRules launch 0 (← get).program.rules
    fun m => do
      match ← rules { m with pending := 0 } with
      | (.ok _, m) | (.error .next, m) => return (.ok true, m)
      | (.error .nextFile, m) => (do leaveFile; return true : Run Bool) m
      | (.error e, m) => return (.error e, m)

/-- Runs a part of a program, and tells whether the program goes on. -/
def part (act : Run Unit) : Run Bool := fun m => do
  match ← act m with
  | (.error .stops, m) => return (.error .stops, m)
  | (.error .exits, m) => return (.ok false, m)
  | (_, m) => return (.ok true, m)

/-- Assigns a text of the options to a variable. -/
def assignOption (name : String) (value : Octets) : Run Unit := do
  let text := replaceEscapes (value.length + 1) value
  match name, separatorOf text with
  | "FS", .error fault =>
    stopWith (("line 0: regular expression compile failed (" ++ fault.text ++ ")\n").toList ++ text)
  | _, _ => assignOutside name value

/-- Gives the variables their values from the start. -/
def prepare (settings : Settings) (operands : List Octets) : Run Unit := do
  assignVariable .recordSeparator (.text ['\n'])
  assignVariable .fieldSeparator (.text [' '])
  assignVariable .conversionFormat (.text plainFormat)
  assignVariable .outputFormat (.text plainFormat)
  assignVariable .outputFieldSeparator (.text [' '])
  assignVariable .outputRecordSeparator (.text ['\n'])
  assignVariable .keySeparator (.text ['\x1c'])
  countVariable .recordNumber 0
  countVariable .fileRecordNumber 0
  countVariable .matchStart 0
  assignVariable .matchLength (.ofInt (-1))
  countVariable .argumentCount operands.length
  let arguments ← tableOf .arguments
  operands.zipIdx.forM fun (word, n) =>
    assignTarget (.element arguments (.number n)) (.input word)
  let environment ← tableOf .environment
  (← doing (Act.read State.environment)).forM fun (name, value) =>
    assignTarget (.element environment (.text name.toList)) (.input value)
  settings.assignments.forM fun (name, value) => assignOption name value

/-- Runs a program. -/
def perform (launch : Launch) (settings : Settings) (operands : List Octets) : Run Unit := do
  let program := (← get).program
  let _ ← part do
    prepare settings operands
    let goes ← part (execAll launch nestingLimit program.before)
    if !(program.rules.isEmpty ∧ program.after.isEmpty) then
      let _ ← if goes then part (repeating (recordRound launch)) else pure false
      execAll launch nestingLimit program.after

/-- Runs a program, and closes everything at its end. -/
def runProgram (launch : Launch) (name : String) (settings : Settings) (operands : List Octets)
    (program : Program) : Act Unit := do
  let begun : Machine :=
    { name
      program
      slots := Array.replicate program.shared.length .unset
      base := program.shared.length
      isWithin := Array.replicate program.rules.length false }
  let (_, m) ← perform launch settings (name.toList :: operands) begun
  let (_, m) ← closeAll launch m
  setStatus m.status

/-- The program that runs programs for records. -/
def awk (launch : Launch) (name : String) (args : List Octets) : Act Unit := do
  let blame (text : Octets) : Act Unit := write 2 ((name ++ ": ").toList ++ text ++ ['\n'])
  match readSettings {} args with
  | .error text =>
    blame text
    setStatus 2
  | .ok settings =>
    settings.notes.forM blame
    let showing (lines : List String) : Act Unit :=
      follow name (textOut (lines.flatMap fun line => (line ++ "\n").toList))
    let run (file : Option Octets) (text : Octets) (operands : List Octets) : Act Unit := do
      match readProgram file text with
      | .error complaints =>
        complaints.forM blame
        setStatus 2
      | .ok program => runProgram launch name settings operands program
    match settings.shown, settings.files, settings.operands with
    | some lines, _, _ => showing lines
    | none, [], [] => showing usage
    | none, [], text :: operands => run none text operands
    | none, file :: files, operands =>
      match ← readFiles (file :: files) with
      | .error text =>
        blame text
        setStatus 2
      | .ok text => run (some file) text operands

end Foreman.Shell.Records
