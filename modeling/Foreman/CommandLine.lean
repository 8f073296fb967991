import Foreman.Text.Digits

/-!
# `Foreman.CommandLine` — the arguments of the program

Options have long names; an option with a value takes it after an equals sign or as the next argument.
Every option may be given once. The first thing wrong, from left to right, decides.

## Contents
- **`Arguments`** with its defaults, **`Refusal`**.
- **`Partial`**: arguments read so far; an option may still wait for its value.
- `Arguments.parse`.
-/

namespace Foreman

/-- How much is logged. -/
inductive LogLevel where
  | error
  | warn
  | info
  | debug
  | trace
  deriving DecidableEq

/-- The word that stands for a level. -/
def LogLevel.label : LogLevel → String
  | error => "error"
  | warn => "warn"
  | info => "info"
  | debug => "debug"
  | trace => "trace"

/-- The level of a word. -/
def LogLevel.ofLabel? (s : String) : Option LogLevel :=
  [error, warn, info, debug, trace].find? fun level => level.label = s

/-- What the program is asked to do. -/
structure Arguments where
  /-- The path of the workflow file. -/
  config : String := "Workflow.toml"
  logLevel : Option LogLevel := none
  /-- Print the plan and run nothing. -/
  dryRun : Bool := false
  /-- Print the dependency graph and run nothing. -/
  dot : Bool := false
  /-- Overrides the concurrency of the workflow file. -/
  maxConcurrency : Option Nat := none
  deriving DecidableEq

/-- Why the program does not start. -/
inductive Refusal where
  | helpWanted
  | versionWanted
  | repeatedOption
  /-- A value is missing, empty, or none of the possible ones. -/
  | badValue
  /-- A value is no number of 64 bits. -/
  | badNumber
  | unexpectedValue
  | unknownArgument
  deriving DecidableEq

/-- The status with which the program ends. -/
def Refusal.exitStatus : Refusal → Nat
  | helpWanted | versionWanted => 0
  | _ => 2

/-- An option with a value. -/
inductive Setting where
  | config
  | logLevel
  | maxConcurrency
  deriving DecidableEq

/-- The meaning of a long name. -/
inductive Switch where
  | setting (s : Setting)
  | dryRun
  | dot
  | help
  | version
  deriving DecidableEq

/-- The switch of a long name. -/
def Switch.ofName? : String → Option Switch
  | "config" => some (.setting .config)
  | "log-level" => some (.setting .logLevel)
  | "max-concurrency" => some (.setting .maxConcurrency)
  | "dry-run" => some .dryRun
  | "dot" => some .dot
  | "help" => some .help
  | "version" => some .version
  | _ => none

/-- The number of 64 bits that a text writes, with or without a plus sign. -/
def wordOf? (s : String) : Option Nat :=
  let ds := match s.toList with
    | '+' :: rest => rest
    | cs => cs
  match numeral? 10 ds with
  | some n => if n < 2 ^ 64 then some n else none
  | none => none

/-- Arguments read so far. -/
structure Partial where
  config : Option String := none
  logLevel : Option LogLevel := none
  dryRun : Bool := false
  dot : Bool := false
  maxConcurrency : Option Nat := none
  /-- The last option, if its value was not taken yet, and the value, if it is there. -/
  waiting : Option (Setting × Option String) := none

namespace Partial

/-- Gives an option its value. -/
def assign (p : Partial) (s : Setting) (value : String) : Except Refusal Partial :=
  match s with
  | .config =>
    if p.config.isSome then .error .repeatedOption
    else if value.isEmpty then .error .badValue
    else .ok { p with config := some value }
  | .logLevel =>
    if p.logLevel.isSome then .error .repeatedOption
    else
      match LogLevel.ofLabel? value with
      | some level => .ok { p with logLevel := some level }
      | none => .error .badValue
  | .maxConcurrency =>
    if p.maxConcurrency.isSome then .error .repeatedOption
    else
      match wordOf? value with
      | some n => .ok { p with maxConcurrency := some n }
      | none => .error .badNumber

/-- Gives the last option its value. -/
def settle (p : Partial) : Except Refusal Partial :=
  match p.waiting with
  | none => .ok p
  | some (_, none) => .error .badValue
  | some (s, some value) => { p with waiting := none }.assign s value

/-- Reads a long name with the value attached to it. -/
def long (p : Partial) (name : String) (value : Option String) : Except Refusal Partial :=
  match Switch.ofName? name, value with
  | none, _ => .error .unknownArgument
  | some (.setting s), some value => do (← p.settle).assign s value
  | some (.setting s), none => do return { ← p.settle with waiting := some (s, none) }
  | some _, some _ => .error .unexpectedValue
  | some switch, none => do
    let p ← p.settle
    match switch with
    | .dryRun => if p.dryRun then .error .repeatedOption else return { p with dryRun := true }
    | .dot => if p.dot then .error .repeatedOption else return { p with dot := true }
    | .help => .error .helpWanted
    | _ => .error .versionWanted

/-- Reads an argument after a single hyphen. -/
def short (p : Partial) (letter : Char) : Except Refusal Partial :=
  if letter = 'h' then p.settle >>= fun _ => .error .helpWanted
  else if letter = 'V' then p.settle >>= fun _ => .error .versionWanted
  else .error .unknownArgument

/-- Reads one argument. -/
def read (p : Partial) (argument : String) : Except Refusal Partial :=
  match argument.toList with
  | '-' :: '-' :: rest =>
    let name := rest.takeWhile (· ≠ '=')
    let value := match rest.drop name.length with
      | _ :: value => some (String.ofList value)
      | [] => none
    p.long (String.ofList name) value
  | '-' :: letter :: _ => p.short letter
  | _ =>
    match p.waiting with
    | some (s, none) => .ok { p with waiting := some (s, some argument) }
    | _ => .error .unknownArgument

/-- Reads all arguments. After two hyphens nothing may follow. -/
def readAll (p : Partial) : List String → Except Refusal Partial
  | [] => p.settle
  | argument :: rest =>
    if argument = "--" then
      if rest.isEmpty then p.settle else .error .unknownArgument
    else p.read argument >>= fun p => p.readAll rest

end Partial

/-- What a list of arguments asks for. -/
def Arguments.parse (arguments : List String) : Except Refusal Arguments := do
  let p ← ({} : Partial).readAll arguments
  let d : Arguments := {}
  return {
    config := p.config.getD d.config
    logLevel := p.logLevel
    dryRun := p.dryRun
    dot := p.dot
    maxConcurrency := p.maxConcurrency }

end Foreman
