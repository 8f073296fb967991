import Foreman.Codec.Documents
import Foreman.Toml
import Foreman.WorkflowFile

/-!
# `Foreman.WorkflowFile.Load` — workflow files from their bytes

A workflow file is a TOML document. Unknown fields do not matter, and what a file leaves out has a
default. A section may also be a list of its fields in a fixed order.

## Contents
- **`LoadError`**: why a file cannot be used.
- **Sections**: `WorkflowFile.ofValue?` and what it is made of.
- **`Contents`** and `WorkflowFile.load`.
-/

namespace Foreman

open Codec

/-! ## Errors -/

/-- Why no text can be read. -/
inductive ReadError where
  | missing
  | denied
  /-- The path goes through a file. -/
  | blocked
  | directory
  | tooLong
  /-- The path goes in a circle. -/
  | loops
  /-- The path has a null character, which no file name has. -/
  | nullInPath
  | notText
  deriving DecidableEq

/-- How an unreadable file is reported. -/
def ReadError.message : ReadError → String
  | missing => "No such file or directory (os error 2)"
  | denied => "Permission denied (os error 13)"
  | blocked => "Not a directory (os error 20)"
  | directory => "Is a directory (os error 21)"
  | tooLong => "File name too long (os error 36)"
  | loops => "Too many levels of symbolic links (os error 40)"
  | nullInPath => "file name contained an unexpected NUL byte"
  | notText => "stream did not contain valid UTF-8"

/-- What a path leads to. -/
abbrev Contents := Except ReadError ByteArray

/-- Why a workflow file cannot be used. -/
inductive LoadError where
  | unreadable (error : ReadError)
  /-- No TOML document, or a field of another type or out of range. -/
  | malformed
  | flawed (flaw : FileFlaw)
  deriving DecidableEq

/-- How an unusable file is reported. -/
def LoadError.message : LoadError → String
  | unreadable error => "IO error: " ++ error.message
  | malformed => "TOML parsing error: not a workflow file"
  | flawed flaw => "Configuration error: " ++ flaw.message

/-! ## Sections -/

mutual

/-- Whether every number in some data is one that can be read. -/
def isReadable : Value → Bool
  | .int n => Toml.isWithinReach n
  | .list items => areReadable items
  | .table fields => hasReadableFields fields
  | _ => true

/-- The same for the items of a list. -/
def areReadable : List Value → Bool
  | [] => true
  | v :: rest => isReadable v && areReadable rest

/-- The same for the fields of a table. -/
def hasReadableFields : List (String × Value) → Bool
  | [] => true
  | (_, v) :: rest => isReadable v && hasReadableFields rest

end

/-- The named fields of a section: of a table by name, of a list by place. Without a list of all
    fields, the rest has defaults. Other fields of a table are read, too, but other items of a list are
    not. -/
def sectionFields? (names : List String) : Value → Option (List (Option Value))
  | .table fields =>
    if fields.all fun (name, v) => names.contains name || isReadable v then
      some (names.map (lookupEntry · fields))
    else none
  | .list items => some ((List.range names.length).map (items[·]?))
  | _ => none

/-- Data of a field, if the field is there. -/
def given {α : Type} (c : Codec α) : Option Value → Option (Option α)
  | some v => (c.decode v).map some
  | none => some none

/-- Times in 64 bits. -/
def word64 : Codec UInt64 where
  encode n := .int n.toNat
  decode v := (nat64.decode v).map UInt64.ofNat

/-- Floating-point numbers; an integer of at most 64 bits is read as the nearest one. -/
def factor : Codec Binary64 where
  encode := .float
  decode
    | .float x => some x
    | .int n => if -(2 ^ 63) ≤ n ∧ n < 2 ^ 64 then some (.ofInt n) else none
    | _ => none

/-- An execution mode: its word, or a table whose only field has that name and is empty. -/
def fileMode : Codec ExecutionMode where
  encode m := .text m.label
  decode
    | .table [(s, .table [])] | .table [(s, .list [])] => ExecutionMode.codec.decode (.text s)
    | .text s => ExecutionMode.codec.decode (.text s)
    | _ => none

mutual

/-- A value in a payload. Integers have 64 bits and a sign. A table whose first field has the name
    that stands for dates and times is one, whatever its other fields are. -/
def payloadValue? : Value → Option Value
  | .int n => if -(2 ^ 63) ≤ n ∧ n < 2 ^ 63 then some (.int n) else none
  | .list items => (payloadItems? items).map .list
  | .table ((name, v) :: rest) =>
    if name = Toml.momentName then (v.asText?.bind Toml.momentOf?).map Toml.momentValue
    else
      match payloadValue? v, payloadFields? rest with
      | some v, some rest => some (.table ((name, v) :: rest))
      | _, _ => none
  | v => some v

/-- The items of a list in a payload. -/
def payloadItems? : List Value → Option (List Value)
  | [] => some []
  | v :: rest =>
    match payloadValue? v, payloadItems? rest with
    | some v, some rest => some (v :: rest)
    | _, _ => none

/-- The fields of a table in a payload. -/
def payloadFields? : List (String × Value) → Option (List (String × Value))
  | [] => some []
  | (name, v) :: rest =>
    match payloadValue? v, payloadFields? rest with
    | some v, some rest => some ((name, v) :: rest)
    | _, _ => none

end

/-- Payloads are tables. -/
def payloadTable : Codec Value where
  encode := id
  decode
    | .table fields => (payloadFields? fields).map .table
    | _ => none

/-- The section on the workflow as a whole. -/
def WorkflowSection.ofValue? (v : Value) : Option WorkflowSection :=
  match sectionFields? ["id", "name", "description", "creator", "priority", "timeout_secs",
    "max_retries", "execution_mode"] v with
  | some [id, name, description, creator, priority, timeoutSecs, maxAttempts, mode] => do
    let d : WorkflowSection := {}
    return {
      id := ← defaulted text d.id id
      name := ← given text name
      description := ← defaulted text d.description description
      creator := ← defaulted text d.creator creator
      priority := ← defaulted nat8 d.priority priority
      timeoutSecs := ← defaulted word64 d.timeoutSecs timeoutSecs
      maxAttempts := ← defaulted nat32 d.maxAttempts maxAttempts
      mode := ← defaulted fileMode d.mode mode }
  | _ => none

/-- The section on the executor, which only limits its concurrency. -/
def concurrencyOf? (v : Value) : Option Nat :=
  match sectionFields? ["max_concurrency"] v with
  | some [n] => defaulted nat64 4 n
  | _ => none

/-- The section on the delays between attempts. -/
def RetrySection.ofValue? (v : Value) : Option RetrySection :=
  match sectionFields? ["initial_delay_ms", "backoff_multiplier", "max_delay_ms"] v with
  | some [initialDelayMs, multiplier, maxDelayMs] => do
    let d : RetrySection := {}
    return {
      initialDelayMs := ← defaulted word64 d.initialDelayMs initialDelayMs
      multiplier := ← defaulted factor d.multiplier multiplier
      maxDelayMs := ← defaulted word64 d.maxDelayMs maxDelayMs }
  | _ => none

/-- The section on one task. -/
def TaskSection.ofValue? (v : Value) : Option TaskSection :=
  match sectionFields? ["name", "type", "capabilities", "duration_secs", "cores", "memory_mb",
    "accelerator", "after", "payload"] v with
  | some [name, kind, capabilities, durationSecs, cores, memoryMb, accelerator, after, content] => do
    let d : TaskSection := {}
    return {
      name := ← given text name
      kind := ← defaulted TaskKind.codec d.kind kind
      capabilities := ← defaulted (list text) d.capabilities capabilities
      durationSecs := ← defaulted word64 d.durationSecs durationSecs
      cores := ← defaulted nat32 d.cores cores
      memoryMb := ← defaulted nat64 d.memoryMb memoryMb
      accelerator := ← defaulted bool d.accelerator accelerator
      after := ← defaulted (list text) d.after after
      payload := ← given payloadTable content }
  | _ => none

/-- The section on one agent, which must have an id. -/
def AgentSpec.ofSection? (v : Value) : Option AgentSpec :=
  match v with
  | .list items => AgentSpec.decode (.list (items.take 4))
  | v => if isReadable v then AgentSpec.decode v else none

/-- A part of a file, or its default if the file leaves it out. -/
def sectionOr {α : Type} (fallback : α) (read : Value → Option α) : Option Value → Option α
  | some v => read v
  | none => some fallback

/-- The agents of a file. -/
def agentsOf? : Value → Option (List AgentSpec)
  | .list vs => vs.mapM AgentSpec.ofSection?
  | _ => none

/-- The tasks of a file. -/
def tasksOf? : Value → Option (NameMap TaskSection)
  | .table fields =>
    (fields.mapM fun (e : String × Value) => (TaskSection.ofValue? e.2).map fun s => (e.1, s)).map
      NameMap.ofList
  | _ => none

namespace WorkflowFile

/-- The workflow file that a document holds. -/
def ofValue? (v : Value) : Option WorkflowFile :=
  match sectionFields? ["workflow", "executor", "retry", "agent", "task"] v with
  | some [workflow, executor, retry, agents, tasks] => do
    return {
      workflow := ← sectionOr {} WorkflowSection.ofValue? workflow
      maxConcurrency := ← sectionOr 4 concurrencyOf? executor
      retry := ← sectionOr {} RetrySection.ofValue? retry
      agents := ← sectionOr [] agentsOf? agents
      tasks := ← sectionOr ∅ tasksOf? tasks }
  | _ => none

/-! ## Files -/

/-- The text in a file. -/
def textOf (contents : Contents) : Except ReadError String :=
  match contents with
  | .error e => .error e
  | .ok data =>
    match String.fromUTF8? data with
    | some s => .ok s
    | none => .error .notText

/-- Reads a workflow file and checks it. -/
def load (contents : Contents) : Except LoadError WorkflowFile := do
  let s ← (textOf contents).mapError .unreadable
  match (Toml.parse? s).bind ofValue? with
  | none => .error .malformed
  | some f =>
    f.check.mapError .flawed
    return f

end WorkflowFile

end Foreman
