import Foreman.Collection.Sum
import Foreman.Shell.Reader
import Foreman.Shell.Streams

/-!
# `Foreman.Shell.Variables` — parameters and their values

## Contents
- **Parameters**: `State.value?`, `State.joined`, `State.separators`.
- **Variables**: `setVariable`, `restored`; `State.environment`, what other programs find.
- **Homes**: `home?`, the folder that a tilde stands for.
-/

namespace Foreman.Shell

/-! ## Parameters -/

/-- The value of a variable. -/
def State.valueOf? (s : State) (name : String) : Option Octets :=
  (s.vars.find? name).bind Variable.value

/-- Joins texts with the character between the values of a list of parameters. -/
def State.joined (s : State) (texts : List Octets) : Octets :=
  let mark := match s.valueOf? "IFS" with
    | some value => value.take 1
    | none => [' ']
  mark.intercalate texts

/-- The characters that separate fields: those that are blanks, and the others. -/
def State.separators (s : State) : List Char × List Char :=
  match s.valueOf? "IFS" with
  | some value => value.partition fun c => c = ' ' || c = '\t' || c = '\n'
  | none => ([' ', '\t', '\n'], [])

/-- The letters of the options, in the order in which they are shown. -/
def optionLetters : List Char :=
  ['u', 'b', 'a', 'C', 'E', 'V', 'v', 'x', 's', 'n', 'm', 'i', 'I', 'f', 'e']

/-- The value of a parameter. -/
def State.value? (s : State) (name : String) : Option Octets :=
  let shown (n : Nat) : Octets := (toString n).toList
  match name with
  | "?" => some (shown s.status)
  | "$" => some (shown s.shell)
  | "#" => some (shown s.parameters.length)
  | "@" | "*" => some (s.joined s.parameters)
  | "-" => some (optionLetters.filter s.has)
  | "!" => s.background.map shown
  | name =>
    match name.toNat? with
    | some 0 => some s.name
    | some n => s.parameters[n - 1]?
    | none => s.valueOf? name

/-! ## Variables -/

/-- Sets a variable, which may go to the environment from then on. -/
def setVariable (name : String) (value : Octets) : Act Unit := do
  let old ← Act.read fun s => (s.vars.find? name).getD {}
  if old.isReadOnly then abort (octetsOf (name ++ ": is read only"))
  .change fun s =>
    { s with
      vars := s.vars.insert name
        { old with value := some value, isExported := old.isExported || s.has 'a' }
      optionIndex :=
        if name = "OPTIND" then max 1 ((String.ofList value).toNat?.getD 1) else s.optionIndex
      optionPlace := if name = "OPTIND" then none else s.optionPlace
      hashed := if name = "PATH" then [] else s.hashed }

/-- Marks a variable, which need not have a value. -/
def markVariable (name : String) (mark : Variable → Variable) : Act Unit := .change fun s =>
  { s with vars := s.vars.insert name (mark ((s.vars.find? name).getD {})) }

/-- Puts back variables. -/
def restored (vars : NameMap Variable) (old : List (String × Option Variable)) : NameMap Variable :=
  old.foldl (fun vars (name, v) =>
    match v with
    | some v => vars.insert name v
    | none => vars.erase name) vars

/-- The place of a name in a table with a number of rows. Tables are shown row by row. -/
def tableRow (rows : Nat) (name : Octets) : Nat :=
  ((name.headD '\x00').toNat * 16 + sumOf Char.toNat name) % rows

/-- The entries of a table in the order in which they are shown. -/
def tableOrder {α : Type} (rows : Nat) (name : α → Octets) (entries : List α) : List α :=
  entries.mergeSort fun a b => tableRow rows (name a) ≤ tableRow rows (name b)

/-- The environment of other programs, in the order of the rows in which a shell keeps its variables. -/
def State.environment (s : State) : List (String × Octets) :=
  match s.environment? with
  | some entries => entries
  | none =>
    let entries := s.vars.entries.filterMap fun (name, v) =>
      if v.isExported then v.value.map fun value => (name, value) else none
    tableOrder 39 (fun e => e.1.toList) entries

/-- The state with another environment. -/
def State.withEnvironment (s : State) (entries : List (String × Octets)) : State :=
  let others := s.vars.entries.filter (!·.2.isExported)
  let given := entries.map fun (name, value) => (name, ({ value := some value, isExported := true } : Variable))
  { s with environment? := some entries, vars := .ofList (others ++ given) }

/-- Entries with a value for a name, in the place of another one or at the end. -/
def setEntry (entries : List (String × Octets)) (name : String) (value : Octets) : List (String × Octets) :=
  if entries.any (·.1 = name) then entries.map fun e => if e.1 = name then (name, value) else e
  else entries ++ [(name, value)]

/-! ## Homes -/

/-- The folder that a tilde stands for with a name after it. -/
def State.home? (s : State) (name : Octets) : Option Octets :=
  match String.ofList name with
  | "" => s.valueOf? "HOME"
  | "root" => some "/root".toList
  | "daemon" => some "/usr/sbin".toList
  | "bin" => some "/bin".toList
  | "sys" => some "/dev".toList
  | "nobody" => some "/nonexistent".toList
  | _ => none

/-- Puts a home in the place of a tilde at the front of a text that is not quoted. The text goes on with
    something else or ends; in a value the name also ends at a colon. -/
def State.withHome (s : State) (inValue goesOn : Bool) (text : Octets) : List Piece :=
  match text with
  | '~' :: rest =>
    let name := rest.takeWhile fun c => c ≠ '/' && !(inValue && c = ':')
    let after := rest.drop name.length
    if after.isEmpty ∧ goesOn then [.plain text false]
    else
      match s.home? name with
      | some home => [.plain home true, .plain after false]
      | none => [.plain text false]
  | text => [.plain text false]

/-- Puts homes in the places of tildes: at the front of a word, and in a value also after colons. -/
def State.withHomes (s : State) (inValue : Bool) (word : List Piece) : List Piece :=
  match word with
  | .plain text false :: rest =>
    if !text.contains '~' then word
    else
      let parts := if inValue then partsAt ':' text else [text]
      let last := parts.length - 1
      let pieces := parts.zipIdx.map fun (part, i) =>
        s.withHome inValue (i = last && !rest.isEmpty) part
      [.plain [':'] false].intercalate pieces ++ rest
  | word => word

end Foreman.Shell
