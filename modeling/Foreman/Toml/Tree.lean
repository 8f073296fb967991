import Foreman.Value

/-!
# `Foreman.Toml.Tree` — tables while a document is read

A table comes into being in three ways: a header declares it, the header of a table below it implies
it, or a dotted key goes through it. How it came into being decides what may be added to it later: a
header may declare a table that was only implied, a dotted key may only extend a table that dotted
keys made, and a table between braces is closed.

## Contents
- **`Origin`**, **`Node`**, **`Key`**.
- `descend`: changes the table at the end of a path.
- `addField`, `declareTable`, `addRow`: what the lines of a document do.
- `fieldsValue`: the finished table.
-/

namespace Foreman.Toml

/-- How a table came into being. -/
inductive Origin where
  | declared
  | implied
  | dotted
  deriving DecidableEq

/-- What stands under a name. -/
inductive Node where
  /-- A value that nothing can be added to. -/
  | leaf (v : Value)
  | table (origin : Origin) (fields : List (String × Node))
  /-- A list of tables, to which headers add rows. -/
  | rows (tables : List (List (String × Node)))

/-- The fields of a table. -/
abbrev Fields := List (String × Node)

/-- A name, and the tables that it is in. -/
structure Key where
  path : List String
  name : String

/-! ## Adding -/

/-- Changes the table at the end of a path. Tables missing on the way are made; the last row stands
    for a list of rows. A path of dotted keys may not go through a table that a header declared. -/
def descend (isDotted : Bool) (change : Origin → Fields → Option Fields) :
    List String → Origin → Fields → Option Fields
  | [], origin, fields => change origin fields
  | name :: path, _, fields =>
    match lookupEntry name fields with
    | none => do
      let origin := if isDotted then Origin.dotted else .implied
      let inner ← descend isDotted change path origin []
      return putEntry name (.table origin inner) fields
    | some (.leaf _) => none
    | some (.table origin inner) =>
      if isDotted ∧ origin = .declared then none
      else do
        let inner ← descend isDotted change path origin inner
        return putEntry name (.table origin inner) fields
    | some (.rows tables) =>
      match tables.getLast? with
      | none => none
      | some row => do
        let row ← descend isDotted change path .declared row
        return putEntry name (.rows (tables.dropLast ++ [row])) fields

/-- Adds a field under a new name. A dotted key adds to tables that dotted keys made, any other key to
    tables that they did not make. -/
def addField (key : Key) (v : Value) : Origin → Fields → Option Fields :=
  descend true (fun origin fields =>
    if decide (origin = .dotted) = key.path.isEmpty then none
    else if (lookupEntry key.name fields).isSome then none
    else some (putEntry key.name (.leaf v) fields)) key.path

/-- Declares a table, once. -/
def declareTable (key : Key) : Fields → Option Fields :=
  descend false (fun _ fields =>
    match lookupEntry key.name fields with
    | none => some (putEntry key.name (.table .declared []) fields)
    | some (.table .implied inner) => some (putEntry key.name (.table .declared inner) fields)
    | some _ => none) key.path .declared

/-- Adds a row to a list of tables, which the first row makes. -/
def addRow (key : Key) : Fields → Option Fields :=
  descend false (fun _ fields =>
    match lookupEntry key.name fields with
    | none => some (putEntry key.name (.rows [[]]) fields)
    | some (.rows tables) => some (putEntry key.name (.rows (tables ++ [[]])) fields)
    | some _ => none) key.path .declared

/-! ## Finishing -/

mutual

/-- What stands under a name, as free-form data. -/
def nodeValue : Node → Value
  | .leaf v => v
  | .table _ fields => .table (fieldValues fields)
  | .rows tables => .list (rowValues tables)

/-- The fields of a table, as free-form data. -/
def fieldValues : List (String × Node) → List (String × Value)
  | [] => []
  | (name, node) :: rest => (name, nodeValue node) :: fieldValues rest

/-- The rows of a list of tables, as free-form data. -/
def rowValues : List (List (String × Node)) → List Value
  | [] => []
  | fields :: rest => .table (fieldValues fields) :: rowValues rest

end

/-- A finished table. -/
def fieldsValue (fields : Fields) : Value := .table (fieldValues fields)

end Foreman.Toml
