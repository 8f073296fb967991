import Foreman.Toml.Statement

/-!
# `Foreman.Toml` — TOML documents as free-form data

## Contents
- **`Draft`**: a document that has been read up to some line.
- `Toml.parse?`: the table that a text writes.
-/

namespace Foreman.Toml

/-- A document that has been read up to some line. -/
structure Draft where
  fields : Fields := []
  /-- The table of the last header. -/
  place : List String := []

/-- What a line adds to a document. -/
def Draft.add? (d : Draft) : Statement → Option Draft
  | .table key => (declareTable key d.fields).map fun fields => ⟨fields, key.path ++ [key.name]⟩
  | .row key => (addRow key d.fields).map fun fields => ⟨fields, key.path ++ [key.name]⟩
  | .field key v =>
    (descend false (addField key v) d.place .declared d.fields).map fun fields => { d with fields }

/-- Reads all lines. -/
def readDocument : Nat → Draft → List Char → Option Draft
  | 0, _, _ => none
  | fuel + 1, d, cs => do
    match ← skipLines? cs with
    | [] => return d
    | cs =>
      let (statement, rest) ← readStatement cs
      readDocument fuel (← d.add? statement) (← readLineEnd rest)

/-- The table that a text writes. A byte order mark in front does not count. -/
def parse? (s : String) : Option Value := do
  let cs := match s.toList with
    | '\uFEFF' :: rest => rest
    | cs => cs
  let d ← readDocument (cs.length + 1) {} cs
  return fieldsValue d.fields

end Foreman.Toml
