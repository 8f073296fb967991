import Foreman.Toml.Scalar
import Foreman.Toml.Text
import Foreman.Toml.Tree

/-!
# `Foreman.Toml.Statement` — the lines of a TOML document

A line holds a field, the header of a table, the header of a row, or nothing but a comment. Values
between brackets and braces may go on over several lines, with comments.

## Contents
- **White space and comments**: `skipBlanks`, `skipLines?`, `readLineEnd`.
- **Keys**: `readKey`.
- **Values**: `readValue`; brackets and braces nest at most `nestingLimit` deep.
- **`Statement`** and `readStatement`.
-/

namespace Foreman.Toml

/-! ## White space and comments -/

/-- The rest of a line after blanks. -/
def skipBlanks (cs : List Char) : List Char := cs.dropWhile fun c => c = ' ' || c = '\t'

/-- The text after a comment, if one starts here; it ends with the line. -/
def skipComment? : List Char → Option (List Char)
  | '#' :: rest =>
    let rest := rest.dropWhile isPlain
    if rest.isEmpty || (readBreak rest).isSome then some rest else none
  | cs => some cs

/-- The text after blanks, line breaks and comments. -/
def skipLinesFrom? : Nat → List Char → Option (List Char)
  | 0, _ => none
  | fuel + 1, cs =>
    match skipComment? (skipBlanks cs) with
    | none => none
    | some cs =>
      match readBreak cs with
      | some rest => skipLinesFrom? fuel rest
      | none => some cs

@[inherit_doc skipLinesFrom?]
def skipLines? (cs : List Char) : Option (List Char) := skipLinesFrom? (cs.length + 1) cs

/-- Reads the end of a line: blanks, a comment, and the line break or the end of the text. -/
def readLineEnd (cs : List Char) : Option (List Char) := do
  let cs ← skipComment? (skipBlanks cs)
  if cs.isEmpty then return [] else readBreak cs

/-! ## Keys -/

/-- Whether a character may stand in a name without quotes. -/
def isBare (c : Char) : Bool := c.isAlphanum || c = '_' || c = '-'

/-- Reads a name. -/
def readName (cs : List Char) : Option (String × List Char) :=
  match cs with
  | '"' :: rest => readLine '"' (rest.length + 1) [] rest
  | '\'' :: rest => readLine '\'' (rest.length + 1) [] rest
  | cs =>
    let name := cs.takeWhile isBare
    if name.isEmpty then none else some (String.ofList name, cs.drop name.length)

/-- Reads names with points between them, and the blanks behind. -/
def readNames : Nat → List Char → Option (List String × List Char)
  | 0, _ => none
  | fuel + 1, cs => do
    let (name, rest) ← readName (skipBlanks cs)
    match skipBlanks rest with
    | '.' :: rest =>
      let (names, rest) ← readNames fuel rest
      return (name :: names, rest)
    | rest => return ([name], rest)

/-- The most names in a key. -/
def nameLimit : Nat := 80

/-- Reads a key and the blanks around it. -/
def readKey (cs : List Char) : Option (Key × List Char) := do
  let (names, rest) ← readNames (cs.length + 1) cs
  if nameLimit < names.length then none
  else return (⟨names.dropLast, ← names.getLast?⟩, rest)

/-- Reads the key of a field between braces and the equals sign behind it. Line breaks and comments may
    stand on both sides of the sign. -/
def readInnerKey (cs : List Char) : Option (Key × List Char) := do
  let (key, rest) ← readKey cs
  match ← skipLines? rest with
  | '=' :: rest => return (key, ← skipLines? rest)
  | _ => none

/-! ## Values -/

/-- Whether a character belongs to an unquoted word. -/
def isWordChar (c : Char) : Bool :=
  !(c = '=' || c = ',' || c = '[' || c = ']' || c = '\x7b' || c = '\x7d' || c = '#' || c = ' ' ||
    c = '\t' || c = '\r' || c = '\n')

/-- Reads an unquoted value. A date and a time with one space between them are one value. -/
def readScalar (cs : List Char) : Option (Value × List Char) := do
  let word := cs.takeWhile isWordChar
  let rest := cs.drop word.length
  match Day.read word, rest with
  | some (_, []), ' ' :: c :: more =>
    if c.isDigit then
      let time := (c :: more).takeWhile isWordChar
      return (← scalar? (word ++ ' ' :: time), (c :: more).drop time.length)
    else return (← scalar? word, rest)
  | _, _ => return (← scalar? word, rest)

mutual

/-- Reads a value, with the given room for nested brackets and braces. -/
def readValue : Nat → Nat → List Char → Option (Value × List Char)
  | 0, _, _ => none
  | fuel + 1, room, cs =>
    match cs, room with
    | '"' :: rest, _ => (readText '"' rest).map fun (s, rest) => (.text s, rest)
    | '\'' :: rest, _ => (readText '\'' rest).map fun (s, rest) => (.text s, rest)
    | '[' :: rest, room + 1 => readItems fuel room [] rest
    | '\x7b' :: rest, room + 1 => readFields fuel room [] rest
    | cs, _ => readScalar cs

/-- Reads the items of a list up to its closing bracket. -/
def readItems : Nat → Nat → List Value → List Char → Option (Value × List Char)
  | 0, _, _, _ => none
  | fuel + 1, room, acc, cs =>
    match skipLines? cs with
    | none => none
    | some (']' :: rest) => some (.list acc.reverse, rest)
    | some cs =>
      match readValue fuel room cs with
      | none => none
      | some (v, rest) =>
        match skipLines? rest with
        | some (',' :: rest) => readItems fuel room (v :: acc) rest
        | some (']' :: rest) => some (.list (v :: acc).reverse, rest)
        | _ => none

/-- Reads the fields of a table up to its closing brace. -/
def readFields : Nat → Nat → Fields → List Char → Option (Value × List Char)
  | 0, _, _, _ => none
  | fuel + 1, room, acc, cs =>
    match skipLines? cs with
    | none => none
    | some ('\x7d' :: rest) => some (fieldsValue acc, rest)
    | some cs =>
      match readInnerKey cs with
      | none => none
      | some (key, rest) =>
        match readValue fuel room rest with
        | none => none
        | some (v, rest) =>
          match addField key v .declared acc, skipLines? rest with
          | some acc, some (',' :: rest) => readFields fuel room acc rest
          | some acc, some ('\x7d' :: rest) => some (fieldsValue acc, rest)
          | _, _ => none

end

/-- How deep brackets and braces may nest. -/
def nestingLimit : Nat := 80

/-! ## Lines -/

/-- What a line of a document says. -/
inductive Statement where
  /-- The header of a table: the fields that follow are in it. -/
  | table (key : Key)
  /-- The header of a new row in a list of tables. -/
  | row (key : Key)
  | field (key : Key) (v : Value)

/-- Reads a line that is neither blank nor only a comment, without its end. -/
def readStatement (cs : List Char) : Option (Statement × List Char) := do
  match cs with
  | '[' :: '[' :: rest =>
    match ← readKey rest with
    | (key, ']' :: ']' :: rest) => return (.row key, rest)
    | _ => none
  | '[' :: rest =>
    match ← readKey rest with
    | (key, ']' :: rest) => return (.table key, rest)
    | _ => none
  | cs =>
    match ← readKey cs with
    | (key, '=' :: rest) =>
      let (v, rest) ← readValue (2 * rest.length + 2) nestingLimit (skipBlanks rest)
      return (.field key v, rest)
    | _ => none

end Foreman.Toml
