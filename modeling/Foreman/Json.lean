import Foreman.Number.Decimal
import Foreman.Text.Digits
import Foreman.Value

/-!
# `Foreman.Json` — data as JSON text

A number without point and exponent that fits 64 bits is an integer; every other number is a
floating-point number. Of fields with the same name the last one counts.

## Contents
- **Reading**: `Json.parse?`, total by a bound on the depth of recursion.
- **Writing**: `Value.json`.
-/

namespace Foreman

namespace Json

/-! ## Reading -/

/-- The rest of a text after white space. -/
def skip (cs : List Char) : List Char :=
  cs.dropWhile fun c => c = ' ' || c = '\t' || c = '\n' || c = '\r'

/-- Reads four hexadecimal digits. -/
def readUnit : List Char → Option (Nat × List Char)
  | a :: b :: c :: d :: rest => (numeral? 16 [a, b, c, d]).map fun n => (n, rest)
  | _ => none

/-- Reads an escape after its backslash. Characters beyond the basic plane are two units. -/
def readEscape : List Char → Option (Char × List Char)
  | 'n' :: rest => some ('\n', rest)
  | 't' :: rest => some ('\t', rest)
  | 'r' :: rest => some ('\r', rest)
  | 'b' :: rest => some ('\x08', rest)
  | 'f' :: rest => some ('\x0c', rest)
  | 'u' :: rest => do
    let (n, rest) ← readUnit rest
    if 0xD800 ≤ n ∧ n < 0xDC00 then
      match rest with
      | '\\' :: 'u' :: rest =>
        let (m, rest) ← readUnit rest
        return (Char.ofNat (0x10000 + (n - 0xD800) * 0x400 + (m - 0xDC00)), rest)
      | _ => none
    else return (Char.ofNat n, rest)
  | c :: rest => if c = '"' ∨ c = '\\' ∨ c = '/' then some (c, rest) else none
  | [] => none

/-- Reads a text after its opening quote. -/
def readText : Nat → List Char → List Char → Option (String × List Char)
  | 0, _, _ => none
  | _ + 1, _, [] => none
  | fuel + 1, acc, c :: rest =>
    if c = '"' then some (String.ofList acc.reverse, rest)
    else if c = '\\' then
      match readEscape rest with
      | some (c, rest) => readText fuel (c :: acc) rest
      | none => none
    else readText fuel (c :: acc) rest

/-- Reads the digits after a point; none if there is no point. -/
def readPlaces : List Char → Option (List Char) × List Char
  | '.' :: rest => let ds := rest.takeWhile Char.isDigit; (some ds, rest.drop ds.length)
  | cs => (none, cs)

/-- Reads an exponent; none if there is none. -/
def readExponent : List Char → Option Int × List Char
  | c :: rest =>
    if c = 'e' ∨ c = 'E' then
      let minus := decide (rest.head? = some '-')
      let rest := if minus ∨ rest.head? = some '+' then rest.drop 1 else rest
      let ds := rest.takeWhile Char.isDigit
      let n : Int := digitsValue ds
      (some (if minus then -n else n), rest.drop ds.length)
    else (none, c :: rest)
  | [] => (none, [])

/-- Reads a number. -/
def readNumber (cs : List Char) : Option (Value × List Char) :=
  let negative := decide (cs.head? = some '-')
  let cs := if negative then cs.drop 1 else cs
  let whole := cs.takeWhile Char.isDigit
  let (places, cs) := readPlaces (cs.drop whole.length)
  let (exponent, cs) := readExponent cs
  let n : Int := digitsValue whole
  let n := if negative then -n else n
  if whole.isEmpty then none
  else if places.isNone && exponent.isNone && decide (-(2 ^ 63) ≤ n) && decide (n < 2 ^ 64) then
    some (.int n, cs)
  else
    let ds := places.getD []
    let e := exponent.getD 0 - (ds.length : Int)
    some (.float (.ofDecimal negative (digitsValue (whole ++ ds)) e), cs)

mutual

/-- Reads a value. -/
def readValue : Nat → List Char → Option (Value × List Char)
  | 0, _ => none
  | fuel + 1, cs =>
    match skip cs with
    | 'n' :: 'u' :: 'l' :: 'l' :: rest => some (.null, rest)
    | 't' :: 'r' :: 'u' :: 'e' :: rest => some (.bool true, rest)
    | 'f' :: 'a' :: 'l' :: 's' :: 'e' :: rest => some (.bool false, rest)
    | '"' :: rest => (readText (rest.length + 1) [] rest).map fun (s, rest) => (.text s, rest)
    | '[' :: rest =>
      match skip rest with
      | ']' :: rest => some (.list [], rest)
      | rest => readItems fuel [] rest
    | '\x7b' :: rest =>
      match skip rest with
      | '\x7d' :: rest => some (.table [], rest)
      | rest => readFields fuel [] rest
    | rest => readNumber rest

/-- Reads the items of a list up to its closing bracket. -/
def readItems : Nat → List Value → List Char → Option (Value × List Char)
  | 0, _, _ => none
  | fuel + 1, acc, cs =>
    match readValue fuel cs with
    | none => none
    | some (v, rest) =>
      match skip rest with
      | ',' :: rest => readItems fuel (v :: acc) rest
      | ']' :: rest => some (.list (v :: acc).reverse, rest)
      | _ => none

/-- Reads the fields of a table up to its closing brace. -/
def readFields : Nat → List (String × Value) → List Char → Option (Value × List Char)
  | 0, _, _ => none
  | fuel + 1, acc, cs =>
    match skip cs with
    | '"' :: rest =>
      match readText (rest.length + 1) [] rest with
      | none => none
      | some (name, rest) =>
        match skip rest with
        | ':' :: rest =>
          match readValue fuel rest with
          | none => none
          | some (v, rest) =>
            match skip rest with
            | ',' :: rest => readFields fuel ((name, v) :: acc) rest
            | '\x7d' :: rest => some (.ofFields ((name, v) :: acc).reverse, rest)
            | _ => none
        | _ => none
    | _ => none

end

/-- The value that a JSON text writes. -/
def parse? (s : String) : Option Value :=
  let cs := s.toList
  match readValue (2 * cs.length + 2) cs with
  | some (v, rest) => if (skip rest).isEmpty then some v else none
  | none => none

/-! ## Writing -/

/-- How a character stands in a JSON text. -/
def escape (c : Char) : String :=
  if c = '"' then "\\\""
  else if c = '\\' then "\\\\"
  else if c.toNat < 0x20 then "\\u" ++ hexText 4 c.toNat
  else c.toString

/-- A text between quotes. -/
def writeText (s : String) : String := "\"" ++ s.foldl (fun acc c => acc ++ escape c) "" ++ "\""

/-- A finite number with a point; what is not finite has no JSON text and becomes null. -/
def writeFloat (x : Binary64) : String :=
  if x.isFinite then
    let t := x.text
    if t.contains '.' then t else t ++ ".0"
  else "null"

end Json

mutual

/-- The JSON text of a value. -/
def Value.json : Value → String
  | .null => "null"
  | .bool b => if b then "true" else "false"
  | .int n => toString n
  | .float x => Json.writeFloat x
  | .text s => Json.writeText s
  | .list items => "[" ++ Json.writeItems items ++ "]"
  | .table fields => "\x7b" ++ Json.writeFields fields ++ "\x7d"

/-- The items of a list, separated by commas. -/
def Json.writeItems : List Value → String
  | [] => ""
  | [v] => v.json
  | v :: rest => v.json ++ "," ++ Json.writeItems rest

/-- The fields of a table, separated by commas. -/
def Json.writeFields : List (String × Value) → String
  | [] => ""
  | [(name, v)] => Json.writeText name ++ ":" ++ v.json
  | (name, v) :: rest => Json.writeText name ++ ":" ++ v.json ++ "," ++ Json.writeFields rest

end

end Foreman
