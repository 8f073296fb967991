import Foreman.Text.Digits

/-!
# `Foreman.Toml.Text` — quoted texts in TOML documents

A text stands between double quotes, with escapes, or between single quotes, as it is. Between three
quotes of a kind it may have several lines; a line break right after the opening quotes is dropped,
and one or two quotes may stand right before the closing ones.

## Contents
- `isPlain`: what may stand in a line as it is.
- `readEscape`, `readText`.
-/

namespace Foreman.Toml

/-- Whether a character may stand in a line as it is: a tab, or no control character. -/
def isPlain (c : Char) : Bool := c = '\t' || (0x20 ≤ c.toNat && c.toNat ≠ 0x7f)

/-- The character with the given code, if there is one. -/
def charOf? (n : Nat) : Option Char := if n.isValidChar then some (Char.ofNat n) else none

/-- Reads a character code with the given digit count. -/
def readCode (width : Nat) (cs : List Char) : Option (Char × List Char) := do
  if cs.length < width then none
  let n ← numeral? 16 (cs.take width)
  return (← charOf? n, cs.drop width)

/-- Reads an escape after its backslash. -/
def readEscape : List Char → Option (Char × List Char)
  | 'b' :: rest => some ('\x08', rest)
  | 't' :: rest => some ('\t', rest)
  | 'n' :: rest => some ('\n', rest)
  | 'f' :: rest => some ('\x0c', rest)
  | 'r' :: rest => some ('\r', rest)
  | 'e' :: rest => some ('\x1b', rest)
  | '"' :: rest => some ('"', rest)
  | '\\' :: rest => some ('\\', rest)
  | 'x' :: rest => readCode 2 rest
  | 'u' :: rest => readCode 4 rest
  | 'U' :: rest => readCode 8 rest
  | _ => none

/-- A text from its characters in reverse order. -/
def textOf (acc : List Char) : String := String.ofList acc.reverse

/-- Reads a text of one line up to its closing quote. -/
def readLine (quote : Char) : Nat → List Char → List Char → Option (String × List Char)
  | 0, _, _ => none
  | _ + 1, _, [] => none
  | fuel + 1, acc, c :: rest =>
    if c = quote then some (textOf acc, rest)
    else if c = '\\' ∧ quote = '"' then
      match readEscape rest with
      | some (c, rest) => readLine quote fuel (c :: acc) rest
      | none => none
    else if isPlain c then readLine quote fuel (c :: acc) rest
    else none

/-- The text after blanks and line breaks. A carriage return alone is no line break. -/
def dropSpace : List Char → List Char
  | ' ' :: rest | '\t' :: rest | '\n' :: rest | '\r' :: '\n' :: rest => dropSpace rest
  | cs => cs

/-- The text after a line break, if it starts with one. -/
def readBreak : List Char → Option (List Char)
  | '\n' :: rest => some rest
  | '\r' :: '\n' :: rest => some rest
  | _ => none

/-- Reads a text of several lines up to its closing quotes. A backslash at the end of a line removes
    the line break and all white space after it. -/
def readLines (quote : Char) : Nat → List Char → List Char → Option (String × List Char)
  | 0, _, _ => none
  | _ + 1, _, [] => none
  | fuel + 1, acc, c :: rest =>
    if c = quote ∧ rest.take 2 = [quote, quote] then
      let rest := rest.drop 2
      let extra := (rest.take 2).takeWhile (· = quote)
      some (textOf (extra ++ acc), rest.drop extra.length)
    else if c = '\\' ∧ quote = '"' then
      match readBreak (rest.dropWhile fun c => c = ' ' || c = '\t') with
      | some rest => readLines quote fuel acc (dropSpace rest)
      | none =>
        match readEscape rest with
        | some (c, rest) => readLines quote fuel (c :: acc) rest
        | none => none
    else if isPlain c || c = '\n' || (c = '\r' && decide (rest.head? = some '\n')) then
      readLines quote fuel (c :: acc) rest
    else none

/-- Reads a text after its first quote. -/
def readText (quote : Char) (cs : List Char) : Option (String × List Char) :=
  match cs with
  | a :: b :: rest =>
    if a = quote ∧ b = quote then
      let rest := (readBreak rest).getD rest
      readLines quote (rest.length + 1) [] rest
    else readLine quote (cs.length + 1) [] cs
  | cs => readLine quote (cs.length + 1) [] cs

end Foreman.Toml
