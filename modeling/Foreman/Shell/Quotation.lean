import Foreman.Text.Octets

/-!
# `Foreman.Shell.Quotation` — texts in quotes

A text in a message is put into quotes, so that it is clear where it begins and what is in it. Some ways keep to
what a shell reads back, others to what a reader of strings does.

## Contents
- `shownControl?`: the escape of a character that is not shown as itself.
- **`Quotation`**: the ways to show a text; `Quotation.apply`.
- **In messages**: `quotedName`, `nameInMessage`, `quotedText`.
-/

namespace Foreman.Shell

/-- The escape of a character that is not shown as itself. -/
def shownControl? (c : Char) : Option Octets :=
  let octal (n : Nat) : Octets :=
    '\\' :: [Char.ofNat (48 + n / 64), Char.ofNat (48 + n / 8 % 8), Char.ofNat (48 + n % 8)]
  match c with
  | '\n' => some ['\\', 'n']
  | '\t' => some ['\\', 't']
  | '\r' => some ['\\', 'r']
  | '\x07' => some ['\\', 'a']
  | '\x08' => some ['\\', 'b']
  | '\x0b' => some ['\\', 'v']
  | '\x0c' => some ['\\', 'f']
  | c => if c.toNat < 32 ∨ 127 ≤ c.toNat then some (octal c.toNat) else none

/-- Whether a text has characters that are not shown as themselves. -/
def hasControls (text : Octets) : Bool := text.any fun c => (shownControl? c).isSome

/-- The ways to show a text. -/
inductive Quotation where
  /-- As it is. -/
  | literal
  /-- So that a shell reads it back: in quotes always, or only where it needs them, with escapes or without. -/
  | shell (isAlways escapes : Bool)
  /-- With escapes, between double quotes, between single quotes, or without quotes. -/
  | double | single | escape
  deriving DecidableEq

/-! ## For a shell -/

/-- The parts of a text that are shown as themselves or as escapes, each with its kind. -/
def shownParts : Octets → List (Bool × Octets)
  | [] => []
  | c :: rest =>
    let (isEscape, text) : Bool × Octets := match shownControl? c with
      | some escape => (true, escape)
      | none => (false, if c = '\'' then ['\'', '\\', '\'', '\''] else [c])
    match shownParts rest with
    | (kind, more) :: others =>
      if kind = isEscape then (kind, text ++ more) :: others
      else (isEscape, text) :: (kind, more) :: others
    | [] => [(isEscape, text)]

/-- Whether a shell would see more in a text than a word that stands for itself. -/
def needsQuotes (escapes : Bool) (text : Octets) : Bool :=
  let isSpecial (c : Char) : Bool := "\n\r\t !\"$&()*;<=>[^|'\\?\x60".toList.contains c
  let isPlain := match text with
    | [] | ['\x7b'] | ['\x7d'] | '#' :: _ | '~' :: _ => false
    | text => !text.any isSpecial
  !isPlain || (escapes && hasControls text)

/-- Whether a text means the same between double quotes, for a shell and for a reader of strings. -/
def isSafeInDouble (text : Octets) : Bool :=
  let isSafe (c : Char) : Bool := c.isAlphanum || " '%+,-./:@]_".toList.contains c
  match text with
  | c :: rest => (isSafe c || c = '#' || c = '~') && rest.all isSafe
  | [] => true

/-- A text in quotes that a shell reads back. -/
def quotedForShell (escapes : Bool) (text : Octets) : Octets :=
  let quote (part : Octets) : Octets := '\'' :: part ++ ['\'']
  if text.contains '\'' ∧ isSafeInDouble text then '"' :: text ++ ['"']
  else if escapes ∧ hasControls text then
    let parts := shownParts text
    let parts := if parts.head?.any Prod.fst then (false, []) :: parts else parts
    parts.flatMap fun (isEscape, part) => if isEscape then '$' :: quote part else quote part
  else quote (text.flatMap fun c => if c = '\'' then ['\'', '\\', '\'', '\''] else [c])

/-! ## All ways -/

/-- A text with escapes, in which some characters have a backslash in front of them. -/
def escapedText (marked : List Char) (text : Octets) : Octets :=
  text.flatMap fun c =>
    if c = '\\' ∨ marked.contains c then ['\\', c] else (shownControl? c).getD [c]

/-- Shows a text in a way. Some characters count as special ones, where it makes a difference. -/
def Quotation.apply (q : Quotation) (special : List Char) (text : Octets) : Octets :=
  match q with
  | literal => text
  | shell isAlways escapes =>
    if isAlways ∨ needsQuotes escapes text ∨ text.any special.contains then quotedForShell escapes text
    else text
  | double => '"' :: escapedText ['"'] text ++ ['"']
  | single => '\'' :: escapedText ['\''] text ++ ['\'']
  | escape => escapedText special text

/-! ## In messages -/

/-- A name in quotes. -/
def quotedName (name : Octets) : Octets := (Quotation.shell true true).apply [] name

/-- A name in a message, in quotes only if it needs them. -/
def nameInMessage (name : Octets) : Octets := (Quotation.shell false true).apply [':'] name

/-- A text that is not a name, in quotes. -/
def quotedText (text : Octets) : Octets := Quotation.single.apply [] text

end Foreman.Shell
