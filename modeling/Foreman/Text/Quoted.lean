import Foreman.Text.Unprintable

/-!
# `Foreman.Text.Quoted` — quoted texts in messages

Messages that list capabilities or repeat a foreign text put it between double quotes, with escapes
for the quote, the backslash, and everything without a glyph.

## Contents
- `quoted`: a text between double quotes.
- `quotedList`, `quotedSet`: several of them between brackets or braces.
-/

namespace Foreman

/-- How a character stands between double quotes. -/
def escapeChar (c : Char) : List Char :=
  if c = '"' then ['\\', '"']
  else if c = '\\' then ['\\', '\\']
  else if c = '\t' then ['\\', 't']
  else if c = '\r' then ['\\', 'r']
  else if c = '\n' then ['\\', 'n']
  else if c.toNat = 0 then ['\\', '0']
  else if isUnprintable c then
    ['\\', 'u', '\x7b'] ++ Nat.toDigits 16 c.toNat ++ ['\x7d']
  else [c]

/-- A text between double quotes. -/
def quoted (s : String) : String :=
  String.ofList ('"' :: s.toList.flatMap escapeChar ++ ['"'])

/-- Quoted texts between brackets. -/
def quotedList (xs : List String) : String :=
  "[" ++ ", ".intercalate (xs.map quoted) ++ "]"

/-- Quoted texts between braces. -/
def quotedSet (xs : List String) : String :=
  "\x7b" ++ ", ".intercalate (xs.map quoted) ++ "\x7d"

end Foreman
