import Foreman.Text.Octets

/-!
# `Foreman.Shell.Pattern` — patterns with wildcards

## Contents
- **`Glyph`**: a character of an expanded word, quoted or not.
- `unescaped`: what backslashes in values quote.
- **`Wildcard`**: one element of a pattern; `pattern` reads them from glyphs.
- `fits`: whether a text matches a pattern; `trim`: a text without a part that does.
-/

namespace Foreman.Shell

/-- A character of an expanded word. A quoted one stands for itself in a pattern. -/
structure Glyph where
  char : Char
  isQuoted : Bool
  deriving DecidableEq

/-- The glyphs of a text. -/
def glyphs (isQuoted : Bool) (text : Octets) : List Glyph := text.map fun c => ⟨c, isQuoted⟩

/-- The text of glyphs. -/
def textOf (gs : List Glyph) : Octets := gs.map Glyph.char

/-- One element of a pattern. -/
inductive Wildcard where
  | exactly (c : Char)
  | anyOne
  | anyText
  /-- A character from some ranges, or from none of them. -/
  | oneOf (isNegated : Bool) (ranges : List (Char × Char))
  deriving DecidableEq

/-- The ranges of a class of characters. -/
def classRanges (name : String) : List (Char × Char) :=
  match name with
  | "digit" => [('0', '9')]
  | "lower" => [('a', 'z')]
  | "upper" => [('A', 'Z')]
  | "alpha" => [('a', 'z'), ('A', 'Z')]
  | "alnum" => [('a', 'z'), ('A', 'Z'), ('0', '9')]
  | "xdigit" => [('a', 'f'), ('A', 'F'), ('0', '9')]
  | "space" => [(' ', ' '), ('\t', '\x0d')]
  | "blank" => [(' ', ' '), ('\t', '\t')]
  | "punct" => [('!', '/'), (':', '@'), ('[', '\x60'), ('\x7b', '~')]
  | "cntrl" => [('\x00', '\x1f'), ('\x7f', '\x7f')]
  | "graph" => [('!', '~')]
  | "print" => [(' ', '~')]
  | _ => []

/-- The ranges between brackets, up to the closing one, and the glyphs after it. A closing bracket in
    front is an ordinary character. -/
def bracketRanges : Nat → Bool → List (Char × Char) → List Glyph →
    Option (List (Char × Char) × List Glyph)
  | 0, _, _, _ => none
  | fuel + 1, isFirst, acc, gs =>
    match gs with
    | [] => none
    | ⟨']', false⟩ :: rest =>
      if isFirst then bracketRanges fuel false ((']', ']') :: acc) rest else some (acc, rest)
    | ⟨'[', false⟩ :: ⟨':', false⟩ :: rest =>
      let name := rest.takeWhile fun g => g.char.isAlpha
      bracketRanges fuel false (classRanges (String.ofList (textOf name)) ++ acc)
        (rest.drop (name.length + 2))
    | low :: ⟨'-', false⟩ :: high :: rest =>
      if high.char = ']' ∧ !high.isQuoted then
        bracketRanges fuel false ((low.char, low.char) :: acc) (⟨'-', true⟩ :: high :: rest)
      else bracketRanges fuel false ((low.char, high.char) :: acc) rest
    | g :: rest => bracketRanges fuel false ((g.char, g.char) :: acc) rest

/-- The elements of a pattern. A bracket that is not closed stands for itself. -/
def patternUpTo : Nat → List Glyph → List Wildcard
  | 0, _ => []
  | _ + 1, [] => []
  | fuel + 1, g :: rest =>
    if g.isQuoted then .exactly g.char :: patternUpTo fuel rest
    else
      match g.char with
      | '*' => .anyText :: patternUpTo fuel rest
      | '?' => .anyOne :: patternUpTo fuel rest
      | '[' =>
        let isNegated := match rest with
          | ⟨'!', false⟩ :: _ | ⟨'^', false⟩ :: _ => true
          | _ => false
        match bracketRanges (rest.length + 1) true [] (if isNegated then rest.tail else rest) with
        | some (ranges, after) => .oneOf isNegated ranges :: patternUpTo fuel after
        | none => .exactly '[' :: patternUpTo fuel rest
      | c => .exactly c :: patternUpTo fuel rest

/-- The characters that are marked where they are quoted; other quoted characters are like unquoted ones
    that mean nothing. -/
def markedCharacters : List Char := "\\!*?[=~:/-]".toList

/-- Glyphs with the character after each unquoted backslash quoted instead. Against a quoted character
    the backslash stands for itself, and takes the quotation from it. A last backslash stands for
    itself. -/
def unescaped : List Glyph → List Glyph
  | ⟨'\\', false⟩ :: g :: rest =>
    if g.isQuoted ∧ markedCharacters.contains g.char then
      ⟨'\\', true⟩ :: unescaped (⟨g.char, false⟩ :: rest)
    else ⟨g.char, true⟩ :: unescaped rest
  | g :: rest => g :: unescaped rest
  | [] => []
termination_by gs => gs.length

/-- The pattern that glyphs write. -/
def pattern (gs : List Glyph) : List Wildcard := patternUpTo gs.length (unescaped gs)

/-- Whether a glyph makes a word a pattern. -/
def Glyph.isWild (g : Glyph) : Bool :=
  !g.isQuoted && (g.char = '*' || g.char = '?' || g.char = '[')

/-- Whether an element of a pattern stands for a single character. -/
def Wildcard.admits (w : Wildcard) (c : Char) : Bool :=
  match w with
  | exactly d => c = d
  | anyOne | anyText => true
  | oneOf isNegated ranges => (ranges.any fun (low, high) => low ≤ c && c ≤ high) != isNegated

/-- What is left of a list when front elements are dropped one after the other. -/
def suffixes {α : Type} : List α → List (List α)
  | [] => [[]]
  | x :: xs => (x :: xs) :: suffixes xs

/-- Whether a text as a whole matches a pattern. -/
def fits : List Wildcard → Octets → Bool
  | [], cs => cs.isEmpty
  | .anyText :: rest, cs => (suffixes cs).any (fits rest)
  | _ :: _, [] => false
  | w :: rest, c :: cs => w.admits c && fits rest cs

/-- A text without the shortest or longest part at one of its ends that matches a pattern. In a text of
    several parameters, with null characters between them, a part counts up to the first null character,
    and the longest part at the end begins in the first parameter. -/
def trim (atEnd isLongest : Bool) (p : List Wildcard) (text : Octets) : Octets :=
  let first (cs : Octets) := cs.takeWhile (· ≠ '\x00')
  let lengths := List.range (text.length + 1)
  let sizes :=
    if !isLongest then lengths
    else if atEnd then (lengths.drop (text.length - (first text).length)).reverse
    else lengths.reverse
  let part (n : Nat) := first (if atEnd then text.drop (text.length - n) else text.take n)
  match sizes.find? fun n => fits p (part n) with
  | some n => if atEnd then text.take (text.length - n) else text.drop n
  | none => text

end Foreman.Shell
