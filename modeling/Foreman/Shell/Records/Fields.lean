import Foreman.Shell.Records.Cell

/-!
# `Foreman.Shell.Records.Fields` — records, fields and matches in texts

## Contents
- **`Separator`**: what stands between fields; `separatorOf?`, `Separator.split`.
- **`Border`**: what stands between records; `borderOf?`, `Border.cut?`.
- `substitute`: a text with matches replaced.
-/

namespace Foreman.Shell.Records

/-! ## Fields -/

/-- What stands between fields. -/
inductive Separator where
  /-- Blanks and ends of lines, of which those around all fields do not count. -/
  | blanks
  /-- Nothing: each character is a field. -/
  | nothing
  | single (c : Char)
  | pattern (r : Regex)

/-- The separator that a text stands for. -/
def separatorOf (t : Octets) : Except PatternFault Separator :=
  match t with
  | [] => .ok .nothing
  | [' '] => .ok .blanks
  | [c] => .ok (.single c)
  | t => (readPattern t).map Separator.pattern

/-- Whether a character is a blank between fields. -/
def isFieldBlank (c : Char) : Bool := c = ' ' || c = '\t' || c = '\n'

/-- The words between blanks. -/
def blankParts : Nat → Octets → List Octets
  | 0, _ => []
  | fuel + 1, cs =>
    let cs := cs.dropWhile isFieldBlank
    if cs.isEmpty then []
    else
      let word := cs.takeWhile (!isFieldBlank ·)
      word :: blankParts fuel (cs.drop word.length)

/-- The first match with some characters at or after a place. -/
def findSolid? (r : Regex) (t : Subject) : Nat → Nat → Option Match
  | 0, _ => none
  | fuel + 1, n =>
    match r.findFrom? t n with
    | none => none
    | some m => if m.first < m.last then some m else findSolid? r t fuel (m.first + 1)

/-- The parts between matches, from a place on. -/
def patternParts (r : Regex) (t : Subject) : Nat → Nat → List Octets
  | 0, _ => []
  | fuel + 1, n =>
    match findSolid? r t (t.text.size + 1) n with
    | none => [t.part n t.text.size]
    | some m => t.part n m.first :: patternParts r t fuel m.last

/-- The fields of a text. -/
def Separator.split (s : Separator) (t : Octets) : List Octets :=
  if t.isEmpty then []
  else
    match s with
    | blanks => blankParts (t.length + 1) t
    | nothing => t.map fun c => [c]
    | single c => partsAt c t
    | pattern r => patternParts r { text := t.toArray } (t.length + 2) 0

/-! ## Records -/

/-- What stands between records. -/
inductive Border where
  | single (c : Char)
  /-- Empty lines. -/
  | paragraph
  | pattern (r : Regex)

/-- The border that a text stands for. -/
def borderOf (t : Octets) : Except PatternFault Border :=
  match t with
  | [] => .ok .paragraph
  | [c] => .ok (.single c)
  | t => (readPattern t).map Border.pattern

/-- Two or more ends of lines. -/
def emptyLines : Regex := .repeated (.one (.exactly '\n')) 2 none

/-- The first record of a text, and the text after it. The text may go on, unless it is whole; with no
    result if more of it has to be known, or if it is empty. -/
def Border.cut? (b : Border) (isWhole : Bool) (t : Octets) : Option (Octets × Octets) :=
  let rest? (t : Octets) : Option (Octets × Octets) := if isWhole ∧ !t.isEmpty then some (t, []) else none
  let atMatch (r : Regex) (t : Octets) : Option (Octets × Octets) :=
    let search (isWhole : Bool) (part : Octets) : Option (Octets × Octets) :=
      match findSolid? r { text := part.toArray } (part.length + 1) 0 with
      | some m => if m.last < part.length ∨ isWhole then some (t.take m.first, t.drop m.last) else none
      | none => none
    -- A border that is near is found without a look at the rest.
    match search false (t.take 4096) with
    | some found => some found
    | none =>
      match search isWhole t with
      | some found => some found
      | none => rest? t
  match b with
  | single c =>
    let record := t.takeWhile (· ≠ c)
    match t.drop record.length with
    | _ :: rest => some (record, rest)
    | [] => rest? t
  | paragraph =>
    (atMatch emptyLines (t.dropWhile (· = '\n'))).map fun (record, rest) =>
      (if record.getLast? = some '\n' then record.dropLast else record, rest)
  | pattern r => atMatch r t

/-! ## Replacing -/

/-- What comes in the place of a match. -/
def replacementFor (found : Octets) : Octets → Octets
  | '\\' :: '\\' :: '&' :: rest => '\\' :: found ++ replacementFor found rest
  | '\\' :: '&' :: rest => '&' :: replacementFor found rest
  | '&' :: rest => found ++ replacementFor found rest
  | c :: rest => c :: replacementFor found rest
  | [] => []

/-- Replaces matches from a place on, the first one or all of them. An empty match counts unless another
    match ends there. The result is what comes out in pieces, the latest first, and how many matches
    there were. -/
def substituteFrom (r : Regex) (t : Subject) (template : Octets) (isGlobal : Bool) :
    Nat → Nat → Option Nat → List Octets → Nat → List Octets × Nat
  | 0, n, _, acc, count => (t.part n t.text.size :: acc, count)
  | fuel + 1, n, last, acc, count =>
    match r.findFrom? t n with
    | none => (t.part n t.text.size :: acc, count)
    | some m =>
      if m.first = m.last ∧ last = some m.first then
        if m.first < t.text.size then
          substituteFrom r t template isGlobal fuel (m.first + 1) none (t.part n (m.first + 1) :: acc) count
        else (t.part n t.text.size :: acc, count)
      else
        let acc := replacementFor (m.group t 0) template :: t.part n m.first :: acc
        if !isGlobal then (t.part m.last t.text.size :: acc, count + 1)
        else if m.first < m.last then
          substituteFrom r t template isGlobal fuel m.last (some m.last) acc (count + 1)
        else if m.last < t.text.size then
          substituteFrom r t template isGlobal fuel (m.last + 1) none (t.part m.last (m.last + 1) :: acc)
            (count + 1)
        else (acc, count + 1)

/-- A text with the first match or all matches replaced, and how many there were. -/
def substitute (r : Regex) (template : Octets) (isGlobal : Bool) (text : Octets) : Octets × Nat :=
  let (pieces, count) :=
    substituteFrom r { text := text.toArray } template isGlobal (2 * text.length + 3) 0 none [] 0
  (pieces.reverse.flatten, count)

end Foreman.Shell.Records
