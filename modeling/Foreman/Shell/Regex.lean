import Foreman.Shell.Pattern
import Foreman.Text.Digits

/-!
# `Foreman.Shell.Regex` — regular expressions

A regular expression is searched in a text. The match that begins first counts, and of those the longest
one. There are two ways to write expressions, which differ in the marks that need a backslash.

## Contents
- **`Regex`**: expressions, with **`Edge`** for places between characters.
- **Matching**: `Regex.ends`, all ends of matches that begin at a place; **`Match`**, `findFrom?`.
- **Reading**: **`Dialect`**, `readRegex`, with **`RegexFault`**.
-/

namespace Foreman.Shell

/-! ## Expressions -/

/-- A kind of place between characters. -/
inductive Edge where
  | start
  | finish
  /-- The start and the end of the whole text. -/
  | textStart
  | textFinish
  | wordStart
  | wordEnd
  | wordEdge
  | noWordEdge
  /-- No character of a word stands before, or behind. -/
  | noWordBefore
  | noWordBehind
  deriving DecidableEq

/-- An expression. -/
inductive Regex where
  | nothing
  | one (accepted : Wildcard)
  | seq (first second : Regex)
  | either (first second : Regex)
  | repeated (body : Regex) (least : Nat) (most : Option Nat)
  | group (number : Nat) (body : Regex)
  /-- The text that a group matched. -/
  | back (number : Nat)
  | edge (kind : Edge)

/-- Where each group matched: from a place to a place. -/
abbrev Groups : Type := List (Nat × Nat × Nat)

/-- A text to be searched. -/
structure Subject where
  text : Array Char
  /-- Whether small and capital letters are the same. -/
  foldsCase : Bool := false
  /-- Whether the text begins, or ends, in the middle of a line. -/
  isInside : Bool := false
  /-- Whether a line break within the text is a place where lines begin and end. -/
  hasLines : Bool := false

namespace Subject

/-- The text between two places. -/
def part (t : Subject) (first last : Nat) : Octets := (t.text.extract first last).toList

/-- Whether the character at a place belongs to a word. -/
def isWordAt (t : Subject) (n : Nat) : Bool := (t.text[n]?).any fun c => c.isAlphanum || c = '_'

/-- Whether a place is of a kind. -/
def isEdge (t : Subject) (n : Nat) : Edge → Bool
  | .start => (n = 0 && !t.isInside) || (t.hasLines && n ≠ 0 && t.text[n - 1]? = some '\n')
  | .finish => n = t.text.size || (t.hasLines && t.text[n]? = some '\n')
  | .textStart => n = 0 && !t.isInside
  | .textFinish => n = t.text.size
  | .wordStart => t.isWordAt n && !(n ≠ 0 && t.isWordAt (n - 1))
  | .wordEnd => !t.isWordAt n && n ≠ 0 && t.isWordAt (n - 1)
  | .wordEdge => t.isWordAt n != (n ≠ 0 && t.isWordAt (n - 1))
  | .noWordEdge => t.isWordAt n == (n ≠ 0 && t.isWordAt (n - 1))
  | .noWordBefore => n = 0 || !t.isWordAt (n - 1)
  | .noWordBehind => !t.isWordAt n

/-- Whether a character is accepted. -/
def admits (t : Subject) (w : Wildcard) (c : Char) : Bool :=
  if t.foldsCase then
    match w with
    | .oneOf isNegated ranges =>
      (Wildcard.oneOf false ranges).admits c.toLower || (Wildcard.oneOf false ranges).admits c.toUpper !=
        isNegated
    | .exactly d => c.toLower = d.toLower
    | w => w.admits c
  else w.admits c

/-- The place after all characters from a place on that are accepted, at most a number of them. -/
def runEnd (t : Subject) (w : Wildcard) : Nat → Nat → Nat
  | 0, n => n
  | fuel + 1, n =>
    match t.text[n]? with
    | some c => if t.admits w c then runEnd t w fuel (n + 1) else n
    | none => n

end Subject

/-! ## Matching -/

/-- Whether an expression has a reference to a group. -/
def Regex.hasBack : Regex → Bool
  | back _ => true
  | seq a b | either a b => a.hasBack || b.hasBack
  | repeated a _ _ | group _ a => a.hasBack
  | _ => false

/-- The ends of matches, each only once. Without references to groups, one way to an end is enough. -/
def distinctEnds (byGroups : Bool) (ends : List (Nat × Groups)) : List (Nat × Groups) :=
  let step (acc : List (Nat × Groups)) (e : Nat × Groups) : List (Nat × Groups) :=
    if acc.any fun x => x.1 = e.1 && (!byGroups || x.2 = e.2) then acc else e :: acc
  match ends with
  | [] => []
  | [e] => [e]
  | ends => (ends.foldl step []).reverse

/-- The ends that can be reached by repeating a step, in the order in which they are preferred: one that
    goes on before one that stops. The work to do is to go on from an end, or to stop there. -/
def reachable (byGroups : Bool) (step : Nat × Groups → List (Nat × Groups)) :
    Nat → List (Bool × Nat × Groups) → List (Nat × Groups) → List (Nat × Groups) → List (Nat × Groups)
  | 0, _, _, found => found.reverse
  | _ + 1, [], _, found => found.reverse
  | fuel + 1, (true, e) :: rest, seen, found => reachable byGroups step fuel rest seen (e :: found)
  | fuel + 1, (false, e) :: rest, seen, found =>
    if seen.any fun x => x.1 = e.1 && (!byGroups || x.2 = e.2) then
      reachable byGroups step fuel rest seen found
    else
      let next := (step e).map fun x => if e.1 < x.1 then (false, x) else (true, e)
      reachable byGroups step fuel (next ++ (true, e) :: rest) (e :: seen) found

/-- The ends that can be reached by repeating a step a number of times. -/
def repeatedEnds (byGroups : Bool) (step : Nat × Groups → List (Nat × Groups)) :
    Nat → List (Nat × Groups) → List (Nat × Groups)
  | 0, ends => ends
  | n + 1, ends => repeatedEnds byGroups step n (distinctEnds byGroups (ends.flatMap step))

/-- The ends that can be reached by repeating a step up to a number of times. -/
def optionalEnds (byGroups : Bool) (step : Nat × Groups → List (Nat × Groups)) :
    Nat → Nat × Groups → List (Nat × Groups)
  | 0, e => [e]
  | n + 1, e =>
    let next := (step e).filter fun x => e.1 < x.1
    distinctEnds byGroups (next.flatMap (optionalEnds byGroups step n) ++ [e])

/-- All ends of matches that begin at a place, in the order in which they are preferred: the first choice
    before the second, and one repetition more before one less. -/
def Regex.ends (t : Subject) (byGroups : Bool) : Regex → Nat × Groups → List (Nat × Groups)
  | nothing, e => [e]
  | one w, (n, gs) =>
    match t.text[n]? with
    | some c => if t.admits w c then [(n + 1, gs)] else []
    | none => []
  | seq a b, e => distinctEnds byGroups ((a.ends t byGroups e).flatMap (b.ends t byGroups))
  | either a b, e => distinctEnds byGroups (a.ends t byGroups e ++ b.ends t byGroups e)
  | repeated (one w) least most, (n, gs) =>
    let last := t.runEnd w (most.getD t.text.size) n
    if last < n + least then []
    else (List.range (last + 1 - (n + least))).map fun k => (last - k, gs)
  | repeated a least most, e =>
    let step := a.ends t byGroups
    let begun := repeatedEnds byGroups step least [e]
    let ends := match most with
      | none =>
        reachable byGroups step (2 * (t.text.size + 2) * (t.text.size + 2)) (begun.map (false, ·)) [] []
      | some most => begun.flatMap (optionalEnds byGroups step (most - least))
    distinctEnds byGroups ends
  | group number a, (n, gs) =>
    (a.ends t byGroups (n, gs)).map fun (m, hs) => (m, (number, n, m) :: hs.filter (·.1 ≠ number))
  | back number, (n, gs) =>
    match gs.lookup number with
    | none => []
    | some (first, last) =>
      let same := t.part first last
      let here := t.part n (n + (last - first))
      let fold (cs : Octets) : Octets := if t.foldsCase then cs.map Char.toLower else cs
      if fold same = fold here then [(n + (last - first), gs)] else []
  | edge kind, (n, gs) => if t.isEdge n kind then [(n, gs)] else []

/-- A match: from a place to a place, and the groups. -/
structure Match where
  first : Nat
  last : Nat
  groups : Groups

/-- The text of a group of a match; the match as a whole is group zero. -/
def Match.group (m : Match) (t : Subject) (number : Nat) : Octets :=
  if number = 0 then t.part m.first m.last
  else
    match m.groups.lookup number with
    | some (first, last) => t.part first last
    | none => []

/-- The longest match that begins at a place. -/
def Regex.matchAt? (r : Regex) (t : Subject) (n : Nat) : Option Match :=
  match r.ends t r.hasBack (n, []) with
  | [] => none
  | e :: rest =>
    let (last, groups) := rest.foldl (fun best x => if best.1 < x.1 then x else best) e
    some ⟨n, last, groups⟩

/-- The first match that begins at one of some places. -/
def Regex.firstMatch? (r : Regex) (t : Subject) : Nat → Nat → Option Match
  | 0, _ => none
  | fuel + 1, n =>
    match r.matchAt? t n with
    | some m => some m
    | none => firstMatch? r t fuel (n + 1)

/-- Whether matches can only begin at the start of a text. -/
def Regex.isAnchored : Regex → Bool
  | edge .start | edge .textStart => true
  | seq a _ => a.isAnchored
  | group _ a => a.isAnchored
  | either a b => a.isAnchored && b.isAnchored
  | _ => false

/-- The first match that begins at a place or after it. -/
def Regex.findFrom? (r : Regex) (t : Subject) (n : Nat) : Option Match :=
  if t.text.size < n then none
  else if r.isAnchored ∧ !t.hasLines then if n = 0 then r.matchAt? t 0 else none
  else r.firstMatch? t (t.text.size + 1 - n) n

/-- Whether a text has a match. -/
def Regex.isIn (r : Regex) (foldsCase : Bool) (text : Octets) : Bool :=
  (r.findFrom? { text := text.toArray, foldsCase } 0).isSome

/-! ## Reading -/

/-- A way to write expressions. -/
structure Dialect where
  /-- Whether parentheses, braces and the marks for repetition and choice need no backslash. -/
  isExtended : Bool
  /-- Whether a backslash is a mark within brackets, too. -/
  escapesInBrackets : Bool := false
  /-- Whether a repetition of nothing is nothing, and a closing parenthesis without an opening one stands
      for itself. -/
  isLenient : Bool := false
  /-- Whether without parentheses something can be repeated only once. -/
  repeatsOnce : Bool := false

/-- What is wrong with an expression. -/
inductive RegexFault where
  | openGroup
  | closedGroup
  | openBracket
  | openBrace
  | badBrace
  | badRange
  | badClass
  | badReference
  | finalBackslash
  | nothingBefore
  | malformed
  | tooBig

/-- How a fault is reported. -/
def RegexFault.text : RegexFault → String
  | openGroup => "Unmatched ( or \\("
  | closedGroup => "Unmatched ) or \\)"
  | openBracket => "Unmatched [, [^, [:, [., or [="
  | openBrace => "Unmatched \\\x7b"
  | badBrace => "Invalid content of \\\x7b\\\x7d"
  | badRange => "Invalid range end"
  | badClass => "Invalid character class name"
  | badReference => "Invalid back reference"
  | finalBackslash => "Trailing backslash"
  | nothingBefore => "Invalid preceding regular expression"
  | malformed => "Invalid regular expression"
  | tooBig => "Regular expression too big"

/-- The character after a backslash in brackets. -/
def bracketEscape (c : Char) : Char :=
  match c with
  | 'n' => '\n'
  | 't' => '\t'
  | 'r' => '\r'
  | 'f' => '\x0c'
  | 'v' => '\x0b'
  | 'a' => '\x07'
  | 'b' => '\x08'
  | c => c

/-- The ranges of a bracket up to its end, and the text after it. -/
def readBracket (d : Dialect) : Nat → Bool → List (Char × Char) → Octets →
    Except RegexFault (List (Char × Char) × Octets)
  | 0, _, _, _ => .error .openBracket
  | _ + 1, _, _, [] => .error .openBracket
  | fuel + 1, isFirst, acc, cs =>
    -- A single character, as one end of a range.
    let single (cs : Octets) : Except RegexFault (Option (Char × Octets)) :=
      match cs with
      | '[' :: '.' :: c :: '.' :: ']' :: rest | '[' :: '=' :: c :: '=' :: ']' :: rest => .ok (some (c, rest))
      | '\\' :: c :: rest =>
        if d.escapesInBrackets then .ok (some (bracketEscape c, rest)) else .ok (some ('\\', c :: rest))
      | c :: rest => .ok (some (c, rest))
      | [] => .error .openBracket
    match cs with
    | '[' :: ':' :: rest =>
      let name := rest.takeWhile Char.isAlpha
      match rest.drop name.length, classRanges (String.ofList name) with
      | ':' :: ']' :: after, [] => if after.isEmpty then .error .openBracket else .error .badClass
      | ':' :: ']' :: after, ranges => readBracket d fuel false (ranges ++ acc) after
      | _, _ => .error .openBracket
    | ']' :: rest =>
      if isFirst then
        match rest with
        | '-' :: c :: more =>
          if c = ']' then readBracket d fuel false ((']', ']') :: acc) ('-' :: c :: more)
          else readBracket d fuel false ((']', c) :: acc) more
        | _ => readBracket d fuel false ((']', ']') :: acc) rest
      else .ok (acc, rest)
    | cs => do
      match ← single cs with
      | none => .error .openBracket
      | some (low, '-' :: rest) =>
        if rest.head? = some ']' ∨ rest.isEmpty then readBracket d fuel false ((low, low) :: acc) ('-' :: rest)
        else
          match ← single rest with
          | some (high, rest) =>
            if high < low then .error .badRange else readBracket d fuel false ((low, high) :: acc) rest
          | none => .error .openBracket
      | some (c, rest) => readBracket d fuel false ((c, c) :: acc) rest

/-- A mark in an expression. -/
inductive RegexMark where
  | atom (r : Regex)
  | opening
  | closing
  | bar
  | times (least : Nat) (most : Option Nat)
  /-- A mark that begins or ends a line, depending on where it stands. -/
  | caret
  | dollar
  | reference (n : Nat)

/-- A class of characters that a letter after a backslash stands for. -/
def letterClass? (c : Char) : Option Wildcard :=
  let word := classRanges "alnum" ++ [('_', '_')]
  match c with
  | 'w' => some (.oneOf false word)
  | 'W' => some (.oneOf true word)
  | 's' => some (.oneOf false (classRanges "space"))
  | 'S' => some (.oneOf true (classRanges "space"))
  | _ => none

/-- The kind of place that a letter after a backslash stands for. -/
def letterEdge? (c : Char) : Option Edge :=
  match c with
  | '<' => some .wordStart
  | '>' => some .wordEnd
  | 'b' => some .wordEdge
  | 'B' => some .noWordEdge
  | '\x60' => some .textStart
  | '\'' => some .textFinish
  | _ => none

/-- How often something may be repeated. -/
def repetitionLimit : Nat := 32767

/-- The numbers between braces, up to the given ending, and the text after it; with no result if there
    are none such. -/
def readCounts (isExtended : Bool) (cs : Octets) :
    Option (Except RegexFault ((Nat × Option Nat) × Octets)) :=
  let low := cs.takeWhile Char.isDigit
  let rest := cs.drop low.length
  let (range, rest) : Option (Nat × Option Nat) × Octets := match rest with
    | ',' :: rest =>
      let high := rest.takeWhile Char.isDigit
      (some (digitsValue low, if high.isEmpty then none else some (digitsValue high)), rest.drop high.length)
    | rest => (if low.isEmpty then none else some (digitsValue low, some (digitsValue low)), rest)
  let rest? := match isExtended, rest with
    | true, '}' :: rest => some rest
    | false, '\\' :: '}' :: rest => some rest
    | _, _ => none
  match range, rest? with
  | some (least, most), some rest =>
    if most.any (· < least) then some (.error .badBrace)
    else if repetitionLimit < max least (most.getD 0) then some (.error .tooBig)
    else some (.ok ((least, most), rest))
  | _, _ => none

/-- The first mark of an expression, and the text after it. -/
def readMark? (d : Dialect) (cs : Octets) : Except RegexFault (RegexMark × Octets) :=
  let literal (c : Char) (rest : Octets) : Except RegexFault (RegexMark × Octets) :=
    .ok (.atom (.one (.exactly c)), rest)
  let braces (c : Char) (rest : Octets) : Except RegexFault (RegexMark × Octets) :=
    match readCounts d.isExtended rest with
    | some counts => counts.map fun ((least, most), rest) => (.times least most, rest)
    | none =>
      if d.isExtended ∧ d.isLenient then literal c rest
      else if rest.contains '}' then .error .badBrace
      else .error .openBrace
  match cs with
  | [] => .ok (.atom .nothing, [])
  | '\\' :: [] => .error .finalBackslash
  | '\\' :: c :: rest =>
    match letterClass? c, letterEdge? c with
    | some w, _ => .ok (.atom (.one w), rest)
    | none, some e => .ok (.atom (.edge e), rest)
    | none, none =>
      if c.isDigit ∧ c ≠ '0' then .ok (.reference (c.toNat - 48), rest)
      else if d.isExtended then literal c rest
      else
        match c with
        | '(' => .ok (.opening, rest)
        | ')' => .ok (.closing, rest)
        | '|' => .ok (.bar, rest)
        | '+' => .ok (.times 1 none, rest)
        | '?' => .ok (.times 0 (some 1), rest)
        | '{' => braces '{' rest
        | c => literal c rest
  | '[' :: rest =>
    let isNegated := rest.head? = some '^'
    if rest.isEmpty ∨ rest = ['^'] then .error .malformed
    else (readBracket d (rest.length + 1) true [] (if isNegated then rest.tail else rest)).map
      fun (ranges, rest) => (.atom (.one (.oneOf isNegated ranges)), rest)
  | '.' :: rest => .ok (.atom (.one .anyOne), rest)
  | '*' :: rest => .ok (.times 0 none, rest)
  | '^' :: rest => .ok (.caret, rest)
  | '$' :: rest => .ok (.dollar, rest)
  | c :: rest =>
    if d.isExtended then
      match c with
      | '(' => .ok (.opening, rest)
      | ')' => .ok (.closing, rest)
      | '|' => .ok (.bar, rest)
      | '+' => .ok (.times 1 none, rest)
      | '?' => .ok (.times 0 (some 1), rest)
      | '{' => braces '{' rest
      | c => literal c rest
    else literal c rest

/-- What has been read of an expression. -/
structure RegexReading where
  /-- The number of groups that began, and those that ended. -/
  groups : Nat := 0
  closed : List Nat := []
  /-- Marks for repetition with nothing before them, the latest first. -/
  idle : List Char := []
  rest : Octets

/-- The text that a mark for repetition was written as. -/
def timesText (least : Nat) (most : Option Nat) : Char :=
  match least, most with
  | 0, none => '*'
  | 1, none => '+'
  | 0, some 1 => '?'
  | _, _ => '{'

mutual

/-- Reads choices up to the end of a group. -/
def readChoices (d : Dialect) : Nat → Nat → RegexReading → Except RegexFault (Regex × RegexReading)
  | 0, _, p => .ok (.nothing, p)
  | fuel + 1, depth, p => do
    let (first, p) ← readSequence d fuel depth none p
    let isBar := match readMark? d p.rest with
      | .ok (.bar, _) => !p.rest.isEmpty
      | _ => false
    if isBar then
      let (_, rest) ← readMark? d p.rest
      let (second, p) ← readChoices d fuel depth { p with rest }
      return (.either first second, p)
    else return (first, p)

/-- Reads expressions one after the other, the last of which is given. -/
def readSequence (d : Dialect) : Nat → Nat → Option Regex → RegexReading →
    Except RegexFault (Regex × RegexReading)
  | 0, _, last, p => .ok (last.getD .nothing, p)
  | fuel + 1, depth, last, p => do
    let join (second : Regex) (q : RegexReading) : Except RegexFault (Regex × RegexReading) := do
      let (rest, q) ← readSequence d fuel depth (some second) q
      return (match last with | some first => .seq first rest | none => rest, q)
    if p.rest.isEmpty then return (last.getD .nothing, p)
    let isRepeated : Bool := match last with
      | some (.repeated ..) => d.repeatsOnce && !d.isExtended
      | _ => false
    if isRepeated ∧ p.rest.take 2 = ['\\', '\x7b'] then throw .nothingBefore
    let (mark, rest) ← readMark? d p.rest
    let q := { p with rest }
    let isAnchor : Option Regex → Bool
      | some (.edge .start) => true
      | _ => false
    match mark with
    | .atom r => join r q
    | .bar => return (last.getD .nothing, p)
    | .closing =>
      if depth ≠ 0 then return (last.getD .nothing, p)
      else if d.isLenient ∧ d.isExtended then join (.one (.exactly ')')) q
      else throw .closedGroup
    | .opening => do
      let number := q.groups + 1
      let (body, q) ← readChoices d fuel (depth + 1) { q with groups := number }
      if q.rest.isEmpty then throw .openGroup
      let (_, rest) ← readMark? d q.rest
      join (.group number body) { q with rest, closed := number :: q.closed }
    | .times least most =>
      match last with
      | none =>
        if d.isExtended then
          if d.isLenient then
            readSequence d fuel depth none { q with idle := timesText least most :: q.idle }
          else throw .nothingBefore
        else if timesText least most = '{' then throw .nothingBefore
        else join (.one (.exactly (timesText least most))) q
      | some first =>
        if isRepeated ∧ timesText least most = '*' then throw .nothingBefore
        else if isAnchor last ∧ !d.isLenient ∧ d.isExtended then throw .nothingBefore
        else if isAnchor last ∧ !d.isExtended then join (.one (.exactly (timesText least most))) q
        else if isAnchor last then
          readSequence d fuel depth last { q with idle := timesText least most :: q.idle }
        else readSequence d fuel depth (some (.repeated first least most)) q
    | .caret =>
      if d.isExtended ∨ last.isNone then join (.edge .start) q else join (.one (.exactly '^')) q
    | .dollar =>
      let isLast : Bool := match readMark? d rest with
        | .ok (.closing, _) | .ok (.bar, _) => true
        | _ => rest.isEmpty
      if d.isExtended ∨ isLast then join (.edge .finish) q else join (.one (.exactly '$')) q
    | .reference n => if q.closed.contains n then join (.back n) q else throw .badReference

end

/-- Reads an expression; also what was read of it. -/
def readRegexFully (d : Dialect) (cs : Octets) : Except RegexFault (Regex × RegexReading) :=
  readChoices d (2 * cs.length + 4) 0 { rest := cs }

/-- Reads an expression; also the number of its groups. -/
def readRegex (d : Dialect) (cs : Octets) : Except RegexFault (Regex × Nat) :=
  (readRegexFully d cs).map fun (r, p) => (r, p.groups)

/-- The expression that stands for a text itself. -/
def Regex.ofText : Octets → Regex
  | [] => nothing
  | [c] => one (.exactly c)
  | c :: rest => seq (one (.exactly c)) (ofText rest)

end Foreman.Shell
