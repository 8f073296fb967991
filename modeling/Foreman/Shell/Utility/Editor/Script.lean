import Foreman.Shell.Regex
import Foreman.Text.Digits

/-!
# `Foreman.Shell.Utility.Editor.Script` — scripts that edit lines

A script is a list of commands. Each has addresses that select the lines to which it applies. Braces around
commands and jumps are places in the list.

## Contents
- **`Address`**, **`Selector`**: which lines are selected.
- **`Order`**, **`EditCommand`**: what is done with them.
- **`Reading`**: a computation that reads a script and counts what it has read.
- `readScript`.
-/

namespace Foreman.Shell.Utility.Editor

/-! ## Addresses -/

/-- An expression with the ways in which it is matched. -/
structure EditRegex where
  regex : Regex
  foldsCase : Bool
  hasLines : Bool

/-- What a line has to be to be selected. -/
inductive Address where
  | line (n : Nat)
  /-- A line, and every so many lines behind it. -/
  | step (first every : Nat)
  | last
  /-- A line that matches; with no value, that matches what was matched before. -/
  | matching (e : Option EditRegex)

/-- Where lines are no longer selected. -/
inductive RangeEnd where
  | address (a : Address)
  /-- After a number of lines. -/
  | count (n : Nat)
  /-- At a line whose number is a multiple. -/
  | multiple (n : Nat)

/-- Which lines are selected. -/
structure Selector where
  first : Option Address := none
  last : Option RangeEnd := none
  isNegated : Bool := false

/-! ## Commands -/

/-- How letters of a replacement are changed. -/
inductive CaseMark where
  | upper
  | lower
  | plain
  | upperNext
  | lowerNext

/-- A part of a replacement. -/
inductive ReplacementPart where
  | text (cs : Octets)
  | group (n : Nat)
  | mark (m : CaseMark)

/-- A substitution. -/
structure Substitution where
  expression : Option EditRegex
  replacement : List ReplacementPart
  isGlobal : Bool := false
  /-- Which match is the first to be replaced. -/
  number : Nat := 1
  prints : Bool := false
  file : Option Octets := none

/-- When a jump is taken. -/
inductive JumpReason where
  | always
  | replaced
  | notReplaced

/-- What is done. -/
inductive Order where
  /-- Goes on behind the block if the line is not selected. -/
  | block (finish : Nat)
  | blockEnd
  | label
  | append (text : Octets)
  | insert (text : Octets)
  | change (text : Octets)
  | jump (reason : JumpReason) (target : Nat)
  | delete
  | deleteFirst
  | name
  | fetch
  | fetchMore
  | hold
  | holdMore
  | listing (width : Option Nat)
  | next
  | nextMore
  | print
  | printFirst
  | quit (status : Nat)
  | quitAtOnce (status : Nat)
  | readFile (path : Octets)
  | readLine (path : Octets)
  | substitute (s : Substitution)
  | write (path : Octets)
  | writeFirst (path : Octets)
  | exchange
  | translate (pairs : List (Char × Char))
  | zap
  | number
  | nothing

/-- A command. -/
structure EditCommand where
  selector : Selector
  order : Order
  /-- The label that a jump goes to, or that stands here. -/
  label : Octets := []

/-- What is wrong with a script: the characters that are left where it is found, if that is known, and a
    text. -/
structure ScriptFault where
  left : Option Nat
  text : Octets
  /-- Whether it is a fault of the script as a whole. -/
  isWhole : Bool := false

/-! ## Reading -/

/-- How expressions are written. -/
structure Manner where
  isExtended : Bool := false

/-- A computation that reads characters. -/
abbrev Reading (α : Type) : Type := StateT Octets (Except ScriptFault) α

namespace Reading

/-- The next character. -/
def take : Reading (Option Char) := do
  match ← get with
  | [] => return none
  | c :: rest =>
    set rest
    return some c

/-- The next character, which is not taken. -/
def peek : Reading (Option Char) := do return (← get).head?

/-- Takes characters as long as they are of a kind. -/
def takeWhile (p : Char → Bool) : Reading Octets := do
  let front := (← get).takeWhile p
  modify (·.drop front.length)
  return front

/-- Passes over blanks in a line. -/
def passBlanks : Reading Unit := do
  let _ ← takeWhile fun c => c = ' ' || c = '\t'

/-- Ends with a fault at this place. -/
def reject {α : Type} (text : String) : Reading α := do
  let rest ← get
  throw ⟨some rest.length, text.toList, false⟩

end Reading

open Reading

/-- The brackets at the front of a text, up to the closing one, if there is one. -/
def bracketText : Octets → Option Octets
  | [] => none
  | cs =>
    let (front, rest) : Octets × Octets := match cs with
      | '^' :: ']' :: rest => (['^', ']'], rest)
      | '^' :: rest => (['^'], rest)
      | ']' :: rest => ([']'], rest)
      | rest => ([], rest)
    (go rest.length rest).map (front ++ ·)
where
  /-- Goes on to the closing bracket. -/
  go : Nat → Octets → Option Octets
    | 0, cs => if cs.head? = some ']' then some [']'] else none
    | _ + 1, [] => none
    | fuel + 1, '[' :: ':' :: rest =>
      let name := rest.takeWhile Char.isAlpha
      match rest.drop name.length with
      | ':' :: ']' :: after =>
        (go fuel after).map fun more => '[' :: ':' :: name ++ ':' :: ']' :: more
      | _ => (go fuel rest).map fun more => '[' :: ':' :: more
    | fuel + 1, c :: rest => if c = ']' then some [']'] else (go fuel rest).map (c :: ·)

/-- Reads text up to a delimiter. A backslash before the delimiter is left out. With no result if the
    line ends before it. -/
def readUpTo (delimiter : Char) (isRegex : Bool) : Nat → Reading (Option Octets)
  | 0 => return none
  | fuel + 1 => do
    match ← peek with
    | none => return none
    | some '\n' => return none
    | some c =>
      let _ ← take
      let front : Octets ←
        if c = delimiter then return some []
        else if c = '\\' then
          match ← take with
          | none => return none
          | some 'n' => pure (if isRegex && delimiter ≠ 'n' then ['\n'] else ['\\', 'n'])
          | some '\n' => pure (if isRegex then ['\n'] else ['\\', '\n'])
          | some d => pure (if d = delimiter ∧ (isRegex ∨ d ≠ '&') then [d] else ['\\', d])
        else if c = '[' ∧ isRegex then
          match bracketText (← get) with
          | some text =>
            modify (·.drop text.length)
            pure ('[' :: unescaped text)
          | none =>
            set ([] : Octets)
            return none
        else pure [c]
      return (← readUpTo delimiter isRegex fuel).map (front ++ ·)
where
  /-- The text between brackets, with its line breaks and delimiters. -/
  unescaped : Octets → Octets
    | '\\' :: 'n' :: rest => '\n' :: unescaped rest
    | '\\' :: c :: rest => if c = delimiter then c :: unescaped rest else '\\' :: c :: unescaped rest
    | c :: rest => c :: unescaped rest
    | [] => []

/-- The character that a number after a backslash stands for, and the rest. -/
def numberedChar? (cs : Octets) : Option (Char × Octets) :=
  let number (base most : Nat) (isDigit : Char → Bool) (rest : Octets) : Option (Char × Octets) :=
    let digits := (rest.take most).takeWhile isDigit
    if digits.isEmpty then none
    else
      let value := digits.foldl (fun n c =>
        n * base + if c.isDigit then c.toNat - 48 else c.toLower.toNat - 87) 0
      some (Char.ofNat (value % 256), rest.drop digits.length)
  match cs with
  | 'd' :: rest => number 10 3 Char.isDigit rest
  | 'o' :: rest => number 8 3 (fun c => '0' ≤ c && c ≤ '7') rest
  | 'x' :: rest =>
    number 16 2 (fun c => c.isDigit || ('a' ≤ c.toLower && c.toLower ≤ 'f')) rest
  | 'c' :: c :: rest => some (Char.ofNat (c.toUpper.toNat ^^^ 64), rest)
  | 'a' :: rest => some ('\x07', rest)
  | 'f' :: rest => some ('\x0c', rest)
  | 'r' :: rest => some ('\r', rest)
  | 't' :: rest => some ('\t', rest)
  | 'v' :: rest => some ('\x0b', rest)
  | _ => none

/-- An expression with the characters in place that backslashes and letters stand for. -/
def plainRegex : Nat → Octets → Octets
  | 0, cs => cs
  | fuel + 1, '\\' :: rest =>
    match numberedChar? rest with
    | some (c, after) => c :: plainRegex fuel after
    | none =>
      match rest with
      | c :: after => '\\' :: c :: plainRegex fuel after
      | [] => ['\\']
  | fuel + 1, c :: rest => c :: plainRegex fuel rest
  | _ + 1, [] => []

/-- Compiles an expression; an empty one stands for the one before. -/
def compile (m : Manner) (text : Octets) (foldsCase hasLines : Bool) :
    Reading (Option EditRegex × Nat) := do
  if text.isEmpty then return (none, 9)
  else
    match readRegex { isExtended := m.isExtended, repeatsOnce := true } (plainRegex text.length text) with
    | .ok (regex, groups) => return (some { regex, foldsCase, hasLines }, groups)
    | .error fault => reject fault.text

/-- Reads a number. -/
def readNumber : Reading Nat := do return digitsValue (← takeWhile Char.isDigit)

/-- Reads the letters behind an expression that say how it is matched. -/
def readFlags : Nat → Bool → Bool → Reading (Bool × Bool)
  | 0, i, m => return (i, m)
  | fuel + 1, i, m => do
    passBlanks
    match ← peek with
    | some 'I' =>
      let _ ← take
      readFlags fuel true m
    | some 'M' =>
      let _ ← take
      readFlags fuel i true
    | _ => return (i, m)

/-- Reads an address, if there is one. -/
def readAddress? (m : Manner) : Reading (Option RangeEnd) := do
  let fuel := (← get).length + 1
  let regex (delimiter : Char) : Reading (Option RangeEnd) := do
    match ← readUpTo delimiter true fuel with
    | none => reject "unterminated address regex"
    | some text =>
      let (foldsCase, hasLines) ← readFlags fuel false false
      return some (.address (.matching (← compile m text foldsCase hasLines).1))
  match ← peek with
  | some '/' =>
    let _ ← take
    regex '/'
  | some '\\' =>
    let _ ← take
    match ← take with
    | none => reject "unterminated address regex"
    | some c => regex c
  | some '$' =>
    let _ ← take
    return some (.address .last)
  | some '+' =>
    let _ ← take
    passBlanks
    return some (.count (← readNumber))
  | some '~' =>
    let _ ← take
    passBlanks
    return some (.multiple (← readNumber))
  | some c =>
    if c.isDigit then
      let first ← readNumber
      passBlanks
      if (← peek) = some '~' then
        let _ ← take
        passBlanks
        let every ← readNumber
        return some (.address (if every = 0 then .line first else .step first every))
      else return some (.address (.line first))
    else return none
  | none => return none

/-- Reads the addresses and the exclamation mark in front of a command. -/
def readSelector (m : Manner) : Reading Selector := do
  let first? ← readAddress? m
  let first : Option Address ← match first? with
    | some (.address a) => pure (some a)
    | some _ => reject "invalid usage of +N or ~N as first address"
    | none => pure none
  passBlanks
  let mut last : Option RangeEnd := none
  if first.isSome ∧ (← peek) = some ',' then
    let _ ← take
    passBlanks
    last ← readAddress? m
    if last.isNone then
      let _ ← take
      reject "unexpected \x60,'"
    passBlanks
  let isRegex : Option RangeEnd → Bool
    | some (.address (.matching _)) => true
    | _ => false
  match first with
  | some (.line 0) =>
    if !isRegex last then
      let _ ← take
      reject "invalid usage of line address 0"
  | _ => pure ()
  if (← peek) = some '!' then
    let _ ← take
    passBlanks
    if (← peek) = some '!' then
      let _ ← take
      reject "multiple \x60!'s"
    return { first, last, isNegated := true }
  else return { first, last }

/-- Reads the end of a command. -/
def readEnd : Reading Unit := do
  passBlanks
  match ← peek with
  | none => return ()
  | some c =>
    if c = '}' ∨ c = '#' then return ()
    else
      let _ ← take
      if c ≠ '\n' ∧ c ≠ ';' then reject "extra characters after command"

/-- Reads the name of a file, up to the end of the line. -/
def readPath : Reading Octets := do
  passBlanks
  let path ← takeWhile (· ≠ '\n')
  if path.isEmpty then reject "missing filename in r/R/w/W commands"
  let _ ← take
  return path

/-- Reads a label. -/
def readLabel : Reading Octets := do
  passBlanks
  let label ← takeWhile fun c => !c.isWhitespace && c ≠ ';' && c ≠ '}'
  return label

/-- Reads text up to the end of a line that does not end with a backslash. -/
def readText : Nat → Reading Octets
  | 0 => return []
  | fuel + 1 => do
    match ← take with
    | none | some '\n' => return ['\n']
    | some '\\' =>
      match numberedChar? (← get) with
      | some (c, rest) =>
        set rest
        return c :: (← readText fuel)
      | none =>
        match ← take with
        | none => return ['\n']
        | some 'n' => return '\n' :: (← readText fuel)
        | some c => return c :: (← readText fuel)
    | some c => return c :: (← readText fuel)

/-- Reads the text of a command that writes it. -/
def readOwnText : Reading Octets := do
  passBlanks
  let fuel := (← get).length + 1
  match ← peek with
  | none => reject "expected \\ after \x60a', \x60c' or \x60i'"
  | some '\\' =>
    let _ ← take
    match ← peek with
    | none => return []
    | some '\n' =>
      let _ ← take
      readText fuel
    | some c =>
      -- The first character behind the backslash stands for itself.
      let _ ← take
      if c = '\\' then
        match numberedChar? (← get) with
        | some (d, rest) =>
          set rest
          return d :: (← readText fuel)
        | none => return c :: (← readText fuel)
      else return c :: (← readText fuel)
  | some _ => readText fuel

/-- Reads the parts of a replacement from its text. -/
def replacementParts : Nat → Octets → Octets → List ReplacementPart
  | 0, acc, _ => [.text acc.reverse]
  | fuel + 1, acc, cs =>
    let part (p : ReplacementPart) (rest : Octets) : List ReplacementPart :=
      .text acc.reverse :: p :: replacementParts fuel [] rest
    match cs with
    | [] => [.text acc.reverse]
    | '&' :: rest => part (.group 0) rest
    | '\\' :: c :: rest =>
      if c.isDigit then part (.group (c.toNat - 48)) rest
      else
        match c with
        | 'U' => part (.mark .upper) rest
        | 'L' => part (.mark .lower) rest
        | 'E' => part (.mark .plain) rest
        | 'u' => part (.mark .upperNext) rest
        | 'l' => part (.mark .lowerNext) rest
        | 'n' => replacementParts fuel ('\n' :: acc) rest
        | c =>
          match numberedChar? (c :: rest) with
          | some (d, after) => replacementParts fuel (d :: acc) after
          | none => replacementParts fuel (c :: acc) rest
    | c :: rest => replacementParts fuel (c :: acc) rest

/-- Reads the letters behind a substitution. The result also says how its expression is matched. -/
def readSubstitutionFlags : Nat → Substitution × Bool × Bool × Bool →
    Reading (Substitution × Bool × Bool × Bool)
  | 0, x => return x
  | fuel + 1, (s, i, m, isCounted) => do
    passBlanks
    match ← peek with
    | none => return (s, i, m, isCounted)
    | some c =>
      if c = '}' ∨ c = '#' then return (s, i, m, isCounted)
      else if c.isDigit then
        if isCounted then
          let _ ← take
          reject "multiple number options to \x60s' command"
        let number ← readNumber
        if number = 0 then reject "number option to \x60s' command may not be zero"
        readSubstitutionFlags fuel ({ s with number }, i, m, true)
      else
        let _ ← take
        match c with
        | ';' | '\n' => return (s, i, m, isCounted)
        | 'i' | 'I' => readSubstitutionFlags fuel (s, true, m, isCounted)
        | 'm' | 'M' => readSubstitutionFlags fuel (s, i, true, isCounted)
        | 'e' => readSubstitutionFlags fuel (s, i, m, isCounted)
        | 'p' =>
          if s.prints then reject "multiple \x60p' options to \x60s' command"
          readSubstitutionFlags fuel ({ s with prints := true }, i, m, isCounted)
        | 'g' =>
          if s.isGlobal then reject "multiple \x60g' options to \x60s' command"
          readSubstitutionFlags fuel ({ s with isGlobal := true }, i, m, isCounted)
        | 'w' => return ({ s with file := some (← readPath) }, i, m, isCounted)
        | _ => reject "unknown option to \x60s'"

/-- Reads a substitution behind its letter. -/
def readSubstitution (m : Manner) : Reading Substitution := do
  let fuel := (← get).length + 1
  match ← take with
  | none => reject "unterminated \x60s' command"
  | some delimiter =>
    if delimiter = '\n' ∨ delimiter = '\\' then reject "unterminated \x60s' command"
    match ← readUpTo delimiter true fuel with
    | none => reject "unterminated \x60s' command"
    | some pattern =>
      match ← readUpTo delimiter false fuel with
      | none => reject "unterminated \x60s' command"
      | some text =>
        let replacement := replacementParts (text.length + 1) [] text
        let (s, foldsCase, hasLines, _) ←
          readSubstitutionFlags fuel ({ expression := none, replacement }, false, false, false)
        let (expression, groups) ← compile m pattern foldsCase hasLines
        let bad := replacement.find? fun p =>
          match p with
          | .group n => groups < n
          | _ => false
        match bad with
        | some (.group n) => reject ("invalid reference \\" ++ toString n ++ " on \x60s' command's RHS")
        | _ => return { s with expression }

/-- The characters of a side of a translation. -/
def translationChars : Octets → Octets
  | '\\' :: 'n' :: rest => '\n' :: translationChars rest
  | '\\' :: 't' :: rest => '\t' :: translationChars rest
  | '\\' :: '\\' :: rest => '\\' :: translationChars rest
  | '\\' :: c :: rest => c :: translationChars rest
  | c :: rest => c :: translationChars rest
  | [] => []

/-- Reads a translation behind its letter. -/
def readTranslation : Reading (List (Char × Char)) := do
  let fuel := (← get).length + 1
  match ← take with
  | none => reject "unterminated \x60y' command"
  | some delimiter =>
    match ← readUpTo delimiter false fuel with
    | none => reject "unterminated \x60y' command"
    | some source =>
      match ← readUpTo delimiter false fuel with
      | none => reject "unterminated \x60y' command"
      | some target =>
        let source := translationChars source
        let target := translationChars target
        if source.length ≠ target.length then
          reject "strings for \x60y' command are different lengths"
        readEnd
        return source.zip target

/-- Reads an optional number and the end of the command. -/
def readCount : Reading (Option Nat) := do
  passBlanks
  let digits ← takeWhile Char.isDigit
  readEnd
  return if digits.isEmpty then none else some (digitsValue digits)

/-- Reads a command behind its addresses. -/
def readOrder (m : Manner) (s : Selector) : Reading EditCommand := do
  let simple (order : Order) : Reading EditCommand := do
    readEnd
    return { selector := s, order }
  let made (order : Order) : Reading EditCommand := return { selector := s, order }
  let single : Reading Unit := do
    if s.last.isSome then reject "command only uses one address"
  match ← take with
  | none => reject "missing command"
  | some c =>
    match c with
    | '{' => made (.block 0)
    | '}' =>
      if s.first.isSome then reject "\x60\x7d' doesn't want any addresses"
      readEnd
      made .blockEnd
    | ':' =>
      if s.first.isSome then reject ": doesn't want any addresses"
      passBlanks
      let label ← takeWhile fun c => c ≠ '\n' && c ≠ ';'
      if label.isEmpty then reject "\":\" lacks a label"
      readEnd
      return { selector := s, order := .label, label }
    | 'a' => made (.append (← readOwnText))
    | 'i' => made (.insert (← readOwnText))
    | 'c' => made (.change (← readOwnText))
    | 'b' | 't' | 'T' =>
      let label ← readLabel
      readEnd
      let reason : JumpReason := if c = 'b' then .always else if c = 't' then .replaced else .notReplaced
      return { selector := s, order := .jump reason 0, label }
    | 'd' => simple .delete
    | 'D' => simple .deleteFirst
    | 'F' => simple .name
    | 'g' => simple .fetch
    | 'G' => simple .fetchMore
    | 'h' => simple .hold
    | 'H' => simple .holdMore
    | 'l' => made (.listing (← readCount))
    | 'n' => simple .next
    | 'N' => simple .nextMore
    | 'p' => simple .print
    | 'P' => simple .printFirst
    | 'q' =>
      single
      made (.quit ((← readCount).getD 0))
    | 'Q' =>
      single
      made (.quitAtOnce ((← readCount).getD 0))
    | 'r' => made (.readFile (← readPath))
    | 'R' => made (.readLine (← readPath))
    | 's' => made (.substitute (← readSubstitution m))
    | 'v' =>
      let _ ← readLabel
      simple .nothing
    | 'w' => made (.write (← readPath))
    | 'W' => made (.writeFirst (← readPath))
    | 'x' => simple .exchange
    | 'y' => made (.translate (← readTranslation))
    | 'z' => simple .zap
    | '=' => simple .number
    | c => reject ("unknown command: \x60" ++ c.toString ++ "'")

/-- Reads commands one after the other. The numbers of the blocks that are open come with them. -/
def readCommands (m : Manner) : Nat → List EditCommand → List Nat → Reading (List EditCommand × List Nat)
  | 0, acc, blocks => return (acc.reverse, blocks)
  | fuel + 1, acc, blocks => do
    let _ ← takeWhile fun c => c.isWhitespace || c = ';'
    match ← peek with
    | none => return (acc.reverse, blocks)
    | some '#' =>
      let _ ← takeWhile (· ≠ '\n')
      readCommands m fuel acc blocks
    | some _ =>
      let s ← readSelector m
      if (← peek) = some '#' then
        let _ ← take
        reject "comments don't accept any addresses"
      -- A closing brace without an opening one is a fault as soon as it is seen.
      if (← peek) = some '}' ∧ blocks.isEmpty then
        let _ ← take
        reject "unexpected \x60\x7d'"
      let command ← readOrder m s
      match command.order, blocks with
      | .block _, _ => readCommands m fuel (command :: acc) (acc.length :: blocks)
      | .blockEnd, _ :: outer => readCommands m fuel (command :: acc) outer
      | _, _ => readCommands m fuel (command :: acc) blocks

/-- The place of the end of the block that begins in front of some commands. -/
def blockFinish : Nat → Nat → List EditCommand → Nat
  | _, place, [] => place
  | depth, place, c :: rest =>
    match c.order with
    | .block _ => blockFinish (depth + 1) (place + 1) rest
    | .blockEnd => if depth = 0 then place else blockFinish (depth - 1) (place + 1) rest
    | _ => blockFinish depth (place + 1) rest

/-- The commands with the places of blocks and labels. -/
def resolved (all : List EditCommand) : Nat → List EditCommand → Except ScriptFault (List EditCommand)
  | _, [] => .ok []
  | place, c :: rest => do
    let order : Order ← match c.order with
      | .block _ => pure (.block (blockFinish 0 (place + 1) rest))
      | .jump reason _ =>
        if c.label.isEmpty then pure (.jump reason all.length)
        else
          let isHere (d : EditCommand) : Bool :=
            match d.order with
            | .label => d.label = c.label
            | _ => false
          match all.findIdx? isHere with
          | some target => pure (.jump reason target)
          | none => throw ⟨none, "can't find label for jump to \x60".toList ++ c.label ++ ['\''], false⟩
      | order => pure order
    return { c with order } :: (← resolved all (place + 1) rest)

/-- Reads a script. -/
def readScript (m : Manner) (text : Octets) : Except ScriptFault (Array EditCommand) := do
  match (readCommands m (text.length + 1) [] []).run text with
  | .error f => .error f
  | .ok ((commands, blocks), _) =>
    if !blocks.isEmpty then .error ⟨some 0, "unmatched \x60\x7b'".toList, true⟩
    else return (← resolved commands 0 commands).toArray

end Foreman.Shell.Utility.Editor
