import Foreman.Shell.Format
import Foreman.Shell.Regex

/-!
# `Foreman.Shell.Records.Pattern` — expressions that records are matched against

Every mark works without a backslash, a mark for the start or the end is one wherever it stands, and
within brackets a backslash takes the meaning from the character after it.

## Contents
- **`PatternFault`**: what is wrong with an expression.
- `readPattern`.
-/

namespace Foreman.Shell.Records

/-- What is wrong with an expression. -/
inductive PatternFault where
  | noOperand
  | openGroup
  | badClass
  | repeatedStart
  | tooLarge
  deriving DecidableEq

/-- How a fault is reported. -/
def PatternFault.text : PatternFault → String
  | noOperand => "missing operand"
  | openGroup => "missing ')'"
  | badClass => "bad class -- [], [^] or ["
  | repeatedStart => "syntax error ^* or ^+"
  | tooLarge => "resource exhaustion -- regular expression too large"

/-- The character that an escape stands for, and the text after it. -/
def escapedChar (cs : Octets) : Char × Octets :=
  match cs with
  | [] => ('\\', [])
  | c :: rest =>
    if isOctal c then octalCode cs
    else if c = 'x' then
      let ds := (rest.take 2).takeWhile fun d => (digit? 16 d).isSome
      if ds.isEmpty then ('x', rest)
      else (Char.ofNat ((numeral? 16 ds).getD 0), rest.drop ds.length)
    else
      match c with
      | 'n' => ('\n', rest)
      | 't' => ('\t', rest)
      | 'f' => ('\x0c', rest)
      | 'b' => ('\x08', rest)
      | 'r' => ('\r', rest)
      | 'a' => ('\x07', rest)
      | 'v' => ('\x0b', rest)
      | c => (c, rest)

/-- The ranges of a bracket up to its end, and the text after it. -/
def readClass : Nat → Bool → List (Char × Char) → Octets →
    Except PatternFault (List (Char × Char) × Octets)
  | 0, _, _, _ => .error .badClass
  | fuel + 1, isFirst, acc, cs =>
    match cs with
    | [] => .error .badClass
    | '[' :: ':' :: rest =>
      let name := rest.takeWhile Char.isAlpha
      match rest.drop name.length, classRanges (String.ofList name) with
      | ':' :: ']' :: after, range :: ranges => readClass fuel false (range :: ranges ++ acc) after
      | _, _ => .error .badClass
    | ']' :: rest =>
      if isFirst then readClass fuel false ((']', ']') :: acc) rest else .ok (acc, rest)
    | c :: rest =>
      let single (c : Char) (rest : Octets) : Char × Octets := if c = '\\' then escapedChar rest else (c, rest)
      let (low, rest) := single c rest
      match rest with
      | '-' :: d :: after =>
        if d = ']' then readClass fuel false ((low, low) :: acc) rest
        else
          let (high, after) := single d after
          if high < low then
            readClass fuel false ((low, low) :: ('-', '-') :: (high, high) :: acc) after
          else readClass fuel false ((low, high) :: acc) after
      | rest => readClass fuel false ((low, low) :: acc) rest

/-- The repetition at the front of a text, and the text after it. Braces stand for themselves. -/
def repetition? (cs : Octets) : Option ((Nat × Option Nat) × Octets) :=
  match cs with
  | '*' :: rest => some ((0, none), rest)
  | '+' :: rest => some ((1, none), rest)
  | '?' :: rest => some ((0, some 1), rest)
  | _ => none

/-- Applies the repetitions that follow an operand. -/
def repeatOperand (isStart : Bool) : Nat → Regex → Octets → Except PatternFault (Regex × Octets)
  | 0, r, cs => .ok (r, cs)
  | fuel + 1, r, cs =>
    match repetition? cs with
    | none => .ok (r, cs)
    | some ((least, most), rest) =>
      if isStart then .error .repeatedStart
      else repeatOperand false fuel (.repeated r least most) rest

mutual

/-- Reads choices up to the end of a group or of the text. -/
def readAlternatives : Nat → Nat → Octets → Except PatternFault (Regex × Octets)
  | 0, _, _ => .error .tooLarge
  | fuel + 1, depth, cs => do
    let (first, rest) ← readRow fuel depth none cs
    match rest with
    | '|' :: rest =>
      let (others, rest) ← readAlternatives fuel depth rest
      return (.either first others, rest)
    | rest => return (first, rest)

/-- Reads operands that follow each other. -/
def readRow : Nat → Nat → Option Regex → Octets → Except PatternFault (Regex × Octets)
  | 0, _, _, _ => .error .tooLarge
  | fuel + 1, depth, done, cs => do
    let add (isStart : Bool) (r : Regex) (rest : Octets) : Except PatternFault (Regex × Octets) := do
      let (r, rest) ← repeatOperand isStart rest.length r rest
      readRow fuel depth (some (match done with
        | some front => .seq front r
        | none => r)) rest
    let stop : Except PatternFault (Regex × Octets) :=
      match done with
      | some r => .ok (r, cs)
      | none => .error .noOperand
    match cs with
    | [] => stop
    | '|' :: _ => stop
    | ')' :: rest => if depth = 0 then add false (.one (.exactly ')')) rest else stop
    | ['('] => .error .openGroup
    | '(' :: rest =>
      let (body, rest) ← readAlternatives fuel (depth + 1) rest
      match rest with
      | ')' :: rest => add false body rest
      | _ => .error .openGroup
    | '[' :: '^' :: rest =>
      let (ranges, rest) ← readClass (rest.length + 1) true [] rest
      add false (.one (.oneOf true ranges)) rest
    | '[' :: rest =>
      let (ranges, rest) ← readClass (rest.length + 1) true [] rest
      add false (.one (.oneOf false ranges)) rest
    | '.' :: rest => add false (.one .anyOne) rest
    | '^' :: rest => add true (.edge .textStart) rest
    | '$' :: rest => add false (.edge .textFinish) rest
    | '\\' :: rest =>
      let (c, rest) := escapedChar rest
      add false (.one (.exactly c)) rest
    | c :: rest =>
      if (repetition? cs).isSome then .error .noOperand else add false (.one (.exactly c)) rest

end

/-- Reads an expression. -/
def readPattern (cs : Octets) : Except PatternFault Regex :=
  if cs.isEmpty then .ok .nothing
  else do
    let (r, rest) ← readAlternatives (2 * cs.length + 2) 0 cs
    if rest.isEmpty then return r else .error .openGroup

end Foreman.Shell.Records
