import Foreman.Shell.Scene

/-!
# `Foreman.Shell.Utility.Arguments` — options and operands

Arguments that begin with a dash are options. Several letters may stand together, the last one with its
value; a long option has its value after an equals sign or in the next argument.

## Contents
- **`Grammar`**: the options that a utility knows.
- **`Arguments`**: options and operands, and **`OptionFault`**.
- `Grammar.read`; `misuse`, the report of a fault; `wordOf`, a value that is one of some words.
-/

namespace Foreman.Shell

/-- Whether an option has a value. -/
inductive Need where
  | nothing
  | something
  /-- Only in the same argument. -/
  | perhaps
  deriving DecidableEq

/-- The options that a utility knows. -/
structure Grammar where
  /-- The letters; a colon after one means that it has a value, and two that it may have one. -/
  letters : String := ""
  /-- The long options with the names under which they are kept. -/
  words : List (String × String × Need) := []
  /-- Whether the first operand ends the options. -/
  isStrict : Bool := false

/-- What is wrong with an option. -/
inductive OptionFault where
  | unknownLetter (c : Char)
  | noValue (c : Char)
  | unknownWord (text : Octets)
  | noWordValue (name : String)
  | needlessValue (name : String)
  | ambiguous (text : Octets) (names : List String)

/-- How a fault is reported. -/
def OptionFault.text : OptionFault → Octets
  | unknownLetter c => "invalid option -- '".toList ++ [c, '\'']
  | noValue c => "option requires an argument -- '".toList ++ [c, '\'']
  | unknownWord text => "unrecognized option '--".toList ++ text ++ ['\'']
  | noWordValue name => ("option '--" ++ name ++ "' requires an argument").toList
  | needlessValue name => ("option '--" ++ name ++ "' doesn't allow an argument").toList
  | ambiguous text names =>
    "option '--".toList ++ text ++ "' is ambiguous; possibilities:".toList ++
      names.flatMap fun name => (" '--" ++ name ++ "'").toList

/-- Options and operands. -/
structure Arguments where
  /-- The options with their values, in order. -/
  options : List (String × Octets) := []
  operands : List Octets := []

namespace Arguments

/-- Whether an option is given. -/
def has (a : Arguments) (name : String) : Bool := a.options.any (·.1 = name)

/-- Whether one of some options is given. -/
def hasAny (a : Arguments) (names : List String) : Bool := names.any a.has

/-- The last value of an option. -/
def value? (a : Arguments) (name : String) : Option Octets :=
  (a.options.reverse.find? (·.1 = name)).map Prod.snd

/-- All values of an option. -/
def valuesOf (a : Arguments) (name : String) : List Octets :=
  (a.options.filter (·.1 = name)).map Prod.snd

/-- Which of some options is given last. -/
def last? (a : Arguments) (names : List String) : Option String :=
  (a.options.reverse.find? fun o => names.contains o.1).map Prod.fst

end Arguments

namespace Grammar

/-- What a letter needs, if it is known. -/
def letterNeed? (letters : List Char) (c : Char) : Option Need :=
  match letters with
  | [] => none
  | d :: ':' :: ':' :: rest => if c = d then some .perhaps else letterNeed? rest c
  | d :: ':' :: rest => if c = d then some .something else letterNeed? rest c
  | d :: rest => if c = d then some .nothing else letterNeed? rest c

/-- Reads the letters of an argument. The last one may take the next argument for its value. -/
def readLetters (g : Grammar) : List (String × Octets) → List Octets → Octets →
    Except OptionFault (List (String × Octets) × List Octets)
  | acc, rest, [] => .ok (acc, rest)
  | acc, rest, c :: more =>
    match letterNeed? g.letters.toList c with
    | none => .error (.unknownLetter c)
    | some .nothing => readLetters g ((c.toString, []) :: acc) rest more
    | some .perhaps => .ok ((c.toString, more) :: acc, rest)
    | some .something =>
      if !more.isEmpty then .ok ((c.toString, more) :: acc, rest)
      else
        match rest with
        | value :: rest => .ok ((c.toString, value) :: acc, rest)
        | [] => .error (.noValue c)

/-- The long option that a text stands for; it may be cut short. -/
def word? (g : Grammar) (text : Octets) : Except OptionFault (String × String × Need) :=
  let name := String.ofList text
  match g.words.find? (·.1 = name) with
  | some word => .ok word
  | none =>
    match g.words.filter fun w => name.isPrefixOf w.1 with
    | [] => .error (.unknownWord text)
    | [word] => .ok word
    | word :: others =>
      if others.all (·.2 = word.2) then .ok word
      else .error (.ambiguous text ((word :: others).map Prod.fst))

/-- Reads a long option. -/
def readLong (g : Grammar) (acc : List (String × Octets)) (rest : List Octets) (text : Octets) :
    Except OptionFault (List (String × Octets) × List Octets) := do
  let name := text.takeWhile (· ≠ '=')
  let value := if name.length < text.length then some (text.drop (name.length + 1)) else none
  match g.word? name with
  | .error (.unknownWord _) => .error (.unknownWord text)
  | .error (.ambiguous _ names) => .error (.ambiguous text names)
  | .error f => .error f
  | .ok (word, key, need) =>
    match need, value, rest with
    | .nothing, none, rest => .ok ((key, []) :: acc, rest)
    | .nothing, some _, _ => .error (.needlessValue word)
    | .perhaps, value, rest => .ok ((key, value.getD []) :: acc, rest)
    | .something, some value, rest => .ok ((key, value) :: acc, rest)
    | .something, none, value :: rest => .ok ((key, value) :: acc, rest)
    | .something, none, [] => .error (.noWordValue word)

/-- Reads arguments. Options and operands are gathered in reverse order. -/
def readFrom (g : Grammar) : Nat → List (String × Octets) → List Octets → List Octets →
    Except OptionFault Arguments
  | 0, options, operands, rest => .ok ⟨options.reverse, operands.reverse ++ rest⟩
  | fuel + 1, options, operands, args =>
    match args with
    | [] => .ok ⟨options.reverse, operands.reverse⟩
    | ['-', '-'] :: rest => .ok ⟨options.reverse, operands.reverse ++ rest⟩
    | ('-' :: '-' :: text) :: rest => do
      let (options, rest) ← g.readLong options rest text
      readFrom g fuel options operands rest
    | ('-' :: c :: text) :: rest => do
      let (options, rest) ← g.readLetters options rest (c :: text)
      readFrom g fuel options operands rest
    | a :: rest =>
      if g.isStrict then .ok ⟨options.reverse, operands.reverse ++ a :: rest⟩
      else readFrom g fuel options (a :: operands) rest

/-- Reads arguments. -/
def read (g : Grammar) (args : List Octets) : Except OptionFault Arguments :=
  g.readFrom (args.length + 1) [] [] args

end Grammar

/-- The report of a utility that was called the wrong way. -/
def misuse (status : Nat) (name : String) (text : Octets) : Report :=
  failure status (name.toList ++ ": ".toList ++ text ++
    ("\nTry '" ++ name ++ " --help' for more information.").toList)

/-- A report of a fault of a utility. -/
def faultOf (status : Nat) (name : String) (text : Octets) : Report :=
  failure status ((name ++ ": ").toList ++ text)

/-- Runs a utility with its arguments read. -/
def withArguments (name : String) (status : Nat) (g : Grammar) (args : List Octets)
    (run : Arguments → Report) : Report :=
  match g.read args with
  | .ok a => run a
  | .error f => misuse status name f.text

/-- The word that the value of an option stands for; it may be cut short, if it need not be whole. -/
def wordOf (name option : String) (words : List String) (text : Octets) (isWhole : Bool := false) :
    Except Report String :=
  let word := String.ofList text
  let known := "Valid arguments are:".toList ++ words.flatMap fun w => ("\n  - '" ++ w ++ "'").toList
  let fault (what : String) : Except Report String :=
    .error (misuse 1 name ((what ++ " argument ").toList ++ quotedText text ++
      (" for '" ++ option ++ "'\n").toList ++ known))
  match words.filter fun w => if isWhole then word = w else word.isPrefixOf w with
  | [] => fault "invalid"
  | [w] => .ok w
  | ws => if ws.contains word then .ok word else fault "ambiguous"

end Foreman.Shell
