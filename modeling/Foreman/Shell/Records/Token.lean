import Foreman.Collection.NameMap
import Foreman.Shell.Records.Pattern
import Foreman.Shell.Records.Syntax

/-!
# `Foreman.Shell.Records.Token` — the words and marks of a program

What a mark means depends on what is being read: a sign for greater is a direction behind values that are
printed, and a slash begins an expression where no value stands before it. So tokens are taken one by one,
with the reader's state at hand. The end of a line ends a statement; in front of a closing brace such an
end is implied.

## Contents
- **`Token`** with its `text` for messages.
- **`Reader`**, **`Reading`**: a computation that reads a program and gathers complaints.
- `complainAt`, `advance`.
-/

namespace Foreman.Shell.Records

/-! ## Tokens -/

/-- A part of a program. -/
inductive Token where
  | finish
  | lineEnd
  | semicolon
  /-- The end of a statement in front of a closing brace. -/
  | impliedEnd
  | mark (text : String)
  | keyword (word : String)
  /-- A function of the language. -/
  | builtin (word : String)
  | name (word : String)
  /-- The name of a function of the program. -/
  | function (word : String)
  | number (x : Binary64) (text : Octets)
  | text (t : Octets)
  | regex (r : Regex) (text : Octets)
  | field (n : Nat)
  | fieldCount
  /-- A mark for where output goes. -/
  | output (d : Direction) (text : String)
  /-- A mark for where input comes from. -/
  | input
  | strange (c : Char)

/-- A token as messages name it; a strange character has a message of its own. -/
def Token.shown : Token → Octets
  | finish => "end of file".toList
  | lineEnd => "end of line".toList
  | semicolon => [';']
  | impliedEnd => ['}']
  | mark m => m.toList
  | keyword word | builtin word | name word | function word => word.toList
  | number _ written => written
  | text t => t
  | regex _ written => '/' :: written ++ ['/']
  | field _ | fieldCount => ['$']
  | output _ m => m.toList
  | input => ['<']
  | strange c => [c]

/-- Whether a slash behind a token divides. -/
def Token.isValueEnd : Token → Bool
  | number .. | text _ | name _ | regex .. | field _ | fieldCount | keyword "getline" => true
  | mark m => m = ")" || m = "]" || m = "++" || m = "--"
  | _ => false

/-- Whether a token is a closing brace. -/
def Token.isClosing : Token → Bool
  | mark m => m = "\x7d"
  | _ => false

/-- Whether a token ends a statement. -/
def Token.isEnd : Token → Bool
  | lineEnd | semicolon | impliedEnd => true
  | _ => false

/-! ## Reading -/

/-- How a variable is used. -/
inductive Usage where
  | unknown
  | value
  | array
  deriving DecidableEq

/-- A function as far as it is known. -/
structure KnownFunction where
  name : String
  /-- The uses of its parameters, if it is defined. -/
  parameters : Option (List Usage) := none
  body : Statement := .block []

/-- A call of a function, to be checked when all functions are known. -/
structure KnownCall where
  function : Nat
  line : Nat
  /-- For each argument the use of its variable; other expressions are values. -/
  args : List (Usage ⊕ VariableId)

/-- What a reader of a program knows. -/
structure Reader where
  rest : Octets
  line : Nat := 1
  token : Token := .lineEnd
  /-- The line of the token. -/
  tokenLine : Nat := 1
  parens : Nat := 0
  braces : Nat := 0
  /-- Whether values to be printed are read. -/
  isPrinting : Bool := false
  /-- Whether the source of a line may follow. -/
  isReading : Bool := false
  /-- The file that the program comes from. -/
  file : Option Octets := none
  /-- The complaints, the latest first. -/
  complaints : List Octets := []
  /-- For how many tokens there are no complaints about what does not fit. -/
  quiet : Nat := 0
  shared : NameMap Nat := .empty
  uses : Array Usage := #[]
  functionNumbers : NameMap Nat := .empty
  functions : Array KnownFunction := #[]
  calls : List KnownCall := []
  /-- The parameters of the function that is read, and their uses. -/
  parameters : List String := []
  ownUses : Array Usage := #[]
  isInFunction : Bool := false
  /-- Whether the action belongs to a rule for records. -/
  isInRule : Bool := false
  loops : Nat := 0

/-- Why reading stops. -/
inductive Stop where
  /-- The program cannot go on like this, which was complained about. -/
  | malformed
  | whole

/-- A computation that reads a program. -/
abbrev Reading (α : Type) : Type := ExceptT Stop (StateM Reader) α

/-- How many complaints are made at most. -/
def complaintLimit : Nat := 5

/-- Adds a complaint. -/
def complainWith (text : Octets) : Reading Unit := do
  modify fun r => { r with complaints := text :: r.complaints }
  if complaintLimit ≤ (← get).complaints.length then throw .whole

/-- The beginning of a complaint about a line. -/
def Reader.place (r : Reader) (line : Nat) : Octets :=
  ((r.file.map fun f => f ++ ": ".toList).getD []) ++ ("line " ++ toString line ++ ": ").toList

/-- Adds a complaint about a line. -/
def complainAt (line : Nat) (text : Octets) : Reading Unit := do complainWith ((← get).place line ++ text)

/-- Adds a complaint about the line of the token. -/
def complainHere (text : Octets) : Reading Unit := do complainAt (← get).tokenLine text

/-- Ends reading with a last complaint about the present line. -/
def giveUp {α : Type} (text : Octets) : Reading α := do
  let r ← get
  set { r with complaints := (r.place r.line ++ text) :: r.complaints }
  throw .whole

/-! ## Characters -/

/-- Whether a character is a blank within a line. -/
def isInnerBlank (c : Char) : Bool := c = ' ' || c = '\t' || c = '\x0b' || c = '\x0c' || c = '\r'

/-- What is left of a text after blanks, ends of lines and comments, and the number of lines passed. -/
def skipSpace : Nat → Nat → Octets → Nat × Octets
  | 0, lines, cs => (lines, cs)
  | fuel + 1, lines, cs =>
    match cs with
    | '\n' :: rest => skipSpace fuel (lines + 1) rest
    | '#' :: rest => skipSpace fuel lines (rest.dropWhile (· ≠ '\n'))
    | '\\' :: rest =>
      match rest.dropWhile isInnerBlank with
      | '\n' :: after => skipSpace fuel (lines + 1) after
      | _ => (lines, cs)
    | c :: rest => if isInnerBlank c then skipSpace fuel lines rest else (lines, cs)
    | [] => (lines, cs)

/-- Passes over blanks, ends of lines and comments. -/
def passSpace : Reading Unit := modify fun r =>
  let (lines, rest) := skipSpace (r.rest.length + 1) 0 r.rest
  { r with rest, line := r.line + lines }

/-- Passes over a semicolon on the same line. -/
def passSemicolon : Reading Unit := modify fun r =>
  match r.rest.dropWhile isInnerBlank with
  | ';' :: rest => { r with rest }
  | rest => { r with rest }

/-- The characters of a constant up to its end, the text after it, and the lines passed; none without an
    end on the line. -/
def constantBody (finish : Char) (hasClasses : Bool) : Nat → Bool → Nat → Octets → Octets →
    Option (Octets × Octets × Nat)
  | 0, _, _, _, _ => none
  | fuel + 1, isInside, lines, acc, cs =>
    match cs with
    | [] | '\n' :: _ => none
    | '\\' :: '\n' :: rest => constantBody finish hasClasses fuel isInside (lines + 1) acc rest
    | '\\' :: c :: rest =>
      if c = '/' ∧ hasClasses then constantBody finish hasClasses fuel isInside lines (c :: acc) rest
      else constantBody finish hasClasses fuel isInside lines (c :: '\\' :: acc) rest
    | c :: rest =>
      if isInside then
        constantBody finish hasClasses fuel (c ≠ ']') lines (c :: acc) rest
      else if c = finish then some (acc.reverse, rest, lines)
      else if c = '[' ∧ hasClasses then
        match rest with
        | '^' :: ']' :: more => constantBody finish hasClasses fuel true lines (']' :: '^' :: c :: acc) more
        | ']' :: more => constantBody finish hasClasses fuel true lines (']' :: c :: acc) more
        | more => constantBody finish hasClasses fuel true lines (c :: acc) more
      else constantBody finish hasClasses fuel false lines (c :: acc) rest

/-- A text constant with its escapes replaced. An unknown one keeps its backslash. -/
def replaceEscapes : Nat → Octets → Octets
  | 0, cs => cs
  | fuel + 1, '\\' :: c :: rest =>
    let isHex := c = 'x' && (rest.head?.any fun d => (digit? 16 d).isSome)
    if isOctal c ∨ isHex ∨ "ntfbrav\\\"".toList.contains c then
      let (e, after) := escapedChar (c :: rest)
      e :: replaceEscapes fuel after
    else '\\' :: c :: replaceEscapes fuel rest
  | fuel + 1, c :: rest => c :: replaceEscapes fuel rest
  | _ + 1, [] => []

/-- The words that are part of the language. -/
def keywords : List String :=
  ["BEGIN", "END", "break", "continue", "delete", "do", "else", "exit", "for", "function", "getline",
    "if", "in", "next", "nextfile", "print", "printf", "return", "while"]

/-- The names of the functions of the language. -/
def builtinNames : List String :=
  ["length", "index", "substr", "sprintf", "sin", "cos", "atan2", "exp", "log", "int", "sqrt", "rand",
    "srand", "close", "system", "toupper", "tolower", "fflush", "systime", "mktime", "strftime", "sub",
    "gsub", "split", "match"]

/-- A number of a program: digits with a point and a power. -/
def programNumber (cs : Octets) : Option (Binary64 × Octets) :=
  (readPlaces 10 cs).map fun (n, places, rest) =>
    let (power, rest) := readPower ['e', 'E'] rest
    (.ofDecimal false n (power - places), rest)

/-! ## Taking tokens -/

/-- Leaves a text to be read. -/
def leave (rest : Octets) (t : Token) : Reading Token := do
  modify fun r => { r with rest }
  return t

/-- Leaves a text to be read, passing over what does not count at its front. -/
def leaveAndPass (rest : Octets) (t : Token) : Reading Token := do
  modify fun r => { r with rest }
  passSpace
  return t

/-- A word, with the text after it. -/
def wordToken (word : String) (rest : Octets) : Reading Token := do
  let r ← get
  if keywords.contains word then leave rest (.keyword word)
  else if builtinNames.contains word then leave rest (.builtin word)
  else if word = "NF" then leave rest .fieldCount
  else if r.parameters.contains word then leave rest (.name word)
  else if (r.functionNumbers.find? word).isSome then leave rest (.function word)
  else if (r.shared.find? word).isNone ∧ rest.head? = some '(' then
    let number := r.functions.size
    set { r with
      rest
      functionNumbers := r.functionNumbers.insert word number
      functions := r.functions.push { name := word } }
    return .function word
  else leave rest (.name word)

/-- An expression between slashes, with the text after the first of them. -/
def regexToken (cs : Octets) : Reading Token := do
  match constantBody '/' true (cs.length + 1) false 0 [] cs with
  | none =>
    giveUp ("runaway regular expression /".toList ++ (cs.takeWhile (· ≠ '\n')).take 10 ++ " ...".toList)
  | some (body, rest, lines) =>
    modify fun r => { r with line := r.line + lines }
    match readPattern body with
    | .ok r => leave rest (.regex r body)
    | .error fault =>
      let r ← get
      complainAt r.line (("regular expression compile failed (" ++ fault.text ++ ")\n").toList ++ body)
      leave rest (.regex .nothing body)

/-- Marks of two characters, those of one character left aside. -/
def doubleMarks : List String :=
  ["++", "--", "+=", "-=", "*=", "/=", "%=", "^=", "==", "!=", "<=", ">="]

/-- A mark at the front of a text that is not empty. -/
def markToken (c : Char) (rest : Octets) : Reading Token := do
  let r ← get
  let isOutput := r.isPrinting && r.parens = 0
  let pair : String := String.ofList (c :: rest.take 1)
  match c with
  | '(' =>
    modify fun r => { r with parens := r.parens + 1 }
    leave rest (.mark "(")
  | ',' => leaveAndPass rest (.mark ",")
  | '~' => leave rest (.mark "~")
  | '>' =>
    if isOutput then
      modify fun r => { r with isPrinting := false }
      if rest.head? = some '>' then leave (rest.drop 1) (.output .endOfFile ">>")
      else leave rest (.output .newFile ">")
    else if pair = ">=" then leave (rest.drop 1) (.mark ">=")
    else leave rest (.mark ">")
  | '<' =>
    if pair = "<=" then leave (rest.drop 1) (.mark "<=")
    else if r.isReading then
      modify fun r => { r with isReading := false }
      leave rest .input
    else leave rest (.mark "<")
  | '|' =>
    if pair = "||" then leaveAndPass (rest.drop 1) (.mark "||")
    else if isOutput then
      modify fun r => { r with isPrinting := false }
      leave rest (.output .command "|")
    else leave rest (.mark "|")
  | '&' => if pair = "&&" then leaveAndPass (rest.drop 1) (.mark "&&") else leave rest (.strange '&')
  | '!' => if pair = "!~" then leave (rest.drop 1) (.mark "!~") else
    if pair = "!=" then leave (rest.drop 1) (.mark "!=") else leave rest (.mark "!")
  | '/' =>
    if !r.token.isValueEnd then regexToken rest
    else if pair = "/=" then leave (rest.drop 1) (.mark "/=") else leave rest (.mark "/")
  | '$' =>
    let rest := rest.dropWhile isInnerBlank
    match programNumber rest with
    | none => leave rest (.mark "$")
    | some (x, after) =>
      let n := x.wholePart.toNat
      if Binary64.ofNat n ≠ x then
        complainAt r.line ('$' :: ({ letter := 'g' } : Directive).ofDouble x ++ " is invalid field index".toList)
      leave after (.field n)
  | '"' =>
    match constantBody '"' false (rest.length + 1) false 0 [] rest with
    | none =>
      giveUp ("runaway string constant \"".toList ++ (rest.takeWhile (· ≠ '\n')).take 10 ++ " ...".toList)
    | some (body, after, lines) =>
      modify fun r => { r with line := r.line + lines }
      leave after (.text (replaceEscapes (body.length + 1) body))
  | c =>
    if doubleMarks.contains pair then leave (rest.drop 1) (.mark pair)
    else if "+-*%^=?:[]".toList.contains c then leave rest (.mark c.toString)
    else leave rest (.strange c)

/-- Takes the next token. -/
def nextToken : Nat → Reading Token
  | 0 => return .finish
  | fuel + 1 => do
    modify fun r => { r with rest := r.rest.dropWhile isInnerBlank }
    modify fun r => { r with tokenLine := r.line }
    let r ← get
    match r.rest with
    | [] => return .finish
    | '\n' :: rest =>
      modify fun r => { r with line := r.line + 1 }
      leaveAndPass rest .lineEnd
    | ';' :: rest => leaveAndPass rest .semicolon
    | '#' :: rest =>
      modify fun r => { r with rest := rest.dropWhile (· ≠ '\n') }
      nextToken fuel
    | '\\' :: rest =>
      match rest.dropWhile isInnerBlank with
      | '\n' :: after =>
        modify fun r => { r with rest := after, line := r.line + 1 }
        nextToken fuel
      | _ => leave rest (.strange '\\')
    | '{' :: rest =>
      modify fun r => { r with braces := r.braces + 1 }
      leaveAndPass rest (.mark "\x7b")
    | '}' :: rest =>
      if r.braces = 0 then
        complainAt r.line "extra '\x7d'".toList
        modify fun r => { r with rest }
        passSemicolon
        nextToken fuel
      else if r.token.isEnd || r.token.isClosing then
        modify fun r => { r with rest, braces := r.braces - 1 }
        if r.braces = 1 then passSemicolon
        passSpace
        return .mark "\x7d"
      else return .impliedEnd
    | ')' :: rest =>
      if r.parens = 0 then
        complainAt r.line "extra ')'".toList
        modify fun r => { r with rest }
        nextToken fuel
      else
        modify fun r => { r with parens := r.parens - 1 }
        leave rest (.mark ")")
    | c :: rest =>
      if c.isAlpha ∨ c = '_' then
        let word := r.rest.takeWhile fun d => d.isAlphanum || d = '_'
        wordToken (String.ofList word) (r.rest.drop word.length)
      else
        match programNumber r.rest with
        | some (x, after) => leave after (.number x (r.rest.take (r.rest.length - after.length)))
        | none => markToken c rest

/-- Goes on to the next token. -/
def advance : Reading Unit := do
  let t ← nextToken ((← get).rest.length + 2)
  modify fun r => { r with token := t, quiet := r.quiet - 1 }

/-- Goes on to the next token that does not end a line. -/
def advancePast : Reading Unit := do
  passSpace
  advance

end Foreman.Shell.Records
