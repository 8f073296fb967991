import Foreman.Shell.Syntax
import Foreman.Text.Digits

/-!
# `Foreman.Shell.Reader` — commands from their text

A script is read line by line, so that what stands before a faulty line still runs. A text being read
may have marks in it, which are no bytes: where lines were taken out of it, and where an alias ends
that was put into it.

## Contents
- **`Fault`**: why a text is no command.
- **Marks**: `lineMark`, `aliasMark`; `lineAt`.
- **Characters and tokens**: blanks, names, reserved words.
- **Quotes and documents**: texts that end at a mark.
- **Aliases**: `withAlias`.
- **Words and commands**: `readPieces`, `readWord`, and `readList` down to `readSimple`; all bounded by
  the length of the text.
- `readLine`: the first line of a script.
-/

namespace Foreman.Shell

/-! ## Faults -/

/-- Why a text is no command. -/
inductive Fault where
  | unterminated
  | unterminatedBackquote
  | missingBrackets
  | missingBrace
  | badLoopVariable
  | badFunctionName
  /-- A token that does not fit, with the text from it on, and the one token that would fit. -/
  | unexpected (rest : Octets) (expected : Option String)
  deriving DecidableEq

/-! ## Marks -/

/-- Stands for a line that was taken out of a text. -/
def lineMark : Char := Char.ofNat 0x100

/-- Stands at the end of an alias with a number that was put into a text; another one if the alias ends
    with a blank. -/
def aliasMark (number : Nat) (endsBlank : Bool) : Char :=
  Char.ofNat ((if endsBlank then 0x4000 else 0x1000) + number)

/-- Whether a character is the mark at the end of an alias with a blank. -/
def isBlankMark (c : Char) : Bool := 0x4000 ≤ c.toNat

/-- Whether a character is a mark. -/
def isMark (c : Char) : Bool := 0x100 ≤ c.toNat

/-- What reading depends on: the number of lines of the script, and the aliases. -/
structure Context where
  lines : Nat
  aliases : List (String × Octets) := []

/-- The line of the script that a rest of it starts in. -/
def lineAt (context : Context) (rest : Octets) : Nat :=
  context.lines - rest.countP fun c => c = '\n' || c = lineMark

/-! ## Characters and tokens -/

/-- Whether a character separates words. -/
def isSeparator (c : Char) : Bool := c = ' ' || c = '\t' || isMark c

/-- Whether a character ends a word unless it is quoted. -/
def isMeta (c : Char) : Bool :=
  isSeparator c || c = '\n' || c = ';' || c = '&' || c = '|' || c = '<' || c = '>' || c = '(' ||
    c = ')'

/-- Whether a character may stand in the name of a variable. -/
def isNameChar (c : Char) : Bool := c.isAlphanum || c = '_'

/-- Whether a text is the name of a variable. -/
def isName : List Char → Bool
  | [] => false
  | c :: rest => (c.isAlpha || c = '_') && rest.all isNameChar

/-- The text after blanks, comments and escaped line breaks. -/
def skipBlanksUpTo : Nat → Octets → Octets
  | 0, cs => cs
  | fuel + 1, cs =>
    match cs with
    | '\\' :: '\n' :: rest => skipBlanksUpTo fuel rest
    | '#' :: rest => rest.dropWhile (· ≠ '\n')
    | c :: rest => if isSeparator c then skipBlanksUpTo fuel rest else c :: rest
    | [] => []

/-- The text after blanks, comments and escaped line breaks. -/
def skipBlanks (cs : Octets) : Octets := skipBlanksUpTo (cs.length + 1) cs

/-- The text after blanks, comments and line breaks. -/
def skipLinesUpTo : Nat → Octets → Octets
  | 0, cs => cs
  | fuel + 1, cs =>
    match skipBlanks cs with
    | '\n' :: rest => skipLinesUpTo fuel rest
    | cs => cs

/-- The text after blanks, comments and line breaks. -/
def skipLines (cs : Octets) : Octets := skipLinesUpTo (cs.length + 1) cs

/-- The words with a meaning of their own in front of a command. -/
def reservedWords : List String :=
  ["!", "\x7b", "\x7d", "case", "do", "done", "elif", "else", "esac", "fi", "for", "if", "in", "then",
    "until", "while"]

/-- The commands whose faults end the shell, and in front of which settings last. They are no names of
    functions. -/
def specialBuiltins : List String :=
  [":", ".", "break", "continue", "eval", "exec", "exit", "export", "readonly", "return", "set",
    "shift", "times", "trap", "unset", "local"]

/-- The reserved words that end a list of commands. -/
def closingWords : List String := ["\x7d", "do", "done", "elif", "else", "esac", "fi", "then"]

/-- The reserved word that a text starts with, and the text after it. -/
def reserved? (cs : Octets) : Option (String × Octets) :=
  let word := cs.takeWhile fun c => !(isMeta c || c = '\'' || c = '"' || c = '\\' || c = '$')
  let name := String.ofList word
  if reservedWords.contains name then some (name, cs.drop word.length) else none

/-- A text that starts with a word in the place of a reserved one, where reserved words have no meaning. -/
def withPlainWord (cs : Octets) : Octets := if (reserved? cs).isSome then 'w' :: cs else cs

/-- The name of the token that a text starts with. -/
def tokenName (cs : Octets) : String :=
  match cs with
  | [] => "end of file"
  | '\n' :: _ => "newline"
  | '&' :: '&' :: _ => "\"&&\""
  | '|' :: '|' :: _ => "\"||\""
  | ';' :: ';' :: _ => "\";;\""
  | '<' :: _ | '>' :: _ => "redirection"
  | c :: _ =>
    if isMeta c then "\"" ++ c.toString ++ "\""
    else
      match reserved? cs with
      | some (name, _) => "\"" ++ name ++ "\""
      | none => "word"

/-- How a fault is reported, without the line. -/
def Fault.message (f : Fault) : String :=
  "Syntax error: " ++
    match f with
    | unterminated => "Unterminated quoted string"
    | unterminatedBackquote => "EOF in backquote substitution"
    | missingBrackets => "Missing '))'"
    | missingBrace => "Missing '\x7d'"
    | badLoopVariable => "Bad for loop variable"
    | badFunctionName => "Bad function name"
    | unexpected rest expected =>
      tokenName rest ++ " unexpected" ++
        match expected with
        | some "word" => " (expecting word)"
        | some token => " (expecting \"" ++ token ++ "\")"
        | none => ""

/-- Reads a reserved word. -/
def expectWord (word : String) (cs : Octets) : Except Fault Octets :=
  match reserved? cs with
  | some (name, rest) => if name = word then .ok rest else .error (.unexpected cs (some word))
  | none => .error (.unexpected cs (some word))

/-- Whether a list of commands ends here. -/
def listEnds (cs : Octets) : Bool :=
  match cs with
  | [] => true
  | ')' :: _ => true
  | ';' :: ';' :: _ => true
  | cs =>
    match reserved? cs with
    | some (name, _) => closingWords.contains name
    | none => false

/-- The name that a word sets, if it starts with a name and an equals sign. -/
def settingName? (cs : Octets) : Option (String × Octets) :=
  let name := cs.takeWhile isNameChar
  match cs.drop name.length with
  | '=' :: rest => if isName name then some (String.ofList name, rest) else none
  | _ => none

/-- A parameter whose name is one special character. -/
def isSpecial (c : Char) : Bool :=
  c = '?' || c = '$' || c = '#' || c = '@' || c = '*' || c = '!' || c = '-'

/-- The name of a parameter that a text starts with; empty if there is none. Between braces a number may
    have several digits. -/
def parameterName (inBraces : Bool) (cs : Octets) : Octets :=
  match cs with
  | [] => []
  | c :: _ =>
    if c.isDigit then if inBraces then cs.takeWhile Char.isDigit else [c]
    else if isNameChar c then cs.takeWhile isNameChar
    else if isSpecial c then [c]
    else []

/-- The redirection operators: descriptor, operator, and the text after them. A descriptor is written as
    one digit. -/
def readOperator (cs : Octets) : Option (Nat × String × Octets) :=
  let digits := (cs.take 1).takeWhile Char.isDigit
  let descriptor (n : Nat) := if digits.isEmpty then n else digitsValue digits
  match cs.drop digits.length with
  | '<' :: '<' :: '-' :: rest => some (descriptor 0, "<<-", rest)
  | '<' :: '<' :: rest => some (descriptor 0, "<<", rest)
  | '<' :: '&' :: rest => some (descriptor 0, "<&", rest)
  | '<' :: '>' :: rest => some (descriptor 0, "<>", rest)
  | '<' :: rest => some (descriptor 0, "<", rest)
  | '>' :: '&' :: rest => some (descriptor 1, ">&", rest)
  | '>' :: '>' :: rest => some (descriptor 1, ">>", rest)
  | '>' :: '|' :: rest => some (descriptor 1, ">|", rest)
  | '>' :: rest => some (descriptor 1, ">", rest)
  | _ => none

/-! ## Quotes and documents -/

/-- The text between single quotes, after the first. -/
def readSingle (cs : Octets) : Except Fault (Octets × Octets) :=
  let text := cs.takeWhile (· ≠ '\'')
  match cs.drop text.length with
  | _ :: rest => .ok (text, rest)
  | [] => .error .unterminated

/-- The body of an arithmetic expansion up to its two closing brackets, with the given number of
    brackets open inside. -/
def readArithmetic : Nat → Octets → Octets → Except Fault (Octets × Octets)
  | _, _, [] => .error .missingBrackets
  | 0, acc, ')' :: ')' :: rest => .ok (acc.reverse, rest)
  | n + 1, acc, ')' :: rest => readArithmetic n (')' :: acc) rest
  | n, acc, '(' :: rest => readArithmetic (n + 1) ('(' :: acc) rest
  | n, acc, c :: rest => readArithmetic n (c :: acc) rest

/-- The text between back quotes, after the first. Between double quotes a backslash also counts before
    another double quote. -/
def readBackquoted (isQuoted : Bool) : Octets → Octets → Except Fault (Octets × Octets)
  | _, [] => .error .unterminatedBackquote
  | acc, '\x60' :: rest => .ok (acc.reverse, rest)
  | acc, '\\' :: c :: rest =>
    if c = '\n' then readBackquoted isQuoted acc rest
    else if c = '\x60' ∨ c = '\\' ∨ c = '$' ∨ (c = '"' ∧ isQuoted) then
      readBackquoted isQuoted (c :: acc) rest
    else readBackquoted isQuoted (c :: '\\' :: acc) rest
  | acc, c :: rest => readBackquoted isQuoted (c :: acc) rest

/-- The lines up to one that is the given end, and the text after it. Tabs in front of a line may not
    count. -/
def documentLines (ending : Octets) (dropsTabs : Bool) : Nat → Octets → Octets → Octets × Octets
  | 0, acc, cs => (acc, cs)
  | fuel + 1, acc, cs =>
    if cs.isEmpty then (acc, cs)
    else
      let cs := if dropsTabs then cs.dropWhile (· = '\t') else cs
      let line := cs.takeWhile (· ≠ '\n')
      let rest := cs.drop (line.length + 1)
      if line = ending then (acc, rest)
      else documentLines ending dropsTabs fuel (acc ++ line ++ ['\n']) rest

/-- The document that starts after the present line, and the text without it, with marks in place of its
    lines. -/
def takeDocument (ending : Octets) (dropsTabs : Bool) (cs : Octets) : Octets × Octets :=
  let line := cs.takeWhile (· ≠ '\n')
  match cs.drop line.length with
  | [] => ([], cs)
  | _ :: after =>
    let marks := after.takeWhile (· = lineMark)
    let after := after.drop marks.length
    let (body, rest) := documentLines ending dropsTabs (after.length + 1) [] after
    let taken := List.replicate (after.count '\n' - rest.count '\n') lineMark
    (body, line ++ '\n' :: marks ++ taken ++ rest)

/-! ## Aliases -/

/-- The plain word that a text starts with. -/
def plainWord (cs : Octets) : Octets :=
  cs.takeWhile fun c =>
    !(isMeta c || c = '\'' || c = '"' || c = '\\' || c = '$' || c = '\x60')

/-- Puts aliases in the place of a word at the front of a text. An alias that is being read already
    stands for itself. -/
def withAliasUpTo (context : Context) : Nat → Octets → Octets
  | 0, cs => cs
  | fuel + 1, cs =>
    let cs := skipBlanks cs
    let word := plainWord cs
    let name := String.ofList word
    let rest := cs.drop word.length
    if context.aliases.isEmpty ∨ word.isEmpty ∨ reservedWords.contains name ∨ rest.head?.any (!isMeta ·)
    then cs
    else
      match context.aliases.zipIdx.find? (·.1.1 = name) with
      | none => cs
      | some ((_, text), number) =>
        let endsBlank := text.getLast?.any fun c => c = ' ' || c = '\t'
        if cs.contains (aliasMark number false) ∨ cs.contains (aliasMark number true) then cs
        else withAliasUpTo context fuel (text ++ aliasMark number endsBlank :: rest)

/-- Puts aliases in the place of a word at the front of a text. -/
def withAlias (context : Context) (cs : Octets) : Octets :=
  withAliasUpTo context (context.aliases.length + 1) cs

/-- The text after blanks; after an alias that ends with a blank, with an alias in the place of the next
    word. -/
def skipToArgument (context : Context) (cs : Octets) : Octets :=
  let rest := skipBlanks cs
  if context.aliases.isEmpty then rest
  else if (cs.take (cs.length - rest.length)).any isBlankMark then withAlias context rest
  else rest

/-! ## Words and commands -/

/-- Adds a character to the last piece of a word, given in reverse order. Marks do not count. -/
def pushChar (c : Char) (isQuoted : Bool) (pieces : List Piece) : List Piece :=
  if isMark c then pieces
  else
    match pieces with
    | .plain text q :: rest =>
      if q = isQuoted then .plain (text ++ [c]) q :: rest
      else .plain [c] isQuoted :: .plain text q :: rest
    | rest => .plain [c] isQuoted :: rest

/-- The text of a piece, if it is plain. -/
def Piece.plainText : Piece → Octets
  | plain text _ => text
  | _ => []

/-- Whether a piece is quoted. -/
def Piece.isQuoted : Piece → Bool
  | plain _ q | parameter _ _ q | arithmetic _ q | output _ q => q

/-- Whether a piece stands for all parameters of the script, each as a field. -/
def Piece.isParameters : Piece → Bool
  | parameter "@" .value _ => true
  | _ => false

/-- The pieces of a text between quotes. Even an empty one is a piece of its word; only the parameters
    of the script alone may stand for no field at all. -/
def quoted (pieces : List Piece) : List Piece :=
  if pieces.length ≠ 1 ∧ pieces.all Piece.isParameters then pieces ++ [.plain [] true] else pieces

/-- Whether a character after a backslash inside quotes, or before a closing character, is escaped. -/
def isEscapable (close : Option Char) (isQuoted : Bool) (c : Char) : Bool :=
  !isQuoted || c = '$' || c = '\x60' || c = '\\' || close = some c || (c = '"' && close.isSome)

/-- The use of a parameter that a text starts with, which goes on with a word; and whether the word
    stands outside quotes in any case. -/
def readUse (cs : Octets) : Option ((List Piece → Use) × Bool × Octets) :=
  match cs with
  | ':' :: '-' :: rest => some (.fallback true, false, rest)
  | ':' :: '=' :: rest => some (.assign true, false, rest)
  | ':' :: '+' :: rest => some (.alternative true, false, rest)
  | ':' :: '?' :: rest => some (.demand true, false, rest)
  | '-' :: rest => some (.fallback false, false, rest)
  | '=' :: rest => some (.assign false, false, rest)
  | '+' :: rest => some (.alternative false, false, rest)
  | '?' :: rest => some (.demand false, false, rest)
  | '%' :: '%' :: rest => some (.trim true true, true, rest)
  | '%' :: rest => some (.trim true false, true, rest)
  | '#' :: '#' :: rest => some (.trim false true, true, rest)
  | '#' :: rest => some (.trim false false, true, rest)
  | _ => none

/-- Refuses anything that is left of a text. -/
def wholly {α : Type} : α × Octets → Except Fault α
  | (a, []) => .ok a
  | (_, rest) => .error (.unexpected rest none)

/-- A command with redirections. Those of a group that holds only a subshell take the place of the
    subshell's own. -/
def Command.withRedirections (line : Nat) (redirections : List Redirection) : Command → Command
  | .sequence body .nothing => body.withRedirections line redirections
  | .redirected start (.subshell here body) _ => .redirected start (.subshell here body) redirections
  | body => .redirected line body redirections

mutual

/-- Reads an expansion after its dollar sign; none if the dollar sign stands for itself. -/
def readExpansion (context : Context) : Nat → Bool → Octets → Except Fault (Option (Piece × Octets))
  | 0, _, _ => .error .unterminated
  | fuel + 1, isQuoted, cs =>
    match cs with
    | '(' :: '(' :: rest => do
      let (body, rest) ← readArithmetic 0 [] rest
      let (pieces, _) ← readPieces context fuel true [] none body
      return some (.arithmetic pieces isQuoted, rest)
    | '(' :: rest => do
      let (command, rest) ← readList context fuel false rest
      match rest with
      | ')' :: rest => return some (.output command isQuoted, rest)
      | rest => .error (.unexpected rest (some ")"))
    | '\x7b' :: rest => do
      let (name, use, rest) ← readBraces context fuel isQuoted rest
      return some (.parameter name use isQuoted, rest)
    | cs =>
      match parameterName false cs with
      | [] => return none
      | name => return some (.parameter (String.ofList name) .value isQuoted, cs.drop name.length)

/-- Reads the name of a parameter and its use, up to a closing brace. -/
def readBraces (context : Context) : Nat → Bool → Octets → Except Fault (String × Use × Octets)
  | 0, _, _ => .error .missingBrace
  | fuel + 1, isQuoted, cs =>
    let sized := match cs with
      | '#' :: rest => parameterName true rest
      | _ => []
    let name := parameterName true cs
    let rest := cs.drop name.length
    if !sized.isEmpty ∧ (cs.drop (sized.length + 1)).head? = some '\x7d' then
      .ok (String.ofList sized, .size, cs.drop (sized.length + 2))
    else if name.isEmpty then do
      let (_, rest) ← readPieces context fuel isQuoted [] (some '\x7d') cs
      return ("", .unknown, rest)
    else
      match rest, readUse rest with
      | '\x7d' :: rest, _ => .ok (String.ofList name, .value, rest)
      | _, some (use, isOutside, rest) => do
        let (word, rest) ← readPieces context fuel (isQuoted && !isOutside) [] (some '\x7d') rest
        return (String.ofList name, use word, rest)
      | rest, none => do
        let (_, rest) ← readPieces context fuel isQuoted [] (some '\x7d') rest
        return (String.ofList name, .unknown, rest)

/-- Reads the pieces of a text in which only expansions and backslashes count, up to a closing
    character, or up to the end. Before a closing brace, quotes count as well. -/
def readPieces (context : Context) : Nat → Bool → List Piece → Option Char → Octets →
    Except Fault (List Piece × Octets)
  | 0, _, _, _, _ => .error .unterminated
  | fuel + 1, isQuoted, acc, close, cs =>
    match cs with
    | [] =>
      match close with
      | none => .ok (acc.reverse, [])
      | some c => .error (if c = '"' then .unterminated else .missingBrace)
    | '\\' :: c :: rest =>
      if c = '\n' then readPieces context fuel isQuoted acc close rest
      else if isEscapable close isQuoted c then
        readPieces context fuel isQuoted (pushChar c true acc) close rest
      else readPieces context fuel isQuoted (pushChar c isQuoted (pushChar '\\' isQuoted acc)) close rest
    | '$' :: rest => do
      match ← readExpansion context fuel isQuoted rest with
      | some (piece, rest) => readPieces context fuel isQuoted (piece :: acc) close rest
      | none => readPieces context fuel isQuoted (pushChar '$' isQuoted acc) close rest
    | '\x60' :: rest => do
      let (body, rest) ← readBackquoted isQuoted [] rest
      let command ← wholly (← readList context fuel false body)
      readPieces context fuel isQuoted (.output command isQuoted :: acc) close rest
    | c :: rest =>
      if close = some c then .ok (acc.reverse, rest)
      else if close = some '\x7d' ∧ c = '"' then do
        let (pieces, rest) ← readPieces context fuel true [] (some '"') rest
        readPieces context fuel isQuoted ((quoted pieces).reverse ++ acc) close rest
      else if close = some '\x7d' ∧ c = '\'' ∧ !isQuoted then do
        let (text, rest) ← readSingle rest
        readPieces context fuel isQuoted (.plain text true :: acc) close rest
      else readPieces context fuel isQuoted (pushChar c isQuoted acc) close rest

/-- Reads a word. -/
def readWord (context : Context) : Nat → List Piece → Octets → Except Fault (List Piece × Octets)
  | 0, _, _ => .error .unterminated
  | fuel + 1, acc, cs =>
    match cs with
    | [] => .ok (acc.reverse, [])
    | '\'' :: rest => do
      let (text, rest) ← readSingle rest
      readWord context fuel (.plain text true :: acc) rest
    | '"' :: rest => do
      let (pieces, rest) ← readPieces context fuel true [] (some '"') rest
      readWord context fuel ((quoted pieces).reverse ++ acc) rest
    | '\\' :: '\n' :: rest => readWord context fuel acc rest
    | '\\' :: c :: rest => readWord context fuel (.plain [c] true :: acc) rest
    | '$' :: rest => do
      match ← readExpansion context fuel false rest with
      | some (piece, rest) => readWord context fuel (piece :: acc) rest
      | none => readWord context fuel (pushChar '$' false acc) rest
    | '\x60' :: rest => do
      let (body, rest) ← readBackquoted false [] rest
      let command ← wholly (← readList context fuel false body)
      readWord context fuel (.output command false :: acc) rest
    | c :: rest =>
      if isMeta c then .ok (acc.reverse, c :: rest)
      else readWord context fuel (pushChar c false acc) rest

/-- Reads words up to the end of a simple command. -/
def readWords (context : Context) : Nat → List (List Piece) → Octets →
    Except Fault (List (List Piece) × Octets)
  | 0, _, _ => .error .unterminated
  | fuel + 1, acc, cs =>
    match skipBlanks cs with
    | [] => .ok (acc.reverse, [])
    | c :: rest =>
      if isMeta c then .ok (acc.reverse, c :: rest)
      else do
        let (word, rest) ← readWord context fuel [] (c :: rest)
        readWords context fuel (word :: acc) rest

/-- Reads redirections. -/
def readRedirections (context : Context) : Nat → List Redirection → Octets →
    Except Fault (List Redirection × Octets)
  | 0, _, _ => .error .unterminated
  | fuel + 1, acc, cs =>
    match readOperator (skipBlanks cs) with
    | none => .ok (acc.reverse, cs)
    | some (fd, operator, rest) => do
      let (target, after) ← readWord context fuel [] (skipBlanks rest)
      if target.isEmpty then .error (.unexpected after none)
      else
        match operator with
        | "<" => readRedirections context fuel (.file fd .read target :: acc) after
        | ">" => readRedirections context fuel (.file fd .write target :: acc) after
        | ">|" => readRedirections context fuel (.file fd .clobber target :: acc) after
        | "<>" => readRedirections context fuel (.file fd .readWrite target :: acc) after
        | ">>" => readRedirections context fuel (.file fd .append target :: acc) after
        | "<&" | ">&" => readRedirections context fuel (.duplicate fd target :: acc) after
        | operator =>
          let (body, after) :=
            takeDocument (target.flatMap Piece.plainText) (operator = "<<-") after
          let pieces ← if target.any Piece.isQuoted then pure [.plain body true]
            else wholly (← readPieces context fuel true [] none body)
          readRedirections context fuel (.document fd pieces :: acc) after

/-- Reads the settings, words and redirections of a simple command that starts in a line, or the
    definition of a function. -/
def readSimple (context : Context) : Nat → Option Nat → List (String × List Piece) →
    List (List Piece) → List Redirection → Octets → Except Fault (Command × Octets)
  | 0, _, _, _, _, _ => .error .unterminated
  | fuel + 1, line, settings, words, redirections, cs => do
    let here := if words.isEmpty then withAlias context cs else skipToArgument context cs
    match readOperator here with
    | some _ =>
      let (more, rest) ← readRedirections context fuel [] here
      let line := line.getD (lineAt context here)
      readSimple context fuel (some line) settings words (redirections ++ more) rest
    | none =>
      if here.isEmpty ∨ here.head?.any isMeta then
        let line := line.getD (lineAt context here)
        match here, settings, words, redirections with
        | here, [], [], [] => .error (.unexpected here none)
        | '(' :: rest, [], [[.plain name false]], [] =>
          match skipBlanks rest with
          | ')' :: rest =>
            if !isName name ∨ specialBuiltins.contains (String.ofList name) then
              .error .badFunctionName
            let start := lineAt context rest
            let (body, rest) ← readCommand context fuel (skipLines rest)
            return (.define start (String.ofList name) body, rest)
          | rest => .error (.unexpected (withPlainWord rest) (some ")"))
        | '(' :: rest, _, _, _ => .error (.unexpected ('(' :: rest) none)
        | here, _, _, _ => return (.simple line settings.reverse words.reverse redirections, here)
      else
        match words, settingName? here with
        | [], some (name, text) =>
          let (value, rest) ← readWord context fuel [] text
          let line := line.getD (lineAt context rest)
          readSimple context fuel (some line) ((name, value) :: settings) words redirections rest
        | words, _ =>
          let (word, rest) ← readWord context fuel [] here
          let line := line.getD (lineAt context rest)
          readSimple context fuel (some line) settings (word :: words) redirections rest

/-- Reads a list of at least one command. -/
def readBlock (context : Context) : Nat → Octets → Except Fault (Command × Octets)
  | 0, _ => .error .unterminated
  | fuel + 1, cs => do
    match ← readList context fuel false cs with
    | (.nothing, c :: rest) => .error (.unexpected (c :: rest) none)
    | result => return result

/-- Reads what follows the test of a condition. -/
def readChoice (context : Context) : Nat → Octets → Except Fault (Command × Octets)
  | 0, _ => .error .unterminated
  | fuel + 1, cs => do
    let (test, rest) ← readBlock context fuel cs
    let rest ← expectWord "then" rest
    let (yes, rest) ← readBlock context fuel rest
    match reserved? rest with
    | some ("elif", rest) =>
      let (no, rest) ← readChoice context fuel rest
      return (.choice test yes no, rest)
    | some ("else", rest) =>
      let (no, rest) ← readBlock context fuel rest
      let rest ← expectWord "fi" rest
      return (.choice test yes no, rest)
    | _ =>
      let rest ← expectWord "fi" rest
      return (.choice test yes .nothing, rest)

/-- Reads a loop body between its two reserved words. -/
def readBody (context : Context) : Nat → Octets → Except Fault (Command × Octets)
  | 0, _ => .error .unterminated
  | fuel + 1, cs => do
    let rest ← expectWord "do" (skipLines cs)
    let (body, rest) ← readBlock context fuel rest
    let rest ← expectWord "done" rest
    return (body, rest)

/-- Reads a loop over words, after its first reserved word. -/
def readForEach (context : Context) : Nat → Octets → Except Fault (Command × Octets)
  | 0, _ => .error .unterminated
  | fuel + 1, cs => do
    let line := lineAt context cs
    let cs := skipBlanks cs
    let name := cs.takeWhile isNameChar
    if !isName name then .error .badLoopVariable
    let rest := skipLines (cs.drop name.length)
    let afterMark (rest : Octets) := match rest with
      | ';' :: rest => rest
      | rest => rest
    match reserved? rest with
    | some ("in", rest) =>
      let (words, rest) ← readWords context fuel [] rest
      match skipBlanks rest with
      | ';' :: ';' :: rest => .error (.unexpected (';' :: ';' :: rest) none)
      | ';' :: rest | '\n' :: rest =>
        let (body, rest) ← readBody context fuel rest
        return (.forEach line (String.ofList name) (some words) body, rest)
      | rest => .error (.unexpected rest none)
    | _ =>
      let (body, rest) ← readBody context fuel (afterMark rest)
      return (.forEach line (String.ofList name) none body, rest)

/-- Reads the patterns of a branch up to the bracket that closes them. -/
def readPatterns (context : Context) : Nat → List (List Piece) → Octets →
    Except Fault (List (List Piece) × Octets)
  | 0, _, _ => .error .unterminated
  | fuel + 1, acc, cs => do
    let here := skipBlanks cs
    let (word, rest) ← readWord context fuel [] here
    if word.isEmpty then .error (.unexpected here (some ")"))
    match skipBlanks rest with
    | '|' :: rest => readPatterns context fuel (word :: acc) rest
    | ')' :: rest => return ((word :: acc).reverse, rest)
    | rest => .error (.unexpected (withPlainWord rest) (some ")"))

/-- Reads branches up to the reserved word that ends them. -/
def readBranches (context : Context) : Nat → List (List (List Piece) × Command) → Octets →
    Except Fault (List (List (List Piece) × Command) × Octets)
  | 0, _, _ => .error .unterminated
  | fuel + 1, acc, cs => do
    let cs := skipLines cs
    match reserved? cs with
    | some ("esac", rest) => return (acc.reverse, rest)
    | _ =>
      let (patterns, rest) ← readPatterns context fuel [] (match cs with
        | '(' :: rest => rest
        | cs => cs)
      let (body, rest) ← readList context fuel false rest
      match rest with
      | ';' :: ';' :: rest => readBranches context fuel ((patterns, body) :: acc) rest
      | rest =>
        match reserved? rest with
        | some ("esac", rest) => return (((patterns, body) :: acc).reverse, rest)
        | _ => .error (.unexpected rest (some ";;"))

/-- Reads a command without the operators around it. -/
def readCommand (context : Context) : Nat → Octets → Except Fault (Command × Octets)
  | 0, _ => .error .unterminated
  | fuel + 1, cs =>
    let cs := withAlias context cs
    let line := lineAt context cs
    let redirectable (r : Except Fault (Command × Octets)) : Except Fault (Command × Octets) := do
      let (command, rest) ← r
      let (redirections, rest) ← readRedirections context fuel [] rest
      return (if redirections.isEmpty then command else command.withRedirections line redirections, rest)
    match cs, reserved? cs with
    | '(' :: rest, _ => redirectable do
      let (body, rest) ← readBlock context fuel rest
      match rest with
      | ')' :: rest => return (.subshell line body, rest)
      | rest => .error (.unexpected rest (some ")"))
    | _, some ("\x7b", rest) => redirectable do
      let (body, rest) ← readBlock context fuel rest
      return (body, ← expectWord "\x7d" rest)
    | _, some ("if", rest) => redirectable (readChoice context fuel rest)
    | _, some ("while", rest) => redirectable do
      let (test, rest) ← readBlock context fuel rest
      let (body, rest) ← readBody context fuel rest
      return (.loop test body true, rest)
    | _, some ("until", rest) => redirectable do
      let (test, rest) ← readBlock context fuel rest
      let (body, rest) ← readBody context fuel rest
      return (.loop test body false, rest)
    | _, some ("for", rest) => redirectable (readForEach context fuel rest)
    | _, some ("case", rest) => redirectable do
      let (subject, rest) ← readWord context fuel [] (skipBlanks rest)
      if subject.isEmpty then .error (.unexpected rest (some "word"))
      let rest ← expectWord "in" (skipLines rest)
      let (branches, rest) ← readBranches context fuel [] rest
      return (.cases line subject branches, rest)
    | cs, some (word, _) =>
      if word = "in" then readSimple context fuel none [] [] [] cs else .error (.unexpected cs none)
    | cs, none => readSimple context fuel none [] [] [] cs

/-- Reads commands joined by pipes, perhaps inverted. -/
def readPipeline (context : Context) : Nat → Octets → Except Fault (Command × Octets)
  | 0, _ => .error .unterminated
  | fuel + 1, cs => do
    let cs := withAlias context cs
    match reserved? cs with
    | some ("!", rest) =>
      let (body, rest) ← readPipes context fuel rest
      return (.inverted body, rest)
    | _ => readPipes context fuel cs

/-- Reads commands joined by pipes. -/
def readPipes (context : Context) : Nat → Octets → Except Fault (Command × Octets)
  | 0, _ => .error .unterminated
  | fuel + 1, cs => do
    let (first, rest) ← readCommand context fuel (skipBlanks cs)
    match skipBlanks rest with
    | '|' :: '|' :: rest => return (first, '|' :: '|' :: rest)
    | '|' :: rest =>
      let (second, rest) ← readPipes context fuel (skipLines rest)
      return (.piped first second, rest)
    | rest => return (first, rest)

/-- Reads pipelines joined by conditions, after a first part. -/
def readConditions (context : Context) : Nat → Command → Octets → Except Fault (Command × Octets)
  | 0, _, _ => .error .unterminated
  | fuel + 1, first, cs =>
    match cs with
    | '&' :: '&' :: rest => do
      let (second, rest) ← readPipeline context fuel (skipLines rest)
      readConditions context fuel (.andThen first second) rest
    | '|' :: '|' :: rest => do
      let (second, rest) ← readPipeline context fuel (skipLines rest)
      readConditions context fuel (.orElse first second) rest
    | cs => .ok (first, cs)

/-- Reads commands one after the other, up to a token that ends a list, or up to the end of the
    line. -/
def readList (context : Context) : Nat → Bool → Octets → Except Fault (Command × Octets)
  | 0, _, _ => .error .unterminated
  | fuel + 1, isLine, cs => do
    let cs := withAlias context (if isLine then skipBlanks cs else skipLines cs)
    let cs := if isLine then skipBlanks cs else skipLines cs
    if listEnds cs ∨ cs.head? = some '\n' then return (.nothing, cs)
    let (first, rest) ← readPipeline context fuel cs
    let (command, rest) ← readConditions context fuel first rest
    match rest with
    | ';' :: ';' :: _ => return (command, rest)
    | ';' :: rest =>
      let (more, rest) ← readList context fuel isLine rest
      return (.sequence command more, rest)
    | '&' :: rest =>
      let (more, rest) ← readList context fuel isLine rest
      return (.sequence (.background command) more, rest)
    | '\n' :: rest =>
      if isLine then return (command, '\n' :: rest)
      let (more, rest) ← readList context fuel isLine rest
      return (.sequence command more, rest)
    | rest => return (command, rest)

end

/-- The command in the first lines of a script, with the text after it, or the line of a fault with its
    report. -/
def readLine (context : Context) (cs : Octets) : Except (Nat × String) (Command × Octets) :=
  let located (rest : Octets) (f : Fault) := (lineAt context rest, f.message)
  match readList context (16 * cs.length + 32) true (skipLines cs) with
  | .ok (command, []) => .ok (command, [])
  | .ok (command, '\n' :: rest) => .ok (command, rest)
  | .ok (_, rest) => .error (located rest (.unexpected rest none))
  | .error (.unexpected rest expected) => .error (located rest (.unexpected rest expected))
  | .error f => .error (located [] f)

end Foreman.Shell
