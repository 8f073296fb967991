import Foreman.Shell.Builtin
import Foreman.Shell.Regex
import Foreman.Shell.Utility.Listing

/-!
# `Foreman.Shell.Find.Expression` — expressions that select files

## Contents
- **`FileTest`**, **`FileAction`**, **`Rule`**: what is asked of a file and done with it.
- **`Token`**: the words of an expression; `readTokens`.
- `readRule`: an expression from its tokens, with its operators.
-/

namespace Foreman.Shell.Find

/-! ## Rules -/

/-- How a number is compared. -/
inductive Comparison where
  | less
  | equal
  | more
  deriving DecidableEq

/-- A number that something is compared with. -/
structure Bound where
  kind : Comparison
  number : Nat

/-- Whether a number is within a bound. -/
def Bound.admits (b : Bound) (n : Nat) : Bool :=
  match b.kind with
  | .less => n < b.number
  | .equal => n = b.number
  | .more => b.number < n

/-- Which part of a path is compared. -/
inductive PathPart where
  | name
  | path
  /-- The text of a link. -/
  | target
  deriving DecidableEq

/-- How rights are compared. -/
inductive RightsTest where
  | exactly (mode : Nat)
  | all (mode : Nat)
  | some (mode : Nat)

/-- What is asked of a file. -/
inductive FileTest where
  | constant (value : Bool)
  | fits (part : PathPart) (foldsCase : Bool) (p : List Wildcard)
  | matches (foldsCase : Bool) (r : Regex)
  | kind (letters : List Char) (followsOther : Bool)
  | size (unit : Nat) (b : Bound)
  | empty
  | rights (t : RightsTest)
  | newer (time : Nat)
  /-- How old it is, in units of nanoseconds; with whole units counted, or parts of them. -/
  | age (unit : Nat) (isWhole : Bool) (b : Bound)
  | links (b : Bound)
  | sameFile (path : String)
  | executable

/-- What is done with a file. -/
inductive FileAction where
  | print (ending : Char)
  | printFormat (format : Octets)
  /-- Runs a command. It may run in the folder of the file, and may ask before. -/
  | run (command : List Octets) (inFolder asks : Bool)
  /-- Runs a command for many files at once. -/
  | runMany (number : Nat) (command : List Octets)
  | delete
  | prune
  | quit

/-- An expression. -/
inductive Rule where
  | test (t : FileTest)
  | action (a : FileAction)
  | not (r : Rule)
  | and (r s : Rule)
  | or (r s : Rule)
  /-- Both of them; the second one counts. -/
  | both (r s : Rule)

/-- Whether an expression does something that shows. -/
def Rule.acts : Rule → Bool
  | test _ => false
  | action .prune | action .quit => false
  | action _ => true
  | not r => r.acts
  | and r s | or r s | both r s => r.acts || s.acts

/-- A search. -/
structure Plan where
  rule : Rule
  least : Nat := 0
  most : Option Nat := none
  /-- Whether what is in a folder comes before it. -/
  isDeepFirst : Bool := false
  followsAll : Bool := false
  followsGiven : Bool := false

/-! ## Tokens -/

/-- A word of an expression, with the operand that it needs. -/
inductive Token where
  | opening
  | closing
  | negation
  | and (word : Octets)
  | or (word : Octets)
  | comma
  | rule (r : Rule)

/-- What is known while tokens are read. -/
structure TokenReading where
  plan : Plan
  extended : Bool := false
  dialect : Octets := "findutils-default".toList
  /-- The last word that was read. -/
  last : Octets := []
  groups : Nat := 0

/-- A fault in quotes. -/
def inQuotes (front : String) (word : Octets) (behind : String) : Octets :=
  front.toList ++ '\x60' :: word ++ ('\'' :: behind.toList)

/-- Reads a number with a sign for the comparison. -/
def readBound? (text : Octets) : Option (Bound × Octets) :=
  let (kind, rest) : Comparison × Octets := match text with
    | '+' :: rest => (.more, rest)
    | '-' :: rest => (.less, rest)
    | rest => (.equal, rest)
  let digits := rest.takeWhile Char.isDigit
  if digits.isEmpty then none else some (⟨kind, digitsValue digits⟩, rest.drop digits.length)

/-- Reads a bound for a predicate. -/
def readBound (predicate text : Octets) : Except Octets Bound :=
  match readBound? text with
  | some (b, []) => .ok b
  | _ => .error (inQuotes "invalid argument " text " to " ++ inQuotes "" predicate "")

/-- How many bytes a letter stands for behind a size. -/
def sizeUnit? (rest : Octets) : Option Nat :=
  match rest with
  | [] | ['b'] => some 512
  | ['c'] => some 1
  | ['w'] => some 2
  | ['k'] => some 1024
  | ['M'] => some (1024 ^ 2)
  | ['G'] => some (1024 ^ 3)
  | _ => none

/-- Reads rights. -/
def readRights (text : Octets) : Except Octets RightsTest :=
  let (wrap, rest) : (Nat → RightsTest) × Octets := match text with
    | '-' :: rest => (.all, rest)
    | '/' :: rest => (.some, rest)
    | rest => (.exactly, rest)
  match readMode 0 false 0 rest with
  | some mode => .ok (wrap mode)
  | none => .error ("invalid mode ".toList ++ quotedText text)

/-- Reads letters of kinds. -/
def readKinds (predicate text : Octets) : Except Octets (List Char) :=
  if text.isEmpty then .error ("Arguments to ".toList ++ predicate ++ " should contain at least one letter".toList)
  else
    go text
where
  /-- Reads a letter and what follows. -/
  go : Octets → Except Octets (List Char)
    | [] =>
      .error ("Last file type in list argument to ".toList ++ predicate ++
        " is missing, i.e., list is ending on: ','".toList)
    | [c] => letter c []
    | c :: ',' :: rest => do letter c (← go rest)
    | c :: _ => do
      let _ ← letter c []
      .error ("Must separate multiple arguments to ".toList ++ predicate ++ " using: ','".toList)
  /-- A letter in front of others. -/
  letter (c : Char) (more : List Char) : Except Octets (List Char) :=
    if "bcdpflsD".toList.contains c then .ok (c :: more)
    else .error ("Unknown argument to ".toList ++ predicate ++ ": ".toList ++ [c])

/-- An expression in which a plus sign and a question mark need no backslash, with one. -/
def withBackslashes : Octets → Octets
  | '\\' :: '+' :: rest => '+' :: withBackslashes rest
  | '\\' :: '?' :: rest => '?' :: withBackslashes rest
  | '\\' :: c :: rest => '\\' :: c :: withBackslashes rest
  | '+' :: rest => '\\' :: '+' :: withBackslashes rest
  | '?' :: rest => '\\' :: '?' :: withBackslashes rest
  | c :: rest => c :: withBackslashes rest
  | [] => []

/-- The dialects of expressions, and whether they need no backslashes. -/
def regexTypes : List (String × Bool) :=
  [("findutils-default", false), ("ed", false), ("emacs", false), ("gnu-awk", true), ("grep", false),
    ("posix-awk", true), ("awk", true), ("posix-basic", false), ("posix-egrep", true), ("egrep", true),
    ("posix-extended", true), ("posix-minimal-basic", false), ("sed", false)]

/-- Reads an expression that has to match a whole path. -/
def readWholeRegex (p : TokenReading) (text : Octets) : Except Octets Regex :=
  let isPlain := p.dialect = "findutils-default".toList || p.dialect = "emacs".toList
  match readRegex { isExtended := p.extended, isLenient := true } (if isPlain then withBackslashes text else text) with
  | .ok (r, _) => .ok (.seq (.edge .textStart) (.seq r (.edge .textFinish)))
  | .error fault =>
    .error ("failed to compile regular expression ".toList ++ quotedText text ++ (": " ++ fault.text).toList)

/-- The words of a command up to its end, and the words behind. It is run for many files if it ends with
    a plus sign behind empty braces. -/
def commandWords (canGather : Bool) : List Octets → List Octets → Option (List Octets × Bool × List Octets)
  | _, [] => none
  | acc, word :: rest =>
    if word = [';'] then some (acc.reverse, false, rest)
    else if canGather ∧ word = ['+'] ∧ acc.head? = some ['{', '}'] then some (acc.reverse.dropLast, true, rest)
    else commandWords canGather (word :: acc) rest

/-- Whether a word belongs to an expression and is no path. -/
def isExpressionWord (isLeading : Bool) (word : Octets) : Bool :=
  match word with
  | ['('] | ['!'] => true
  | [')'] | [','] => !isLeading
  | '-' :: _ :: _ => true
  | _ => false

/-- Whether a name is that of the only owner of files. -/
def ownerTest (nobody : String) (fault : String) (name : Octets) : Except Octets FileTest :=
  if name = "root".toList ∨ name = ['0'] then .ok (.constant true)
  else if name = nobody.toList ∨ name.all Char.isDigit then .ok (.constant false)
  else .error (quotedText name ++ fault.toList)

/-- Whether a path leads to the same file. -/
def sameFileTest (s : Scene) (path : Octets) : Except Octets FileTest :=
  match s.find path with
  | .ok ⟨here, some _⟩ => .ok (.sameFile here)
  | _ => .error (quotedText path ++ ": No such file or directory".toList)

/-- Reads a predicate with its operand. The result has the words behind it. -/
def readPredicate (s : Scene) (p : TokenReading) (word : Octets) (rest : List Octets) :
    Except Octets (TokenReading × Option Rule × List Octets) := do
  let operand : Except Octets (Octets × List Octets) :=
    match rest with
    | text :: rest => .ok (text, rest)
    | [] => .error (inQuotes "missing argument to " word "")
  let simple (t : FileTest) : Except Octets (TokenReading × Option Rule × List Octets) :=
    .ok (p, some (.test t), rest)
  let act (a : FileAction) : Except Octets (TokenReading × Option Rule × List Octets) :=
    .ok (p, some (.action a), rest)
  let withOperand (f : Octets → Except Octets FileTest) :
      Except Octets (TokenReading × Option Rule × List Octets) := do
    let (text, rest) ← operand
    return (p, some (.test (← f text)), rest)
  let fit (part : PathPart) (foldsCase : Bool) := withOperand fun text =>
    let text := if foldsCase then text.map Char.toLower else text
    .ok (.fits part foldsCase (pattern (glyphs false text)))
  let timeOf (text : Octets) : Except Octets Nat :=
    match s.look? text with
    | some e => .ok e.changed
    | none => .error (quotedText text ++ ": No such file or directory".toList)
  let age (unit : Nat) (isWhole : Bool) := withOperand fun text => do
    return .age unit isWhole (← readBound word text)
  let option (f : Plan → Nat → Plan) : Except Octets (TokenReading × Option Rule × List Octets) := do
    let (text, rest) ← operand
    match natNumber? text with
    | some n => return ({ p with plan := f p.plan n }, some (.test (.constant true)), rest)
    | none =>
      throw ("Expected a positive decimal integer argument to ".toList ++ word ++ ", but got ".toList ++
        quotedText text)
  let run (inFolder asks canGather : Bool) : Except Octets (TokenReading × Option Rule × List Octets) :=
    match commandWords canGather [] rest with
    | none => .error (inQuotes "missing argument to " word "")
    | some ([], false, _) => .error (inQuotes "invalid argument " [';'] " to " ++ inQuotes "" word "")
    | some (command, true, rest) =>
      .ok ({ p with groups := p.groups + 1 }, some (.action (.runMany p.groups command)), rest)
    | some (command, false, rest) => .ok (p, some (.action (.run command inFolder asks)), rest)
  match String.ofList word with
  | "-true" | "-noleaf" | "-mount" | "-xdev" | "-daystart" | "-warn" | "-nowarn"
  | "-ignore_readdir_race" | "-noignore_readdir_race" | "-readable" | "-writable" => simple (.constant true)
  | "-false" | "-nouser" | "-nogroup" => simple (.constant false)
  | "-depth" | "-d" =>
    return ({ p with plan := { p.plan with isDeepFirst := true } }, some (.test (.constant true)), rest)
  | "-follow" =>
    return ({ p with plan := { p.plan with followsAll := true } }, some (.test (.constant true)), rest)
  | "-maxdepth" => option fun plan n => { plan with most := some n }
  | "-mindepth" => option fun plan n => { plan with least := n }
  | "-regextype" =>
    let (text, rest) ← operand
    match regexTypes.lookup (String.ofList text) with
    | some extended => return ({ p with extended, dialect := text }, some (.test (.constant true)), rest)
    | none =>
      let names := ", ".intercalate (regexTypes.map fun t => "'" ++ t.1 ++ "'")
      throw ("Unknown regular expression type ".toList ++ quotedText text ++
        ("; valid types are " ++ names ++ ".").toList)
  | "-name" => fit .name false
  | "-iname" => fit .name true
  | "-path" | "-wholename" => fit .path false
  | "-ipath" | "-iwholename" => fit .path true
  | "-lname" => fit .target false
  | "-ilname" => fit .target true
  | "-regex" => withOperand fun text => do return .matches false (← readWholeRegex p text)
  | "-iregex" => withOperand fun text => do return .matches true (← readWholeRegex p text)
  | "-type" => withOperand fun text => do return .kind (← readKinds word text) false
  | "-xtype" => withOperand fun text => do return .kind (← readKinds word text) true
  | "-empty" => simple .empty
  | "-executable" => simple .executable
  | "-size" => withOperand fun text =>
    match readBound? text with
    | some (b, unit) =>
      match sizeUnit? unit with
      | some n => .ok (.size n b)
      | none => .error (inQuotes "invalid -size type " unit "")
    | none => .error (inQuotes "invalid -size type " text "")
  | "-perm" => withOperand fun text => do return .rights (← readRights text)
  | "-newer" | "-anewer" | "-cnewer" | "-newermm" => withOperand fun text => do return .newer (← timeOf text)
  | "-newermt" => withOperand fun text =>
    match Utility.readDate? text s.files.now with
    | some time => .ok (.newer time)
    | none =>
      .error ("I cannot figure out how to interpret ".toList ++ quotedText text ++
        " as a date or time".toList)
  | "-mtime" | "-atime" | "-ctime" => age (86400 * 1000000000) true
  | "-mmin" | "-amin" | "-cmin" => age (60 * 1000000000) false
  | "-links" => withOperand fun text => do return .links (← readBound word text)
  | "-inum" => withOperand fun text => do
    let _ ← readBound word text
    return .constant false
  | "-uid" | "-gid" => withOperand fun text => do return .constant ((← readBound word text).admits 0)
  | "-user" => withOperand (ownerTest "nobody" " is not the name of a known user")
  | "-group" => withOperand (ownerTest "nogroup" " is not the name of an existing group")
  | "-samefile" => withOperand (sameFileTest s)
  | "-print" => act (.print '\n')
  | "-print0" => act (.print '\x00')
  | "-printf" => do
    let (text, rest) ← operand
    return (p, some (.action (.printFormat text)), rest)
  | "-exec" => run false false true
  | "-execdir" => run true false true
  | "-ok" => run false true false
  | "-okdir" => run true true false
  | "-delete" =>
    return ({ p with plan := { p.plan with isDeepFirst := true } }, some (.action .delete), rest)
  | "-prune" => act .prune
  | "-quit" => act .quit
  | _ => throw (inQuotes "unknown predicate " word "")

/-- Reads the tokens of an expression. -/
def readTokens (s : Scene) : Nat → TokenReading → List Token → List Octets →
    Except Octets (TokenReading × List Token)
  | 0, p, acc, _ | _ + 1, p, acc, [] => .ok (p, acc.reverse)
  | fuel + 1, p, acc, word :: rest =>
    let go (t : Token) := readTokens s fuel { p with last := word } (t :: acc) rest
    match String.ofList word with
    | "(" => go .opening
    | ")" => go .closing
    | "!" | "-not" => go .negation
    | "-a" | "-and" => go (.and word)
    | "-o" | "-or" => go (.or word)
    | "," => go .comma
    | _ =>
      if isExpressionWord false word then do
        let (p, rule, rest) ← readPredicate s { p with last := word } word rest
        readTokens s fuel p ((rule.map Token.rule).toList ++ acc) rest
      else
        let hint : Octets :=
          if (s.lookAt? word).isSome then
            "\nfind: ".toList ++ inQuotes "possible unquoted pattern after predicate " p.last "?"
          else []
        .error (inQuotes "paths must precede expression: " word "" ++ hint)

/-! ## Operators -/

/-- What is said of an operator that lacks what stands before it. -/
def nothingBefore (word : Octets) : Octets :=
  "invalid expression; you have used a binary operator '".toList ++ word ++ "' with nothing before it.".toList

mutual

/-- Reads expressions between commas. -/
def readList : Nat → List Token → Except Octets (Rule × List Token)
  | 0, _ => .error []
  | fuel + 1, ts => do
    let (first, ts) ← readEither fuel ts
    match ts with
    | .comma :: rest => do
      if rest.isEmpty then throw "expected an expression after ','".toList
      let (second, ts) ← readList fuel rest
      return (.both first second, ts)
    | ts => return (first, ts)

/-- Reads expressions of which one is enough. -/
def readEither : Nat → List Token → Except Octets (Rule × List Token)
  | 0, _ => .error []
  | fuel + 1, ts => do
    let (first, ts) ← readAll fuel ts
    match ts with
    | .or word :: rest => do
      if rest.isEmpty then throw ("expected an expression after '".toList ++ word ++ ['\''])
      let (second, ts) ← readEither fuel rest
      return (.or first second, ts)
    | ts => return (first, ts)

/-- Reads expressions that all have to hold. -/
def readAll : Nat → List Token → Except Octets (Rule × List Token)
  | 0, _ => .error []
  | fuel + 1, ts => do
    let (first, ts) ← readOne fuel ts
    match ts with
    | .and word :: rest => do
      if rest.isEmpty then throw ("expected an expression after '".toList ++ word ++ ['\''])
      let (second, ts) ← readAll fuel rest
      return (.and first second, ts)
    | .rule _ :: _ | .opening :: _ | .negation :: _ => do
      let (second, ts) ← readAll fuel ts
      return (.and first second, ts)
    | ts => return (first, ts)

/-- Reads a single expression. -/
def readOne : Nat → List Token → Except Octets (Rule × List Token)
  | 0, _ => .error []
  | fuel + 1, ts =>
    match ts with
    | [] => .error "expected an expression".toList
    | .rule r :: rest => .ok (r, rest)
    | .negation :: [] => .error "expected an expression after '!'".toList
    | .negation :: rest => do
      let (r, ts) ← readOne fuel rest
      return (.not r, ts)
    | .opening :: [] =>
      .error "invalid expression; expected to find a ')' but didn't see one. Perhaps you need an extra predicate after '('".toList
    | .opening :: .closing :: _ => .error "invalid expression; empty parentheses are not allowed.".toList
    | .opening :: rest => do
      let (r, ts) ← readList fuel rest
      match ts with
      | .closing :: rest => return (r, rest)
      | _ =>
        throw "invalid expression; I was expecting to find a ')' somewhere but did not see one.".toList
    | .closing :: _ => .error "invalid expression; you have too many ')'".toList
    | .and word :: _ | .or word :: _ => .error (nothingBefore word)
    | .comma :: _ => .error (nothingBefore [','])

end

/-- Reads an expression. An empty one holds for every file. -/
def readRule (ts : List Token) : Except Octets Rule := do
  if ts.isEmpty then return .test (.constant true)
  else
    let (r, rest) ← readList (4 * ts.length + 8) ts
    if rest.isEmpty then return r else throw "invalid expression; you have too many ')'".toList

/-- Reads an expression with the options in it. Files that are found are shown if nothing else is done
    with them. -/
def readPlan (s : Scene) (start : Plan) (words : List Octets) : Except Octets (Plan × Nat) := do
  let (p, tokens) ← readTokens s (words.length + 1) { plan := start } [] words
  let rule ← readRule tokens
  let rule := if rule.acts then rule else .and rule (.action (.print '\n'))
  return ({ p.plan with rule }, p.groups)

end Foreman.Shell.Find
