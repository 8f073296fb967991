import Foreman.Text.Digits
import Foreman.Text.Octets

/-!
# `Foreman.Shell.Arithmetic` — the values of arithmetic expansions

An expression is made of integers, variables, brackets, signs, the usual operators, comparisons,
conditions and assignments. Numbers have 64 bits and a sign, and wrap. Division truncates.

An expression has its value worked out as far as it can be read: `1/0 +` divides by zero before the
missing operand is missed. So reading never fails. What is missing is a place in the expression, and
has a fault in place of a value.

## Contents
- **`Lexeme`**, `lexemes`: the numbers, names and marks of a text.
- **`Operator`**, with `operators` by rising precedence; **`Expression`**.
- **`ArithmeticFault`**: why an expression has no value.
- `number?`, `decimal?`: the numbers that texts as a whole write.
- `readExpression`: an expression at the front of some lexemes.
- `Expression.value`, `arithmetic`: the value, and the variables that it sets.
-/

namespace Foreman.Shell

/-! ## Lexemes -/

/-- The smallest part of an expression that means something. -/
inductive Lexeme where
  | number (n : Int)
  | name (name : String)
  | mark (text : String)
  /-- A character that no expression has. -/
  | stray
  deriving DecidableEq

/-- The marks, each one before those that it starts with. -/
def arithmeticMarks : List String :=
  ["<<=", ">>=", "==", "!=", "<=", ">=", "<<", ">>", "&&", "||", "+=", "-=", "*=", "/=", "%=", "&=",
    "|=", "^=", "=", "<", ">", "&", "|", "^", "+", "-", "*", "/", "%", "!", "~", "(", ")", "?", ":"]

/-- The text after white space. -/
def dropSpaces (cs : Octets) : Octets := cs.dropWhile Char.isWhitespace

/-- The digits of a base at the front of a text, as a number, and the text after them. -/
def digitsAt (base : Nat) (cs : Octets) : Nat × Octets :=
  let ds := cs.takeWhile fun c => (digit? base c).isSome
  ((numeral? base ds).getD 0, cs.drop ds.length)

/-- The number at the front of a text that starts with a digit, and the text after it: with a leading
    zero in base eight, with a leading zero and an `x` in base sixteen. -/
def numberAt (cs : Octets) : Nat × Octets :=
  match cs with
  | '0' :: x :: c :: rest =>
    if (x = 'x' ∨ x = 'X') ∧ (digit? 16 c).isSome then digitsAt 16 (c :: rest)
    else digitsAt 8 (x :: c :: rest)
  | '0' :: rest => digitsAt 8 rest
  | cs => digitsAt 10 cs

/-- The largest number. -/
def largest : Int := 2 ^ 63 - 1

/-- The lexemes of a text of at most a given length, up to the first character that no expression has.
    A number that is too large counts as the largest one. -/
def lexemes : Nat → Octets → List Lexeme
  | 0, _ => []
  | fuel + 1, cs =>
    match cs with
    | [] => []
    | c :: rest =>
      if c = ' ' ∨ c = '\t' ∨ c = '\n' then lexemes fuel rest
      else if c.isDigit then
        let (n, rest) := numberAt cs
        .number (min n largest) :: lexemes fuel rest
      else if c.isAlpha ∨ c = '_' then
        let word := cs.takeWhile fun c => c.isAlphanum ∨ c = '_'
        .name (String.ofList word) :: lexemes fuel (cs.drop word.length)
      else
        match arithmeticMarks.find? fun m => m.toList.isPrefixOf cs with
        | some m => .mark m :: lexemes fuel (cs.drop m.length)
        | none => [.stray]

/-! ## Expressions -/

/-- A binary operator that needs the values of both sides. -/
inductive Operator where
  | bitOr
  | bitXor
  | bitAnd
  | equal
  | unequal
  | atMost
  | atLeast
  | less
  | greater
  | shiftLeft
  | shiftRight
  | plus
  | minus
  | times
  | divide
  | remainder
  deriving DecidableEq

/-- The operators of each precedence, the lowest first. -/
def operators : List (List (String × Operator)) :=
  [[("|", .bitOr)], [("^", .bitXor)], [("&", .bitAnd)],
    [("==", .equal), ("!=", .unequal)],
    [("<=", .atMost), (">=", .atLeast), ("<", .less), (">", .greater)],
    [("<<", .shiftLeft), (">>", .shiftRight)],
    [("+", .plus), ("-", .minus)],
    [("*", .times), ("/", .divide), ("%", .remainder)]]

/-- The assignments, with the operator that they apply first. -/
def assignments : List (String × Option Operator) :=
  [("=", none), ("+=", some .plus), ("-=", some .minus), ("*=", some .times), ("/=", some .divide),
    ("%=", some .remainder), ("<<=", some .shiftLeft), (">>=", some .shiftRight),
    ("&=", some .bitAnd), ("|=", some .bitOr), ("^=", some .bitXor)]

/-- A sign in front of an operand. -/
inductive Sign where
  | minus
  | plus
  | isZero
  | flip
  deriving DecidableEq

/-- The signs. -/
def signs : List (String × Sign) := [("-", .minus), ("+", .plus), ("!", .isZero), ("~", .flip)]

/-- Why an expression has no value. -/
inductive ArithmeticFault where
  | noPrimary
  | noEnd
  | noBracket
  | noColon
  | divisionByZero
  /-- The value of a variable is no number. -/
  | noNumber (text : Octets)
  deriving DecidableEq

/-- An arithmetic expression. -/
inductive Expression where
  | number (n : Int)
  | variable (name : String)
  | signed (sign : Sign) (a : Expression)
  | binary (op : Operator) (a b : Expression)
  | both (a b : Expression)
  | either (a b : Expression)
  | choice (test a b : Expression)
  | assign (name : String) (op : Option Operator) (a : Expression)
  /-- A place where no operand is. -/
  | missing
  /-- An expression with something after it that cannot be there. -/
  | spoilt (a : Expression) (fault : ArithmeticFault)

/-! ## Reading -/

/-- The thing that the first lexeme marks, and the lexemes after it. -/
def markedAt? {α : Type} (table : List (String × α)) (ls : List Lexeme) : Option (α × List Lexeme) :=
  match ls with
  | .mark m :: rest => (table.lookup m).map fun a => (a, rest)
  | _ => none

mutual

/-- Reads an expression, with assignments. -/
def readExpression : Nat → List Lexeme → Expression × List Lexeme
  | 0, ls => (.missing, ls)
  | fuel + 1, ls =>
    match ls with
    | .name name :: rest =>
      match markedAt? assignments rest with
      | some (op, rest) =>
        let (a, rest) := readExpression fuel rest
        (.assign name op a, rest)
      | none => readCondition fuel ls
    | _ => readCondition fuel ls

/-- Reads a choice. The last one of its sides has no assignments. -/
def readCondition : Nat → List Lexeme → Expression × List Lexeme
  | 0, ls => (.missing, ls)
  | fuel + 1, ls =>
    let (test, rest) := readEither fuel ls
    match rest with
    | .mark "?" :: rest =>
      let (a, rest) := readExpression fuel rest
      match rest with
      | .mark ":" :: rest =>
        let (b, rest) := readCondition fuel rest
        (.choice test a b, rest)
      | _ => (.choice test (.spoilt a .noColon) .missing, rest)
    | _ => (test, rest)

/-- Reads disjunctions. -/
def readEither : Nat → List Lexeme → Expression × List Lexeme
  | 0, ls => (.missing, ls)
  | fuel + 1, ls =>
    let (a, rest) := readBoth fuel ls
    match rest with
    | .mark "||" :: rest =>
      let (b, rest) := readEither fuel rest
      (.either a b, rest)
    | _ => (a, rest)

/-- Reads conjunctions. -/
def readBoth : Nat → List Lexeme → Expression × List Lexeme
  | 0, ls => (.missing, ls)
  | fuel + 1, ls =>
    let (a, rest) := readBinary fuel operators ls
    match rest with
    | .mark "&&" :: rest =>
      let (b, rest) := readBoth fuel rest
      (.both a b, rest)
    | _ => (a, rest)

/-- Reads operands joined by operators of the given precedences. -/
def readBinary : Nat → List (List (String × Operator)) → List Lexeme → Expression × List Lexeme
  | 0, _, ls => (.missing, ls)
  | fuel + 1, [], ls => readOperand fuel ls
  | fuel + 1, ops :: higher, ls =>
    let (a, rest) := readBinary fuel higher ls
    readMore fuel ops higher a rest

/-- Goes on with operators of the first given precedence after an operand. -/
def readMore : Nat → List (String × Operator) → List (List (String × Operator)) → Expression →
    List Lexeme → Expression × List Lexeme
  | 0, _, _, a, ls => (a, ls)
  | fuel + 1, ops, higher, a, ls =>
    match markedAt? ops ls with
    | none => (a, ls)
    | some (op, rest) =>
      let (b, rest) := readBinary fuel higher rest
      readMore fuel ops higher (.binary op a b) rest

/-- Reads a number, a variable, or a bracket, with signs in front. -/
def readOperand : Nat → List Lexeme → Expression × List Lexeme
  | 0, ls => (.missing, ls)
  | fuel + 1, ls =>
    match markedAt? signs ls with
    | some (sign, rest) =>
      let (a, rest) := readOperand fuel rest
      (.signed sign a, rest)
    | none =>
      match ls with
      | .number n :: rest => (.number n, rest)
      | .name name :: rest => (.variable name, rest)
      | .mark "(" :: rest =>
        let (a, rest) := readExpression fuel rest
        match rest with
        | .mark ")" :: rest => (a, rest)
        | _ => (.spoilt a .noBracket, rest)
      | _ => (.missing, ls)

end

/-- The expression that a text writes. What is left of the text spoils it. -/
def expressionOf (cs : Octets) : Expression :=
  let (e, rest) := readExpression (16 * cs.length + 32) (lexemes cs.length cs)
  if rest.isEmpty then e else .spoilt e .noEnd

/-! ## Values -/

/-- The number for a truth value. -/
def truth (b : Bool) : Int := if b then 1 else 0

/-- A number reduced to 64 bits with a sign. -/
def wrap (n : Int) : Int := n.bmod (2 ^ 64)

/-- A number without sign in 64 bits. -/
def unsigned (n : Int) : Nat := (n % (2 ^ 64)).toNat

/-- The value of an operator; a division by zero has none. -/
def Operator.apply? (op : Operator) (a b : Int) : Option Int :=
  match op with
  | bitOr => some (wrap (unsigned a ||| unsigned b : Nat))
  | bitXor => some (wrap (unsigned a ^^^ unsigned b : Nat))
  | bitAnd => some (wrap (unsigned a &&& unsigned b : Nat))
  | equal => some (truth (a = b))
  | unequal => some (truth (a ≠ b))
  | atMost => some (truth (a ≤ b))
  | atLeast => some (truth (b ≤ a))
  | less => some (truth (a < b))
  | greater => some (truth (b < a))
  | shiftLeft => some (wrap (a * 2 ^ (unsigned b % 64)))
  | shiftRight => some (a / 2 ^ (unsigned b % 64))
  | plus => some (wrap (a + b))
  | minus => some (wrap (a - b))
  | times => some (wrap (a * b))
  | divide => if b = 0 then none else some (wrap (a.tdiv b))
  | remainder => if b = 0 then none else some (a.tmod b)

/-- The value of an operand with a sign. -/
def Sign.apply (sign : Sign) (a : Int) : Int :=
  match sign with
  | minus => wrap (-a)
  | plus => a
  | isZero => truth (a = 0)
  | flip => -a - 1

/-- The number of 64 bits that a text writes with blanks, a sign or none, a number as the given function
    reads it, and blanks. -/
def signedNumber? (read : Octets → Nat × Octets) (cs : Octets) : Option Int :=
  let body := dropSpaces cs
  let (sign, digits) : Int × Octets := match body with
    | '-' :: rest => (-1, rest)
    | '+' :: rest => (1, rest)
    | rest => (1, rest)
  let (n, rest) := read digits
  let n := sign * n
  if digits.head?.any Char.isDigit ∧ (dropSpaces rest).isEmpty ∧ wrap n = n then some n else none

/-- The number that the value of a variable writes. A blank value counts as zero. -/
def number? (cs : Octets) : Option Int :=
  if (dropSpaces cs).isEmpty then some 0 else signedNumber? numberAt cs

/-- The number that an argument writes in base ten. -/
def decimal? (cs : Octets) : Option Int := signedNumber? (digitsAt 10) cs

/-- The variables that an expression sets, the latest first. -/
abbrev Bindings := List (String × Int)

/-- Works something out that can fail and can set variables, which stay set if it fails. -/
abbrev Evaluation := ExceptT ArithmeticFault (StateM Bindings)

/-- The value of an operator, or the fault that it has none. -/
def Operator.apply (op : Operator) (a b : Int) : Evaluation Int :=
  match op.apply? a b with
  | some n => return n
  | none => throw .divisionByZero

/-- The value of a variable that has the given text unless the expression sets it. -/
def valueIn (text : String → Octets) (name : String) : Evaluation Int := do
  match (← get).lookup name, number? (text name) with
  | some n, _ | none, some n => return n
  | none, none => throw (.noNumber (text name))

/-- The first fault that makes an expression unreadable. -/
def Expression.flaw? : Expression → Option ArithmeticFault
  | .number _ | .variable _ => none
  | .missing => some .noPrimary
  | .signed _ a | .assign _ _ a => a.flaw?
  | .binary _ a b | .both a b | .either a b => a.flaw?.or b.flaw?
  | .choice test a b => test.flaw?.or (a.flaw?.or b.flaw?)
  | .spoilt a fault => a.flaw?.or (some fault)

/-- Passes over an expression that does not count: all it can do is to be unreadable. -/
def Expression.skip (e : Expression) : Evaluation Unit :=
  match e.flaw? with
  | none => return
  | some fault => throw fault

/-- The value of an expression. The second side of a condition counts only if the first one does not
    decide. -/
def Expression.value (text : String → Octets) : Expression → Evaluation Int
  | .number n => return n
  | .variable name => valueIn text name
  | .signed sign a => return sign.apply (← a.value text)
  | .binary op a b => do op.apply (← a.value text) (← b.value text)
  | .both a b => do
    if (← a.value text) = 0 then b.skip; return 0
    return truth ((← b.value text) ≠ 0)
  | .either a b => do
    if (← a.value text) ≠ 0 then b.skip; return 1
    return truth ((← b.value text) ≠ 0)
  | .choice test a b => do
    if (← test.value text) ≠ 0 then
      let n ← a.value text
      b.skip
      return n
    a.skip
    b.value text
  | .assign name op a => do
    let n ← a.value text
    let n ← match op with
      | none => pure n
      | some op => op.apply (← valueIn text name) n
    modify fun set => (name, n) :: set
    return n
  | .missing => throw .noPrimary
  | .spoilt a fault => do
    let _ ← a.value text
    throw fault

/-- The value of the expression that a text writes, or why it has none, and the variables that it
    sets. -/
def arithmetic (text : String → Octets) (cs : Octets) : Except ArithmeticFault Int × Bindings :=
  ((expressionOf cs).value text).run []

/-- The report of a fault in the expression that a text writes. -/
def ArithmeticFault.message (f : ArithmeticFault) (text : Octets) : Octets :=
  let about (what : String) : Octets :=
    ("arithmetic expression: " ++ what ++ ": \"").toList ++ text ++ ['"']
  match f with
  | noPrimary => about "expecting primary"
  | noEnd => about "expecting EOF"
  | noBracket => about "expecting ')'"
  | noColon => about "expecting ':'"
  | divisionByZero => about "division by zero"
  | noNumber value => "Illegal number: ".toList ++ value

end Foreman.Shell
