import Foreman.Shell.Records.Token

/-!
# `Foreman.Shell.Records.Reader` — reading programs

Operators bind, from the loosest one on: assignment, choice, or, and, membership, matching, comparison,
concatenation, sums, products, signs, input from a command, powers, steps, fields. After a fault the reader
goes on behind the statement, so that it finds more than one.

## Contents
- **`Operand`**: an expression with what else it can be.
- **Expressions**: `expression`, `concatenation`, `term`, `primary`.
- **Statements**: `statement`, `block`.
- `readProgram`.
-/

namespace Foreman.Shell.Records

/-! ## Names -/

/-- The variable of a name. -/
def variableOf (word : String) : Reading VariableId := do
  let r ← get
  match r.parameters.idxOf? word with
  | some n => return .own n
  | none =>
    match r.shared.find? word with
    | some n => return .shared n
    | none =>
      let n := r.uses.size
      set { r with shared := r.shared.insert word n, uses := r.uses.push .unknown }
      return .shared n

/-- How a variable has been used so far. -/
def Reader.usage (r : Reader) : VariableId → Usage
  | .shared n => r.uses.getD n .unknown
  | .own n => r.ownUses.getD n .unknown

/-- The name of a variable. -/
def Reader.nameOf (r : Reader) : VariableId → String
  | .shared n => ((r.shared.entries.find? fun e => e.2 = n).map Prod.fst).getD ""
  | .own n => r.parameters.getD n ""

/-- Notes the use of a variable, which has to agree with the uses before. -/
def useAs (usage : Usage) (v : VariableId) : Reading Unit := do
  let r ← get
  match r.usage v, v with
  | .unknown, .shared n => set { r with uses := r.uses.set! n usage }
  | .unknown, .own n => set { r with ownUses := r.ownUses.set! n usage }
  | known, v =>
    if known ≠ usage then
      let front := match v with
        | .own _ => "local "
        | .shared _ => ""
      let kind := if known = .array then "array " else "variable "
      complainHere ("illegal reference to " ++ front ++ kind ++ r.nameOf v).toList

/-! ## Faults -/

/-- Complains about the token, which does not fit here. -/
def syntaxFault {α : Type} : Reading α := do
  let r ← get
  let isEnd := r.token.isEnd || r.token.isClosing || (match r.token with | .finish => true | _ => false)
  let isNewRule : Bool := match r.token with
    | .finish | .keyword "BEGIN" | .keyword "END" => true
    | _ => false
  if r.quiet ≠ 0 then throw .malformed
  match r.token with
  | .strange c =>
    complainWith ((toString r.tokenLine ++ ": unexpected character '").toList ++ [c, '\''])
  | t =>
    if r.parens ≠ 0 ∧ isEnd then
      modify fun r => { r with parens := 0 }
      complainHere ("missing ) near ".toList ++ t.shown)
    else if r.braces ≠ 0 ∧ isNewRule then
      modify fun r => { r with braces := 0 }
      complainHere ("missing \x7d near ".toList ++ t.shown)
    else complainHere ("syntax error at or near ".toList ++ t.shown)
  throw .malformed

/-- Whether the token is a mark. -/
def isAt (m : String) : Reading Bool := do
  match (← get).token with
  | .mark n => return m = n
  | _ => return false

/-- Whether the token is a keyword. -/
def isAtWord (w : String) : Reading Bool := do
  match (← get).token with
  | .keyword v => return w = v
  | _ => return false

/-- Passes a mark. -/
def expect (m : String) : Reading Unit := do
  if ← isAt m then advance else syntaxFault

/-- Passes a mark and the ends of lines behind it. -/
def expectPast (m : String) : Reading Unit := do
  if ← isAt m then advancePast else syntaxFault

/-- Passes the end of a statement. -/
def expectEnd : Reading Unit := do
  if (← get).token.isEnd then advance else syntaxFault

/-! ## Expressions -/

/-- An expression with what else it can be. -/
structure Operand where
  expr : Expr
  /-- What is assigned to, if it stands on the left of an assignment. -/
  spot : Option Spot := none
  /-- The expression to be matched that it is. -/
  regex : Option (Regex × Octets) := none
  /-- The variable and the array, if it says that a variable is a key. -/
  member : Option (VariableId × VariableId) := none

/-- What stands for a spot. -/
def Operand.ofSpot (s : Spot) : Operand := { expr := .read s, spot := some s }

/-- The value of an operand. -/
def Operand.value (o : Operand) : Reading Expr := do
  match o.regex, o.spot with
  | some (r, _), _ => return .here r
  | none, some (.variable v) =>
    useAs .value v
    return o.expr
  | none, _ => return o.expr

/-- The operand as something to be matched. A text is compiled at once. -/
def Operand.matcher (o : Operand) : Reading Matcher := do
  match o.regex, o.expr with
  | some (r, text), _ => return .fixed r text
  | none, .text t =>
    match readPattern t with
    | .ok r => return .fixed r t
    | .error fault =>
      complainHere (("regular expression compile failed (" ++ fault.text ++ ")\n").toList ++ t)
      return .fixed .nothing t
  | none, _ => return .dynamic (← o.value)

/-- The operand as a separator: one character stands for itself. -/
def Operand.separator (o : Operand) : Reading Matcher := do
  match o.regex, o.expr with
  | none, .text t => if t.length ≤ 1 then return .dynamic o.expr else o.matcher
  | _, _ => o.matcher

/-- The operation of a mark for assignment. -/
def assignment? : Token → Option (Option Arithmetic)
  | .mark "=" => some none
  | .mark "+=" => some (some .add)
  | .mark "-=" => some (some .sub)
  | .mark "*=" => some (some .mul)
  | .mark "/=" => some (some .div)
  | .mark "%=" => some (some .mod)
  | .mark "^=" => some (some .pow)
  | _ => none

/-- The comparison of a mark. -/
def comparison? : Token → Option Comparison
  | .mark "<" => some .less
  | .mark "<=" => some .atMost
  | .mark "==" => some .equal
  | .mark "!=" => some .different
  | .mark ">" => some .greater
  | .mark ">=" => some .atLeast
  | _ => none

/-- Whether a token can begin a value behind another one. -/
def Token.beginsValue : Token → Bool
  | .number .. | .text _ | .regex .. | .name _ | .function _ | .builtin _ | .field _ | .fieldCount
  | .keyword "getline" => true
  | .mark m => m = "(" || m = "$" || m = "!" || m = "++" || m = "--"
  | _ => false

/-- Whether a token can begin a spot. -/
def Token.beginsSpot : Token → Bool
  | .name _ | .field _ | .fieldCount => true
  | .mark m => m = "$"
  | _ => false

/-- The function of a name and the least and the greatest number of its arguments. -/
def builtin? (word : String) : Option (Builtin × Nat × Nat) :=
  match word with
  | "index" => some (.index, 2, 2)
  | "substr" => some (.substr, 2, 3)
  | "sprintf" => some (.sprintf, 1, 255)
  | "sin" => some (.sine, 1, 1)
  | "cos" => some (.cosine, 1, 1)
  | "atan2" => some (.arctangent, 2, 2)
  | "exp" => some (.exp, 1, 1)
  | "log" => some (.log, 1, 1)
  | "int" => some (.int, 1, 1)
  | "sqrt" => some (.sqrt, 1, 1)
  | "rand" => some (.random, 0, 0)
  | "srand" => some (.seed, 0, 1)
  | "close" => some (.close, 1, 1)
  | "system" => some (.system, 1, 1)
  | "toupper" => some (.upper, 1, 1)
  | "tolower" => some (.lower, 1, 1)
  | "fflush" => some (.flush, 0, 1)
  | "systime" => some (.time, 0, 0)
  | "mktime" => some (.moment, 1, 2)
  | "strftime" => some (.timeText, 0, 3)
  | _ => none

/-- Checks a call of a function of the program, and notes it for later. -/
def noteCall (word : String) (args : List Operand) : Reading Nat := do
  let r ← get
  let n := (r.functionNumbers.find? word).getD 0
  match (r.functions[n]?).bind KnownFunction.parameters with
  | some parameters =>
    if parameters.length < args.length then
      complainHere ("too many arguments in call to " ++ word).toList
  | none => pure ()
  let uses : List (Usage ⊕ VariableId) := args.map fun o =>
    match o.spot with
    | some (.variable (.shared v)) => .inr (.shared v)
    | some (.variable (.own _)) => .inl .unknown
    | _ => .inl .value
  modify fun r => { r with calls := ⟨n, r.tokenLine, uses⟩ :: r.calls }
  return n

/-- The argument that an operand is: a variable as it stands may be an array. -/
def Operand.argument (o : Operand) : Reading Expr := do
  match o.spot with
  | some (.variable _) => return o.expr
  | _ => o.value

mutual

/-- Reads an expression with operators that bind at least as tightly as a level. What stands at its
    front may have been read before. -/
def expression : Nat → Nat → Option Operand → Reading Operand
  | 0, _, _ => throw .whole
  | fuel + 1, level, seed => do
    let first ← concatenation fuel seed
    match first.spot, assignment? (← get).token with
    | some s, some op =>
      let _ ← first.value
      advance
      let e ← (← expression fuel 1 none).value
      operators fuel level { expr := .assign s op e }
    | _, _ => operators fuel level first

/-- Goes on after an operand of an expression. -/
def operators : Nat → Nat → Operand → Reading Operand
  | 0, _, _ => throw .whole
  | fuel + 1, level, left => do
    let t := (← get).token
    match t, comparison? t with
    | _, some op =>
      if 7 < level then return left
      else
        let a ← left.value
        advance
        let b ← (← expression fuel 8 none).value
        operators fuel level { expr := .compare op a b }
    | .mark m, none =>
      if m = "~" ∨ m = "!~" then
        if 6 < level then return left
        else
          let a ← left.value
          advance
          let b ← (← expression fuel 7 none).matcher
          operators fuel level { expr := .fits (m = "!~") a b }
      else if m = "&&" ∨ m = "||" then
        let own := if m = "&&" then 4 else 3
        if own < level then return left
        else
          let a ← left.value
          advance
          let b ← (← expression fuel (own + 1) none).value
          operators fuel level { expr := if m = "&&" then .and a b else .or a b }
      else if m = "?" then
        if 2 < level then return left
        else
          let test ← left.value
          advance
          let a ← (← expression fuel 1 none).value
          expect ":"
          let b ← (← expression fuel 2 none).value
          operators fuel level { expr := .choose test a b }
      else return left
    | .keyword "in", none =>
      if 5 < level then return left
      else
        let key ← left.value
        advance
        let array ← arrayName
        let member := match left.spot with
          | some (.variable v) => some (v, array)
          | _ => none
        operators fuel level { expr := .has [key] array, member }
    | _, none => return left

/-- Reads terms that follow each other. -/
def concatenation : Nat → Option Operand → Reading Operand
  | 0, _ => throw .whole
  | fuel + 1, seed => do moreTerms fuel (← term fuel 1 seed)

/-- Goes on after a term. -/
def moreTerms : Nat → Operand → Reading Operand
  | 0, _ => throw .whole
  | fuel + 1, left => do
    if (← get).token.beginsValue then
      let a ← left.value
      let b ← (← term fuel 1 none).value
      moreTerms fuel { expr := .concat a b }
    else return left

/-- Reads a term with operators that bind at least as tightly as a level. -/
def term : Nat → Nat → Option Operand → Reading Operand
  | 0, _, _ => throw .whole
  | fuel + 1, level, seed => do
    match seed with
    | some o => termOperators fuel level o
    | none =>
      let first ← signed fuel
      match first.spot, (← get).token with
      | some s, .mark m =>
        if m = "++" ∨ m = "--" then
          let _ ← first.value
          advance
          termOperators fuel level { expr := .step s (m = "++") false }
        else termOperators fuel level first
      | _, _ => termOperators fuel level first

/-- Reads an operand with marks in front of it. -/
def signed : Nat → Reading Operand
  | 0 => throw .whole
  | fuel + 1 => do
    match (← get).token with
    | .mark m =>
      if m = "!" ∨ m = "-" ∨ m = "+" then
        advance
        let e ← (← term fuel 3 none).value
        return { expr := if m = "!" then .not e else .sign (m = "-") e }
      else primary fuel
    | _ => primary fuel

/-- Goes on after an operand of a term. -/
def termOperators : Nat → Nat → Operand → Reading Operand
  | 0, _, _ => throw .whole
  | fuel + 1, level, left => do
    let binary (own inner : Nat) (op : Arithmetic) : Reading Operand := do
      if own < level then return left
      else
        let a ← left.value
        advance
        let b ← (← term fuel inner none).value
        termOperators fuel level { expr := .arithmetic op a b }
    match (← get).token with
    | .mark "^" => binary 5 5 .pow
    | .mark "*" => binary 2 3 .mul
    | .mark "/" => binary 2 3 .div
    | .mark "%" => binary 2 3 .mod
    | .mark "+" => binary 1 2 .add
    | .mark "-" => binary 1 2 .sub
    | .mark "|" =>
      if 4 < level then return left
      else
        let command ← left.value
        advance
        if ← isAtWord "getline" then
          advance
          let target ← target? fuel
          termOperators fuel level { expr := .getLine (.command command) target }
        else syntaxFault
    | _ => return left

/-- Reads the spot that a line goes to, if there is one. -/
def target? : Nat → Reading (Option Spot)
  | 0 => throw .whole
  | fuel + 1 => do
    if (← get).token.beginsSpot then
      let o ← primary fuel
      let _ ← o.value
      return o.spot
    else return none

/-- Reads the name of an array. -/
def arrayName : Reading VariableId := do
  match (← get).token with
  | .name word =>
    let v ← variableOf word
    useAs .array v
    advance
    return v
  | _ => syntaxFault

/-- Reads a list up to a closing mark, which is passed. -/
def listUpTo : Nat → String → List Operand → Reading (List Operand)
  | 0, _, _ => throw .whole
  | fuel + 1, closing, acc => do
    let o ← expression fuel 1 none
    if ← isAt "," then
      advance
      listUpTo fuel closing (o :: acc)
    else
      expect closing
      return (o :: acc).reverse

/-- Reads arguments in parentheses, of which there may be none. -/
def arguments : Nat → Reading (List Operand)
  | 0 => throw .whole
  | fuel + 1 => do
    expect "("
    if ← isAt ")" then
      advance
      return []
    else listUpTo fuel ")" []

/-- Reads an operand. -/
def primary : Nat → Reading Operand
  | 0 => throw .whole
  | fuel + 1 => do
    match (← get).token with
    | .number x _ =>
      advance
      return { expr := .number x }
    | .text t =>
      advance
      return { expr := .text t }
    | .regex r t =>
      advance
      return { expr := .here r, regex := some (r, t) }
    | .field n =>
      advance
      return .ofSpot (.field (.number (.ofNat n)))
    | .fieldCount =>
      advance
      return .ofSpot .fieldCount
    | .name word =>
      let v ← variableOf word
      advance
      if ← isAt "[" then
        useAs .array v
        advance
        let keys ← (← listUpTo fuel "]" []).mapM Operand.value
        return .ofSpot (.element v keys)
      else return .ofSpot (.variable v)
    | .function word =>
      advance
      let args ← arguments fuel
      let n ← noteCall word args
      return { expr := .call n (← args.mapM Operand.argument) }
    | .builtin word => builtinCall fuel word
    | .keyword "getline" =>
      modify fun r => { r with isReading := true }
      advance
      let target ← target? fuel
      match (← get).token with
      | .input =>
        advance
        let file ← (← term fuel 5 none).value
        return { expr := .getLine (.file file) target }
      | _ =>
        modify fun r => { r with isReading := false }
        return { expr := .getLine .input target }
    | .mark "$" =>
      advance
      match (← get).token with
      | .mark m =>
        if m = "-" ∨ m = "+" ∨ m = "!" then return .ofSpot (.field (← (← signed fuel).value))
        else return .ofSpot (.field (← (← primary fuel).value))
      | _ => return .ofSpot (.field (← (← primary fuel).value))
    | .mark "(" =>
      advance
      inParentheses fuel
    | .mark m =>
      if m = "++" ∨ m = "--" then
        advance
        if (← get).token.beginsSpot then
          let o ← primary fuel
          let _ ← o.value
          match o.spot with
          | some s => return { expr := .step s (m = "++") true }
          | none => syntaxFault
        else syntaxFault
      else syntaxFault
    | _ => syntaxFault

/-- Reads what stands behind an opening parenthesis. -/
def inParentheses : Nat → Reading Operand
  | 0 => throw .whole
  | fuel + 1 => do
    let o ← expression fuel 1 none
    if ← isAt "," then
      advance
      let others ← listUpTo fuel ")" []
      membership (o :: others)
    else
      expect ")"
      grouped o

/-- An operand in parentheses. -/
def grouped (o : Operand) : Reading Operand := do
  match o.spot with
  | some (.field _) | some .fieldCount => return o
  | _ => return { expr := ← o.value }

/-- Reads which array a list is a key of. -/
def membership (keys : List Operand) : Reading Operand := do
  if ← isAtWord "in" then
    advance
    let array ← arrayName
    return { expr := .has (← keys.mapM Operand.value) array }
  else syntaxFault

/-- Reads a call of a function of the language. -/
def builtinCall : Nat → String → Reading Operand
  | 0, _ => throw .whole
  | fuel + 1, word => do
    advance
    match word with
    | "length" =>
      if ← isAt "(" then
        advance
        if ← isAt ")" then
          advance
          return { expr := .length (.read (.field (.number (.zero false)))) }
        else
          let o ← expression fuel 1 none
          expect ")"
          return { expr := .length (← o.argument) }
      else return { expr := .length (.read (.field (.number (.zero false)))) }
    | "sub" | "gsub" =>
      expect "("
      let pattern ← (← expression fuel 1 none).matcher
      expect ","
      let replacement ← (← expression fuel 1 none).value
      if ← isAt "," then
        advance
        if !(← get).token.beginsSpot ∧ !(← isAt "(") then syntaxFault
        else
          let o ← primary fuel
          let _ ← o.value
          match o.spot with
          | some s =>
            expect ")"
            return { expr := .replace (word = "gsub") pattern replacement s }
          | none => syntaxFault
      else
        expect ")"
        return { expr := .replace (word = "gsub") pattern replacement (.field (.number (.zero false))) }
    | "split" =>
      expect "("
      let e ← (← expression fuel 1 none).value
      expect ","
      let array ← arrayName
      if ← isAt "," then
        advance
        let separator ← (← expression fuel 1 none).separator
        expect ")"
        return { expr := .split e array (some separator) }
      else
        expect ")"
        return { expr := .split e array none }
    | "match" =>
      expect "("
      let e ← (← expression fuel 1 none).value
      expect ","
      let pattern ← (← expression fuel 1 none).matcher
      expect ")"
      return { expr := .find e pattern }
    | word =>
      match builtin? word with
      | some (f, least, most) =>
        let args ← arguments fuel
        if args.length < least ∨ most < args.length then
          complainHere ("wrong number of arguments in call to " ++ word).toList
        return { expr := .builtin f (← args.mapM Operand.value) }
      | none => syntaxFault

end

/-- Reads an expression, with all that belongs to it. -/
def wholeExpression (fuel : Nat) : Reading Expr := do (← expression fuel 1 none).value

/-! ## Statements -/

/-- Takes tokens up to the end of a statement. -/
def skipStatement : Nat → Reading Unit
  | 0 => throw .whole
  | fuel + 1 => do
    let t := (← get).token
    match t with
    | .finish => throw .whole
    | t =>
      if t.isEnd then advance
      else if t.isClosing then pure ()
      else
        advance
        skipStatement fuel

/-- Goes on behind a statement with a fault. -/
def recover (fuel : Nat) : Reading Statement := do
  modify fun r => { r with isPrinting := false, isReading := false }
  skipStatement fuel
  modify fun r => { r with parens := 0 }
  return .block []

/-- Reads where output goes, if that is said, and the end of the statement. -/
def outputTarget (fuel : Nat) : Reading (Option (Direction × Expr)) := do
  match (← get).token with
  | .output d _ =>
    advance
    let e ← wholeExpression fuel
    expectEnd
    return some (d, e)
  | _ =>
    modify fun r => { r with isPrinting := false }
    expectEnd
    return none

/-- Reads values to be printed. A list may stand in parentheses. -/
def printedValues : Nat → Reading (List Expr)
  | 0 => throw .whole
  | fuel + 1 => do
    let token := (← get).token
    let isOver := token.isEnd || (match token with | .output .. => true | _ => false)
    if isOver then return []
    else if ← isAt "(" then
      advance
      if ← isAt ")" then
        advance
        return []
      else
        let o ← expression fuel 1 none
        if ← isAt "," then
          advance
          let others ← listUpTo fuel ")" []
          if ← isAtWord "in" then
            let o ← membership (o :: others)
            more fuel (some o)
          else (o :: others).mapM Operand.value
        else
          expect ")"
          let o ← grouped o
          -- What stands in parentheses may be the front of the first value.
          match o.spot, (← get).token with
          | some s, .mark m =>
            if m = "++" ∨ m = "--" then
              advance
              more fuel (some { expr := .step s (m = "++") false })
            else more fuel (some o)
          | _, _ => more fuel (some o)
    else more fuel none
where
  /-- Reads values, the first of which may have been begun. -/
  more (fuel : Nat) (seed : Option Operand) : Reading (List Expr) := do
    let first ← (← expression fuel 1 seed).value
    if ← isAt "," then
      advance
      others fuel [first]
    else return [first]
  /-- Reads further values. -/
  others : Nat → List Expr → Reading (List Expr)
    | 0, _ => throw .whole
    | fuel + 1, acc => do
      let e ← wholeExpression fuel
      if ← isAt "," then
        advance
        others fuel (e :: acc)
      else return (e :: acc).reverse

mutual

/-- Reads a statement; after a fault, up to its end. -/
def statement : Nat → Reading Statement
  | 0 => throw .whole
  | fuel + 1 =>
    tryCatch (plainStatement fuel) fun stop =>
      match stop with
      | .malformed => recover (fuel + 1)
      | .whole => throw .whole

/-- Reads a statement that is the body of a loop. -/
def loopBody : Nat → Reading Statement
  | 0 => throw .whole
  | fuel + 1 => do
    modify fun r => { r with loops := r.loops + 1 }
    let s ← statement fuel
    modify fun r => { r with loops := r.loops - 1 }
    return s

/-- Reads statements up to a closing brace. -/
def statements : Nat → List Statement → Reading (List Statement)
  | 0, _ => throw .whole
  | fuel + 1, acc => do
    let t := (← get).token
    if t.isClosing then
      advance
      return acc.reverse
    else statements fuel ((← statement fuel) :: acc)

/-- Reads statements in braces. -/
def block : Nat → Reading Statement
  | 0 => throw .whole
  | fuel + 1 => do
    expect "\x7b"
    return .block (← statements fuel [])

/-- Reads a statement. -/
def plainStatement : Nat → Reading Statement
  | 0 => throw .whole
  | fuel + 1 => do
    match (← get).token with
    | .lineEnd | .semicolon | .impliedEnd =>
      advance
      return .block []
    | .mark "\x7b" => block fuel
    | .keyword word =>
      match word with
      | "print" =>
        modify fun r => { r with isPrinting := true }
        advance
        let args ← printedValues fuel
        return .print args (← outputTarget fuel)
      | "printf" =>
        modify fun r => { r with isPrinting := true }
        advance
        let args ← printedValues fuel
        let target ← outputTarget fuel
        if args.isEmpty then complainHere "no arguments in call to printf".toList
        return .printf args target
      | "if" =>
        advance
        expect "("
        let test ← wholeExpression fuel
        expectPast ")"
        let a ← statement fuel
        if ← isAtWord "else" then
          advancePast
          return .branch test a (some (← statement fuel))
        else return .branch test a none
      | "while" =>
        advance
        expect "("
        let test ← wholeExpression fuel
        expectPast ")"
        return .loop test (← loopBody fuel)
      | "do" =>
        advancePast
        let body ← loopBody fuel
        if !(← isAtWord "while") then syntaxFault
        advance
        expect "("
        let test ← wholeExpression fuel
        expect ")"
        expectEnd
        return .loopAfter body test
      | "for" =>
        advance
        expect "("
        forLoop fuel
      | "break" | "continue" =>
        if (← get).loops = 0 ∧ (← get).complaints.isEmpty then
          complainHere (word ++ " statement outside of loop").toList
        advance
        expectEnd
        return if word = "break" then .breaks else .continues
      | "next" | "nextfile" =>
        if !(← get).isInRule then complainHere ("improper use of " ++ word).toList
        advance
        expectEnd
        return if word = "next" then .next else .nextFile
      | "exit" | "return" =>
        if word = "return" ∧ !(← get).isInFunction then
          complainHere "return outside function body".toList
        advance
        let e ← if (← get).token.isEnd then pure none else some <$> wholeExpression fuel
        expectEnd
        return if word = "exit" then .exits e else .returns e
      | "delete" =>
        advance
        let array ← arrayName
        if ← isAt "[" then
          advance
          let keys ← (← listUpTo fuel "]" []).mapM Operand.value
          expectEnd
          return .delete array (some keys)
        else
          expectEnd
          return .delete array none
      | "getline" =>
        let e ← wholeExpression fuel
        expectEnd
        return .expression e
      | _ => syntaxFault
    | _ =>
      let o ← expression fuel 1 none
      let e ← o.value
      expectEnd
      return .expression e

/-- Reads a loop that counts, or one over an array, behind its opening parenthesis. -/
def forLoop : Nat → Reading Statement
  | 0 => throw .whole
  | fuel + 1 => do
    let isOver : Reading Bool := do
      match (← get).token with
      | .semicolon => return true
      | _ => return false
    let expectSemicolon : Reading Unit := do
      if ← isOver then advance else syntaxFault
    let first ← if ← isOver then pure none else some <$> expression fuel 1 none
    match first.bind Operand.member, ← isAt ")" with
    | some (v, array), true =>
      advancePast
      return .each v array (← loopBody fuel)
    | _, _ =>
      let start ← match first with
        | some o => some <$> o.value
        | none => pure none
      expectSemicolon
      let test ← if ← isOver then pure none else some <$> wholeExpression fuel
      expectSemicolon
      let step ← if ← isAt ")" then pure none else some <$> wholeExpression fuel
      expectPast ")"
      return .count start test step (← loopBody fuel)

end

/-! ## Programs -/

/-- A part of a program. -/
inductive ProgramPart where
  | before (s : Statement)
  | after (s : Statement)
  | rule (r : Rule)
  | nothing

/-- Reads the names of the parameters of a function. -/
def parameterNames (own : String) : Nat → List String → Reading (List String)
  | 0, _ => throw .whole
  | fuel + 1, acc => do
    let word ← match (← get).token with
      | .name word => pure word
      | .function word =>
        if word = own then
          complainHere "function parameter cannot be the function".toList
          syntaxFault
        else pure word
      | _ => syntaxFault
    if acc.contains word then complainHere (word ++ " is duplicated in argument list").toList
    advance
    let acc := acc ++ [word]
    if ← isAt "," then
      advance
      parameterNames own fuel acc
    else return acc

/-- Reads a function behind its keyword. -/
def functionPart (fuel : Nat) : Reading Unit := do
  let own := String.ofList (← get).token.shown
  let number ← match (← get).token with
    | .function word =>
      let r ← get
      let n := (r.functionNumbers.find? word).getD 0
      if ((r.functions[n]?).bind KnownFunction.parameters).isSome then
        complainHere ("redefinition of " ++ word).toList
      pure n
    | .name word =>
      let r ← get
      match r.shared.find? word with
      | some v => complainHere ("illegal reference to " ++
          (if r.usage (.shared v) = .array then "array " else "variable ") ++ word).toList
      | none => pure ()
      modify fun r =>
        { r with
          functionNumbers := r.functionNumbers.insert word r.functions.size
          functions := r.functions.push { name := word } }
      pure r.functions.size
    | _ => syntaxFault
  advance
  expect "("
  let names ← if ← isAt ")" then pure [] else parameterNames own fuel []
  modify fun r =>
    { r with
      parameters := names
      ownUses := Array.replicate names.length .unknown
      functions := r.functions.modify number fun f =>
        { f with parameters := some (names.map fun _ => .unknown) }
      isInFunction := true }
  expectPast ")"
  let body ← block fuel
  modify fun r =>
    { r with
      functions := r.functions.modify number fun f =>
        { f with parameters := some r.ownUses.toList, body }
      parameters := []
      ownUses := #[]
      isInFunction := false }

/-- Reads a part of a program. -/
def programPart (fuel : Nat) : Reading ProgramPart := do
  match (← get).token with
  | .keyword "BEGIN" =>
    advance
    return .before (← block fuel)
  | .keyword "END" =>
    advance
    return .after (← block fuel)
  | .keyword "function" =>
    advance
    functionPart fuel
    return .nothing
  | t =>
    let within (act : Reading ProgramPart) : Reading ProgramPart := do
      modify fun r => { r with isInRule := true }
      let part ← act
      modify fun r => { r with isInRule := false }
      return part
    within do
      if t.isClosing then syntaxFault
      if ← isAt "\x7b" then return .rule ⟨.always, some (← block fuel)⟩
      else
        let first ← wholeExpression fuel
        let selection ← if ← isAt "," then do
            advance
            pure (Selection.range first (← wholeExpression fuel))
          else pure (.test first)
        if (← get).token.isEnd then
          advance
          return .rule ⟨selection, none⟩
        else return .rule ⟨selection, some (← block fuel)⟩

/-- Goes on behind a part with a fault: behind the next block. -/
def skipPart (fuel : Nat) : Nat → Reading Unit
  | 0 => throw .whole
  | n + 1 => do
    match (← get).token with
    | .finish => throw .whole
    | .mark "\x7b" =>
      modify fun r => { r with parens := 0 }
      let _ ← block fuel
      return
    | _ =>
      advance
      skipPart fuel n

/-- Reads the parts of a program. -/
def programParts (fuel : Nat) : Nat → List ProgramPart → Reading (List ProgramPart)
  | 0, _ => throw .whole
  | n + 1, acc => do
    match (← get).token with
    | .finish => return acc.reverse
    | _ =>
      let part ← tryCatch (programPart fuel) fun stop =>
        match stop with
        | .malformed => do
          modify fun r =>
            { r with isPrinting := false, isReading := false, parameters := []
                     isInFunction := false, isInRule := false, loops := 0, quiet := 3 }
          skipPart fuel fuel
          return .nothing
        | .whole => throw .whole
      programParts fuel n (part :: acc)

/-- Checks the calls of functions, the latest first. -/
def checkCalls : List KnownCall → Reading Unit
  | [] => pure ()
  | c :: rest => do
    let r ← get
    match r.functions[c.function]? with
    | none => pure ()
    | some f =>
      match f.parameters with
      | none => complainHere ("function " ++ f.name ++ " never defined").toList
      | some parameters =>
        if parameters.length < c.args.length then
          complainAt c.line ("too many arguments in call to " ++ f.name).toList
        else
          ((List.range c.args.length).zip (c.args.zip parameters)).forM fun (n, arg, parameter) => do
            let usage := match arg with
              | .inl u => u
              | .inr v => r.usage v
            let blame (actual formal : String) : Reading Unit :=
              complainAt c.line ("type error in arg(" ++ toString (n + 1) ++ ") in call to " ++ f.name ++
                " (actual " ++ actual ++ " vs " ++ formal ++ ")").toList
            match usage, parameter with
            | .value, .array => blame "local variable" "local array"
            | .array, .value => blame "local array" "local variable"
            | _, _ => pure ()
    checkCalls rest

/-- Reads a program as a whole. -/
def wholeProgram : Reading (List ProgramPart) := do
  let fuel := 12 * (← get).rest.length + 1000
  passSpace
  advance
  let parts ← programParts fuel fuel []
  if (← get).complaints.isEmpty then checkCalls (← get).calls
  return parts

/-- Reads a program, or tells what is wrong with it. The program may come from a file. -/
def readProgram (file : Option Octets) (text : Octets) : Except (List Octets) Program :=
  let known := meaningfulNames.zipIdx
  let uses := known.map fun e => if e.2 < firstArray then Usage.value else .array
  let start : Reader := { rest := text ++ ['\n'], file, shared := .ofList known, uses := uses.toArray }
  let (result, r) := wholeProgram start
  match result with
  | .ok parts =>
    if !r.complaints.isEmpty then .error r.complaints.reverse
    else
      .ok
        { before := parts.filterMap fun p => match p with | .before s => some s | _ => none
          rules := parts.filterMap fun p => match p with | .rule x => some x | _ => none
          after := parts.filterMap fun p => match p with | .after s => some s | _ => none
          functions := r.functions.map fun f =>
            { name := f.name, parameters := (f.parameters.getD []).length, body := f.body }
          shared := (List.range r.uses.size).map fun n => r.nameOf (.shared n) }
  | .error _ => .error r.complaints.reverse

end Foreman.Shell.Records
