import Foreman.Shell.Format
import Foreman.Shell.Regex
import Foreman.Shell.Test
import Foreman.Shell.Utility.Basic

/-!
# `Foreman.Shell.Utility.Calculation` — numbers, expressions and formats

## Contents
- `expr`: an expression whose parts are arguments.
- `seq`: ranges of numbers; `factor`.
- `echo`, `printf` and `test` as programs.
-/

namespace Foreman.Shell.Utility

/-! ## Expressions -/

/-- The integer that a text writes. -/
def integer? (cs : Octets) : Option Int :=
  match cs with
  | '-' :: ds => (natNumber? ds).map fun n => -(n : Int)
  | ds => (natNumber? ds).map Int.ofNat

/-- Whether a value counts as nothing: it is empty or zero. -/
def isNothing (value : Octets) : Bool :=
  match value with
  | [] => true
  | '-' :: ds => !ds.isEmpty && ds.all (· = '0')
  | ds => ds.all (· = '0')

/-- What a text matches from its front on: the text of the first group, or the length of the match. -/
def matchedFront (text pattern : Octets) : Except Octets Octets :=
  match readRegex { isExtended := false } pattern with
  | .error fault => .error fault.text.toList
  | .ok (r, groups) =>
    let t : Subject := { text := text.toArray }
    match r.matchAt? t 0 with
    | some m => .ok (if groups = 0 then natText m.last else m.group t 1)
    | none => .ok (if groups = 0 then ['0'] else [])

/-- A value, the arguments left after it, and the last argument that was read. -/
structure ExprValue where
  value : Octets
  rest : List Octets
  last : Octets

/-- The fault of an expression that ends too early. -/
def missingAfter (last : Octets) : Octets := "syntax error: missing argument after ".toList ++ quotedText last

/-- The levels of operators on two values, the weakest first. -/
def exprOperators : List (List String) :=
  [["|"], ["&"], ["<", "<=", "=", "==", "!=", ">=", ">"], ["+", "-"], ["*", "/", "%"], [":"]]

/-- Applies an operator to two values. -/
def applyExpr (op : String) (x y : Octets) : Except Octets Octets :=
  let truth (b : Bool) : Except Octets Octets := .ok (if b then ['1'] else ['0'])
  let compared (numbers : Int → Int → Bool) (texts : Octets → Octets → Bool) : Except Octets Octets :=
    match integer? x, integer? y with
    | some m, some n => truth (numbers m n)
    | _, _ => truth (texts x y)
  let computed (f : Int → Int → Int) : Except Octets Octets :=
    match integer? x, integer? y with
    | some m, some n => .ok (intText (f m n))
    | _, _ => .error "non-integer argument".toList
  match op with
  | "<" => compared (· < ·) fun a b => a < b
  | "<=" => compared (· ≤ ·) fun a b => !(b < a)
  | "=" | "==" => compared (· = ·) fun a b => a = b
  | "!=" => compared (· ≠ ·) fun a b => a ≠ b
  | ">=" => compared (· ≥ ·) fun a b => !(a < b)
  | ">" => compared (· > ·) fun a b => b < a
  | "+" => computed (· + ·)
  | "-" => computed (· - ·)
  | "*" => computed (· * ·)
  | "/" | "%" =>
    match integer? x, integer? y with
    | some _, some 0 => .error "division by zero".toList
    | _, _ => computed (if op = "/" then Int.tdiv else Int.tmod)
  | _ => matchedFront x y

mutual

/-- Reads operators of the given levels. -/
def exprLevel (isUsed : Bool) : Nat → List (List String) → Octets → List Octets → Except Octets ExprValue
  | 0, _, last, args => .ok ⟨[], args, last⟩
  | fuel + 1, levels, last, args =>
    match levels with
    | [] => exprOperand isUsed fuel last args
    | ops :: weaker => do
      let first ← exprLevel isUsed fuel weaker last args
      exprMore isUsed fuel ops weaker first

/-- Goes on after the first operand of operators of one level. -/
def exprMore (isUsed : Bool) : Nat → List String → List (List String) → ExprValue →
    Except Octets ExprValue
  | 0, _, _, v => .ok v
  | fuel + 1, ops, weaker, v => do
    match v.rest with
    | [] => return v
    | op :: args =>
      let name := String.ofList op
      if !ops.contains name then return v
      let needed := match name with
        | "|" => isUsed && isNothing v.value
        | "&" => isUsed && !isNothing v.value
        | _ => isUsed
      let w ← exprLevel needed fuel weaker op args
      let value ← match name with
        | "|" =>
          pure (if !isNothing v.value then v.value else if isNothing w.value then ['0'] else w.value)
        | "&" => pure (if isNothing v.value ∨ isNothing w.value then ['0'] else v.value)
        | name => if isUsed then applyExpr name v.value w.value else pure []
      exprMore isUsed fuel ops weaker { w with value }

/-- Reads a single value. -/
def exprOperand (isUsed : Bool) : Nat → Octets → List Octets → Except Octets ExprValue
  | 0, last, args => .ok ⟨[], args, last⟩
  | fuel + 1, last, args => do
    match args with
    | [] => throw (missingAfter last)
    | word :: rest =>
      match String.ofList word with
      | "+" =>
        match rest with
        | [] => throw (missingAfter word)
        | value :: rest => return ⟨value, rest, value⟩
      | "length" =>
        let v ← exprOperand isUsed fuel word rest
        return { v with value := natText v.value.length }
      | "match" =>
        let v ← exprOperand isUsed fuel word rest
        let w ← exprOperand isUsed fuel v.last v.rest
        return { w with value := ← if isUsed then matchedFront v.value w.value else pure [] }
      | "index" =>
        let v ← exprOperand isUsed fuel word rest
        let w ← exprOperand isUsed fuel v.last v.rest
        let place := (v.value.findIdx? w.value.contains).map (· + 1)
        return { w with value := natText (place.getD 0) }
      | "substr" =>
        let v ← exprOperand isUsed fuel word rest
        let w ← exprOperand isUsed fuel v.last v.rest
        let z ← exprOperand isUsed fuel w.last w.rest
        let part := match integer? w.value, integer? z.value with
          | some i, some n => if 0 < i ∧ 0 < n then (v.value.drop (i.toNat - 1)).take n.toNat else []
          | _, _ => []
        return { z with value := part }
      | "(" =>
        let v ← exprLevel isUsed fuel exprOperators word rest
        match v.rest with
        | [')'] :: rest => return { v with rest, last := [')'] }
        | [] => throw ("syntax error: expecting ')' after ".toList ++ quotedText v.last)
        | other :: _ => throw ("syntax error: expecting ')' instead of ".toList ++ quotedText other)
      | ")" => throw "syntax error: unexpected ')'".toList
      | _ => return ⟨word, rest, word⟩

end

/-- Writes the value of an expression. The status tells whether it is nothing. -/
def expr : Utility := fun s args =>
  let args := if args.head? = some ['-', '-'] then args.tail else args
  if args.isEmpty then misuse 2 s.name "missing operand".toList
  else
    let value := do
      let v ← exprLevel true (16 * args.length + 16) exprOperators [] args
      match v.rest with
      | [] => return v.value
      | extra :: _ => throw ("syntax error: unexpected argument ".toList ++ quotedText extra)
    match value with
    | .ok value => { lineOut value with status := if isNothing value then 1 else 0 }
    | .error text => faultOf 2 s.name text

/-! ## Ranges -/

/-- A number with a number of decimal places. -/
structure Fixed where
  /-- The number times the power of ten. -/
  digits : Int
  places : Nat
  /-- How many characters it was written with before the point. -/
  width : Nat

/-- The number that a text writes, if it is a finite one. -/
def readFixed? (cs : Octets) : Option Fixed :=
  let body := dropSpaces cs
  let isNegative := body.head? = some '-'
  let rest := if body.head? = some '-' ∨ body.head? = some '+' then body.tail else body
  let signed (n : Nat) : Int := if isNegative then -n else n
  match rest with
  | '0' :: 'x' :: hex | '0' :: 'X' :: hex =>
    (numeral? 16 hex).map fun n => ⟨signed n, 0, cs.length⟩
  | rest =>
    match readPlaces 10 rest with
    | none => none
    | some (n, places, after) =>
      let (power, left) := readPower ['e', 'E'] after
      if !left.isEmpty then none
      else
        let whole := cs.length - after.length - (if places = 0 then 0 else places + 1)
        if after.isEmpty then some ⟨signed n, places, if rest.head? = some '.' then whole + 1 else whole⟩
        else if power < 0 then some ⟨signed n, places + power.natAbs, whole⟩
        else if power.toNat ≤ places then some ⟨signed n, places - power.toNat, whole⟩
        else some ⟨signed n * 10 ^ (power.toNat - places), 0, whole⟩

/-- A number in units of a decimal place. -/
def Fixed.scaled (x : Fixed) (places : Nat) : Int := x.digits * 10 ^ (places - x.places)

/-- The numbers of a range, after some numbers, the latest first. -/
def rangeFrom (step last : Int) (done : List Int) : Nat → Int → List Int
  | 0, _ => done.reverse
  | fuel + 1, n =>
    if (0 < step ∧ n ≤ last) ∨ (step < 0 ∧ last ≤ n) then rangeFrom step last (n :: done) fuel (n + step)
    else done.reverse

/-- A number with places, in units of a decimal place. -/
def placesText (scale places : Nat) (n : Int) : Octets :=
  (if n < 0 then ['-'] else []) ++ fixedText places n.natAbs (10 ^ scale) false

/-- Writes a range of numbers. -/
def seq : Utility := fun s args =>
  let isNumber (a : Octets) : Bool := match a with
    | '-' :: c :: _ => c.isDigit || c = '.'
    | _ => false
  let g : Grammar :=
    { letters := "f:s:w"
      words := [("format", "f", .something), ("separator", "s", .something), ("equal-width", "w", .nothing)]
      isStrict := true }
  let args := match args.findIdx? isNumber with
    | some n =>
      let front := args.take n
      let hasOperand := match g.read front with
        | .ok a => !a.operands.isEmpty || front.contains ['-', '-']
        | .error _ => true
      if hasOperand then args else front ++ ['-', '-'] :: args.drop n
    | none => args
  withArguments s.name 1 g args fun a =>
    let bad (text : Octets) : Report :=
      if startsWithWord "nan" text then
        misuse 1 s.name ("invalid 'not-a-number' argument: ".toList ++ quotedText text)
      else misuse 1 s.name ("invalid floating point argument: ".toList ++ quotedText text)
    match a.operands with
    | [] => misuse 1 s.name "missing operand".toList
    | _ :: _ :: _ :: extra :: _ => misuse 1 s.name ("extra operand ".toList ++ quotedText extra)
    | operands =>
      match operands.find? fun text => (readFixed? text).isNone with
      | some text => bad text
      | none =>
        let numbers := operands.filterMap readFixed?
        let one : Fixed := ⟨1, 0, 1⟩
        let (first, step, last) : Fixed × Fixed × Fixed := match numbers with
          | [last] => (one, one, last)
          | [first, last] => (first, one, last)
          | [first, step, last] => (first, step, last)
          | _ => (one, one, one)
        if step.digits = 0 then
          misuse 1 s.name ("invalid Zero increment value: ".toList ++ quotedText ((operands[1]?).getD []))
        else
          let places := max first.places step.places
          let scale := max places last.places
          let (low, stride, high) := (first.scaled scale, step.scaled scale, last.scaled scale)
          let ns := rangeFrom stride high [] (((high - low) / stride).toNat + 1) low
          let format : Except Octets (Int → Octets) := match a.value? "f" with
            | none =>
              let texts (n : Int) : Octets := placesText scale places n
              if a.has "w" then
                let dot := if places = 0 then 0 else places + 1
                let wide (x : Fixed) : Nat := x.width + dot
                let width := max (wide first) (wide last)
                .ok fun n =>
                  let text := texts n.natAbs
                  if n < 0 then '-' :: List.replicate (width - text.length - 1) '0' ++ text
                  else List.replicate (width - text.length) '0' ++ text
              else .ok texts
            | some format =>
              let parts := readFormat format
              let isConversion : FormatPart → Bool
                | .convert .. | .unfinished => true
                | _ => false
              let quote := quotedText format
              match parts.filter isConversion with
              | [] => .error ("format ".toList ++ quote ++ " has no % directive".toList)
              | [.convert flags (.given width) precision letter _] =>
                if "aefgAEFG".toList.contains letter then
                  let precision? : Option Nat := match precision with
                    | some (.given n) => some n
                    | _ => none
                  .ok fun n =>
                    let x := Binary64.ofDecimal (decide (n < 0)) n.natAbs (-(scale : Int))
                    parts.flatMap fun part => match part with
                      | .plain text => text
                      | .convert .. => ({ flags, width, precision := precision?, letter } : Directive).ofDouble x
                      | .unfinished => []
                else .error ("format ".toList ++ quote ++ " has unknown %".toList ++ letter :: " directive".toList)
              | [.unfinished] => .error ("format ".toList ++ quote ++ " ends in %".toList)
              | _ => .error ("format ".toList ++ quote ++ " has too many % directives".toList)
          match format with
          | .error text => faultOf 1 s.name text
          | .ok format =>
            let separator := (a.value? "s").getD ['\n']
            if ns.isEmpty then {} else textOut (separator.intercalate (ns.map format) ++ ['\n'])

/-- The prime factors of a number from a possible factor on, after some factors, the latest first. -/
def primeFactors : Nat → Nat → Nat → List Nat → List Nat
  | 0, _, n, done => (if 1 < n then n :: done else done).reverse
  | fuel + 1, p, n, done =>
    if n < p * p then (if 1 < n then n :: done else done).reverse
    else if n % p = 0 then primeFactors fuel p (n / p) (p :: done)
    else primeFactors fuel (if p = 2 then 3 else p + 2) n done

/-- How many possible factors are tried. -/
def factorLimit : Nat := 5000000

/-- Writes the prime factors of numbers. -/
def factor : Utility := fun s args =>
  withArguments s.name 1 { words := [("exponents", "h", .nothing)], letters := "h" } args fun a =>
    let items := if a.operands.isEmpty then
        (partsAt ' ' (s.input.map fun c => if c = '\n' ∨ c = '\t' then ' ' else c)).filter (!·.isEmpty)
      else a.operands
    let one (text : Octets) : Report :=
      match natNumber? (if text.head? = some '+' then text.tail else text) with
      | some n =>
        let factors := primeFactors factorLimit 2 n []
        lineOut (natText n ++ ':' :: factors.flatMap fun p => ' ' :: natText p)
      | none => faultOf 1 s.name (quotedText text ++ " is not a valid positive integer".toList)
    let r := items.foldl (fun (r : Report) text => r.and (one text)) {}
    let r := r.gathered
    if a.operands.isEmpty then { r with appetite := .everything, isHungry := s.isCut } else r

/-! ## Text -/

/-- A text with escapes replaced as programs read them, after some characters in reverse order, and
    whether an escape ended it early. -/
def programEscapes : Nat → Octets → Octets → Octets × Bool
  | 0, acc, _ => (acc.reverse, false)
  | _ + 1, acc, [] => (acc.reverse, false)
  | _ + 1, acc, '\\' :: 'c' :: _ => (acc.reverse, true)
  | fuel + 1, acc, '\\' :: 'x' :: rest =>
    let digits := (rest.take 2).takeWhile fun c => (digit? 16 c).isSome
    if digits.isEmpty then programEscapes fuel ('x' :: '\\' :: acc) rest
    else
      programEscapes fuel (Char.ofNat ((numeral? 16 digits).getD 0) :: acc) (rest.drop digits.length)
  | fuel + 1, acc, '\\' :: '0' :: rest =>
    let (c, rest) := octalCode rest
    programEscapes fuel (c :: acc) rest
  | fuel + 1, acc, '\\' :: rest =>
    let (text, rest) := escape rest
    programEscapes fuel (text.reverse ++ acc) rest
  | fuel + 1, acc, c :: rest => programEscapes fuel (c :: acc) rest

/-- Writes its arguments with blanks between them. Options in front say whether escapes count and
    whether a line break follows. -/
def echoProgram : Utility := fun _ args =>
  let isOption (a : Octets) : Bool := match a with
    | '-' :: c :: cs => (c :: cs).all fun c => c = 'n' || c = 'e' || c = 'E'
    | _ => false
  let options := args.takeWhile isOption
  let letters := options.flatten
  let isOpen := letters.contains 'n'
  let escapes := (letters.reverse.find? fun c => c = 'e' || c = 'E') = some 'e'
  let text := [' '].intercalate (args.drop options.length)
  let (text, ends) := if escapes then programEscapes (text.length + 1) [] text else (text, false)
  textOut (if isOpen || ends then text else text ++ ['\n'])

/-- A complaint about an argument in the words of a program. -/
def programDoubt (doubt : Octets) : Octets :=
  let reworded (old new : String) : Option Octets :=
    if old.toList.isSuffixOf doubt then
      some (quotedText (doubt.take (doubt.length - old.length)) ++ new.toList)
    else none
  ((reworded ": expected numeric value" ": expected a numeric value").orElse fun _ =>
    (reworded ": not completely converted" ": value not completely converted").orElse fun _ =>
      reworded ": Numerical result out of range" ": Numerical result out of range").getD doubt

/-- A format in which codes of characters are replaced. -/
def withCodes : Nat → Octets → Octets
  | 0, cs => cs
  | _ + 1, [] => []
  | fuel + 1, '\\' :: 'x' :: rest =>
    let digits := (rest.take 2).takeWhile fun c => (digit? 16 c).isSome
    if digits.isEmpty then '\\' :: 'x' :: withCodes fuel rest
    else
      let c := Char.ofNat ((numeral? 16 digits).getD 0)
      (if c = '%' then ['%', '%'] else if c = '\\' then ['\\', '\\'] else [c]) ++
        withCodes fuel (rest.drop digits.length)
  | fuel + 1, '\\' :: c :: rest => '\\' :: c :: withCodes fuel rest
  | fuel + 1, c :: rest => c :: withCodes fuel rest

/-- Writes formatted arguments. -/
def printfProgram : Utility := fun s args =>
  let args := if args.head? = some ['-', '-'] then args.tail else args
  match args with
  | [] => misuse 1 s.name "missing operand".toList
  | format :: rest =>
    let format := withCodes format.length format
    let f := formatted format rest
    let complaints := f.doubts.reverse.map programDoubt
    let isConversion : FormatPart → Bool
      | .convert .. => true
      | _ => false
    let excess : List Octets :=
      if (readFormat format).any isConversion then []
      else (rest.head?.map fun a =>
        "warning: ignoring excess arguments, starting with ".toList ++ quotedText a).toList
    let r := complaints.foldl (fun (r : Report) text => r.and (faultOf 1 s.name text)) {}
    match f.fault with
    | some fault =>
      let text := (if ": invalid directive".toList.isSuffixOf fault then
          fault.take (fault.length - ": invalid directive".length) ++ ": invalid conversion specification".toList
        else fault)
      (r.out f.text).and (faultOf 1 s.name text)
    | none =>
      excess.foldl (fun r text => r.err ((s.name ++ ": ").toList ++ text)) (r.out f.text)

/-- Tests its arguments. -/
def testProgram : Utility := fun s args =>
  if s.name = "[" then
    if args.getLast? = some [']'] then test "[: ".toList s args.dropLast
    else faultOf 2 s.name "missing ']'".toList
  else test ((s.name ++ ": ").toList) s args

end Foreman.Shell.Utility
