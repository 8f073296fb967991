import Foreman.Shell.Records.Token

/-!
# `Foreman.Shell.Records.Cell` — values

A value is a number or a text, or what came from outside and is a text that may count as a number.

## Contents
- **`Cell`**: values as numbers, texts and answers; `Cell.compare`.
- **Arithmetic**: `Arithmetic.apply`, and functions of one number.
- **Texts of numbers**: `numberText?`.
- **Formats**: `readPieces`, `fillPieces`, with **`FormatFault`**.
-/

namespace Foreman.Shell.Records

/-- A value. -/
inductive Cell where
  | unset
  | number (x : Binary64)
  | text (t : Octets)
  /-- A text from outside. -/
  | input (t : Octets)

instance : Inhabited Cell := ⟨.unset⟩

/-! ## Numbers -/

/-- The number that a text from outside looks like. -/
def numberLike? (t : Octets) : Option Binary64 :=
  let body := ((t.dropWhile isInnerBlank).reverse.dropWhile isInnerBlank).reverse
  match body.head?, body.getLast? with
  | some c, some d =>
    if (c.isDigit || "+-.".toList.contains c) ∧ (d.isDigit ∨ d = '.') then
      let (x, rest) := readDouble body
      if rest.isEmpty then some x else none
    else none
  | _, _ => none

namespace Cell

/-- A natural number as a value. -/
def ofNat (n : Nat) : Cell := .number (.ofNat n)

/-- An integer as a value. -/
def ofInt (n : Int) : Cell := .number (.ofInt n)

/-- An answer as a value. -/
def ofBool (b : Bool) : Cell := ofNat (if b then 1 else 0)

/-- A value as a number: that with which its text begins. -/
def toNumber : Cell → Binary64
  | unset => .zero false
  | number x => x
  | text t | input t => (readDouble t).1

/-- The number that a value is, unless it is a text. -/
def number? : Cell → Option Binary64
  | unset => some (.zero false)
  | number x => some x
  | text _ => none
  | input t => numberLike? t

/-- A value as an answer. -/
def isTrue (c : Cell) : Bool :=
  match c with
  | unset => false
  | number x => !x.isZero
  | text t => !t.isEmpty
  | input t =>
    match numberLike? t with
    | some x => !x.isZero
    | none => !t.isEmpty

end Cell

/-- The order of two numbers. What is not a number is like every number. -/
def numberOrder (x y : Binary64) : Ordering := if x.lt y then .lt else if y.lt x then .gt else .eq

/-- The order of two texts. -/
def textOrder (a b : Octets) : Ordering := if a < b then .lt else if b < a then .gt else .eq

/-- Whether a comparison holds for an order. -/
def Comparison.holds : Comparison → Ordering → Bool
  | less, o => o = .lt
  | atMost, o => o ≠ .gt
  | equal, o => o = .eq
  | different, o => o ≠ .eq
  | greater, o => o = .gt
  | atLeast, o => o ≠ .lt

/-! ## Arithmetic -/

/-- The result of an operation, as processors give it: the first operand that is not a number, and a
    negative word if only the result is not one. -/
def settled (x y result : Binary64) : Binary64 :=
  if !result.isNaN then result
  else if x.isNaN then x
  else if y.isNaN then y
  else Binary64.nan.neg

/-- A function of the machine, on words. -/
def machineFunction (f : Float → Float) (x : Binary64) : Binary64 :=
  settled x x ⟨(f (Float.ofBits x.bits)).toBits⟩

/-- A function of the machine of two arguments, on words. -/
def machineFunction₂ (f : Float → Float → Float) (x y : Binary64) : Binary64 :=
  settled x y ⟨(f (Float.ofBits x.bits) (Float.ofBits y.bits)).toBits⟩

/-- The result of an operation. -/
def Arithmetic.apply (op : Arithmetic) (x y : Binary64) : Binary64 :=
  match op with
  | add => settled x y (x.add y)
  | sub => if y.isNaN then settled x y y else settled x y (x.add y.neg)
  | mul => settled x y (x.mul y)
  | div => settled x y (x.div y)
  | mod => settled x y (x.rem y)
  | pow => machineFunction₂ Float.pow x y

/-- A number as an integer of 64 bits with a sign, or the nearest one. -/
def signedWord (x : Binary64) : Int :=
  match x.reading with
  | .nan => -(2 ^ 63)
  | .infinite negative => if negative then -(2 ^ 63 - 1) else 2 ^ 63 - 1
  | .finite .. =>
    let n := x.wholePart
    if 2 ^ 63 ≤ n then 2 ^ 63 - 1 else if n < -(2 ^ 63) then -(2 ^ 63 - 1) else n

/-- A number as an integer of 64 bits without a sign, or the nearest one. -/
def unsignedWord (x : Binary64) : Int :=
  match x.reading with
  | .nan => 2 ^ 63
  | .infinite negative => if negative then 1 else 2 ^ 64 - 1
  | .finite .. =>
    let n := x.wholePart
    if 2 ^ 64 ≤ n then 2 ^ 64 - 1
    else if n ≤ -(2 ^ 64) then 1
    else if n < -(2 ^ 63) then 2 ^ 63
    else n

/-- A number as an integer of 32 bits: the lower half of the one of 64 bits. -/
def shortWord (n : Int) : Int :=
  let low := n % 2 ^ 32
  if low < 2 ^ 31 then low else low - 2 ^ 32

/-! ## Formats -/

/-- The parts of a format. A format that stops within a directive has an empty letter there. -/
def readPieces : Nat → Octets → List FormatPart
  | 0, _ => []
  | _ + 1, [] => []
  | fuel + 1, '%' :: '%' :: rest => .plain ['%'] :: readPieces fuel rest
  | fuel + 1, '%' :: whole =>
    let flags := whole.takeWhile fun c => "-+ #0".toList.contains c
    let (width, rest) := readSize (whole.drop flags.length)
    let (precision, rest) := match rest with
      | '.' :: rest =>
        let (size, rest) := readSize rest
        (some size, rest)
      | rest => (none, rest)
    let rest := rest.dropWhile fun c => c = 'l' || c = 'h'
    .convert flags width precision (rest.headD '\x00') [] :: readPieces fuel (rest.drop 1)
  | fuel + 1, cs =>
    let text := cs.takeWhile (· ≠ '%')
    .plain text :: readPieces fuel (cs.drop text.length)

/-- A number in its field; none if the letter of the directive is not one for numbers. -/
def numberInField? (d : Directive) (x : Binary64) : Option Octets :=
  match d.letter with
  | 'd' =>
    let n := x.wholePart
    if (x.reading matches .infinite false) ∨ 2 ^ 63 ≤ n then
      some ({ d with letter := 'u' }.ofInteger (unsignedWord x))
    else some (d.ofInteger (signedWord x))
  | 'i' => some (d.ofInteger (signedWord x))
  | 'u' | 'o' | 'x' | 'X' => some (d.ofInteger (unsignedWord x))
  | 'e' | 'f' | 'g' | 'E' | 'G' => some (d.ofDouble x)
  | _ => none

/-- The integer that a number is, if it has 31 bits and a sign. Others are treated like numbers that are
    no integers. -/
def smallInteger? (x : Binary64) : Option Int := x.integer?.filter fun n => n.natAbs < 2 ^ 31

/-- The text of a number that is an integer, if it is not too large. -/
def integerText? (x : Binary64) : Option Octets :=
  (smallInteger? x).map fun n => (toString n).toList

/-- The text of a number in a format for numbers that are no integers; none if the format is none
    such. -/
def numberText? (format : Octets) (x : Binary64) : Option Octets :=
  match integerText? x with
  | some t => some t
  | none =>
    if 1 < format.count '%' then none
    else
      let pieces := (readPieces (format.length + 1) format).map fun
        | .plain t => some t
        | .convert flags (.given width) none letter _ =>
          if letter = 'c' then some [Char.ofNat (x.wholePart % 256).toNat]
          else numberInField? { flags, width, letter } x
        | .convert flags (.given width) (some (.given n)) letter _ =>
          numberInField? { flags, width, precision := some n, letter } x
        | _ => none
      if pieces.all Option.isSome then some (pieces.filterMap id).flatten else none

/-- The format of numbers from the start. -/
def plainFormat : Octets := "%.6g".toList

/-- A value as a text, with a format for numbers. -/
def Cell.text? (format : Octets) : Cell → Option Octets
  | unset => some []
  | number x => numberText? format x
  | text t | input t => some t

/-- Why a format cannot be applied. -/
inductive FormatFault where
  | tooFew
  /-- The directive of a number is none. -/
  | improper (number : Nat)
  /-- A number has no text. -/
  | noText

/-- How a fault of a format is reported. -/
def FormatFault.text (who : String) (format : Octets) (fault : FormatFault) : Octets :=
  let place := (" " ++ who ++ "(\"").toList ++ format ++ "\")".toList
  match fault with
  | tooFew => "not enough arguments passed to".toList ++ place
  | improper n => ("improper conversion(number " ++ toString n ++ ") in").toList ++ place
  | noText => "illegal format assigned to CONVFMT".toList

/-- Takes the size that a directive needs from the arguments. -/
def takeSize (size : Size) (args : List Cell) : Option (Int × List Cell) :=
  match size, args with
  | .given n, args => some (n, args)
  | .argument, c :: rest => some (signedWord c.toNumber, rest)
  | .argument, [] => none

/-- A value in the field of a directive. -/
def cellInField (conversion : Octets) (d : Directive) (number : Nat) (c : Cell) : Except FormatFault Octets :=
  let byte (x : Binary64) : Octets := d.inField [Char.ofNat (signedWord x % 256).toNat]
  let first (t : Octets) : Octets := d.inField [t.headD '\x00']
  match d.letter with
  | 's' =>
    match c.text? conversion with
    | some t => .ok (d.ofText t)
    | none => .error .noText
  | 'c' =>
    .ok (match c with
      | .number x => byte x
      | .unset => first []
      | .text t => first t
      | .input t => ((numberLike? t).map byte).getD (first t))
  | _ =>
    match numberInField? d c.toNumber with
    | some t => .ok t
    | none => .error (.improper number)

/-- Fills arguments into the parts of a format, after some text in reverse order. What could be filled in
    comes out also if the rest cannot. -/
def fillPieces (conversion : Octets) : Nat → Octets → List FormatPart → List Cell → Octets × Option FormatFault
  | _, acc, [], _ => (acc.reverse, none)
  | number, acc, .plain t :: rest, args => fillPieces conversion number (t.reverse ++ acc) rest args
  | _, acc, .unfinished :: _, _ => (acc.reverse, some .tooFew)
  | number, acc, .convert flags width precision letter _ :: rest, args =>
    let sizes : Option (Int × Option Int × List Cell) := do
      let (w, args) ← takeSize width args
      match precision with
      | none => return (w, none, args)
      | some size =>
        let (p, args) ← takeSize size args
        return (w, some p, args)
    match sizes with
    | some (w, p, c :: args) =>
      let d : Directive :=
        { flags := if w < 0 then '-' :: flags else flags
          width := w.natAbs
          precision := p.bind fun p => if p < 0 then none else some p.toNat
          letter }
      match cellInField conversion d number c with
      | .ok t => fillPieces conversion (number + 1) (t.reverse ++ acc) rest args
      | .error fault => (acc.reverse, some fault)
    | _ => (acc.reverse, some .tooFew)

end Foreman.Shell.Records
