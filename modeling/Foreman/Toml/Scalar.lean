import Foreman.Text.Octets
import Foreman.Toml.Moment
import Foreman.Value

/-!
# `Foreman.Toml.Scalar` — unquoted values

A value without quotes or brackets is a truth value, an integer, a floating-point number, or a date or
time. Integers are decimal, or have a base mark; an underscore may stand between two digits. Some words
are numbers that cannot be read: they are no error until somebody wants to know the number.

## Contents
- `ungrouped?`: digits without their underscores.
- `integer?`, `number?`: numbers; `unreadable`, a number that is none.
- `momentValue`: how a date or time is kept as free-form data; `momentOf?` reads one.
- `scalar?`: the value of a word.
-/

namespace Foreman.Toml

/-- Digits without the underscores that may stand between two of them. -/
def ungrouped? (isDigit : Char → Bool) : List Char → Option (List Char)
  | [] => none
  | [c] => if isDigit c then some [c] else none
  | c :: '_' :: rest => if isDigit c then (ungrouped? isDigit rest).map (c :: ·) else none
  | c :: rest => if isDigit c then (ungrouped? isDigit rest).map (c :: ·) else none

/-- Decimal digits of a whole number, which start with zero only if there is no other. -/
def wholeDigits? (cs : List Char) : Option (List Char) := do
  let ds ← ungrouped? Char.isDigit cs
  if ds.head? = some '0' ∧ ds ≠ ['0'] then none else return ds

/-- A sign and what follows it. -/
def splitSign : List Char → Bool × List Char
  | '-' :: rest => (true, rest)
  | '+' :: rest => (false, rest)
  | cs => (false, cs)

/-- Whether an integer has 128 bits, as those that some field could hold. -/
def isWithinReach (n : Int) : Bool := -(2 ^ 127) ≤ n && n < 2 ^ 128

/-- A number that nothing can hold, which does no harm where nobody looks at it. -/
def unreadable : Value := .int (2 ^ 128)

/-- The digits of an integer with a base mark. Without any it cannot be read. -/
def basedInteger? (base : Nat) (cs : List Char) : Option Value :=
  if cs.isEmpty then some unreadable
  else do
    let ds ← ungrouped? (fun c => (digit? base c).isSome) cs
    return .int (← numeral? base ds)

/-- Whether the parts of an integer after its first underscore look like digits of base sixteen at each
    underscore. -/
def areDigitLike : List (List Char) → Bool
  | [] => true
  | [part] => part.head?.any fun c => (digit? 16 c).isSome
  | part :: rest =>
    (part.head?.any fun c => (digit? 16 c).isSome) &&
      (part.getLast?.any fun c => (digit? 16 c).isSome) && areDigitLike rest

/-- The decimal integer that a word writes. One that has something else than digits after an underscore
    cannot be read. -/
def decimal? (cs : List Char) : Option Value :=
  let (minus, rest) := splitSign cs
  match partsAt '_' rest with
  | [] => none
  | first :: others =>
    let isBegun := !first.isEmpty || (rest.length < cs.length && !others.isEmpty)
    if !isBegun ∨ !first.all Char.isDigit ∨ (first.head? = some '0' ∧ rest ≠ ['0']) ∨
        !areDigitLike others then none
    else
      let ds := first ++ others.flatten
      if ds.all Char.isDigit then
        let n : Int := digitsValue ds
        some (.int (if minus then -n else n))
      else some unreadable

/-- The integer that a word writes. A base mark stands without a sign. -/
def integer? (cs : List Char) : Option Value :=
  match cs with
  | '0' :: 'x' :: rest => basedInteger? 16 rest
  | '0' :: 'o' :: rest => basedInteger? 8 rest
  | '0' :: 'b' :: rest => basedInteger? 2 rest
  | cs => if cs.any fun c => c = '.' || c = 'e' || c = 'E' then none else decimal? cs

/-- The exponent of a decimal; leading zeros do not matter. -/
def exponent? (cs : List Char) : Option Int := do
  let (minus, rest) := splitSign cs
  let n : Int := digitsValue (← ungrouped? Char.isDigit rest)
  return if minus then -n else n

/-- The floating-point number that a word writes. A decimal beyond the greatest one cannot be read. -/
def number? (cs : List Char) : Option Value := do
  let (minus, rest) := splitSign cs
  if rest = ['i', 'n', 'f'] then return .float (.infinity minus)
  if rest = ['n', 'a', 'n'] then return .float .nan
  let rest := if rest.length < cs.length ∧ rest.head? = some '_' then rest.tail else rest
  let mantissa := rest.takeWhile fun c => c ≠ 'e' ∧ c ≠ 'E'
  let exponent ← match rest.drop mantissa.length with
    | _ :: cs => exponent? cs
    | [] => some 0
  let whole := mantissa.takeWhile (· ≠ '.')
  let places ← match mantissa.drop whole.length with
    | _ :: cs => ungrouped? Char.isDigit cs
    | [] => some []
  if whole.length = rest.length then none
  let digits := (← wholeDigits? whole) ++ places
  let x := Binary64.ofDecimal minus (digitsValue digits) (exponent - (places.length : Int))
  return if x.isFinite then .float x else unreadable

/-- The name that stands for dates and times in free-form data. -/
def momentName : String := "$__toml_private_datetime"

/-- A date or time as free-form data: a table whose only field holds the text. -/
def momentValue (m : Moment) : Value := .table [(momentName, .text m.text)]

/-- The date or time that a text writes. -/
def momentOf? (s : String) : Option Moment := Moment.parse? s.toList

/-- The value of an unquoted word. -/
def scalar? (cs : List Char) : Option Value :=
  if cs = ['t', 'r', 'u', 'e'] then some (.bool true)
  else if cs = ['f', 'a', 'l', 's', 'e'] then some (.bool false)
  else
    match integer? cs, Moment.parse? cs with
    | some v, _ => some v
    | none, some m => some (momentValue m)
    | none, none => number? cs

end Foreman.Toml
