import Foreman.Number.Rounding

/-!
# `Foreman.Number.Binary64` — double-precision floating point, in exact arithmetic

A `Binary64` is a 64-bit word. Its meaning is read off the fields of the word, and every operation
computes the exact rational result and rounds it once, to the nearest representable number with ties
to even. No machine floating point is involved, so equality of numbers is equality of words.

## Contents
- **Reading a word**: `Binary64.reading`.
- **Writing the nearest word**: `Binary64.ofRatio`, `ofScaled`, `ofNat`, `ofInt`, `ofDecimal`.
- **Arithmetic**: `add`, `mul`, `div`, `neg`, and the order `lt`.
- **Whole parts**: `wholePart`, `integer?`, `truncated`, `rem`.
-/

namespace Foreman

/-- A double-precision number, as its word. -/
structure Binary64 where
  bits : UInt64
  deriving DecidableEq

namespace Binary64

/-! ## Reading a word -/

/-- What a word denotes; a finite number is `± significand * 2 ^ exponent`. -/
inductive Reading where
  | nan
  | infinite (negative : Bool)
  | finite (negative : Bool) (significand : Nat) (exponent : Int)
  deriving DecidableEq

/-- The meaning of a word by its sign, exponent and fraction fields. -/
def reading (x : Binary64) : Reading :=
  let n := x.bits.toNat
  let negative := decide (2 ^ 63 ≤ n)
  let biased : Nat := n / 2 ^ 52 % 2 ^ 11
  let fraction : Nat := n % 2 ^ 52
  if biased = 2047 then
    if fraction = 0 then .infinite negative else .nan
  else if biased = 0 then .finite negative fraction (-1074)
  else .finite negative (2 ^ 52 + fraction) ((biased : Int) - 1075)

/-- Whether the word is neither infinite nor a NaN. -/
def isFinite (x : Binary64) : Bool :=
  match x.reading with
  | .finite .. => true
  | _ => false

/-- Whether the sign bit is set. -/
def isNegative (x : Binary64) : Bool := decide (2 ^ 63 ≤ x.bits.toNat)

/-! ## Writing the nearest word -/

/-- The word with the given sign bit over the given lower 63 bits. -/
def ofFields (negative : Bool) (lower : Nat) : Binary64 :=
  ⟨UInt64.ofNat (if negative then 2 ^ 63 + lower else lower)⟩

/-- The word read as not-a-number. -/
def nan : Binary64 := ofFields false (2047 * 2 ^ 52 + 2 ^ 51)

/-- The two infinities. -/
def infinity (negative : Bool) : Binary64 := ofFields negative (2047 * 2 ^ 52)

/-- The two zeros. -/
def zero (negative : Bool) : Binary64 := ofFields negative 0

/-- The number nearest to `± num / den`, ties to even; beyond the largest number, an infinity.
    The exponent is chosen so that the significand has 53 bits, or is the least one for small numbers. -/
def ofRatio (negative : Bool) (num den : Nat) : Binary64 :=
  if num = 0 then zero negative
  else
    let scaled (e : Int) : Nat × Nat :=
      if 0 ≤ e then (num, den * 2 ^ e.toNat) else (num * 2 ^ (-e).toNat, den)
    let low : Int := (Nat.log2 num : Int) - (Nat.log2 den : Int) - 53
    let parts := scaled low
    let wanted := if 2 ^ 53 ≤ parts.1 / parts.2 then low + 1 else low
    let e := max wanted (-1074)
    let parts := scaled e
    let m := roundQuotient parts.1 parts.2
    let m' := if m = 2 ^ 53 then 2 ^ 52 else m
    let e' := if m = 2 ^ 53 then e + 1 else e
    if m' < 2 ^ 52 then ofFields negative m'
    else if 971 < e' then infinity negative
    else ofFields negative ((e' + 1075).toNat * 2 ^ 52 + (m' - 2 ^ 52))

/-- The number nearest to `± significand * 2 ^ exponent`. -/
def ofScaled (negative : Bool) (significand : Nat) (exponent : Int) : Binary64 :=
  if 0 ≤ exponent then ofRatio negative (significand * 2 ^ exponent.toNat) 1
  else ofRatio negative significand (2 ^ (-exponent).toNat)

/-- The number nearest to a natural number. -/
def ofNat (n : Nat) : Binary64 := ofRatio false n 1

/-- The number nearest to an integer. -/
def ofInt (n : Int) : Binary64 := ofRatio (decide (n < 0)) n.natAbs 1

/-- The number nearest to `± digits * 10 ^ exponent`. An exponent that takes every such number past
    the largest or below half the least one is not expanded. -/
def ofDecimal (negative : Bool) (digits : Nat) (exponent : Int) : Binary64 :=
  if digits = 0 then zero negative
  else if 400 < exponent then infinity negative
  else if exponent < -400 - (Nat.log2 digits : Int) then zero negative
  else if 0 ≤ exponent then ofRatio negative (digits * 10 ^ exponent.toNat) 1
  else ofRatio negative digits (10 ^ (-exponent).toNat)

/-! ## Arithmetic -/

/-- A signed significand at a common, lower exponent. -/
def alignedTo (e : Int) (negative : Bool) (m : Nat) (exponent : Int) : Int :=
  let n : Int := (m * 2 ^ (exponent - e).toNat : Nat)
  if negative then -n else n

/-- The nearest number to the exact sum. -/
def add (x y : Binary64) : Binary64 :=
  match x.reading, y.reading with
  | .nan, _ => nan
  | _, .nan => nan
  | .infinite a, .infinite b => if a = b then infinity a else nan
  | .infinite a, _ => infinity a
  | _, .infinite b => infinity b
  | .finite a m e, .finite b n f =>
    let low := min e f
    let sum := alignedTo low a m e + alignedTo low b n f
    if sum = 0 then zero (a && b) else ofScaled (decide (sum < 0)) sum.natAbs low

/-- The nearest number to the exact product. -/
def mul (x y : Binary64) : Binary64 :=
  match x.reading, y.reading with
  | .nan, _ => nan
  | _, .nan => nan
  | .infinite a, .infinite b => infinity (a != b)
  | .infinite a, .finite b n _ => if n = 0 then nan else infinity (a != b)
  | .finite a m _, .infinite b => if m = 0 then nan else infinity (a != b)
  | .finite a m e, .finite b n f => ofScaled (a != b) (m * n) (e + f)

/-- The nearest number to the exact quotient. -/
def div (x y : Binary64) : Binary64 :=
  match x.reading, y.reading with
  | .nan, _ => nan
  | _, .nan => nan
  | .infinite _, .infinite _ => nan
  | .infinite a, .finite b _ _ => infinity (a != b)
  | .finite a _ _, .infinite b => zero (a != b)
  | .finite a m e, .finite b n f =>
    if n = 0 then (if m = 0 then nan else infinity (a != b))
    else if 0 ≤ e - f then ofRatio (a != b) (m * 2 ^ (e - f).toNat) n
    else ofRatio (a != b) m (n * 2 ^ (f - e).toNat)

/-- Numeric order; a NaN is not less than anything, nor anything less than it. -/
def lt (x y : Binary64) : Bool :=
  match x.reading, y.reading with
  | .nan, _ => false
  | _, .nan => false
  | .infinite a, .infinite b => a && !b
  | .infinite a, .finite .. => a
  | .finite .., .infinite b => !b
  | .finite a m e, .finite b n f =>
    let low := min e f
    decide (alignedTo low a m e < alignedTo low b n f)

/-- The number with the other sign. -/
def neg (x : Binary64) : Binary64 := ⟨x.bits ^^^ 0x8000000000000000⟩

/-- Whether the word is read as not-a-number. -/
def isNaN (x : Binary64) : Bool :=
  match x.reading with
  | .nan => true
  | _ => false

/-- Whether the number is one of the two zeros. -/
def isZero (x : Binary64) : Bool :=
  match x.reading with
  | .finite _ m _ => m = 0
  | _ => false

/-! ## Whole parts -/

/-- The integer towards zero from a finite number. -/
def wholePart (x : Binary64) : Int :=
  match x.reading with
  | .finite negative m e =>
    let n : Nat := if 0 ≤ e then m * 2 ^ e.toNat else m / 2 ^ (-e).toNat
    if negative then -n else n
  | _ => 0

/-- The integer that a number is. -/
def integer? (x : Binary64) : Option Int :=
  match x.reading with
  | .finite negative m e =>
    let signed (n : Nat) : Int := if negative then -n else n
    if 0 ≤ e then some (signed (m * 2 ^ e.toNat))
    else if m % 2 ^ (-e).toNat = 0 then some (signed (m / 2 ^ (-e).toNat))
    else none
  | _ => none

/-- A number without the part after the point, with its sign. -/
def truncated (x : Binary64) : Binary64 :=
  if x.isFinite then ofRatio x.isNegative x.wholePart.natAbs 1 else x

/-- What is left of a number after taking away another one as often as possible. It has the sign of the
    first number, and is exact. -/
def rem (x y : Binary64) : Binary64 :=
  match x.reading, y.reading with
  | .finite .., .infinite _ => x
  | .finite a m e, .finite _ n f =>
    let low := min e f
    let divisor := n * 2 ^ (f - low).toNat
    if divisor = 0 then nan else ofScaled a (m * 2 ^ (e - low).toNat % divisor) low
  | _, _ => nan

example : (ofNat 1).bits = 0x3ff0000000000000 := by decide +kernel

example : (mul (ofDecimal false 1 (-1)) (ofNat 3)).bits = 0x3fd3333333333334 := by decide +kernel

end Binary64

end Foreman
