import Foreman.Number.Rounding

/-!
# `Foreman.Number.Extended` — numbers with 64 bits that count

Every operation computes the exact result and rounds it once, to the nearest number with ties to even. There
is no largest number and no least one.

## Contents
- **`Extended`**: `ofRatio`, `ofInt`; `add`, `sub`, `mul`, `div`.
- `ratio`, and whole numbers near a number: `floor`, `ceiling`, `truncated`.
-/

namespace Foreman

/-- The number `significand * 2 ^ exponent`. -/
structure Extended where
  significand : Int
  exponent : Int
  deriving DecidableEq

namespace Extended

/-- The number nearest to a quotient. -/
def ofRatio (num : Int) (den : Nat) : Extended :=
  let n := num.natAbs
  if n = 0 then ⟨0, 0⟩
  else
    let scaled (e : Int) : Nat × Nat :=
      if 0 ≤ e then (n, den * 2 ^ e.toNat) else (n * 2 ^ (-e).toNat, den)
    let low : Int := (Nat.log2 n : Int) - (Nat.log2 den : Int) - 64
    let (a, b) := scaled low
    let e := if 2 ^ 64 ≤ a / b then low + 1 else low
    let (a, b) := scaled e
    let m : Int := roundQuotient a b
    ⟨if num < 0 then -m else m, e⟩

/-- The number nearest to an integer. -/
def ofInt (n : Int) : Extended := ofRatio n 1

/-- The number as a quotient. -/
def ratio (x : Extended) : Int × Nat :=
  if 0 ≤ x.exponent then (x.significand * 2 ^ x.exponent.toNat, 1)
  else (x.significand, 2 ^ (-x.exponent).toNat)

/-- The number nearest to a sum. -/
def add (x y : Extended) : Extended :=
  let (a, b) := x.ratio
  let (c, d) := y.ratio
  ofRatio (a * d + c * b) (b * d)

/-- The number nearest to a difference. -/
def sub (x y : Extended) : Extended := x.add { y with significand := -y.significand }

/-- The number nearest to a product. -/
def mul (x y : Extended) : Extended :=
  let (a, b) := x.ratio
  let (c, d) := y.ratio
  ofRatio (a * c) (b * d)

/-- The number nearest to a quotient; a quotient by zero is zero. -/
def div (x y : Extended) : Extended :=
  let (a, b) := x.ratio
  let (c, d) := y.ratio
  if c = 0 then ⟨0, 0⟩
  else ofRatio (if c < 0 then -(a * d) else a * d) (b * c.natAbs)

/-- Whether the number is below zero. -/
def isNegative (x : Extended) : Bool := x.significand < 0

/-- Whether the number is as far from zero as an integer, or farther. -/
def isAtLeast (x : Extended) (n : Nat) : Bool :=
  let (a, b) := x.ratio
  n * b ≤ a.natAbs

/-- The greatest integer that is not greater. -/
def floor (x : Extended) : Int :=
  let (a, b) := x.ratio
  a.fdiv b

/-- The least integer that is not less. -/
def ceiling (x : Extended) : Int :=
  let (a, b) := x.ratio
  (a + b - 1).fdiv b

/-- The integer next to the number towards zero. -/
def truncated (x : Extended) : Int :=
  let (a, b) := x.ratio
  a.tdiv b

end Extended

end Foreman
