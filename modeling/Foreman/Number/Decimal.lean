import Foreman.Number.Binary64

/-!
# `Foreman.Number.Decimal` — decimal texts of double-precision numbers

Reports write numbers in two ways: with the fewest digits that read back as the same number, always
positional, and with a fixed number of places.

## Contents
- **Shortest digits**: `Binary64.shortest` finds the least digit count for which some decimal lies in
  the interval of reals that round to the number, and the nearest such decimal.
- **Texts**: `Binary64.text` (shortest, positional) and `Binary64.fixed` (given places).
-/

namespace Foreman

namespace Binary64

/-! ## Shortest digits -/

/-- Whether `digits * 10 ^ exponent` reads back as the given positive word. -/
def readsBack (x : Binary64) (digits : Nat) (exponent : Int) : Bool :=
  ofDecimal false digits exponent == x

/-- The two neighbours of `num / den` on the grid of multiples of `10 ^ exponent`, the nearer one
    first, the upper one if both are equally near. -/
def gridNeighbours (num den : Nat) (exponent : Int) : Nat × Nat :=
  let n := if 0 ≤ exponent then num else num * 10 ^ (-exponent).toNat
  let d := if 0 ≤ exponent then den * 10 ^ exponent.toNat else den
  let below := n / d
  if 2 * (n % d) < d then (below, below + 1) else (below + 1, below)

/-- Searches the grids from coarse to fine for a decimal that reads back. -/
def searchGrids (x : Binary64) (num den : Nat) : Nat → Int → Nat × Int
  | 0, exponent => ((gridNeighbours num den exponent).1, exponent)
  | fuel + 1, exponent =>
    let (near, far) := gridNeighbours num den exponent
    if x.readsBack near exponent then (near, exponent)
    else if x.readsBack far exponent then (far, exponent)
    else searchGrids x num den fuel (exponent - 1)

/-- Digits and power of ten of the shortest decimal that reads back as a positive number
    `m * 2 ^ e`, the nearest one among those of that length. -/
def shortest (x : Binary64) (m : Nat) (e : Int) : Nat × Int :=
  let num := if 0 ≤ e then m * 2 ^ e.toNat else m
  let den := if 0 ≤ e then 1 else 2 ^ (-e).toNat
  -- one more than the decimal exponent of the number
  let top : Int := ((Nat.toDigits 10 (num / den)).length : Int)
  let start : Int := if num / den = 0 then -((Nat.toDigits 10 (den / num)).length : Int) else top
  searchGrids x num den 20 start

/-! ## Texts -/

/-- Decimal digits of a natural number. -/
def digitText (n : Nat) : String := String.ofList (Nat.toDigits 10 n)

/-- A decimal `digits * 10 ^ exponent` written without an exponent. -/
def positional (digits : Nat) (exponent : Int) : String :=
  if 0 ≤ exponent then digitText (digits * 10 ^ exponent.toNat)
  else
    let places := (-exponent).toNat
    let whole := digits / 10 ^ places
    let part := (Nat.toDigits 10 (digits % 10 ^ places))
    let padded := List.replicate (places - part.length) '0' ++ part
    let kept := (padded.reverse.dropWhile (· == '0')).reverse
    if kept.isEmpty then digitText whole
    else digitText whole ++ "." ++ String.ofList kept

/-- The shortest text that reads back, always positional, with no point in an integer. -/
def text (x : Binary64) : String :=
  match x.reading with
  | .nan => "NaN"
  | .infinite negative => if negative then "-inf" else "inf"
  | .finite negative m e =>
    let sign := if negative then "-" else ""
    if m = 0 then sign ++ "0"
    else
      let (digits, exponent) := (ofScaled false m e).shortest m e
      sign ++ positional digits exponent

/-- The text with exactly `places` digits after the point, the exact value rounded to nearest with
    ties to even. -/
def fixed (x : Binary64) (places : Nat) : String :=
  match x.reading with
  | .nan => "NaN"
  | .infinite negative => if negative then "-inf" else "inf"
  | .finite negative m e =>
    let sign := if negative then "-" else ""
    let num := if 0 ≤ e then m * 2 ^ e.toNat else m
    let den := if 0 ≤ e then 1 else 2 ^ (-e).toNat
    let n := roundQuotient (num * 10 ^ places) den
    let part := Nat.toDigits 10 (n % 10 ^ places)
    let padded := List.replicate (places - part.length) '0' ++ part
    let whole := digitText (n / 10 ^ places)
    if places = 0 then sign ++ whole else sign ++ whole ++ "." ++ String.ofList padded

example : (ofDecimal false 5 (-1)).text = "0.5" := by decide +kernel

example : (ofDecimal false 11 (-1)).text = "1.1" := by decide +kernel

example : (ofDecimal false 1 21).text = "1000000000000000000000" := by decide +kernel

example : (ofDecimal false 125 (-1)).fixed 0 = "12" := by decide +kernel

end Binary64

end Foreman
