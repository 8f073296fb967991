import Foreman.Number.Binary64
import Mathlib.Algebra.Order.Field.Power
import Mathlib.Algebra.Order.Field.Rat
import Mathlib.Tactic.NormNum
import Mathlib.Tactic.Ring

/-!
# `Foreman.Proofs.Numbers` — what double-precision numbers stand for

A word that is finite stands for a rational number, `value?`. Comparisons bring two significands to the
lower of their exponents, which keeps what they stand for (`alignedTo_eq`); so they compare rational
numbers (`lt_iff`). The number nearest to an integer of 64 bits is finite (`isFinite_ofInt`).
-/

namespace Foreman
namespace Binary64

variable {x y : Binary64} {p q : ℚ} {negative : Bool} {m : Nat} {e low : Int}

/-- The number that a significand with a sign and an exponent stands for. -/
def scaled (negative : Bool) (m : Nat) (e : Int) : ℚ := (if negative then -(m : ℚ) else m) * 2 ^ e

/-- The number that a finite word stands for. -/
def value? (x : Binary64) : Option ℚ :=
  match x.reading with
  | .finite negative m e => some (scaled negative m e)
  | _ => none

theorem value?_eq_some_iff : x.value? = some q ↔
    ∃ negative m e, x.reading = .finite negative m e ∧ scaled negative m e = q := by
  unfold value?
  cases x.reading with
  | nan => simp
  | infinite negative => simp
  | finite negative m e =>
      simp only [Option.some.injEq, Reading.finite.injEq]
      exact ⟨fun h => ⟨negative, m, e, ⟨rfl, rfl, rfl⟩, h⟩, fun ⟨_, _, _, ⟨rfl, rfl, rfl⟩, h⟩ => h⟩

theorem isFinite_iff : x.isFinite = true ↔ ∃ q, x.value? = some q := by
  unfold isFinite value?
  cases x.reading <;> simp

/-- A significand at a lower exponent stands for the same number. -/
theorem alignedTo_eq (h : low ≤ e) :
    (alignedTo low negative m e : ℚ) * 2 ^ low = scaled negative m e := by
  have hpow : (2 : ℚ) ^ e = 2 ^ (e - low).toNat * 2 ^ low := by
    rw [← zpow_natCast, ← zpow_add₀ two_ne_zero, Int.toNat_of_nonneg (by omega), sub_add_cancel]
  unfold alignedTo scaled
  rw [hpow]
  cases negative with
  | false =>
      simp only [Bool.false_eq_true, if_false]
      push_cast
      ring
  | true =>
      simp only [if_true]
      push_cast
      ring

/-- **Words are compared as the numbers that they stand for.** -/
theorem lt_iff (hx : x.value? = some p) (hy : y.value? = some q) : x.lt y = true ↔ p < q := by
  obtain ⟨a, m, e, hreadx, rfl⟩ := value?_eq_some_iff.mp hx
  obtain ⟨b, n, f, hready, rfl⟩ := value?_eq_some_iff.mp hy
  have hpos : (0 : ℚ) < 2 ^ min e f := zpow_pos two_pos _
  rw [lt, hreadx, hready, decide_eq_true_iff, ← alignedTo_eq (Int.min_le_left e f),
    ← alignedTo_eq (Int.min_le_right e f), mul_lt_mul_iff_left₀ hpos, Int.cast_lt]

theorem value?_ofNat_one : (ofNat 1).value? = some 1 := by
  have hread : (ofNat 1).reading = .finite false (2 ^ 52) (-52) := by decide +kernel
  refine value?_eq_some_iff.mpr ⟨false, 2 ^ 52, -52, hread, ?_⟩
  norm_num [scaled]

/-! ## Integers -/

theorem toNat_ofFields {lower : Nat} (h : lower < 2 ^ 63) :
    (ofFields negative lower).bits.toNat = if negative then 2 ^ 63 + lower else lower := by
  unfold ofFields
  rw [UInt64.toNat_ofNat']
  apply Nat.mod_eq_of_lt
  split <;> omega

/-- A word below the infinities, the sign aside, is finite. -/
theorem isFinite_ofFields {lower : Nat} (h : lower < 2047 * 2 ^ 52) :
    (ofFields negative lower).isFinite = true := by
  have hbits : (ofFields negative lower).bits.toNat = _ := toNat_ofFields (by omega)
  have hbiased : (ofFields negative lower).bits.toNat / 2 ^ 52 % 2 ^ 11 ≠ 2047 := by
    rw [hbits]
    split <;> omega
  unfold isFinite
  simp only [reading, hbiased, if_false]
  split
  · rfl
  · next hfinite =>
    split at hfinite
    · exact absurd rfl (hfinite _ _ _)
    · exact absurd rfl (hfinite _ _ _)

/-- The quotient that is rounded has few bits, when the exponent is near the size of the number. -/
theorem scaledQuotient_lt {num : Nat} (h : (Nat.log2 num : Int) ≤ e + 53) :
    (if 0 ≤ e then (num, 1 * 2 ^ e.toNat) else (num * 2 ^ (-e).toNat, 1)).1 /
      (if 0 ≤ e then (num, 1 * 2 ^ e.toNat) else (num * 2 ^ (-e).toNat, 1)).2 < 2 ^ 54 := by
  have hlt : num < 2 ^ (Nat.log2 num + 1) := Nat.lt_log2_self
  split
  · have hpow : 2 ^ (Nat.log2 num + 1) ≤ 1 * 2 ^ e.toNat * 2 ^ 54 := by
      rw [one_mul, ← pow_add]
      exact Nat.pow_le_pow_right two_pos (by omega)
    exact Nat.div_lt_of_lt_mul (hlt.trans_le hpow)
  · have hpow : 2 ^ (Nat.log2 num + 1) * 2 ^ (-e).toNat ≤ 2 ^ 54 := by
      rw [← pow_add]
      exact Nat.pow_le_pow_right two_pos (by omega)
    rw [Nat.div_one]
    exact (Nat.mul_lt_mul_of_pos_right hlt (Nat.pow_pos two_pos)).trans_le hpow

theorem isFinite_ofRatio_one {num : Nat} (h : num ≤ 2 ^ 64) :
    (ofRatio negative num 1).isFinite = true := by
  by_cases hzero : num = 0
  · rw [hzero]
    exact isFinite_ofFields (by decide)
  · have hlog : Nat.log2 num < 65 := (Nat.log2_lt hzero).mpr (by omega)
    have hone : Nat.log2 1 = 0 := by decide
    unfold ofRatio
    rw [if_neg hzero]
    extract_lets scaled low parts wanted e parts' m m' e'
    have hlow : low = (Nat.log2 num : Int) - 53 := by
      simp only [low, hone]
      omega
    have he : low ≤ e ∧ e ≤ low + 1 := by
      have hwanted : low ≤ wanted ∧ wanted ≤ low + 1 := by
        simp only [wanted]
        split <;> omega
      simp only [e]
      omega
    have hquotient : parts'.1 / parts'.2 < 2 ^ 54 := scaledQuotient_lt (by omega)
    have hround : m ≤ parts'.1 / parts'.2 + 1 := roundQuotient_le _ _
    have hm : m' ≤ 2 ^ 54 := by
      simp only [m']
      split <;> omega
    have he' : -53 ≤ e' ∧ e' ≤ 13 := by
      simp only [e']
      split <;> omega
    split
    · exact isFinite_ofFields (by omega)
    · rw [if_neg (by omega)]
      exact isFinite_ofFields (by omega)

/-- **The number nearest to an integer of 64 bits is finite.** -/
theorem isFinite_ofInt {n : Int} (hleast : -2 ^ 63 ≤ n) (hmost : n < 2 ^ 64) :
    (ofInt n).isFinite = true := isFinite_ofRatio_one (by omega)

end Binary64
end Foreman
