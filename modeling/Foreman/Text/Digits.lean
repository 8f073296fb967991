import Foreman.Number.Power

/-!
# `Foreman.Text.Digits` — numbers as digits

Documents write natural numbers in bases two, eight, ten and sixteen, sometimes with a fixed number
of digits.

## Contents
- **Reading**: `digit?`, `numeral?`, and `digitsValue` for decimal digits.
- **Writing**: `padded`, `hexText`.
- **Reading what is written**: `padded` gives digits, as many as the width, with the value of the number.
-/

namespace Foreman

/-! ## Reading -/

/-- The value of a digit in a base up to sixteen. -/
def digit? (base : Nat) (c : Char) : Option Nat :=
  let n :=
    if c.isDigit then c.toNat - 48
    else if 'a' ≤ c ∧ c ≤ 'f' then c.toNat - 87
    else if 'A' ≤ c ∧ c ≤ 'F' then c.toNat - 55
    else base
  if n < base then some n else none

/-- The value of a list of digits; the empty list is no number. -/
def numeral? (base : Nat) (cs : List Char) : Option Nat :=
  if cs.isEmpty then none
  else cs.foldlM (fun n c => (digit? base c).map (n * base + ·)) 0

/-- The value of a list of decimal digits. -/
def digitsValue (cs : List Char) : Nat := cs.foldl (fun n c => n * 10 + (c.toNat - 48)) 0

theorem digitsValue_eq (cs : List Char) : digitsValue cs = Nat.ofDigitChars 10 cs 0 := by
  simp only [digitsValue, Nat.ofDigitChars_eq_foldl, Nat.mul_comm]
  rfl

theorem isDigit_iff {c : Char} : c.isDigit = true ↔ 48 ≤ c.toNat ∧ c.toNat ≤ 57 := by
  simp only [Char.isDigit, Bool.and_eq_true, decide_eq_true_eq, UInt32.le_iff_toNat_le, ge_iff_le]
  exact Iff.rfl

theorem digitsValue_lt {cs : List Char} (h : ∀ c ∈ cs, c.isDigit = true) :
    digitsValue cs < 10 ^ cs.length := by
  rw [digitsValue_eq]
  induction cs with
  | nil => decide
  | cons c cs ih =>
    have htail := ih fun d hd => h d (List.mem_cons_of_mem c hd)
    have hdigit : c.toNat - '0'.toNat ≤ 9 :=
      Nat.sub_le_of_le_add (isDigit_iff.mp (h c List.mem_cons_self)).2
    have hhead := Nat.mul_le_mul_left (10 ^ cs.length) hdigit
    have hpos : 0 < 10 ^ cs.length := Nat.pow_pos (by decide)
    rw [Nat.ofDigitChars_cons, Nat.ofDigitChars_eq_ofDigitChars_zero, Nat.mul_zero, Nat.zero_add,
      List.length_cons, Nat.pow_succ]
    omega

/-! ## Writing -/

/-- Digits in a base with leading zeros up to a width. -/
def paddedIn (base width n : Nat) : String :=
  let ds := Nat.toDigits base n
  String.ofList (List.replicate (width - ds.length) '0' ++ ds)

/-- Decimal digits with leading zeros up to a width. -/
def padded (width n : Nat) : String := paddedIn 10 width n

/-- Hexadecimal digits with leading zeros up to a width. -/
def hexText (width n : Nat) : String := paddedIn 16 width n

/-! ## Reading what is written -/

theorem toList_padded (width n : Nat) : (padded width n).toList =
    List.replicate (width - (Nat.toDigits 10 n).length) '0' ++ Nat.toDigits 10 n := by
  simp only [padded, paddedIn, String.toList_ofList]

/-- Leading zeros do not count. -/
theorem digitsValue_padded (width n : Nat) : digitsValue (padded width n).toList = n := by
  rw [digitsValue_eq, toList_padded, Nat.ofDigitChars_append, Nat.ofDigitChars_replicate_zero,
    Nat.mul_zero, Nat.ofDigitChars_ten_toDigits]

theorem isDigit_of_mem_padded {width n : Nat} {c : Char} (h : c ∈ (padded width n).toList) :
    c.isDigit = true := by
  rw [toList_padded, List.mem_append] at h
  cases h with
  | inl h => rw [List.eq_of_mem_replicate h]; decide
  | inr h => exact Nat.isDigit_of_mem_toDigits (by decide) (Nat.le_refl 10) h

theorem length_padded {width n : Nat} (hwidth : 0 < width) (h : n < 10 ^ width) :
    (padded width n).toList.length = width := by
  have hlen := (Nat.length_toDigits_le_iff (by decide : 1 < 10) hwidth).mpr h
  rw [toList_padded, List.length_append, List.length_replicate, Nat.sub_add_cancel hlen]

theorem padded_eq_cons (width n : Nat) :
    ∃ d ds, (padded width n).toList = d :: ds ∧ d.isDigit = true := by
  cases h : (padded width n).toList with
  | nil =>
    rw [toList_padded] at h
    exact absurd (List.append_eq_nil_iff.mp h).2 Nat.toDigits_ne_nil
  | cons d ds => exact ⟨d, ds, rfl, isDigit_of_mem_padded (h ▸ List.mem_cons_self)⟩

theorem isEmpty_padded (width n : Nat) : (padded width n).toList.isEmpty = false := by
  obtain ⟨d, ds, h, -⟩ := padded_eq_cons width n
  rw [h]
  rfl

theorem takeWhile_padded (width n : Nat) :
    (padded width n).toList.takeWhile Char.isDigit = (padded width n).toList := by
  rw [← List.append_nil (padded width n).toList,
    List.takeWhile_append_of_pos fun c hc => isDigit_of_mem_padded hc, List.takeWhile_nil]

/-- The digits are found up to the first other character. -/
theorem takeWhile_padded_cons (width n : Nat) {c : Char} (hc : c.isDigit = false)
    (rest : List Char) :
    ((padded width n).toList ++ c :: rest).takeWhile Char.isDigit = (padded width n).toList := by
  rw [List.takeWhile_append_of_pos fun c hc => isDigit_of_mem_padded hc,
    List.takeWhile_cons_of_neg (by rw [hc]; exact Bool.false_ne_true), List.append_nil]

end Foreman
