/-!
# `Foreman.Text.Blank` — blank characters

Labels and ids are compared without the blanks around them. A blank is a character with the Unicode
property `White_Space`.

## Contents
- `isBlank`.
- `trimBlanks`, `trimBlanksEnd`, and `foldCase` for labels made of ASCII letters.
- `trimBlanks_trimBlanks`: what was trimmed stays as it is.
-/

namespace Foreman

/-- Whether a character has the Unicode property `White_Space`. -/
def isBlank (c : Char) : Bool :=
  let n := c.toNat
  (9 ≤ n && n ≤ 13) || n == 0x20 || n == 0x85 || n == 0xA0 || n == 0x1680 ||
    (0x2000 ≤ n && n ≤ 0x200A) || n == 0x2028 || n == 0x2029 || n == 0x202F || n == 0x205F ||
    n == 0x3000

/-- The list without leading blanks. -/
def dropBlanks (cs : List Char) : List Char := cs.dropWhile isBlank

theorem dropBlanks_eq_self_or (cs : List Char) :
    dropBlanks cs = [] ∨ ∃ c rest, dropBlanks cs = c :: rest ∧ isBlank c = false := by
  induction cs with
  | nil => exact .inl rfl
  | cons c cs ih =>
    cases h : isBlank c with
    | true => simpa [dropBlanks, List.dropWhile, h] using ih
    | false => exact .inr ⟨c, cs, by simp [dropBlanks, List.dropWhile, h], h⟩

theorem dropBlanks_cons_of_not {c : Char} (rest : List Char) (h : isBlank c = false) :
    dropBlanks (c :: rest) = c :: rest := by
  simp [dropBlanks, List.dropWhile, h]

theorem dropBlanks_dropBlanks (cs : List Char) : dropBlanks (dropBlanks cs) = dropBlanks cs := by
  rcases dropBlanks_eq_self_or cs with h | ⟨c, rest, h, hc⟩
  · rw [h]; rfl
  · rw [h, dropBlanks_cons_of_not rest hc]

/-- Dropping blanks at the end keeps a front without blanks. -/
theorem dropBlanks_reverse_dropBlanks {cs : List Char} (h : dropBlanks cs = cs) :
    dropBlanks (dropBlanks cs.reverse).reverse = (dropBlanks cs.reverse).reverse := by
  have hp : (dropBlanks cs.reverse).reverse <+: cs := by
    rw [← List.reverse_reverse cs, List.reverse_prefix, List.reverse_reverse]
    exact List.dropWhile_suffix isBlank
  rcases dropBlanks_eq_self_or cs with hn | ⟨c, rest, hc, hb⟩
  · have : cs = [] := h.symm.trans hn
    subst this; rfl
  · have hcs : cs = c :: rest := h.symm.trans hc
    cases hr : (dropBlanks cs.reverse).reverse with
    | nil => rfl
    | cons d more =>
      rw [hr, hcs, List.cons_prefix_cons] at hp
      exact dropBlanks_cons_of_not more (hp.1 ▸ hb)

/-- The text without trailing blanks. -/
def trimBlanksEnd (s : String) : String :=
  String.ofList (dropBlanks s.toList.reverse).reverse

/-- The text without leading and trailing blanks. -/
def trimBlanks (s : String) : String :=
  String.ofList (dropBlanks (dropBlanks s.toList).reverse).reverse

theorem trimBlanks_trimBlanks (s : String) : trimBlanks (trimBlanks s) = trimBlanks s := by
  simp only [trimBlanks, String.toList_ofList]
  rw [dropBlanks_reverse_dropBlanks (dropBlanks_dropBlanks _), List.reverse_reverse,
    dropBlanks_reverse_dropBlanks (dropBlanks_dropBlanks _)]

/-- The text with the ASCII letters in lower case. -/
def foldCase (s : String) : String := String.ofList (s.toList.map Char.toLower)

end Foreman
