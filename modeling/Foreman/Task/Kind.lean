import Foreman.Text.Blank

/-!
# `Foreman.Task.Kind` — what sort of work a task is

Planning never looks at the kind of a task. It is handed to the runner and written into episodes, so
that what happened can be classified later.

## Contents
- **`TaskKind`** with its `label` and the reading `TaskKind.ofLabel`.
- `ofLabel_label`: reading a label that was read before changes nothing further.
-/

namespace Foreman

/-- The sort of work a task is; `custom` carries any other label. -/
inductive TaskKind where
  | development
  | review
  | testing
  | documentation
  | custom (label : String)
  deriving DecidableEq, Inhabited

namespace TaskKind

/-- The word that stands for the kind. -/
def label : TaskKind → String
  | development => "development"
  | review => "review"
  | testing => "testing"
  | documentation => "documentation"
  | custom label => label

/-- Reads a label. Blanks around it and the case of its letters do not matter for the four known
    kinds and their short names; any other label is kept without the blanks around it. Only the ASCII
    letters need folding: no other character has a letter of these words as its lower case. -/
def ofLabel (s : String) : TaskKind :=
  let folded := foldCase (trimBlanks s)
  if folded = "development" ∨ folded = "dev" then development
  else if folded = "review" then review
  else if folded = "testing" ∨ folded = "test" then testing
  else if folded = "documentation" ∨ folded = "docs" then documentation
  else custom (trimBlanks s)

theorem ofLabel_trimBlanks (s : String) : ofLabel (trimBlanks s) = ofLabel s := by
  simp only [ofLabel, trimBlanks_trimBlanks]

theorem ofLabel_label (s : String) : ofLabel (ofLabel s).label = ofLabel s := by
  cases h : ofLabel s with
  | development => decide +kernel
  | review => decide +kernel
  | testing => decide +kernel
  | documentation => decide +kernel
  | custom label =>
    have hl : label = trimBlanks s := by
      simp only [ofLabel] at h
      repeat' split at h
      all_goals simp_all
    simpa only [hl, TaskKind.label, ofLabel_trimBlanks] using h

/-- Whether the kind is none of the four known ones. -/
def isCustom : TaskKind → Bool
  | custom _ => true
  | _ => false

end TaskKind

end Foreman
