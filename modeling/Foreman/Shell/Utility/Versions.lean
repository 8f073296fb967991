import Foreman.Text.Digits
import Foreman.Text.Octets

/-!
# `Foreman.Shell.Utility.Versions` — the order of names with versions in them

Numbers in names are compared as numbers, so that `a9` is in front of `a10`. A tilde comes before
everything, even before the end of a name, and the suffixes of files count only if all else is equal.

## Contents
- `compareVersionParts`: the order of texts with numbers in them.
- `stemOf`: a name without its suffixes; `namePlace`: hidden names.
- `compareVersions`.
-/

namespace Foreman.Shell.Utility

/-- The rank of the next character in the order of versions. The end is in front of all but a tilde. -/
def versionRank : Option Char → Int
  | none => -1
  | some c =>
    if c.isDigit then 0 else if c.isAlpha then c.toNat else if c = '~' then -2 else c.toNat + 256

/-- The order of two versions: parts without digits and numbers take turns. -/
def compareVersionParts : Nat → Octets → Octets → Ordering
  | 0, _, _ => .eq
  | fuel + 1, x, y =>
    if x.isEmpty ∧ y.isEmpty then .eq
    else if x.head?.any (!·.isDigit) ∨ y.head?.any (!·.isDigit) then
      (Ord.compare (versionRank x.head?) (versionRank y.head?)).then
        (compareVersionParts fuel x.tail y.tail)
    else
      let (u, v) := (x.takeWhile Char.isDigit, y.takeWhile Char.isDigit)
      (Ord.compare (digitsValue u) (digitsValue v)).then
        (compareVersionParts fuel (x.drop u.length) (y.drop v.length))

/-- The text after suffixes of a file name, each of a point and a word. -/
def afterSuffixes : Nat → Octets → Octets
  | 0, cs => cs
  | fuel + 1, cs =>
    match cs with
    | '.' :: c :: rest =>
      if c.isAlpha ∨ c = '~' then
        afterSuffixes fuel (rest.dropWhile fun c => c.isAlphanum ∨ c = '~')
      else cs
    | cs => cs

/-- A file name of at most a given length without the suffixes at its end. Its first character is no
    part of them. -/
def stemOf : Nat → Octets → Octets
  | 0, cs => cs
  | fuel + 1, cs =>
    match cs with
    | [] => []
    | c :: rest =>
      let after := afterSuffixes rest.length rest
      if after.isEmpty then [c] else c :: (rest.take (rest.length - after.length) ++ stemOf fuel after)

/-- Where the special names of files are in the order of versions. -/
def namePlace (cs : Octets) : Nat :=
  match cs with
  | [] => 0
  | ['.'] => 1
  | ['.', '.'] => 2
  | '.' :: _ => 3
  | _ => 4

/-- The order of two names of files with versions in them, first without their suffixes. -/
def compareVersions (x y : Octets) : Ordering :=
  let parts (x y : Octets) := compareVersionParts (x.length + y.length + 1) x y
  ((Ord.compare (namePlace x) (namePlace y)).then
    (parts (stemOf x.length x) (stemOf y.length y))).then (parts x y)

end Foreman.Shell.Utility
