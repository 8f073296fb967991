import Foreman.Shell.Utility.Basic

/-!
# `Foreman.Shell.Utility.Relations` — names in an order that relations ask for

Each pair of names is a relation: the first name comes before the second. Names with nothing left before
them are shown, those that were free first in the order of the alphabet. Where relations run in a circle,
one of them is dropped.

## Contents
- **`Relations`**: the names with what comes after them.
- `Relations.freed`: what showing a name sets free; `Relations.circle?`, a circle.
- `tsort`.
-/

namespace Foreman.Shell.Utility

/-- A name among others. -/
structure Member where
  name : Octets
  /-- The places of the names that come after it, the latest relation first. -/
  after : List Nat := []
  /-- How many names have to come before it. -/
  before : Nat := 0
  isShown : Bool := false

/-- Names in the order of the alphabet, with their relations. -/
abbrev Relations : Type := Array Member

namespace Relations

/-- The place of a name. -/
def placeOf (r : Relations) (name : Octets) : Nat := (r.findIdx? fun m => m.name = name).getD 0

/-- Adds a relation, unless it is one of a name with itself. -/
def relate (r : Relations) (pair : Octets × Octets) : Relations :=
  let (i, j) := (placeOf r pair.1, placeOf r pair.2)
  if i = j then r
  else (r.modify j fun m => { m with before := m.before + 1 }).modify i fun m =>
    { m with after := j :: m.after }

/-- The relations of some pairs. -/
def ofPairs (pairs : List (Octets × Octets)) : Relations :=
  let names := (pairs.flatMap fun (x, y) => [x, y]).mergeSort fun x y => !(y < x)
  let names := names.foldr (fun name acc => if acc.head? = some name then acc else name :: acc) []
  pairs.foldl relate (names.map fun name => ({ name } : Member)).toArray

/-- The names with nothing before them that are not yet shown. -/
def free (r : Relations) : List Nat :=
  (List.range r.size).filter fun i => r[i]?.any fun m => m.before = 0 && !m.isShown

/-- Takes back relations to some names; those that nothing is before any more are free. -/
def freed (r : Relations) : List Nat → Relations × List Nat
  | [] => (r, [])
  | j :: rest =>
    let r := r.modify j fun m => { m with before := m.before - 1 }
    let isFree := r[j]?.any fun m => m.before = 0
    let (r, more) := freed r rest
    (r, if isFree then j :: more else more)

/-- Shows names that are free, and those that become free by that. -/
def showing : Nat → Relations → List Nat → List Octets → Relations × List Octets
  | 0, r, _, shown => (r, shown)
  | _ + 1, r, [], shown => (r, shown)
  | fuel + 1, r, i :: queue, shown =>
    let m := r.getD i { name := [] }
    let (r, more) := freed (r.modify i fun m => { m with isShown := true }) m.after
    showing fuel r (queue ++ more) (m.name :: shown)

/-- Walks through the names, and goes back from a name to one before it, until the path bites its tail.
    The path has the latest name first; a circle is given without what led to it, and with its last
    relation. -/
def walk (r : Relations) (path : List Nat) : List Nat → List Nat × Option (List Nat × Nat × Nat)
  | [] => (path, none)
  | k :: rest =>
    match r[k]?, path with
    | some m, [] => if m.before = 0 then walk r [] rest else walk r [k] rest
    | some m, last :: _ =>
      if m.before = 0 ∨ !m.after.contains last then walk r path rest
      else if path.dropLast.contains k then
        (path, some (path.takeWhile (· ≠ k) ++ [k], k, last))
      else walk r (k :: path) rest
    | none, _ => walk r path rest

/-- A circle, and the relation in it that is dropped. -/
def circle? (r : Relations) : Nat → List Nat → Option (List Nat × Nat × Nat)
  | 0, _ => none
  | fuel + 1, path =>
    match walk r path (List.range r.size) with
    | (_, some found) => some found
    | (path, none) => circle? r fuel path

/-- Shows all names, and drops a relation of each circle. Texts come with the latest first. -/
def shown (blame : Octets) : Nat → Relations → List (Nat × Octets) → List (Nat × Octets)
  | 0, _, texts => texts
  | fuel + 1, r, texts =>
    let (r, names) := showing (2 * r.size + 1) r (free r) []
    let texts := names.reverse.foldl (fun texts name => (1, name ++ ['\n']) :: texts) texts
    if r.all Member.isShown then texts
    else
      match circle? r (r.size + 2) [] with
      | none => texts
      | some (circle, k, last) =>
        let name (i : Nat) : Octets := (r.getD i { name := [] }).name
        let line (text : Octets) : Nat × Octets := (2, "tsort: ".toList ++ text ++ ['\n'])
        let texts := line (blame ++ ": input contains a loop:".toList) :: texts
        let texts := circle.foldl (fun texts i => line (name i) :: texts) texts
        let r := (r.modify k fun m => { m with after := m.after.erase last }).modify last fun m =>
          { m with before := m.before - 1 }
        shown blame fuel r texts

end Relations

/-- The names of a text in pairs; none if one is alone. -/
def pairsOf? : List Octets → Option (List (Octets × Octets))
  | [] => some []
  | [_] => none
  | x :: y :: rest => (pairsOf? rest).map ((x, y) :: ·)

/-- Puts names into an order that pairs of them ask for. -/
def tsort : Utility := fun s args =>
  withArguments s.name 1 {} args fun a =>
    match a.operands with
    | _ :: extra :: _ => misuse 1 s.name ("extra operand ".toList ++ quotedText extra)
    | operands =>
      let path := operands.headD ['-']
      let (ds, r) := s.gather [path] (s.unreadable 1)
      let text := ds.flatMap fun d => d.data
      let words := (partsAt ' ' (text.map fun c => if c = '\t' ∨ c = '\n' then ' ' else c)).filter
        (!·.isEmpty)
      match pairsOf? words with
      | none => r.and (faultOf 1 s.name (nameInMessage path ++ ": input contains an odd number of tokens".toList))
      | some pairs =>
        let texts := (Relations.shown (nameInMessage path) (pairs.length + 1) (.ofPairs pairs) []).reverse
        { r with texts := r.texts ++ texts, status := if texts.any (·.1 = 2) then 1 else r.status }

end Foreman.Shell.Utility
