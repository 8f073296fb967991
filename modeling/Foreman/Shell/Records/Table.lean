import Std.Data.HashMap
import Foreman.Shell.Records.Cell

/-!
# `Foreman.Shell.Records.Table` — arrays

The order in which a program goes through the keys of an array is no part of its meaning, but it can be
seen. Keys are in buckets, those with integers by these, and those with texts by a sum over the text, and
the key that was used last comes first in its bucket. Integers are given texts only when a text is
looked for.

## Contents
- **`Key`**; **`Table`** with `find`, `require`, `erase`, `keys`.
- `Table.ofPieces`: the array of the pieces of a text.
-/

namespace Foreman.Shell.Records

/-- A key. -/
inductive Key where
  | number (n : Int)
  | text (t : Octets)

/-- The text of a key. -/
def Key.name : Key → Octets
  | number n => (toString n).toList
  | text t => t

/-- The key of a value: integers that are not too large stand for themselves. -/
def Key.ofCell? (format : Octets) (c : Cell) : Option Key :=
  match c with
  | .number x =>
    match smallInteger? x with
    | some n => some (.number n)
    | none => (c.text? format).map Key.text
  | c => (c.text? format).map Key.text

/-- Texts are hashed character by character. -/
instance : Hashable Octets := @instHashableList Char instHashableChar

/-- An array. -/
structure Table where
  values : Std.HashMap Octets Cell := ∅
  /-- The number of buckets without one, which is a power of two. -/
  mask : Nat := 63
  named : Array (List Octets) := Array.replicate 64 []
  numbered : Array (List Int) := Array.replicate 64 []
  /-- Whether integers have texts, too. -/
  hasNames : Bool := false
  /-- Whether the keys are those of a list, from one on, in no buckets so far. -/
  isList : Bool := false

instance : Inhabited Table := ⟨{}⟩

/-- The sum over a text that chooses its bucket. -/
def bucketSum (t : Octets) : UInt32 :=
  t.foldl (fun h c => (h ^^^ c.val) * 16777619) 2166136261

/-- How many keys there are for each bucket at most. -/
def bucketLimit : Nat := 12

namespace Table

/-- The number of keys. -/
def size (t : Table) : Nat := t.values.size

/-- The bucket of a text. -/
def bucketOf (t : Table) (name : Octets) : Nat := (bucketSum name).toNat % (t.mask + 1)

/-- The bucket of an integer. -/
def bucketOfNumber (t : Table) (n : Int) : Nat := (n % (t.mask + 1 : Nat)).toNat

/-- Puts a text at the front of its bucket. -/
def frontName (t : Table) (name : Octets) : Table :=
  { t with named := t.named.modify (t.bucketOf name) fun names => name :: names.erase name }

/-- Puts an integer at the front of its bucket. -/
def frontNumber (t : Table) (n : Int) : Table :=
  { t with numbered := t.numbered.modify (t.bucketOfNumber n) fun ns => n :: ns.erase n }

/-- Whether an integer is in its bucket. -/
def hasNumber (t : Table) (n : Int) : Bool := (t.numbered.getD (t.bucketOfNumber n) []).contains n

/-- The table with twice as many buckets. -/
def doubled (t : Table) : Table :=
  let u := { t with mask := 2 * t.mask + 1 }
  let split {α : Type} (place : α → Nat) (buckets : Array (List α)) : Array (List α) :=
    let part (isHigh : Bool) : Array (List α) :=
      buckets.mapIdx fun i xs => xs.filter fun x => (place x ≠ i) = isHigh
    part false ++ part true
  { u with named := split u.bucketOf t.named, numbered := split u.bucketOfNumber t.numbered }

/-- Puts a new key into the table, which may grow. -/
def insertNew (t : Table) (name : Octets) : Table :=
  let t := { t with values := t.values.insert name .unset }
  if (t.mask + 1) * bucketLimit < t.size then t.doubled else t

/-- The table with the keys of a list in buckets. -/
def settled (t : Table) : Table :=
  if !t.isList then t
  else
    let count := t.size
    let empty : Table := { values := t.values }
    let grown := (List.range count).foldl
      (fun (u : Table) _ => if (u.mask + 1) * bucketLimit < count then u.doubled else u) empty
    (List.range count).foldl (fun u k => u.frontNumber (k + 1 : Nat)) grown

/-- The table with texts for its integers. -/
def withNames (t : Table) : Table :=
  let t := t.settled
  if t.hasNames then t
  else
    let t := { t with hasNames := true }
    t.numbered.foldl (fun t ns => ns.foldl (fun t n => t.frontName (toString n).toList) t) t

/-- Looks for a text, and puts it at the front of its bucket; adds it if that is wanted. -/
def useName (t : Table) (isWanted : Bool) (name : Octets) : Table :=
  let t := t.withNames
  if t.values.contains name then t.frontName name
  else if isWanted then (t.insertNew name).frontName name
  else t

/-- Looks for an integer, and puts it at the front of its bucket; adds it if that is wanted. -/
def useNumber (t : Table) (isWanted : Bool) (n : Int) : Table :=
  let name := (toString n).toList
  if t.isList ∧ t.values.contains name then t
  else
    let t := t.settled
    if t.hasNumber n then t.frontNumber n
    else if t.hasNames then
      let t := t.useName isWanted name
      if t.values.contains name then t.frontNumber n else t
    else if isWanted then (t.insertNew name).frontNumber n
    else t

/-- Looks for a key, and adds it if that is wanted. -/
def use (t : Table) (isWanted : Bool) (k : Key) : Table :=
  if !isWanted ∧ t.size = 0 then t
  else
    match k with
    | .number n => t.useNumber isWanted n
    | .text name => t.useName isWanted name

/-- The value of a key. -/
def value (t : Table) (k : Key) : Cell := t.values.getD k.name .unset

/-- Sets the value of a key that there is. -/
def set (t : Table) (k : Key) (c : Cell) : Table := { t with values := t.values.insert k.name c }

/-- Whether there is a key. -/
def has (t : Table) (k : Key) : Bool := t.values.contains k.name

/-- The table without a key. -/
def erase (t : Table) (k : Key) : Table :=
  if !t.has k then t.use false k
  else
    let t := match k with
      | .number _ => t.settled
      | .text _ => t.withNames
    let name := k.name
    let t := { t with
      values := t.values.erase name
      named := t.named.modify (t.bucketOf name) fun names => names.erase name }
    if t.size = 0 then {}
    else
      match (String.ofList name).toInt? with
      | some n =>
        if t.hasNumber n then
          { t with numbered := t.numbered.modify (t.bucketOfNumber n) fun ns => ns.erase n }
        else t
      | none => t

/-- All keys in order. -/
def keys (t : Table) : List Octets × Table :=
  let t := t.withNames
  (t.named.toList.flatten, t)

/-- The table of the pieces of a text. -/
def ofPieces (pieces : List Octets) : Table :=
  if pieces.isEmpty then {}
  else
    { values := pieces.zipIdx.foldl
        (fun (m : Std.HashMap Octets Cell) p => m.insert (toString (p.2 + 1)).toList (.input p.1)) ∅
      isList := true }

end Table

end Foreman.Shell.Records
