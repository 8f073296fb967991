import Foreman.Time.Duration
import Foreman.Time.Timestamp
import Foreman.Value

/-!
# `Foreman.Codec` — data as free-form values and back

Stored documents hold domain data as free-form values. A `Codec` writes data of one type and reads it
back; reading may accept more than writing produces, for instance fields in another order, sets with
repeated members, or unknown fields.

## Contents
- **`Codec`** and `Codec.Stable`: what was read is written to something that reads as the same.
- **Plain codecs**: texts, truth values, bounded integers, numbers, timestamps, words.
- **Containers**: options, lists, sets, maps.
- **Fields**: `fieldValues?` with `required` and `defaulted` fields.
- **Records**: `Fields`, a list of fields with a codec each, and the codec `record` of the data made of
  them; durations.
-/

namespace Foreman

/-- A way to write data as free-form values and to read it. -/
structure Codec (α : Type) where
  encode : α → Value
  decode : Value → Option α

namespace Codec

variable {α β : Type}

/-- The data is written to a JSON value, which reads as the same data. -/
def Keeps (c : Codec α) (a : α) : Prop := (c.encode a).IsJson ∧ c.decode (c.encode a) = some a

/-- Whatever was read from a JSON value is written to a JSON value that reads as the same data. -/
def Stable (c : Codec α) : Prop := ∀ v a, v.IsJson → c.decode v = some a → c.Keeps a

/-! ## Plain codecs -/

/-- Any value as it is. -/
def any : Codec Value := ⟨id, some⟩

/-- Texts. -/
def text : Codec String := ⟨.text, Value.asText?⟩

/-- Truth values. -/
def bool : Codec Bool where
  encode := .bool
  decode
    | .bool b => some b
    | _ => none

/-- Integers from zero up to a bound, which is excluded. -/
def natBelow (bound : Nat) : Codec Nat where
  encode n := .int n
  decode
    | .int n => if 0 ≤ n ∧ n.toNat < bound then some n.toNat else none
    | _ => none

/-- Integers of 8, 32 and 64 bits. -/
def nat8 : Codec Nat := natBelow (2 ^ 8)

@[inherit_doc nat8] def nat32 : Codec Nat := natBelow (2 ^ 32)

@[inherit_doc nat8] def nat64 : Codec Nat := natBelow (2 ^ 64)

/-- Floating-point numbers; an integer is read as the nearest one, and what is not finite has no written
    form. -/
def float : Codec Binary64 where
  encode x := if x.isFinite then .float x else .null
  decode
    | .float x => some x
    | .int n => some (.ofInt n)
    | _ => none

/-- Data that is written as a word from a list. A word may also stand as the only field of a table,
    with nothing as its value. -/
def words (table : List (String × α)) (word : α → String) : Codec α where
  encode a := .text (word a)
  decode
    | .text s => lookupEntry s table
    | .table [(s, .null)] => lookupEntry s table
    | _ => none

/-- Data that has a text and is read from any text. -/
def ofText (write : α → String) (read : String → Option α) : Codec α where
  encode a := .text (write a)
  decode
    | .text s => read s
    | _ => none

/-- Instants as RFC 3339 texts. -/
def timestamp : Codec Timestamp := ofText Timestamp.text Timestamp.parse?

/-! ## Containers -/

/-- Optional data; nothing stands for its absence. -/
def option (c : Codec α) : Codec (Option α) where
  encode
    | none => .null
    | some a => c.encode a
  decode
    | .null => some none
    | v => (c.decode v).map some

/-- Lists. -/
def list (c : Codec α) : Codec (List α) where
  encode xs := .list (xs.map c.encode)
  decode
    | .list vs => vs.mapM c.decode
    | _ => none

/-- Sets of names, written as ascending lists. -/
def names : Codec NameSet where
  encode s := (list text).encode s.toList
  decode v := ((list text).decode v).map NameSet.ofList

/-- Maps from names, written as tables. -/
def map (c : Codec β) : Codec (NameMap β) where
  encode m := .table (m.mapValues c.encode).entries
  decode
    | .table fields =>
      (fields.mapM fun (e : String × Value) => (c.decode e.2).map fun b => (e.1, b)).map
        NameMap.ofList
    | _ => none

/-! ## Fields -/

/-- The values of the named fields. They stand in a table, where unknown fields do not matter, or in
    a list in the order of the names, of which at least `least` must be there. -/
def fieldValues? (names : List String) (least : Nat) : Value → Option (List (Option Value))
  | .table fields => some (names.map (lookupEntry · fields))
  | .list vs =>
    if least ≤ vs.length ∧ vs.length ≤ names.length then
      some (vs.map some ++ List.replicate (names.length - vs.length) none)
    else none
  | _ => none

/-- Reads a field; something may stand for one that is missing. -/
def fieldOr (c : Codec α) (missing : Option α) : Option Value → Option α
  | some v => c.decode v
  | none => missing

/-- A field that must be there. -/
def required (c : Codec α) : Option Value → Option α := fieldOr c none

/-- A field without which the data has a default. -/
def defaulted (c : Codec α) (fallback : α) : Option Value → Option α := fieldOr c (some fallback)

/-- Whether a table has no other field than the named ones; anything else has none. -/
def onlyFields (names : List String) : Value → Bool
  | .table fields => fields.all fun e => names.contains e.1
  | _ => true

/-! ## Records -/

/-- Fields in their order, each with its codec and with what stands for a missing one; together they
    carry data of the type. -/
inductive Fields : Type → Type 1
  | nil : Fields Unit
  | cons {α β : Type} (name : String) (c : Codec α) (missing : Option α) (rest : Fields β) :
      Fields (α × β)

namespace Fields

/-- A field that must be there, before others. -/
def required (name : String) (c : Codec α) (rest : Fields β) : Fields (α × β) :=
  cons name c none rest

/-- A field without which the data has none, before others. -/
def optional (name : String) (c : Codec α) (rest : Fields β) : Fields (Option α × β) :=
  cons name c.option (some none) rest

/-- The names of the fields. -/
def names : {α : Type} → Fields α → List String
  | _, nil => []
  | _, cons name _ _ rest => name :: rest.names

/-- The fields as they are written. -/
def written : {α : Type} → Fields α → α → List (String × Value)
  | _, nil, _ => []
  | _, cons name c _ rest, (a, b) => (name, c.encode a) :: rest.written b

/-- Reads the values of the fields, in their order. -/
def read : {α : Type} → Fields α → List (Option Value) → Option α
  | _, nil, _ => some ()
  | _, cons _ c missing rest, vs => do
    let v ← vs.head?
    let a ← fieldOr c missing v
    let b ← rest.read vs.tail
    return (a, b)

/-- Fields in a table; they are also read from a list. -/
def codec (fields : Fields α) : Codec α where
  encode a := .ofFields (fields.written a)
  decode v := (fieldValues? fields.names fields.names.length v).bind fields.read

end Fields

/-- Data that is made of the parts carried by fields. -/
def record (fields : Fields β) (make : β → α) (parts : α → β) : Codec α where
  encode a := fields.codec.encode (parts a)
  decode v := (fields.codec.decode v).map make

/-- The fields of durations. -/
def durationFields : Fields (Nat × Nat × Unit) :=
  .required "secs" nat64 <| .required "nanos" nat32 .nil

/-- Durations as seconds and nanoseconds, without any other field. Nanoseconds beyond a second are
    carried over. -/
def duration : Codec Duration where
  encode d := durationFields.codec.encode (d.secs, d.subsecNanos, ())
  decode v :=
    if onlyFields durationFields.names v then
      (durationFields.codec.decode v).bind fun (secs, nanos, _) =>
        Duration.ofNanos? (secs * nanosPerSec + nanos)
    else none

end Codec

end Foreman
