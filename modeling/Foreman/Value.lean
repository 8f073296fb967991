import Foreman.Collection.NameMap
import Foreman.Number.Binary64

/-!
# `Foreman.Value` — free-form data

Task payloads, task outputs and stored documents are free-form data: nothing, truth values, numbers,
texts, lists and tables. Integers and floating-point numbers are different values.

## Contents
- **`Value`** with the look-ups `field?`, `asText?`, `asNat?`.
- `Value.IsJson`: the values that JSON documents can hold.
- `Value.withoutNonFinite`: the data with nothing in place of numbers that are not finite.
-/

namespace Foreman

/-- Free-form data. A table lists its fields in ascending key order. -/
inductive Value where
  | null
  | bool (b : Bool)
  | int (n : Int)
  | float (x : Binary64)
  | text (s : String)
  | list (items : List Value)
  | table (fields : List (String × Value))
  deriving Inhabited

namespace Value

/-- A table from fields in any order, a later field replacing an earlier one of the same name. -/
def ofFields (fields : List (String × Value)) : Value :=
  .table (NameMap.ofList fields).entries

/-- The field of a table; other values have none. -/
def field? (v : Value) (name : String) : Option Value :=
  match v with
  | .table fields => lookupEntry name fields
  | _ => none

/-- The text, if the value is one. -/
def asText? : Value → Option String
  | .text s => some s
  | _ => none

/-- The integer, if the value is one from `0` to `2 ^ 64 - 1`. -/
def asNat? : Value → Option Nat
  | .int n => if 0 ≤ n ∧ n < 2 ^ 64 then some n.toNat else none
  | _ => none

/-- The values that JSON documents can hold: integers have 64 bits, with or without a sign, and numbers
    are finite. -/
inductive IsJson : Value → Prop
  | null : IsJson .null
  | bool (b : Bool) : IsJson (.bool b)
  | int {n : Int} (least : -2 ^ 63 ≤ n) (most : n < 2 ^ 64) : IsJson (.int n)
  | float {x : Binary64} (finite : x.isFinite = true) : IsJson (.float x)
  | text (s : String) : IsJson (.text s)
  | list {items : List Value} (each : ∀ v ∈ items, v.IsJson) : IsJson (.list items)
  | table {fields : List (String × Value)} (ascending : (fields.map Prod.fst).Pairwise (· < ·))
      (each : ∀ e ∈ fields, e.2.IsJson) : IsJson (.table fields)

mutual

/-- The data with nothing in place of numbers that are not finite. -/
def withoutNonFinite : Value → Value
  | .float x => if x.isFinite then .float x else .null
  | .list items => .list (itemsWithoutNonFinite items)
  | .table fields => .table (fieldsWithoutNonFinite fields)
  | v => v

/-- The same for the items of a list. -/
def itemsWithoutNonFinite : List Value → List Value
  | [] => []
  | v :: rest => v.withoutNonFinite :: itemsWithoutNonFinite rest

/-- The same for the fields of a table. -/
def fieldsWithoutNonFinite : List (String × Value) → List (String × Value)
  | [] => []
  | (name, v) :: rest => (name, v.withoutNonFinite) :: fieldsWithoutNonFinite rest

end

end Value

end Foreman
