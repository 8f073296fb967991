import Foreman.Shell.Arithmetic
import Foreman.Shell.Utility.Basic

/-!
# `Foreman.Shell.Utility.Encoding` — data written in 64 or 32 characters

Some bits of the data at a time are written as one character. A group of characters stands for a whole
number of bytes; the last group is filled with equals signs.

## Contents
- **`Alphabet`**: the characters with the bits that each stands for. `Alphabet.encode`, `Alphabet.decode`.
- `base64`, `base32`.
-/

namespace Foreman.Shell.Utility

/-- Characters that stand for some bits each. -/
structure Alphabet where
  chars : Array Char
  /-- The bits of a character. -/
  bits : Nat
  /-- The characters of a group. -/
  group : Nat

namespace Alphabet

/-- The alphabet of 64 characters. -/
def sixtyFour : Alphabet :=
  { chars := "ABCDEFGHIJKLMNOPQRSTUVWXYZabcdefghijklmnopqrstuvwxyz0123456789+/".toList.toArray
    bits := 6
    group := 4 }

/-- The alphabet of 32 characters. -/
def thirtyTwo : Alphabet :=
  { chars := "ABCDEFGHIJKLMNOPQRSTUVWXYZ234567".toList.toArray, bits := 5, group := 8 }

/-- The bytes of a group. -/
def bytes (b : Alphabet) : Nat := b.group * b.bits / 8

/-- The characters for some bytes, at most as many as a group has. -/
def groupOf (b : Alphabet) (bytes : Octets) : Octets :=
  let filled := bytes ++ List.replicate (b.bytes - bytes.length) '\x00'
  let n : Nat := filled.foldl (fun n c => 256 * n + c.toNat) 0
  let needed := (8 * bytes.length + b.bits - 1) / b.bits
  let digit (i : Nat) : Char :=
    if i < needed then b.chars.getD (n / 2 ^ (b.bits * (b.group - 1 - i)) % 2 ^ b.bits) '=' else '='
  (List.range b.group).map digit

/-- Data as characters. -/
def encode (b : Alphabet) : Nat → Octets → Octets
  | 0, _ => []
  | fuel + 1, data =>
    if data.isEmpty then []
    else b.groupOf (data.take b.bytes) ++ encode b fuel (data.drop b.bytes)

/-- The bytes of a group as far as it is sound, and whether it is sound as a whole. -/
def bytesOf (b : Alphabet) (group : Octets) : Octets × Bool :=
  let digits := (group.takeWhile b.chars.contains).map b.chars.toList.idxOf
  let count := digits.length * b.bits / 8
  let n : Nat := digits.foldl (fun n d => n * 2 ^ b.bits + d) 0
  let spare := digits.length * b.bits - 8 * count
  let n := n / 2 ^ spare
  let bytes := (List.range count).map fun i => Char.ofNat (n / 256 ^ (count - 1 - i) % 256)
  let isShort := group.length < b.group
  let isSound : Bool := !isShort && spare < b.bits && digits.length ≠ 0 &&
    (group.drop digits.length).all (· = '=')
  (if isShort ∧ b.bits = 5 then [] else bytes, isSound)

/-- The data that characters stand for up to the first flaw, and whether there is no flaw. -/
def decode (b : Alphabet) : Nat → Octets → Octets × Bool
  | 0, _ => ([], true)
  | fuel + 1, cs =>
    if cs.isEmpty then ([], true)
    else
      let (bytes, isSound) := b.bytesOf (cs.take b.group)
      if !isSound then (bytes, false)
      else
        let (more, isSound) := decode b fuel (cs.drop b.group)
        (bytes ++ more, isSound)

end Alphabet

/-- A text in lines of some width; in one piece if the width is zero. -/
def inLines (width : Nat) : Nat → Octets → Octets
  | 0, _ => []
  | fuel + 1, text =>
    if text.isEmpty then []
    else if width = 0 then text
    else text.take width ++ '\n' :: inLines width fuel (text.drop width)

/-- Writes data in an alphabet, or reads them back. -/
def encoding (b : Alphabet) : Utility := fun s args =>
  let g : Grammar :=
    { letters := "diw:"
      words := [("decode", "d", .nothing), ("ignore-garbage", "i", .nothing), ("wrap", "w", .something)] }
  withArguments s.name 1 g args fun a =>
    let width (text : Octets) : Option Nat :=
      match signedNumber? (digitsAt 10) text with
      | some n => if 0 ≤ n then some n.toNat else none
      | none => (natNumber? text).map fun _ => 0
    match (a.valuesOf "w").find? fun text => (width text).isNone with
    | some text => faultOf 1 s.name ("invalid wrap size: ".toList ++ quotedText text)
    | none =>
      match a.operands with
      | _ :: extra :: _ => misuse 1 s.name ("extra operand ".toList ++ quotedText extra)
      | operands =>
        let blame (path : Octets) (fault : PathFault) : Report :=
          match fault with
          | .isFolder => faultOf 1 s.name "read error: Is a directory".toList
          | fault => s.unreadable 1 path fault
        s.eachFile operands blame (fromWhole fun d =>
          if a.has "d" then
            let isKept (c : Char) : Bool :=
              c ≠ '\n' && (!a.has "i" || c = '=' || b.chars.contains c)
            let cs := d.data.filter isKept
            let (data, isSound) := b.decode (cs.length + 1) cs
            let r := textOut data
            if isSound then r else r.and (faultOf 1 s.name "invalid input".toList)
          else
            let text := b.encode (d.data.length + 1) d.data
            textOut (inLines (((a.value? "w").bind width).getD 76) (text.length + 1) text))

/-- Writes data in 64 characters. -/
def base64 : Utility := encoding .sixtyFour

/-- Writes data in 32 characters. -/
def base32 : Utility := encoding .thirtyTwo

end Foreman.Shell.Utility
