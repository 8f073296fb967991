/-!
# `Foreman.Text.Octets` — texts and their bytes

Commands read and write bytes. What they write is shown as text, with a replacement character for
every longest part that begins like the encoding of a character and does not go on as one.

## Contents
- **`Octets`**: data as characters that each stand for one byte.
- `octetsOf`: the bytes of a text; `lossyText`: a text from bytes.
- `partsAt`, `linesOf`: the parts of a text.
-/

namespace Foreman

/-- Data of a command. Each character stands for one byte, so its code is below 256. -/
abbrev Octets := List Char

/-- The bytes of a text. -/
def octetsOf (s : String) : Octets := s.toUTF8.toList.map fun b => Char.ofNat b.toNat

/-- The least and greatest second byte that may follow a first byte, and the number of bytes that
    follow in all; none if the byte begins no character of several bytes. -/
def continuation? (lead : Nat) : Option (Nat × Nat × Nat) :=
  if lead < 0xC2 then none
  else if lead < 0xE0 then some (0x80, 0xBF, 1)
  else if lead = 0xE0 then some (0xA0, 0xBF, 2)
  else if lead = 0xED then some (0x80, 0x9F, 2)
  else if lead < 0xF0 then some (0x80, 0xBF, 2)
  else if lead = 0xF0 then some (0x90, 0xBF, 3)
  else if lead < 0xF4 then some (0x80, 0xBF, 3)
  else if lead = 0xF4 then some (0x80, 0x8F, 3)
  else none

/-- The bytes that go on with a character, at most the given number. -/
def followers (low high : Nat) : Nat → Octets → Octets
  | 0, _ => []
  | _ + 1, [] => []
  | n + 1, c :: rest =>
    if low ≤ c.toNat ∧ c.toNat ≤ high then c :: followers 0x80 0xBF n rest else []

/-- The code that a first byte and the bytes after it write. -/
def codeOf (lead : Nat) (rest : Octets) : Nat :=
  let own := match rest.length with
    | 1 => lead - 0xC0
    | 2 => lead - 0xE0
    | _ => lead - 0xF0
  rest.foldl (fun n c => n * 64 + (c.toNat - 0x80)) own

/-- The first character of some bytes, and how many bytes it takes. -/
def firstCharacter (c : Char) (rest : Octets) : Char × Nat :=
  if c.toNat < 0x80 then (c, 1)
  else
    match continuation? c.toNat with
    | none => ('\uFFFD', 1)
    | some (low, high, n) =>
      let more := followers low high n rest
      if more.length = n then (Char.ofNat (codeOf c.toNat more), n + 1)
      else ('\uFFFD', more.length + 1)

/-- The characters of some bytes, of which a number at the front belongs to a character before. -/
def lossyCharacters : Nat → Octets → List Char
  | _, [] => []
  | n + 1, _ :: rest => lossyCharacters n rest
  | 0, c :: rest =>
    let (x, n) := firstCharacter c rest
    x :: lossyCharacters (n - 1) rest

/-- Bytes as text. -/
def lossyText (bytes : Octets) : String := String.ofList (lossyCharacters 0 bytes)

/-- The parts of a text between separators, after some parts, the latest first, and characters of the
    next one in reverse order. -/
def partsFrom (separator : Char) (done : List Octets) (acc : Octets) : Octets → List Octets
  | [] => (acc.reverse :: done).reverse
  | c :: rest =>
    if c = separator then partsFrom separator (acc.reverse :: done) [] rest
    else partsFrom separator done (c :: acc) rest

/-- The parts of a text between separators. -/
def partsAt (separator : Char) (text : Octets) : List Octets := partsFrom separator [] [] text

/-- The lines of a text, without their ends: a line feed, with a carriage return before it or not. -/
def linesOf (s : String) : List String :=
  let pieces := s.splitOn "\n"
  let whole := pieces.dropLast.map fun line =>
    let cs := line.toList
    if cs.getLast? = some '\r' then String.ofList cs.dropLast else line
  match pieces.getLast? with
  | some last => if last.isEmpty then whole else whole ++ [last]
  | none => whole

end Foreman
