import Foreman.Shell.Utility.Basic

/-!
# `Foreman.Shell.Utility.Partition` — a text cut into files

A text is cut into parts, and each part goes to a file. The names of the files differ in their last
characters, which count the files.

## Contents
- **`Cutting`**: where a text is cut. `Cutting.parts`.
- **`Naming`**: how files are named. `Naming.next?`, the name after another one.
- `split`.
-/

namespace Foreman.Shell.Utility

/-! ## Parts -/

/-- Where a text is cut. -/
inductive Cutting where
  /-- After a number of lines. -/
  | lines (n : Nat)
  /-- After a number of bytes. -/
  | bytes (n : Nat)
  /-- After whole lines, with at most a number of bytes. -/
  | lineBytes (n : Nat)
  /-- Into a number of parts of one size; if there is another number, only that part counts. -/
  | chunks (only? : Option Nat) (n : Nat)
  /-- The same with whole lines. -/
  | lineChunks (only? : Option Nat) (n : Nat)
  /-- Into a number of parts that take lines in turns. -/
  | turns (only? : Option Nat) (n : Nat)

namespace Cutting

/-- The number of parts, if it is given. -/
def count? : Cutting → Option Nat
  | .chunks _ n | .lineChunks _ n | .turns _ n => some n
  | _ => none

/-- The only part that counts, if there is one. -/
def only? : Cutting → Option Nat
  | .chunks k _ | .lineChunks k _ | .turns k _ => k
  | _ => none

/-- Lists of at most some length that make up a list. -/
def inSize {α : Type} (size : Nat) : Nat → List α → List (List α)
  | 0, _ => []
  | fuel + 1, xs => if xs.isEmpty then [] else xs.take size :: inSize size fuel (xs.drop size)

/-- The parts of a text that hold whole lines as far as these are not too long. -/
def lineParts (ending : Char) (size : Nat) : Nat → Octets → List Octets
  | 0, _ => []
  | fuel + 1, text =>
    if text.isEmpty then []
    else if text.length ≤ size then [text]
    else
      let front := text.take size
      let back := front.reverse.takeWhile (· ≠ ending)
      let length := if back.length = size then size else size - back.length
      text.take length :: lineParts ending size fuel (text.drop length)

/-- The lines of a text with the places where they begin. -/
def placed : Nat → List Octets → List (Nat × Octets)
  | _, [] => []
  | start, line :: rest => (start, line) :: placed (start + line.length) rest

/-- The parts of a text. -/
def parts (c : Cutting) (ending : Char) (text : Octets) : List Octets :=
  let fuel := text.length + 1
  match c with
  | .lines n => (inSize n fuel (linesKept ending text)).map List.flatten
  | .bytes n => inSize n fuel text
  | .lineBytes n => lineParts ending n fuel text
  | .chunks _ n =>
    let size := max 1 (text.length / n)
    (List.range n).map fun i =>
      let rest := text.drop (i * size)
      if i + 1 = n then rest else rest.take size
  | .lineChunks _ n =>
    let size := max 1 (text.length / n)
    let lines := placed 0 (linesKept ending text)
    (List.range n).map fun i => (lines.filter fun l => min (n - 1) (l.1 / size) = i).flatMap Prod.snd
  | .turns _ n =>
    let lines := (linesKept ending text).zipIdx
    (List.range n).map fun i => (lines.filter fun l => l.2 % n = i).flatMap Prod.fst

end Cutting

/-! ## Names -/

/-- How files are named. -/
structure Naming where
  front : Octets := ['x']
  back : Octets := []
  digits : List Char := "abcdefghijklmnopqrstuvwxyz".toList
  /-- Whether names grow when there are no more of one length. -/
  grows : Bool := true

/-- The characters that count the files, after others. None if there are no more. -/
def Naming.next? (m : Naming) (counter : Octets) : Option Octets :=
  let last := m.digits.length - 1
  let first := m.digits.headD 'a'
  let step (c : Char) (acc : Bool × Octets) : Bool × Octets :=
    let (carries, done) := acc
    if !carries then (false, c :: done)
    else
      let i := m.digits.idxOf c
      if i = last then (true, first :: done) else (false, m.digits.getD (i + 1) first :: done)
  let (isOver, next) := counter.foldr step (true, [])
  let full := m.digits.getD last first
  let lead := counter.takeWhile (· = full)
  if m.grows then
    -- The last digit in front means that the names are longer by it.
    let body := next.drop lead.length
    if !isOver ∧ body.head? = some full then
      some (lead ++ full :: List.replicate (body.length + 1) first)
    else some next
  else if isOver then none
  else some next

/-! ## The program -/

/-- What the options say. -/
structure Partition where
  cutting? : Option Cutting := none
  naming : Naming := {}
  /-- The length of the counters, and the first one. -/
  length? : Option Nat := none
  start? : Option Octets := none
  ending? : Option Char := none
  skipsEmpty : Bool := false
  tells : Bool := false

namespace Partition

/-- The number that the value of an option writes. -/
def numberIn (what : String) (text : Octets) : Except Octets Nat :=
  let text' := text.dropWhile Char.isWhitespace
  match sizeNumber? (if text'.head? = some '+' then text'.drop 1 else text') with
  | some 0 => .error ((what ++ ": ").toList ++ quotedText text ++ ": Numerical result out of range".toList)
  | some n => .ok n
  | none => .error ((what ++ ": ").toList ++ quotedText text)

/-- A number of lines or parts, without a unit. -/
def plainIn (what : String) (text : Octets) : Except Octets Nat :=
  match natNumber? text with
  | some _ => numberIn what text
  | none => .error ((what ++ ": ").toList ++ quotedText text)

/-- The parts that a text writes. -/
def chunksIn (text : Octets) : Except Octets Cutting := do
  let (make, body) : (Option Nat → Nat → Cutting) × Octets := match text with
    | 'l' :: '/' :: rest => (.lineChunks, rest)
    | 'r' :: '/' :: rest => (.turns, rest)
    | text => (.chunks, text)
  let count := plainIn "invalid number of chunks"
  match partsAt '/' body with
  | [k, n] =>
    let n ← count n
    match natNumber? k with
    | some k =>
      if 1 ≤ k ∧ k ≤ n then return make (some k) n
      else .error ("invalid chunk number: ".toList ++ quotedText (natText k))
    | none => .error ("invalid chunk number: ".toList ++ quotedText k)
  | _ => return make none (← count body)

/-- What an option says. -/
def withOption (name : String) (o : Partition) (option : String × Octets) : Except Report Partition := do
  let value := option.2
  let sound {α : Type} (read : Except Octets α) : Except Report α := read.mapError (faultOf 1 name)
  let cutting (read : Except Octets Cutting) : Except Report Partition := do
    if o.cutting?.isSome then .error (misuse 1 name "cannot split in more than one way".toList)
    return { o with cutting? := some (← sound read) }
  let counting (digits : String) (what : String) : Except Report Partition := do
    let digits := digits.toList
    let o := { o with naming := { o.naming with digits } }
    if value.isEmpty then return o
    if !value.all digits.contains then
      .error (misuse 1 name (quotedText value ++ (": invalid start value for " ++ what ++ " suffix").toList))
    let start := value.dropWhile (· = '0')
    return { o with start? := some (if start.isEmpty then ['0'] else start) }
  match option.1 with
  | "l" => cutting ((plainIn "invalid number of lines" value).map .lines)
  | "b" => cutting ((numberIn "invalid number of bytes" value).map .bytes)
  | "C" => cutting ((numberIn "invalid number of bytes" value).map .lineBytes)
  | "n" => cutting (chunksIn value)
  | "a" =>
    match natNumber? value with
    | some n => return { o with length? := if n = 0 then none else some n }
    | none => .error (faultOf 1 name ("invalid suffix length: ".toList ++ quotedText value))
  | "d" => counting "0123456789" "numerical"
  | "x" => counting "0123456789abcdef" "hexadecimal"
  | "additional-suffix" =>
    if value.contains '/' then
      .error (misuse 1 name ("invalid suffix ".toList ++ quotedText value ++
        ", contains directory separator".toList))
    else return { o with naming := { o.naming with back := value } }
  | "t" =>
    match value with
    | [] => .error (faultOf 1 name "empty record separator".toList)
    | [c] => return { o with ending? := some c }
    | ['\\', '0'] => return { o with ending? := some '\x00' }
    | _ => .error (faultOf 1 name ("multi-character separator ".toList ++ quotedText value))
  | "e" => return { o with skipsEmpty := true }
  | "verbose" => return { o with tells := true }
  | _ => return o

/-- The first counter. -/
def firstCounter (o : Partition) : Except Octets (Naming × Octets) :=
  let base := o.naming.digits.length
  let needed (n : Nat) : Nat := (Nat.toDigits 10 (n - 1)).length
  let rec lengthIn : Nat → Nat → Nat
    | 0, _ => 1
    | fuel + 1, n => if n < base then 1 else lengthIn fuel (n / base) + 1
  let count? := o.cutting?.bind Cutting.count?
  let least := count?.elim 0 fun n => lengthIn (needed n * 4) (n - 1)
  let zero := o.naming.digits.headD 'a'
  let length := (o.length?.getD (max 2 least))
  if length < least then
    .error ("the suffix length needs to be at least ".toList ++ natText least)
  else
    let naming := { o.naming with
      grows := o.length?.isNone && count?.isNone && (o.start?.isNone || o.start? = some ['0']) }
    let start := o.start?.getD []
    if length < start.length then
      .error ((if base = 16 then "hexadecimal" else "numerical") ++
        " suffix start value is too large for the suffix length").toList
    else .ok (naming, List.replicate (length - start.length) zero ++ start)

/-- Writes parts to files. -/
def write (o : Partition) (s : Scene) (naming : Naming) : Option Octets → Files → Report → List Octets →
    Files × Report
  | _, files, r, [] => (files, r)
  | none, files, r, _ => (files, r.and (faultOf 1 s.name "output file suffixes exhausted".toList))
  | some counter, files, r, part :: rest =>
    if o.skipsEmpty ∧ part.isEmpty then write o s naming (some counter) files r rest
    else
      let path := naming.front ++ counter ++ naming.back
      let r := if o.tells then r.out ("creating file ".toList ++ quotedName path ++ ['\n']) else r
      match files.find s.folder path with
      | .error fault => (files, r.and (s.unreadable 1 path fault))
      | .ok ⟨here, old⟩ =>
        if old.any Entry.isFolder then (files, r.and (s.unreadable 1 path .isFolder))
        else
          let files := files.write here (s.newMode 0o666) part
          write o s naming (naming.next? counter) files r rest

end Partition

/-- Options that write a number in digits alone, as one option. -/
def joinedDigits : List (String × Octets) → List (String × Octets)
  | [] => []
  | (name, value) :: rest =>
    match name.toList, joinedDigits rest with
    | [c], ("lines", more) :: others =>
      if c.isDigit then ("lines", c :: more) :: others else (name, value) :: ("lines", more) :: others
    | [c], others => if c.isDigit then ("lines", [c]) :: others else (name, value) :: others
    | _, others => (name, value) :: others

/-- Cuts a text into files. -/
def split : Utility := fun s args =>
  let g : Grammar :=
    { letters := "0123456789C:a:b:del:n:t:ux"
      words := [("bytes", "b", .something), ("lines", "l", .something), ("line-bytes", "C", .something),
        ("number", "n", .something), ("elide-empty-files", "e", .nothing), ("unbuffered", "u", .nothing),
        ("suffix-length", "a", .something), ("additional-suffix", "additional-suffix", .something),
        ("numeric-suffixes", "d", .perhaps), ("hex-suffixes", "x", .perhaps),
        ("verbose", "verbose", .nothing), ("separator", "t", .something)] }
  withArguments s.name 1 g args fun a =>
    let options := (joinedDigits a.options).map fun (name, value) =>
      (if name = "lines" then "l" else name, value)
    match options.foldlM (Partition.withOption s.name) {} with
    | .error r => r
    | .ok o =>
      match a.operands with
      | _ :: _ :: extra :: _ => misuse 1 s.name ("extra operand ".toList ++ quotedText extra)
      | operands =>
        let o := { o with naming := { o.naming with front := operands.getD 1 ['x'] } }
        match o.firstCounter with
        | .error text =>
          if o.start?.isSome then misuse 1 s.name text else faultOf 1 s.name text
        | .ok (naming, counter) =>
          let path := operands.headD ['-']
          match s.readPath path with
          | .error .isFolder => faultOf 1 s.name (nameInMessage path ++ ": Is a directory".toList)
          | .error fault =>
            faultOf 1 s.name ("cannot open ".toList ++ quotedName path ++ " for reading: ".toList ++
              fault.text.toList)
          | .ok (data, isCut) =>
            let cutting := o.cutting?.getD (.lines 1000)
            let parts := cutting.parts (o.ending?.getD '\n') data
            let appetite : Appetite := if Scene.isInput path then .everything else .nothing
            match cutting.only? with
            | some k => { textOut (parts.getD (k - 1) []) with appetite, isHungry := isCut }
            | none =>
              let (files, r) := o.write s naming (some counter) s.files {} parts
              { r with files := some files, appetite, isHungry := isCut }

end Foreman.Shell.Utility
