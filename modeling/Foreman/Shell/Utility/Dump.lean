import Foreman.Shell.Arithmetic
import Foreman.Shell.Format
import Foreman.Shell.Utility.Basic

/-!
# `Foreman.Shell.Utility.Dump` — data as numbers and characters

Data are shown in blocks, each on a line that begins with its address. A line shows the items of a block in
one way; where there are several ways, a block takes several lines, and items that stand for the same data
stand below each other.

## Contents
- **`View`**: what items are and how they are shown. `View.texts`, the items of a block.
- **`BinaryLayout`**: the fields of a floating-point number; `floatText`.
- **`Dump`**: what the options say; `Dump.lines`, the lines of data.
- `od`.
-/

namespace Foreman.Shell.Utility

/-! ## Floating-point numbers -/

/-- The fields of a floating-point number. -/
structure BinaryLayout where
  /-- The bits of a significand. -/
  precision : Nat
  exponentBits : Nat
  /-- Whether the first bit of a significand is stored. -/
  isExplicit : Bool := false
  /-- How many digits every number has at least, and how many tell all numbers apart. -/
  digits : Nat × Nat

/-- The exponent of the least numbers. -/
def BinaryLayout.least (l : BinaryLayout) : Int := 3 - 2 ^ (l.exponentBits - 1) - l.precision

/-- The layout of a number of some bytes. -/
def BinaryLayout.ofSize (size : Nat) : BinaryLayout :=
  match size with
  | 4 => { precision := 24, exponentBits := 8, digits := (6, 9) }
  | 8 => { precision := 53, exponentBits := 11, digits := (15, 17) }
  | _ => { precision := 64, exponentBits := 15, isExplicit := true, digits := (18, 21) }

/-- Whether a decimal with a number of digits that count is nearer to `m * 2 ^ e` than any number next to
    it. The decimal is that quotient rounded, and `m` is the significand in full. -/
def BinaryLayout.isTold (l : BinaryLayout) (m : Nat) (e : Int) (count : Nat) : Bool :=
  let (num, den) := if 0 ≤ e then (m * 2 ^ e.toNat, 1) else (m, 2 ^ (-e).toNat)
  let power := roundedPower (count - 1) num den
  let places : Int := count - 1 - power
  -- The decimal is `d / 10 ^ places`.
  let (a, b) := scaledDown (-places) num den
  let d := roundQuotient a b
  let gap : Nat := if d * b < a then a - d * b else d * b - a
  -- The number below a power of two is half as far away.
  let isBelow := d * b < a
  let half := if isBelow ∧ m = 2 ^ (l.precision - 1) ∧ e ≠ l.least then 4 else 2
  let step := half * gap * m
  step < a ∨ (step = a ∧ m % 2 = 0)

/-- A floating-point number with as many digits as tell it apart. -/
def floatText (l : BinaryLayout) (n : Nat) : Octets :=
  let stored := if l.isExplicit then l.precision else l.precision - 1
  let fraction : Nat := n % 2 ^ stored
  let biased : Nat := n / 2 ^ stored % 2 ^ l.exponentBits
  let isNegative : Bool := n / 2 ^ (stored + l.exponentBits) % 2 = 1
  let hidden := if l.isExplicit then 0 else 2 ^ stored
  let lead := 2 ^ (l.precision - 1)
  let sign : Octets := if isNegative then ['-'] else []
  let isOdd := l.isExplicit ∧ biased ≠ 0 ∧ fraction < lead
  if isOdd then sign ++ "nan".toList
  else if biased = 2 ^ l.exponentBits - 1 then
    sign ++ (if fraction % lead = 0 then "inf" else "nan").toList
  else
    let m : Nat := if biased = 0 then fraction else hidden + fraction
    let e : Int := (if biased = 0 then 0 else (biased : Int) - 1) + l.least
    if m = 0 then sign ++ ['0']
    else
      let first := if m < lead then 1 else l.digits.1
      let counts := (List.range (l.digits.2 - first)).map (first + ·)
      let count := (counts.find? (l.isTold m e)).getD l.digits.2
      let (num, den) := if 0 ≤ e then (m * 2 ^ e.toNat, 1) else (m, 2 ^ (-e).toNat)
      sign ++ generalText 'e' count num den false

/-! ## Items -/

/-- What an item is shown as. -/
inductive ItemKind where
  /-- The name of a character. -/
  | name
  | character
  | signed
  | unsigned
  | octal
  | hex
  | float
  deriving DecidableEq

/-- A way to show data. -/
structure View where
  kind : ItemKind
  /-- The bytes of an item. -/
  size : Nat
  /-- Whether the line ends with the data as text. -/
  hasText : Bool := false

namespace View

/-- How wide an item is, without the blank before it. -/
def width (v : View) : Nat :=
  let ofSize (one two four eight : Nat) : Nat :=
    match v.size with
    | 1 => one
    | 2 => two
    | 4 => four
    | _ => eight
  match v.kind with
  | .name | .character => 3
  | .signed => ofSize 4 6 11 20
  | .unsigned => ofSize 3 5 10 20
  | .octal => ofSize 3 6 11 22
  | .hex => 2 * v.size
  | .float => if v.size = 4 then 15 else if v.size = 8 then 24 else 29

/-- The names of characters that are not printed. -/
def characterNames : List String :=
  ["nul", "soh", "stx", "etx", "eot", "enq", "ack", "bel", "bs", "ht", "nl", "vt", "ff", "cr", "so", "si",
    "dle", "dc1", "dc2", "dc3", "dc4", "nak", "syn", "etb", "can", "em", "sub", "esc", "fs", "gs", "rs", "us",
    "sp"]

/-- Whether a character is printed as itself. -/
def isPrinted (c : Char) : Bool := 32 ≤ c.toNat && c.toNat < 127

/-- The name of a character, whatever its highest bit is. -/
def nameOf (c : Char) : Octets :=
  let n : Nat := c.toNat % 128
  if n = 127 then "del".toList
  else ((characterNames[n]?).map String.toList).getD [Char.ofNat n]

/-- A character, or its escape. -/
def escapeOf (c : Char) : Octets :=
  if c = '\x00' then ['\\', '0']
  else if isPrinted c then [c]
  else
    match shownControl? c with
    | some ['\\', d] => ['\\', d]
    | _ => (paddedIn 8 3 c.toNat).toList

/-- The number of some bytes, the lowest first. -/
def numberOf (bytes : Octets) : Nat := bytes.foldr (fun c n => c.toNat + 256 * n) 0

/-- The text of an item. -/
def text (v : View) (bytes : Octets) : Octets :=
  let n := numberOf bytes
  match v.kind with
  | .name => nameOf (bytes.headD '\x00')
  | .character => escapeOf (bytes.headD '\x00')
  | .signed => intText (if n < 2 ^ (8 * v.size - 1) then n else (n : Int) - 2 ^ (8 * v.size))
  | .unsigned => natText n
  | .octal => (paddedIn 8 v.width n).toList
  | .hex => (paddedIn 16 v.width n).toList
  | .float => floatText (.ofSize v.size) n

/-- The texts of items, each in its field. The blanks that are left in a line are spread over all
    fields, of which `total` would fill the line. -/
def fields (v : View) (swaps : Bool) (total spare : Nat) : Nat → Octets → List Octets
  | 0, _ => []
  | i + 1, bytes =>
    if bytes.isEmpty then []
    else
      let item := bytes.take v.size
      let item := item ++ List.replicate (v.size - item.length) '\x00'
      let item := if swaps then item.reverse else item
      let room := spare * (i + 1) / total - spare * i / total + v.width + 1
      padLeft room (v.text item) :: fields v swaps total spare i (bytes.drop v.size)

end View

/-! ## Lines -/

/-- What is shown of data, and how. -/
structure Dump where
  views : List View := []
  /-- The base and the least number of digits of addresses; none if they are not shown. -/
  address? : Option (Nat × Nat) := some (8, 7)
  skipped : Nat := 0
  limit? : Option Nat := none
  /-- The least length of texts, if only texts are shown. -/
  texts? : Option Nat := none
  width? : Option Nat := none
  showsAll : Bool := false
  swaps : Bool := false

namespace Dump

/-- The least number of bytes that every view parts into items. -/
def unit (o : Dump) : Nat := (o.views.map View.size).foldl max 1

/-- The bytes of a block. -/
def blockSize (o : Dump) : Nat :=
  match o.width? with
  | some n => if n % o.unit = 0 then n else o.unit
  | none => o.unit * (16 / o.unit)

/-- An address, with a character after it. -/
def addressText (o : Dump) (n : Nat) (after : Octets) : Octets :=
  match o.address? with
  | some (base, digits) => (paddedIn base digits n).toList ++ after
  | none => []

/-- The lines of a block. -/
def block (o : Dump) (address : Nat) (bytes : Octets) : Octets :=
  let size := o.blockSize
  let room := (o.views.map fun v => (v.width + 1) * (size / v.size)).foldl max 0
  let line (front : Octets) (v : View) : Octets :=
    let total := size / v.size
    let spare := room - (v.width + 1) * total
    let items := (v.fields o.swaps total spare total bytes).flatten
    let text := if v.hasText then
        padRight room items ++ "  >".toList ++ bytes.map (fun c => if View.isPrinted c then c else '.') ++
          ['<']
      else items
    front ++ text ++ ['\n']
  let blanks := List.replicate (match o.address? with | some (_, digits) => digits | none => 0) ' '
  match o.views with
  | [] => []
  | v :: vs => line (o.addressText address []) v ++ vs.flatMap (line blanks)

/-- The lines of data. A full block that is like the one before is left out, and a star stands for all
    such blocks in sequence. -/
def blocks (o : Dump) : Nat → Option Octets → Bool → Nat → Octets → List (Nat × Octets)
  | 0, _, _, _, _ => []
  | fuel + 1, before, isStarred, address, bytes =>
    if bytes.isEmpty then []
    else
      let front := bytes.take o.blockSize
      let rest := bytes.drop o.blockSize
      let here := address + front.length
      if !o.showsAll ∧ before = some front ∧ front.length = o.blockSize then
        (if isStarred then [] else [(here, ['*', '\n'])]) ++ blocks o fuel before true here rest
      else (here, o.block address front) :: blocks o fuel (some front) false here rest

/-- The texts in data that end with a zero and are long enough. A run of printed characters is given up
    at the first other character. The address before each text is that of its first character; that of a
    text which the limit cuts off is one less. -/
def texts (o : Dump) (least : Nat) : Octets → Nat → Octets → Octets
  | run, address, [] =>
    if o.limit?.map (o.skipped + ·) = some address ∧ least < run.length then
      o.addressText (address - run.length - 1) [' '] ++ run.reverse ++ ['\n']
    else []
  | run, address, c :: rest =>
    if View.isPrinted c then texts o least (c :: run) (address + 1) rest
    else if c = '\x00' ∧ least ≤ run.length then
      o.addressText (address - run.length) [' '] ++ run.reverse ++ ['\n'] ++
        texts o least [] (address + 1) rest
    else texts o least [] (address + 1) rest

end Dump

/-! ## Options -/

/-- The number of bytes that the value of an option writes. -/
def bytesOf (option : String) (value : Octets) : Except Octets Nat :=
  let body := value.dropWhile Char.isWhitespace
  let body := if body.head? = some '+' then body.drop 1 else body
  let ofUnit (n : Nat) (unit : Octets) : Except Octets Nat :=
    match unitFactor? (String.ofList unit) with
    | some factor => .ok (n * factor)
    | none => .error (("invalid suffix in -" ++ option ++ " argument ").toList ++ quotedText value)
  match body with
  | [] => .error (("invalid -" ++ option ++ " argument ").toList ++ quotedText value)
  | c :: _ =>
    if c.isDigit then
      let (n, rest) := numberAt body
      ofUnit n rest
    else if "bEGKkMmPTYZ".toList.contains c then ofUnit 1 body
    else .error (("invalid -" ++ option ++ " argument ").toList ++ quotedText value)

/-- The size that letters or digits after a kind write, and the text after it. -/
def sizeAt (kind : ItemKind) (spec text : Octets) : Except Octets (Nat × Octets) :=
  let sizes : List (Char × Nat) := if kind = .float then [('F', 4), ('D', 8), ('L', 16)]
    else [('C', 1), ('S', 2), ('I', 4), ('L', 8)]
  match text.head?.bind fun c => sizes.lookup c with
  | some size => .ok (size, text.drop 1)
  | none =>
    let digits := text.takeWhile Char.isDigit
    let size := digitsValue digits
    if digits.isEmpty then .ok (if kind = .float then 8 else 4, text)
    else if (if kind = .float then [4, 8, 16] else [1, 2, 4, 8]).contains size then
      .ok (size, text.drop digits.length)
    else if 2 ^ 31 ≤ size then .error ("invalid type string ".toList ++ quotedText spec)
    else .error ("invalid type string ".toList ++ quotedText spec ++
      (";\nthis system doesn't provide a " ++ toString size ++ "-byte " ++
        (if kind = .float then "floating point" else "integral") ++ " type").toList)

/-- The views that a text writes. -/
def viewsIn (spec : Octets) : Nat → Octets → Except Octets (List View)
  | 0, _ => .ok []
  | _ + 1, [] => .ok []
  | fuel + 1, c :: rest => do
    let sized (kind : ItemKind) : Except Octets (View × Octets) := do
      let (size, rest) ← sizeAt kind spec rest
      return ({ kind, size }, rest)
    let (v, rest) ← match c with
      | 'a' => .ok (({ kind := .name, size := 1 } : View), rest)
      | 'c' => .ok ({ kind := .character, size := 1 }, rest)
      | 'd' => sized .signed
      | 'u' => sized .unsigned
      | 'o' => sized .octal
      | 'x' => sized .hex
      | 'f' => sized .float
      | c => .error ("invalid character '".toList ++ [c] ++ "' in type string ".toList ++ quotedText spec)
    match rest with
    | 'z' :: rest => return { v with hasText := true } :: (← viewsIn spec fuel rest)
    | rest => return v :: (← viewsIn spec fuel rest)

/-- What a letter stands for that names a view. -/
def viewLetters : List (String × String) :=
  [("a", "a"), ("b", "o1"), ("c", "c"), ("D", "u4"), ("d", "u2"), ("e", "fD"), ("F", "fD"), ("f", "fF"),
    ("H", "x4"), ("X", "x4"), ("h", "x2"), ("x", "x2"), ("i", "dI"), ("I", "dL"), ("L", "dL"), ("l", "dL"),
    ("O", "o4"), ("B", "o2"), ("o", "o2"), ("s", "d2")]

/-- What an option says. -/
def Dump.withOption (name : String) (o : Dump) (option : String × Octets) : Except Report Dump := do
  let value := option.2
  let sound {α : Type} (read : Except Octets α) : Except Report α := read.mapError (faultOf 1 name)
  match option.1 with
  | "A" =>
    match value.headD ' ' with
    | 'd' => return { o with address? := some (10, 7) }
    | 'o' => return { o with address? := some (8, 7) }
    | 'x' => return { o with address? := some (16, 6) }
    | 'n' => return { o with address? := none }
    | c =>
      sound (.error ("invalid output address radix '".toList ++ [c] ++
        "'; it must be one character from [doxn]".toList))
  | "j" => return { o with skipped := ← sound (bytesOf "j" value) }
  | "N" => return { o with limit? := some (← sound (bytesOf "N" value)) }
  | "S" => return { o with texts? := some (← if value.isEmpty then .ok 3 else sound (bytesOf "S" value)) }
  | "t" => return { o with views := o.views ++ (← sound (viewsIn value (value.length + 1) value)) }
  | "v" => return { o with showsAll := true }
  | "w" =>
    let n ← if value.isEmpty then .ok 32 else sound (bytesOf "w" value)
    return { o with width? := if n = 0 then none else some n }
  | "endian" =>
    return { o with swaps := (← wordOf name "--endian" ["little", "big"] value) = "big" }
  | letter =>
    let spec := ((viewLetters.lookup letter).getD "").toList
    return { o with views := o.views ++ (← sound (viewsIn spec (spec.length + 1) spec)) }

/-- The number of bytes to skip that an operand writes: in base eight, or in base sixteen with its mark,
    or in base ten with a point after it; a `b` counts blocks. -/
def oldSkip? (operand : Octets) : Option Nat :=
  let body := if operand.head? = some '+' then operand.drop 1 else operand
  let (base, body) : Nat × Octets := match body with
    | '0' :: x :: rest => if x = 'x' ∨ x = 'X' then (16, rest) else (8, body)
    | body => (8, body)
  let ds := body.takeWhile fun c => (digit? base c).isSome
  if ds.isEmpty then none
  else
    match body.drop ds.length with
    | [] => numeral? base ds
    | ['b'] => (numeral? base ds).map (512 * ·)
    | ['B'] => (numeral? base ds).map (1024 * ·)
    | _ => none

/-- The operands that are files, and the number of bytes to skip if the last one writes it. Where options
    say what is shown, all operands are files. -/
def oldOperands (a : Arguments) : List Octets × Option Nat :=
  let isNew := a.hasAny ["A", "j", "N", "t", "v", "S", "w", "endian"]
  match a.operands with
  | [last] =>
    match if !isNew ∧ last.head? = some '+' then oldSkip? last else none with
    | some n => ([], some n)
    | none => ([last], none)
  | [path, last] =>
    let mayCount := last.head?.any fun c => c = '+' || c.isDigit
    match if !isNew ∧ mayCount then oldSkip? last else none with
    | some n => ([path], some n)
    | none => ([path, last], none)
  | operands => (operands, none)

/-- Shows the data of operands. Complaints come where the data before them are used up. -/
def Dump.report (o : Dump) (s : Scene) (operands : List Octets) : Report :=
  let ds := s.readAll (orInput operands)
  let opened := ds.any fun d => match d.2 with | .ok _ | .error .isFolder => true | .error _ => false
  let step (acc : Nat × Octets × List (Nat × Report)) (d : Octets × Except PathFault FileData) :
      Nat × Octets × List (Nat × Report) :=
    let (n, data, blames) := acc
    match d.2 with
    | .ok d => (n + d.data.length, data ++ d.data, blames)
    | .error fault => (n, data, (n, s.unreadable 1 d.1 fault) :: blames)
  let (total, data, blames) := ds.foldl step (0, [], [])
  let isCut := ds.any fun d => match d.2 with | .ok d => d.isCut | .error _ => false
  let goal? : Option Nat := o.limit?.map (o.skipped + ·)
  let usesInput := (orInput operands).any Scene.isInput
  let blames := blames.reverse.filter fun b => goal?.all (b.1 < ·)
  let r : Report :=
    { appetite := if !usesInput then .nothing
        else match goal? with
          | some goal => if operands.length ≤ 1 ∧ o.texts?.isNone then .exactly goal else .everything
          | none => .everything
      isHungry := isCut && goal?.all (total < ·) }
  let complaints (r : Report) (bs : List (Nat × Report)) : Report :=
    bs.foldl (fun (r : Report) (b : Nat × Report) => r.and b.2) r
  if !opened then complaints r blames
  else if total < o.skipped then
    (complaints r blames).and (faultOf 1 s.name "cannot skip past end of combined input".toList)
  else
    let shown := data.drop o.skipped
    let shown := match o.limit? with
      | some n => shown.take n
      | none => shown
    match o.texts? with
    | some least => (complaints r blames).and (textOut (o.texts least [] o.skipped shown))
    | none =>
      let lines := o.blocks (shown.length + 1) none false o.skipped shown
      let add (acc : Report × List (Nat × Report)) (line : Nat × Octets) : Report × List (Nat × Report) :=
        let (due, later) := acc.2.span fun b => b.1 < line.1
        ((complaints acc.1 due).out line.2, later)
      let (r, later) := lines.foldl add (r, blames)
      (complaints r later).out (o.addressText (o.skipped + shown.length) ['\n'])

/-- Shows data as numbers and characters. -/
def od : Utility := fun s args =>
  let g : Grammar :=
    { letters := "A:aBbcDdeFfHhIij:LlN:OoS:st:vw::Xx"
      words := [("skip-bytes", "j", .something), ("address-radix", "A", .something),
        ("read-bytes", "N", .something), ("format", "t", .something), ("output-duplicates", "v", .nothing),
        ("strings", "S", .perhaps), ("width", "w", .perhaps), ("endian", "endian", .something)] }
  withArguments s.name 1 g args fun a =>
    match a.options.foldlM (Dump.withOption s.name) {} with
    | .error r => r
    | .ok o =>
      let (operands, skip?) := oldOperands a
      let o := { o with skipped := skip?.getD o.skipped
                        views := if o.views.isEmpty then [{ kind := .octal, size := 2 }] else o.views }
      match o.width? with
      | some n =>
        let warning : Report := if n % o.unit = 0 then {}
          else ({} : Report).err (s.name.toList ++ ": warning: invalid width ".toList ++ natText n ++
            "; using ".toList ++ natText o.unit ++ " instead".toList)
        warning.and (o.report s operands)
      | none => o.report s operands

end Foreman.Shell.Utility
