import Foreman.Number.Binary64
import Foreman.Shell.Arithmetic
import Foreman.Shell.Scene

/-!
# `Foreman.Shell.Format` — formatted output

## Contents
- **Escapes**: `escape`, `unescape`.
- **Directives**: one conversion of a format, with flags, a width and a precision.
- **Numbers**: `readInteger`, `readDouble`; `floatText`, a number in one of its forms.
- **Formats**: `readFormat`, `formatted`.
-/

namespace Foreman.Shell

/-! ## Escapes -/

/-- The character that a letter after a backslash stands for. -/
def letterEscape? (c : Char) : Option Char :=
  match c with
  | '\\' => some '\\'
  | 'a' => some '\x07'
  | 'b' => some '\x08'
  | 'e' => some '\x1b'
  | 'f' => some '\x0c'
  | 'n' => some '\n'
  | 'r' => some '\r'
  | 't' => some '\t'
  | 'v' => some '\x0b'
  | _ => none

/-- Whether a character is an octal digit. -/
def isOctal (c : Char) : Bool := '0' ≤ c && c ≤ '7'

/-- The byte that up to three octal digits write, and the text after them. -/
def octalCode (cs : Octets) : Char × Octets :=
  let ds := (cs.take 3).takeWhile isOctal
  (Char.ofNat (((numeral? 8 ds).getD 0) % 256), cs.drop ds.length)

/-- The text of an escape after its backslash, and the text after it. -/
def escape (cs : Octets) : Octets × Octets :=
  match cs with
  | [] => (['\\'], [])
  | c :: rest =>
    if isOctal c then
      let (e, rest) := octalCode cs
      ([e], rest)
    else
      match letterEscape? c with
      | some e => ([e], rest)
      | none => (['\\', c], rest)

/-- A text with its escapes replaced, and whether an escape ended it early. A zero may stand in front of
    an octal code. -/
def unescapeUpTo : Nat → Octets → Octets → Octets × Bool
  | 0, acc, _ => (acc.reverse, false)
  | _ + 1, acc, [] => (acc.reverse, false)
  | _ + 1, acc, '\\' :: 'c' :: _ => (acc.reverse, true)
  | fuel + 1, acc, '\\' :: '0' :: rest =>
    let (e, rest) := octalCode rest
    unescapeUpTo fuel (e :: acc) rest
  | fuel + 1, acc, '\\' :: rest =>
    let (text, rest) := escape rest
    unescapeUpTo fuel (text.reverse ++ acc) rest
  | fuel + 1, acc, c :: rest => unescapeUpTo fuel (c :: acc) rest

/-- A text with its escapes replaced, and whether an escape ended it early. -/
def unescape (cs : Octets) : Octets × Bool := unescapeUpTo (cs.length + 1) [] cs

/-! ## Directives -/

/-- One conversion of a format. -/
structure Directive where
  flags : List Char := []
  width : Nat := 0
  precision : Option Nat := none
  letter : Char
  deriving DecidableEq

namespace Directive

/-- Whether a flag is set. -/
def has (d : Directive) (flag : Char) : Bool := d.flags.contains flag

/-- A text in a field of some width. -/
def inField (d : Directive) (text : Octets) : Octets :=
  let gap := List.replicate (d.width - text.length) ' '
  if d.has '-' then text ++ gap else gap ++ text

/-- A text, cut to the precision, in its field. -/
def ofText (d : Directive) (text : Octets) : Octets :=
  d.inField (match d.precision with
    | some n => text.take n
    | none => text)

/-- The sign of a number. -/
def sign (d : Directive) (isNegative : Bool) : Octets :=
  if isNegative then ['-'] else if d.has '+' then ['+'] else if d.has ' ' then [' '] else []

/-- A number with what stands in front of it, with zeros between them or with blanks around. -/
def ofParts (d : Directive) (front digits : Octets) (mayFill : Bool) : Octets :=
  if mayFill ∧ d.has '0' ∧ !d.has '-' then
    front ++ List.replicate (d.width - front.length - digits.length) '0' ++ digits
  else d.inField (front ++ digits)

/-- The digits of an integer; the precision is the least number of them. -/
def digits (d : Directive) (base n : Nat) : Octets :=
  let ds : Octets := if n = 0 ∧ d.precision = some 0 then [] else Nat.toDigits base n
  List.replicate (d.precision.getD 1 - ds.length) '0' ++ ds

/-- An integer in its field. -/
def ofInteger (d : Directive) (n : Int) : Octets :=
  let free := d.precision.isNone
  let m := unsigned n
  match d.letter with
  | 'o' =>
    let ds := d.digits 8 m
    d.ofParts [] (if d.has '#' ∧ ds.head? ≠ some '0' then '0' :: ds else ds) free
  | 'x' => d.ofParts (if d.has '#' ∧ m ≠ 0 then ['0', 'x'] else []) (d.digits 16 m) free
  | 'X' =>
    d.ofParts (if d.has '#' ∧ m ≠ 0 then ['0', 'X'] else []) ((d.digits 16 m).map Char.toUpper) free
  | 'u' => d.ofParts [] (d.digits 10 m) free
  | _ => d.ofParts (d.sign (n < 0)) (d.digits 10 n.natAbs) free

end Directive

/-! ## Numbers -/

/-- The number that a text starts with, and the text after it. A quote in front stands for the code of
    the character after it. -/
def readInteger (cs : Octets) : Int × Octets :=
  let signed (isNegative : Bool) (rest : Octets) : Int × Octets :=
    let (n, after) := numberAt rest
    if after.length = rest.length then (0, cs) else (if isNegative then -n else n, after)
  match dropSpaces cs with
  | '\'' :: c :: _ | '"' :: c :: _ => (c.toNat, [])
  | '-' :: rest => signed true rest
  | '+' :: rest => signed false rest
  | rest => signed false rest

/-- The power of a mark like `e` with digits and perhaps a sign after it, and the text after it. -/
def readPower (marks : List Char) (cs : Octets) : Int × Octets :=
  match cs with
  | c :: rest =>
    if !marks.contains c then (0, cs)
    else
      let (isNegative, ds) := match rest with
        | '-' :: ds => (true, ds)
        | '+' :: ds => (false, ds)
        | ds => (false, ds)
      let digits := ds.takeWhile Char.isDigit
      if digits.isEmpty then (0, cs)
      else
        let n : Int := min (digitsValue digits) 1000000
        (if isNegative then -n else n, ds.drop digits.length)
  | [] => (0, [])

/-- Digits with a point among them: their value, how many of them are places, and the text after them;
    none without a digit. -/
def readPlaces (base : Nat) (cs : Octets) : Option (Nat × Nat × Octets) :=
  let isDigit (c : Char) : Bool := (digit? base c).isSome
  let whole := cs.takeWhile isDigit
  let rest := cs.drop whole.length
  let (places, after) := match rest with
    | '.' :: more =>
      let ds := more.takeWhile isDigit
      (ds, more.drop ds.length)
    | rest => ([], rest)
  if whole.isEmpty ∧ places.isEmpty then none
  else some ((numeral? base (whole ++ places)).getD 0, places.length, after)

/-- Whether a text starts with a word, in letters of any size. -/
def startsWithWord (word : String) (cs : Octets) : Bool :=
  (cs.take word.length).map Char.toLower = word.toList

/-- The number without sign that a text starts with, and the text after it. -/
def readUnsigned (isNegative : Bool) (cs : Octets) : Option (Binary64 × Octets) :=
  if startsWithWord "infinity" cs then some (.infinity isNegative, cs.drop 8)
  else if startsWithWord "inf" cs then some (.infinity isNegative, cs.drop 3)
  else if startsWithWord "nan" cs then
    some (.ofFields isNegative (2047 * 2 ^ 52 + 2 ^ 51), cs.drop 3)
  else
    let hex := match cs with
      | '0' :: 'x' :: rest | '0' :: 'X' :: rest => readPlaces 16 rest
      | _ => none
    match hex with
    | some (n, places, rest) =>
      let (power, rest) := readPower ['p', 'P'] rest
      some (.ofScaled isNegative n (power - 4 * places), rest)
    | none =>
      (readPlaces 10 cs).map fun (n, places, rest) =>
        let (power, rest) := readPower ['e', 'E'] rest
        (.ofDecimal isNegative n (power - places), rest)

/-- The number that a text starts with, and the text after it, which is all of it if there is none. -/
def readDouble (cs : Octets) : Binary64 × Octets :=
  let number := match dropSpaces cs with
    | '-' :: rest => readUnsigned true rest
    | '+' :: rest => readUnsigned false rest
    | rest => readUnsigned false rest
  number.getD (.zero false, cs)

/-- A quotient rounded to a number of places. -/
def fixedText (places num den : Nat) (keepsPoint : Bool) : Octets :=
  let n := roundQuotient (num * 10 ^ places) den
  let ds := Nat.toDigits 10 n
  let ds := List.replicate (places + 1 - ds.length) '0' ++ ds
  let whole := ds.take (ds.length - places)
  if places = 0 then if keepsPoint then whole ++ ['.'] else whole
  else whole ++ '.' :: ds.drop whole.length

/-- The power of ten of the first digit of a positive quotient. -/
def decimalPower (num den : Nat) : Int :=
  let guess : Int := (Nat.toDigits 10 num).length - (Nat.toDigits 10 den).length
  let isBelow := if 0 ≤ guess then num < den * 10 ^ guess.toNat else num * 10 ^ (-guess).toNat < den
  if isBelow then guess - 1 else guess

/-- A quotient divided by a power of ten. -/
def scaledDown (power : Int) (num den : Nat) : Nat × Nat :=
  if 0 ≤ power then (num, den * 10 ^ power.toNat) else (num * 10 ^ (-power).toNat, den)

/-- The power of ten of the first digit of a quotient that is rounded to a number of places after that
    digit. -/
def roundedPower (places num den : Nat) : Int :=
  if num = 0 then 0
  else
    let power := decimalPower num den
    let (a, b) := scaledDown power num den
    if 10 ^ (places + 1) ≤ roundQuotient (a * 10 ^ places) b then power + 1 else power

/-- A power with a sign and at least two digits. -/
def powerText (mark : Char) (power : Int) : Octets :=
  mark :: (if power < 0 then '-' else '+') :: (padded 2 power.natAbs).toList

/-- A quotient as one digit, places, and a power of ten. -/
def exponentText (mark : Char) (places num den : Nat) (keepsPoint : Bool) : Octets :=
  let power := roundedPower places num den
  let (a, b) := scaledDown power num den
  fixedText places a b keepsPoint ++ powerText mark power

/-- A text with a point without zeros at its end. -/
def withoutFinalZeros (cs : Octets) : Octets :=
  if !cs.contains '.' then cs
  else
    let short := (cs.reverse.dropWhile (· = '0')).reverse
    if short.getLast? = some '.' then short.dropLast else short

/-- A quotient with a number of digits that count, in the shorter of two forms. -/
def generalText (mark : Char) (precision num den : Nat) (keepsZeros : Bool) : Octets :=
  let precision := max precision 1
  let power := roundedPower (precision - 1) num den
  let tidy (cs : Octets) : Octets := if keepsZeros then cs else withoutFinalZeros cs
  if -4 ≤ power ∧ power < precision then
    tidy (fixedText ((precision : Int) - 1 - power).toNat num den keepsZeros)
  else
    let (a, b) := scaledDown power num den
    tidy (fixedText (precision - 1) a b keepsZeros) ++ powerText mark power

/-- A number in base sixteen with a power of two. -/
def hexFloatText (precision : Option Nat) (m : Nat) (e : Int) (keepsPoint : Bool) : Octets :=
  if m = 0 then
    ['0'] ++ (if precision.getD 0 = 0 then if keepsPoint then ['.'] else []
      else '.' :: List.replicate (precision.getD 0) '0') ++ "p+0".toList
  else
    let shift := 52 - Nat.log2 m
    let m := m * 2 ^ shift
    let power := e - shift + 52
    let places := precision.getD 13
    let m := if places < 13 then roundQuotient m (16 ^ (13 - places)) else m * 16 ^ (places - 13)
    let ds := (paddedIn 16 (places + 1) m).toList
    let text := if places = 0 then ds else ds.take 1 ++ '.' :: ds.drop 1
    let text := if precision.isNone then withoutFinalZeros text else text
    let text := if keepsPoint ∧ !text.contains '.' then text ++ ['.'] else text
    text ++ 'p' :: (if power < 0 then '-' else '+') :: Nat.toDigits 10 power.natAbs

/-- A number in its field. -/
def Directive.ofDouble (d : Directive) (x : Binary64) : Octets :=
  let sized (text : Octets) : Octets := if d.letter.isUpper then text.map Char.toUpper else text
  match x.reading with
  | .nan => d.ofParts (d.sign x.isNegative) (sized "nan".toList) false
  | .infinite negative => d.ofParts (d.sign negative) (sized "inf".toList) false
  | .finite negative m e =>
    let (num, den) := if 0 ≤ e then (m * 2 ^ e.toNat, 1) else (m, 2 ^ (-e).toNat)
    let places := d.precision.getD 6
    match d.letter with
    | 'a' | 'A' =>
      d.ofParts (d.sign negative ++ sized ['0', 'x'])
        (sized (hexFloatText d.precision m e (d.has '#'))) true
    | 'e' | 'E' => d.ofParts (d.sign negative) (exponentText d.letter places num den (d.has '#')) true
    | 'g' => d.ofParts (d.sign negative) (generalText 'e' places num den (d.has '#')) true
    | 'G' => d.ofParts (d.sign negative) (generalText 'E' places num den (d.has '#')) true
    | _ => d.ofParts (d.sign negative) (fixedText places num den (d.has '#')) true

/-! ## Formats -/

/-- A width or precision of a directive as it is written. -/
inductive Size where
  | given (n : Nat)
  /-- The next argument. -/
  | argument
  deriving DecidableEq

/-- A part of a format. -/
inductive FormatPart where
  | plain (text : Octets)
  | convert (flags : List Char) (width : Size) (precision : Option Size) (letter : Char)
      (text : Octets)
  /-- The end of a format that stops in the middle of a directive. -/
  | unfinished

/-- A size at the front of a text. -/
def readSize (cs : Octets) : Size × Octets :=
  match cs with
  | '*' :: rest => (.argument, rest)
  | cs =>
    let digits := cs.takeWhile Char.isDigit
    (.given (digitsValue digits), cs.drop digits.length)

/-- The parts of a format, without its escapes replaced. -/
def readFormatUpTo : Nat → Octets → List FormatPart
  | 0, _ => []
  | _ + 1, [] => []
  | fuel + 1, '%' :: '%' :: rest => .plain ['%'] :: readFormatUpTo fuel rest
  | fuel + 1, '%' :: whole =>
    let flags := whole.takeWhile fun c => c = '-' || c = '0' || c = '+' || c = ' ' || c = '#'
    let (width, rest) := readSize (whole.drop flags.length)
    let (precision, rest) := match rest with
      | '.' :: rest =>
        let (size, rest) := readSize rest
        (some size, rest)
      | rest => (none, rest)
    match rest with
    | [] => [.unfinished]
    | letter :: rest =>
      .convert flags width precision letter ('%' :: whole.take (whole.length - rest.length)) ::
        readFormatUpTo fuel rest
  | fuel + 1, '\\' :: rest =>
    let (text, rest) := escape rest
    .plain text :: readFormatUpTo fuel rest
  | fuel + 1, cs =>
    let text := cs.takeWhile fun c => c ≠ '%' && c ≠ '\\'
    .plain text :: readFormatUpTo fuel (cs.drop text.length)

/-- The parts of a format. -/
def readFormat (format : Octets) : List FormatPart := readFormatUpTo (format.length + 1) format

/-- The state of formatted output. -/
structure Formatting where
  /-- What was written, the latest first. -/
  texts : List Octets := []
  rest : List Octets
  /-- What is wrong with the arguments, the latest first. -/
  doubts : List Octets := []
  isOver : Bool := false
  /-- What is wrong with the format. -/
  fault : Option Octets := none

namespace Formatting

/-- What has been written. -/
def text (f : Formatting) : Octets := f.texts.reverse.flatten

/-- Takes an argument; a missing one is empty. -/
def next (f : Formatting) : Octets × Formatting := (f.rest.headD [], { f with rest := f.rest.tail })

/-- Notes what is wrong with an argument that stands for a number, of which a rest was not read. -/
def doubting (f : Formatting) (argument rest : Octets) (isOut : Bool) : Formatting :=
  let what :=
    if !rest.isEmpty then
      if rest.length = argument.length then some "expected numeric value"
      else some "not completely converted"
    else if isOut then some "Numerical result out of range"
    else none
  { f with doubts := (what.toList.map fun what => argument ++ (": " ++ what).toList) ++ f.doubts }

/-- Takes an argument that stands for a number between two bounds. -/
def nextInteger (f : Formatting) (low high : Int) : Int × Formatting :=
  let (argument, f) := f.next
  let (n, rest) := readInteger argument
  (max low (min high n), f.doubting argument rest (n < low || high < n))

/-- Takes the size that a directive needs. -/
def size (f : Formatting) : Size → Int × Formatting
  | .given n => (n, f)
  | .argument => f.nextInteger (-(2 ^ 31)) (2 ^ 31 - 1)

/-- Adds a text. -/
def add (f : Formatting) (text : Octets) : Formatting := { f with texts := text :: f.texts }

/-- Writes an argument. -/
def convert (f : Formatting) (d : Directive) (source : Octets) : Formatting :=
  match d.letter with
  | 's' =>
    let (a, f) := f.next
    f.add (d.ofText a)
  | 'b' =>
    let (a, f) := f.next
    let (text, isOver) := unescape a
    { f.add (d.ofText text) with isOver }
  | 'c' =>
    let (a, f) := f.next
    f.add (d.inField [a.headD '\x00'])
  | 'd' | 'i' =>
    let (n, f) := f.nextInteger (-(2 ^ 63)) (2 ^ 63 - 1)
    f.add (d.ofInteger n)
  | 'u' | 'o' | 'x' | 'X' =>
    let (n, f) := f.nextInteger (-(2 ^ 64 - 1)) (2 ^ 64 - 1)
    f.add (d.ofInteger n)
  | 'f' | 'F' | 'e' | 'E' | 'g' | 'G' | 'a' | 'A' =>
    let (a, f) := f.next
    let (x, rest) := match a with
      | '\'' :: c :: _ | '"' :: c :: _ => (Binary64.ofNat c.toNat, [])
      | a => readDouble a
    let isWord := a.any fun c => c = 'i' || c = 'I'
    (f.doubting a rest (!isWord && x.reading matches .infinite _)).add (d.ofDouble x)
  | _ => { f with isOver := true, fault := some (source ++ ": invalid directive".toList) }

/-- Writes one part of a format. -/
def part (f : Formatting) (p : FormatPart) : Formatting :=
  if f.isOver then f
  else
    match p with
    | .plain text => f.add text
    | .unfinished => { f with isOver := true, fault := some "missing format character".toList }
    | .convert flags width precision letter source =>
      let (width, f) := f.size width
      let flags := if width < 0 then '-' :: flags else flags
      let (precision, f) : Option Nat × Formatting := match precision with
        | none => (none, f)
        | some size =>
          let (n, f) := f.size size
          (if n < 0 then none else some n.toNat, f)
      f.convert { flags, width := width.natAbs, precision, letter } source

/-- Applies a format until no argument is left, or until it takes none. -/
def all (parts : List FormatPart) : Nat → Formatting → Formatting
  | 0, f => f
  | fuel + 1, f =>
    let g := parts.foldl part f
    if g.isOver || g.rest.isEmpty || g.rest.length = f.rest.length then g else all parts fuel g

end Formatting

/-- A format applied to arguments. -/
def formatted (format : Octets) (arguments : List Octets) : Formatting :=
  Formatting.all (readFormat format) (arguments.length + 1) { rest := arguments }

end Foreman.Shell
