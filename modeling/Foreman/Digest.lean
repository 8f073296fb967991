import Foreman.Text.Digits

/-!
# `Foreman.Digest` — digests of data

A digest is made of words of 32 or 64 bits. The data are filled up to whole blocks, and each block changes
the words in some rounds. The constants of the rounds are digits of roots of primes or of sines, so they are
computed here and not listed.

## Contents
- **Words**: `turned`, `flipped`, `wordsOf`, `bytesOf`.
- **Constants**: `root`, `primes`, `rootDigits`, `sineDigits`.
- **`Family`**: the members of one family in the size of their words; `Family.digest`.
- `md5`, `sha1`, `sm3`, `sha2`, `blake2`.
- **Checksums**: `crc`, `sumOfBytes`, `turningSum`.
-/

namespace Foreman.Digest

/-! ## Words -/

/-- A word of a width turned to the left. -/
def turned (width n x : Nat) : Nat := ((x <<< n) ||| (x >>> (width - n))) % 2 ^ width

/-- A word of a width turned to the right. -/
def turnedBack (width n x : Nat) : Nat := turned width (width - n) x

/-- A word with all bits changed. -/
def flipped (width x : Nat) : Nat := x ^^^ (2 ^ width - 1)

/-- The number of some bytes, the highest first. -/
def numberOf (bytes : List Nat) : Nat := bytes.foldl (fun n b => 256 * n + b) 0

/-- The bytes of a number, the highest first. -/
def bytesOf (count n : Nat) : List Nat :=
  (List.range count).map fun i => n / 256 ^ (count - 1 - i) % 256

/-- The words of some bytes. -/
def wordsOf (size : Nat) (isLowFirst : Bool) : Nat → List Nat → List Nat
  | 0, _ => []
  | fuel + 1, bytes =>
    if bytes.isEmpty then []
    else
      let front := bytes.take size
      numberOf (if isLowFirst then front.reverse else front) :: wordsOf size isLowFirst fuel (bytes.drop size)

/-- Data with a mark and zeros after them, and their length in bits in some bytes at the end of a block. -/
def filled (block lengthSize : Nat) (isLowFirst : Bool) (data : List Nat) : List Nat :=
  let length := bytesOf lengthSize (8 * data.length)
  let used := data.length + 1 + lengthSize
  data ++ 0x80 :: List.replicate ((block - used % block) % block) 0 ++
    if isLowFirst then length.reverse else length

/-- The parts of a list that have some length. -/
def blocksOf {α : Type} (size : Nat) : Nat → List α → List (List α)
  | 0, _ => []
  | fuel + 1, xs => if xs.isEmpty then [] else xs.take size :: blocksOf size fuel (xs.drop size)

/-! ## Constants -/

/-- The greatest number below `2 ^ bits` whose power is not greater than a number. -/
def root (power n : Nat) : Nat → Nat → Nat
  | 0, r => r
  | bits + 1, r =>
    let next := r + 2 ^ bits
    root power n bits (if next ^ power ≤ n then next else r)

/-- The primes below 410. -/
def primes : List Nat :=
  ((List.range 410).drop 2).filter fun n => ((List.range n).drop 2).all fun d => n % d ≠ 0

/-- The first binary digits after the point of the roots of some primes. -/
def rootDigits (power width first count : Nat) : Array Nat :=
  let digits (p : Nat) : Nat := root power (p * 2 ^ (power * width)) (width + 8) 0 % 2 ^ width
  (((primes.drop first).take count).map digits).toArray

/-- The sine of a number of radians, with 160 binary digits after the point. -/
def sine (x : Nat) : Int :=
  let step (acc : Int × Int) (k : Nat) : Int × Int :=
    let term := -(acc.2 * (x * x : Nat)) / ((2 * k + 2) * (2 * k + 3) : Nat)
    (acc.1 + term, term)
  let first : Int := (x * 2 ^ 160 : Nat)
  ((List.range 120).foldl step (first, first)).1

/-- The first 32 binary digits after the point of the sines of 1, 2, … 64. -/
def sineDigits : Array Nat :=
  ((List.range 64).map fun i => (sine (i + 1)).natAbs / 2 ^ 128 % 2 ^ 32).toArray

/-! ## Digests of words of 32 bits -/

/-- Words that a block is mixed into. -/
abbrev Words : Type := List Nat

/-- Adds the words of a list to those of another one. -/
def added (width : Nat) (xs ys : Words) : Words := List.zipWith (fun x y => (x + y) % 2 ^ width) xs ys

/-- How far words are turned in each quarter of the rounds. -/
def md5Turns : List (List Nat) := [[7, 12, 17, 22], [5, 9, 14, 20], [4, 11, 16, 23], [6, 10, 15, 21]]

/-- Mixes a block into four words. -/
def md5Block (words : Words) (block : Array Nat) : Words :=
  let step (ws : Words) (i : Nat) : Words :=
    match ws with
    | [a, b, c, d] =>
      let (f, g) : Nat × Nat := match i / 16 with
        | 0 => ((b &&& c) ||| (flipped 32 b &&& d), i)
        | 1 => ((d &&& b) ||| (flipped 32 d &&& c), 5 * i + 1)
        | 2 => (b ^^^ c ^^^ d, 3 * i + 5)
        | _ => (c ^^^ (b ||| flipped 32 d), 7 * i)
      let f := (f + a + sineDigits.getD i 0 + block.getD (g % 16) 0) % 2 ^ 32
      let n := ((md5Turns.getD (i / 16) []).getD (i % 4) 0)
      [d, (b + turned 32 n f) % 2 ^ 32, b, c]
    | ws => ws
  added 32 words ((List.range 64).foldl step words)

/-- The first words of digests whose words are made of digits in sequence. -/
def firstWords : Words := [0x67452301, 0xEFCDAB89, 0x98BADCFE, 0x10325476]

/-- The digest of 128 bits. -/
def md5 (data : List Nat) : List Nat :=
  let bytes := filled 64 8 true data
  let blocks := blocksOf 16 (bytes.length + 1) (wordsOf 4 true (bytes.length + 1) bytes)
  let words := blocks.foldl (fun ws block => md5Block ws block.toArray) firstWords
  words.flatMap fun w => (bytesOf 4 w).reverse

/-- Mixes a block into five words. -/
def sha1Block (words : Words) (block : Array Nat) : Words :=
  let longer (w : Array Nat) (i : Nat) : Array Nat :=
    let back (k : Nat) : Nat := w.getD (i + 16 - k) 0
    w.push (turned 32 1 (back 3 ^^^ back 8 ^^^ back 14 ^^^ back 16))
  let w := (List.range 64).foldl longer block
  let step (ws : Words) (i : Nat) : Words :=
    match ws with
    | [a, b, c, d, e] =>
      let (f, k) : Nat × Nat := match i / 20 with
        | 0 => ((b &&& c) ||| (flipped 32 b &&& d), 0x5A827999)
        | 1 => (b ^^^ c ^^^ d, 0x6ED9EBA1)
        | 2 => ((b &&& c) ||| (b &&& d) ||| (c &&& d), 0x8F1BBCDC)
        | _ => (b ^^^ c ^^^ d, 0xCA62C1D6)
      [(turned 32 5 a + f + e + k + w.getD i 0) % 2 ^ 32, a, turned 32 30 b, c, d]
    | ws => ws
  added 32 words ((List.range 80).foldl step words)

/-- The digest of 160 bits. -/
def sha1 (data : List Nat) : List Nat :=
  let bytes := filled 64 8 false data
  let blocks := blocksOf 16 (bytes.length + 1) (wordsOf 4 false (bytes.length + 1) bytes)
  let words := blocks.foldl (fun ws block => sha1Block ws block.toArray) (firstWords ++ [0xC3D2E1F0])
  words.flatMap (bytesOf 4)

/-- A word with two turned copies of itself. -/
def smeared (m n x : Nat) : Nat := x ^^^ turned 32 m x ^^^ turned 32 n x

/-- Mixes a block into eight words. -/
def sm3Block (words : Words) (block : Array Nat) : Words :=
  let longer (w : Array Nat) (i : Nat) : Array Nat :=
    let back (k : Nat) : Nat := w.getD (i + 16 - k) 0
    w.push (smeared 15 23 (back 16 ^^^ back 9 ^^^ turned 32 15 (back 3)) ^^^ turned 32 7 (back 13) ^^^ back 6)
  let w := (List.range 52).foldl longer block
  let step (ws : Words) (i : Nat) : Words :=
    match ws with
    | [a, b, c, d, e, f, g, h] =>
      let constant := if i < 16 then 0x79CC4519 else 0x7A879D8A
      let x := turned 32 7 ((turned 32 12 a + e + turned 32 (i % 32) constant) % 2 ^ 32)
      let y := x ^^^ turned 32 12 a
      let first := if i < 16 then a ^^^ b ^^^ c else (a &&& b) ||| (a &&& c) ||| (b &&& c)
      let second := if i < 16 then e ^^^ f ^^^ g else (e &&& f) ||| (flipped 32 e &&& g)
      let m := (first + d + y + (w.getD i 0 ^^^ w.getD (i + 4) 0)) % 2 ^ 32
      let n := (second + h + x + w.getD i 0) % 2 ^ 32
      [m, a, turned 32 9 b, c, smeared 9 17 n, e, turned 32 19 f, g]
    | ws => ws
  List.zipWith (· ^^^ ·) words ((List.range 64).foldl step words)

/-- The digest of 256 bits that takes eight words of their own. -/
def sm3 (data : List Nat) : List Nat :=
  let bytes := filled 64 8 false data
  let blocks := blocksOf 16 (bytes.length + 1) (wordsOf 4 false (bytes.length + 1) bytes)
  let start : Words :=
    [0x7380166F, 0x4914B2B9, 0x172442D7, 0xDA8A0600, 0xA96F30BC, 0x163138AA, 0xE38DEE4D, 0xB0FB0E4E]
  (blocks.foldl (fun ws block => sm3Block ws block.toArray) start).flatMap (bytesOf 4)

/-! ## Digests with constants of roots -/

/-- The digests with words of one width. -/
structure Family where
  width : Nat
  constants : Array Nat
  /-- How far words are turned in a round, and where new words of a block are made; there the last
      number is that of a shift. -/
  first : List Nat
  second : List Nat
  third : List Nat
  fourth : List Nat

namespace Family

/-- The family with words of 32 bits. -/
def short : Family :=
  { width := 32
    constants := rootDigits 3 32 0 64
    first := [2, 13, 22]
    second := [6, 11, 25]
    third := [7, 18, 3]
    fourth := [17, 19, 10] }

/-- The family with words of 64 bits. -/
def long : Family :=
  { width := 64
    constants := rootDigits 3 64 0 80
    first := [28, 34, 39]
    second := [14, 18, 41]
    third := [1, 8, 7]
    fourth := [19, 61, 6] }

/-- A word turned by several distances, taken together. -/
def mixed (f : Family) (ns : List Nat) (x : Nat) : Nat :=
  ns.foldl (fun y n => y ^^^ turnedBack f.width n x) 0

/-- A word turned by two distances and shifted by a third one, taken together. -/
def shifted (f : Family) (ns : List Nat) (x : Nat) : Nat :=
  f.mixed (ns.take 2) x ^^^ (x >>> ns.getD 2 0)

/-- Mixes a block into eight words. -/
def block (f : Family) (words : Words) (block : Array Nat) : Words :=
  let size := 2 ^ f.width
  let rounds := f.constants.size
  let longer (w : Array Nat) (i : Nat) : Array Nat :=
    let back (k : Nat) : Nat := w.getD (i + 16 - k) 0
    w.push ((back 16 + f.shifted f.third (back 15) + back 7 + f.shifted f.fourth (back 2)) % size)
  let w := (List.range (rounds - 16)).foldl longer block
  let step (ws : Words) (i : Nat) : Words :=
    match ws with
    | [a, b, c, d, e, g, h, k] =>
      let choice := (e &&& g) ^^^ (flipped f.width e &&& h)
      let most := (a &&& b) ^^^ (a &&& c) ^^^ (b &&& c)
      let x := k + f.mixed f.second e + choice + f.constants.getD i 0 + w.getD i 0
      let y := f.mixed f.first a + most
      [(x + y) % size, a, b, c, (d + x) % size, e, g, h]
    | ws => ws
  added f.width words ((List.range rounds).foldl step words)

/-- The digest of data that begins with some words, cut to a number of bytes. -/
def digest (f : Family) (words : Words) (count : Nat) (data : List Nat) : List Nat :=
  let size := f.width / 8
  let bytes := filled (16 * size) (2 * size) false data
  let blocks := blocksOf 16 (bytes.length + 1) (wordsOf size false (bytes.length + 1) bytes)
  ((blocks.foldl (fun ws b => f.block ws b.toArray) words).flatMap (bytesOf size)).take count

end Family

/-- The first digits of the square roots of eight primes. -/
def squareDigits (width first : Nat) : Words := (rootDigits 2 width first 8).toList

/-- The words that the longest digests begin with. -/
def longStart : Words := squareDigits 64 0

/-- The digest of 224, 256, 384 or 512 bits. -/
def sha2 (bits : Nat) (data : List Nat) : List Nat :=
  match bits with
  | 224 => Family.short.digest ((squareDigits 64 8).map (· % 2 ^ 32)) 28 data
  | 256 => Family.short.digest (squareDigits 32 0) 32 data
  | 384 => Family.long.digest (squareDigits 64 8) 48 data
  | _ => Family.long.digest longStart 64 data

/-! ## Digests of any length -/

/-- The orders in which the words of a block are taken. -/
def blockOrders : List (List Nat) :=
  [[0, 1, 2, 3, 4, 5, 6, 7, 8, 9, 10, 11, 12, 13, 14, 15],
    [14, 10, 4, 8, 9, 15, 13, 6, 1, 12, 0, 2, 11, 7, 5, 3],
    [11, 8, 12, 0, 5, 2, 15, 13, 10, 14, 3, 6, 7, 1, 9, 4],
    [7, 9, 3, 1, 13, 12, 11, 14, 2, 6, 5, 10, 4, 0, 15, 8],
    [9, 0, 5, 7, 2, 4, 10, 15, 14, 1, 11, 12, 6, 8, 3, 13],
    [2, 12, 6, 10, 0, 11, 8, 3, 4, 13, 7, 5, 15, 14, 1, 9],
    [12, 5, 1, 15, 14, 13, 4, 10, 0, 7, 6, 3, 9, 2, 8, 11],
    [13, 11, 7, 14, 12, 1, 3, 9, 5, 0, 15, 4, 8, 6, 2, 10],
    [6, 15, 14, 9, 11, 3, 0, 8, 12, 2, 13, 7, 1, 4, 10, 5],
    [10, 2, 8, 4, 7, 6, 1, 5, 15, 11, 9, 14, 3, 12, 13, 0]]

/-- The places of the words that are mixed together, four at a time. -/
def mixingPlaces : List (List Nat) :=
  [[0, 4, 8, 12], [1, 5, 9, 13], [2, 6, 10, 14], [3, 7, 11, 15], [0, 5, 10, 15], [1, 6, 11, 12],
    [2, 7, 8, 13], [3, 4, 9, 14]]

/-- Mixes two words of a block into four words. -/
def mixFour (v : Array Nat) (places : List Nat) (x y : Nat) : Array Nat :=
  match places with
  | [i, j, k, l] =>
    let (a, b, c, d) := (v.getD i 0, v.getD j 0, v.getD k 0, v.getD l 0)
    let a := (a + b + x) % 2 ^ 64
    let d := turnedBack 64 32 (d ^^^ a)
    let c := (c + d) % 2 ^ 64
    let b := turnedBack 64 24 (b ^^^ c)
    let a := (a + b + y) % 2 ^ 64
    let d := turnedBack 64 16 (d ^^^ a)
    let c := (c + d) % 2 ^ 64
    let b := turnedBack 64 63 (b ^^^ c)
    (((v.setIfInBounds i a).setIfInBounds j b).setIfInBounds k c).setIfInBounds l d
  | _ => v

/-- Mixes a block into eight words; `count` bytes were taken so far. -/
def blake2Block (isLast : Bool) (count : Nat) (words : Words) (block : Array Nat) : Words :=
  let start := longStart
  let v := (words ++ start.take 4 ++ [start.getD 4 0 ^^^ count, start.getD 5 0,
    if isLast then flipped 64 (start.getD 6 0) else start.getD 6 0, start.getD 7 0]).toArray
  let round (v : Array Nat) (r : Nat) : Array Nat :=
    let order := blockOrders.getD (r % 10) []
    let step (v : Array Nat) (e : List Nat × Nat) : Array Nat :=
      mixFour v e.1 (block.getD (order.getD (2 * e.2) 0) 0) (block.getD (order.getD (2 * e.2 + 1) 0) 0)
    mixingPlaces.zipIdx.foldl step v
  let v := (List.range 12).foldl round v
  words.zipIdx.map fun (w, i) => w ^^^ v.getD i 0 ^^^ v.getD (i + 8) 0

/-- The digest of a number of bytes, at most 64. -/
def blake2 (count : Nat) (data : List Nat) : List Nat :=
  let blocks := if data.isEmpty then [[]] else blocksOf 128 (data.length + 1) data
  let start := match longStart with
    | w :: ws => (w ^^^ 0x01010000 ^^^ count) :: ws
    | [] => []
  let step (acc : Words × Nat) (block : List Nat) : Words × Nat :=
    let taken := acc.2 + block.length
    let full := block ++ List.replicate (128 - block.length) 0
    (blake2Block (taken = data.length) taken acc.1 (wordsOf 8 true 17 full).toArray, taken)
  (((blocks.foldl step (start, 0)).1).flatMap fun w => (bytesOf 8 w).reverse).take count

/-! ## Checksums -/

/-- The remainder of data and their length as a polynomial of bits. -/
def crc (data : List Nat) : Nat :=
  let bit (n : Nat) (_ : Nat) : Nat :=
    if n / 2 ^ 31 % 2 = 1 then (2 * n ^^^ 0x04C11DB7) % 2 ^ 32 else 2 * n % 2 ^ 32
  let byte (n b : Nat) : Nat := (List.range 8).foldl bit (n ^^^ (b * 2 ^ 24))
  let length := ((bytesOf 8 data.length).dropWhile (· = 0)).reverse
  flipped 32 (length.foldl byte (data.foldl byte 0))

/-- The sum of bytes, folded to 16 bits. -/
def sumOfBytes (data : List Nat) : Nat :=
  let n := data.foldl (· + ·) 0 % 2 ^ 32
  let n := n % 2 ^ 16 + n / 2 ^ 16
  n % 2 ^ 16 + n / 2 ^ 16

/-- The sum of bytes in 16 bits, turned before each of them. -/
def turningSum (data : List Nat) : Nat :=
  data.foldl (fun n b => (turnedBack 16 1 n + b) % 2 ^ 16) 0

/-- A digest in hexadecimal digits. -/
def hexDigits (digest : List Nat) : String := String.join (digest.map (hexText 2))

end Foreman.Digest
