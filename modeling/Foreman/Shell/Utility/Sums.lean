import Foreman.Digest
import Foreman.Shell.Utility.Basic

/-!
# `Foreman.Shell.Utility.Sums` — digests of files

A line for each file has its digest and its name. Such lines are read back to check that files have not
changed since.

## Contents
- **`DigestKind`**: which digest it is.
- **`SumLine`**: a line as it is read back.
- `digestProgram`, for one kind of digest; `cksum`, `sum`.
-/

namespace Foreman.Shell.Utility

/-- A kind of digest. -/
structure DigestKind where
  /-- Its name in a line that tells the kind. -/
  tag : String
  /-- The bytes of a digest. -/
  size : Nat
  compute : List Nat → List Nat

namespace DigestKind

/-- The kinds by their names. -/
def all : List (String × DigestKind) :=
  [("md5", ⟨"MD5", 16, Digest.md5⟩), ("sha1", ⟨"SHA1", 20, Digest.sha1⟩),
    ("sha224", ⟨"SHA224", 28, Digest.sha2 224⟩), ("sha256", ⟨"SHA256", 32, Digest.sha2 256⟩),
    ("sha384", ⟨"SHA384", 48, Digest.sha2 384⟩), ("sha512", ⟨"SHA512", 64, Digest.sha2 512⟩),
    ("blake2b", ⟨"BLAKE2b", 64, Digest.blake2 64⟩), ("sm3", ⟨"SM3", 32, Digest.sm3⟩)]

/-- The digest of data in hexadecimal digits. -/
def text (k : DigestKind) (data : Octets) : Octets :=
  (Digest.hexDigits (k.compute (data.map Char.toNat))).toList

end DigestKind

/-- Whether a name is written with escapes. -/
def isEscaped (name : Octets) : Bool := name.any fun c => c = '\\' || c = '\n' || c = '\r'

/-- A name with escapes. -/
def escapedName (name : Octets) : Octets :=
  name.flatMap fun c =>
    match c with
    | '\\' => ['\\', '\\']
    | '\n' => ['\\', 'n']
    | '\r' => ['\\', 'r']
    | c => [c]

/-- A name whose escapes are read; none if there is another one. -/
def unescapedName? : Octets → Option Octets
  | [] => some []
  | '\\' :: '\\' :: rest => (unescapedName? rest).map ('\\' :: ·)
  | '\\' :: 'n' :: rest => (unescapedName? rest).map ('\n' :: ·)
  | '\\' :: 'r' :: rest => (unescapedName? rest).map ('\r' :: ·)
  | '\\' :: _ => none
  | c :: rest => (unescapedName? rest).map (c :: ·)

/-- The line of a file. -/
def sumLine (tag? : Option String) (isBinary : Bool) (ending : Char) (digest name : Octets) : Octets :=
  let escapes := ending = '\n' ∧ isEscaped name
  let front : Octets := if escapes then ['\\'] else []
  let shown := if escapes then escapedName name else name
  front ++ (match tag? with
    | some tag => tag.toList ++ " (".toList ++ shown ++ ") = ".toList ++ digest
    | none => digest ++ [' ', if isBinary then '*' else ' '] ++ shown) ++ [ending]

/-- A line as it is read back: the kind, the digest, and the name. -/
structure SumLine where
  kind : DigestKind
  digest : Octets
  name : Octets

/-- Reads a line; the kind is given, or has to be told by the line. -/
def SumLine.read? (kind? : Option DigestKind) (line : Octets) : Option SumLine :=
  let line := line.dropWhile fun c => c = ' ' || c = '\t'
  let (isEscaped, line) := match line with
    | '\\' :: rest => (true, rest)
    | line => (false, line)
  let named (kind : DigestKind) (digest name : Octets) : Option SumLine :=
    let isHex (c : Char) : Bool := (digit? 16 c).isSome
    if digest.length = 2 * kind.size ∧ digest.all isHex ∧ !name.isEmpty then
      (if isEscaped then unescapedName? name else some name).map fun name =>
        ⟨kind, digest.map Char.toLower, name⟩
    else none
  let tagged : Option SumLine :=
    let kinds := match kind? with
      | some kind => [kind]
      | none => DigestKind.all.map Prod.snd
    kinds.findSome? fun kind =>
      if !kind.tag.toList.isPrefixOf line then none
      else
        let rest := line.drop kind.tag.length
        let rest := if rest.head? = some ' ' then rest.drop 1 else rest
        match rest with
        | '(' :: rest =>
          let back := rest.reverse
          let digest := (back.takeWhile fun c => (digit? 16 c).isSome).reverse
          let middle := (rest.take (rest.length - digest.length)).reverse
          let middle := middle.dropWhile fun c => c = ' ' || c = '\t'
          match middle with
          | '=' :: more =>
            match more.dropWhile fun c => c = ' ' || c = '\t' with
            | ')' :: name => named kind digest name.reverse
            | _ => none
          | _ => none
        | _ => none
  match tagged, kind? with
  | some line, _ => some line
  | none, none => none
  | none, some kind =>
    let digest := line.takeWhile fun c => c ≠ ' ' && c ≠ '\t'
    match line.drop digest.length with
    | _ :: ' ' :: name => named kind digest name
    | _ :: '*' :: name => named kind digest name
    | _ :: name => named kind digest name
    | [] => none

/-- What was found in checking lines. -/
structure SumCount where
  sound : Nat := 0
  matched : Nat := 0
  differing : Nat := 0
  unread : Nat := 0
  odd : Nat := 0
  report : Report := {}

/-- Checks the line of a number. -/
def SumCount.check (s : Scene) (a : Arguments) (kind? : Option DigestKind) (path : Octets) (count : SumCount)
    (line : Octets × Nat) : SumCount :=
  let (line, number) := line
  let line := if line.getLast? = some '\r' then line.dropLast else line
  if line.isEmpty ∨ line.head? = some '#' then count
  else
    match SumLine.read? kind? line with
    | none =>
      let tag := (kind?.map DigestKind.tag).getD "CRC"
      let report := if a.has "w" then
          count.report.err ((s.name ++ ": ").toList ++ nameInMessage path ++
            (": " ++ toString number ++ ": improperly formatted " ++ tag ++ " checksum line").toList)
        else count.report
      { count with odd := count.odd + 1, report }
    | some line =>
      let count := { count with sound := count.sound + 1 }
      let shown := if isEscaped line.name then '\\' :: escapedName line.name else line.name
      let result (text : String) : Octets := shown ++ (": " ++ text ++ "\n").toList
      match s.readPath line.name with
      | .error fault =>
        if a.has "ignore-missing" ∧ fault = .missing then count
        else
          let report := count.report.and (s.unreadable 0 line.name fault)
          let report := if a.has "status" then report else report.out (result "FAILED open or read")
          { count with unread := count.unread + 1, report }
      | .ok (data, _) =>
        if line.kind.text data = line.digest then
          let report := if a.hasAny ["status", "quiet"] then count.report
            else count.report.out (result "OK")
          { count with matched := count.matched + 1, report }
        else
          let report := if a.has "status" then count.report else count.report.out (result "FAILED")
          { count with differing := count.differing + 1, report }

/-- Checks the lines of a file. -/
def checkSums (s : Scene) (a : Arguments) (kind? : Option DigestKind) (d : FileData) : Report :=
  let path := if d.isInput then "standard input".toList else d.path
  let count := (linesIn d.data |>.zipIdx 1).foldl (SumCount.check s a kind? path) {}
  let warning (n : Nat) (one more : String) (r : Report) : Report :=
    if n = 0 ∨ a.has "status" then r
    else r.err ((s.name ++ ": WARNING: " ++ toString n ++ " " ++ if n = 1 then one else more).toList)
  let r := count.report
  let r := if count.sound = 0 then
      r.err ((s.name ++ ": ").toList ++ nameInMessage path ++
        ": no properly formatted checksum lines found".toList)
    else
      let r := warning count.odd "line is improperly formatted" "lines are improperly formatted" r
      let r := warning count.unread "listed file could not be read" "listed files could not be read" r
      let r := warning count.differing "computed checksum did NOT match"
        "computed checksums did NOT match" r
      if a.has "ignore-missing" ∧ count.matched = 0 then
        r.err ((s.name ++ ": ").toList ++ nameInMessage path ++ ": no file was verified".toList)
      else r
  let isFine : Bool := count.matched ≠ 0 && count.differing = 0 && count.unread = 0 &&
    (!a.has "strict" || count.odd = 0)
  { r with status := if isFine then 0 else 1 }

/-- The long options of programs that write digests. -/
def sumWords : List (String × String × Need) :=
  [("binary", "b", .nothing), ("check", "c", .nothing), ("ignore-missing", "ignore-missing", .nothing),
    ("quiet", "quiet", .nothing), ("status", "status", .nothing), ("strict", "strict", .nothing),
    ("tag", "tag", .nothing), ("text", "t", .nothing), ("warn", "w", .nothing), ("zero", "z", .nothing)]

/-- What is wrong with options that do not fit each other. -/
def sumMisuse? (a : Arguments) (tags : Bool) : Option String :=
  if tags ∧ a.last? ["b", "t", "tag"] = some "t" then some "--tag does not support --text mode"
  else if a.has "z" ∧ a.has "c" then
    some "the --zero option is not supported when verifying checksums"
  else if a.has "tag" ∧ a.has "c" then
    some "the --tag option is meaningless when verifying checksums"
  else if a.hasAny ["b", "t"] ∧ a.has "c" then
    some "the --binary and --text options are meaningless when verifying checksums"
  else if a.has "c" then none
  else
    let last (name : String) : Bool := a.last? ["status", "quiet", "w"] = some name
    (if a.has "ignore-missing" then some "ignore-missing"
      else if last "status" then some "status"
      else if last "w" then some "warn"
      else if last "quiet" then some "quiet"
      else if a.has "strict" then some "strict"
      else none).map fun name => "the --" ++ name ++ " option is meaningful only when verifying checksums"

/-- Writes digests of a kind, or checks them. -/
def digestProgram (kind : DigestKind) : Utility := fun s args =>
  let g : Grammar := { letters := "bctwz", words := sumWords }
  withArguments s.name 1 g args fun a =>
    match sumMisuse? a (a.has "tag") with
    | some text => misuse 1 s.name text.toList
    | none =>
      let ending := if a.has "z" then '\x00' else '\n'
      s.eachFile a.operands (s.unreadable 1) (fromWhole fun d =>
        if a.has "c" then checkSums s a (some kind) d
        else
          let tag? := if a.has "tag" then some kind.tag else none
          let isBinary := a.last? ["b", "t"] = some "b"
          textOut (sumLine tag? isBinary ending (kind.text d.data) d.path))

/-- The line of a file with a short checksum and a size, or a number of blocks. -/
def shortLine (kind : String) (showsName : Bool) (d : FileData) : Octets :=
  let bytes := d.data.map Char.toNat
  let blocks (size : Nat) : Octets := natText ((bytes.length + size - 1) / size)
  let name : Octets := if showsName then ' ' :: d.path else []
  (match kind with
    | "bsd" => (padded 5 (Digest.turningSum bytes)).toList ++ [' '] ++ padLeft 5 (blocks 1024)
    | "sysv" => natText (Digest.sumOfBytes bytes) ++ [' '] ++ blocks 512
    | _ => natText (Digest.crc bytes) ++ [' '] ++ natText bytes.length) ++ name

/-- Writes checksums of files, or checks them. -/
def cksum : Utility := fun s args =>
  let g : Grammar :=
    { letters := "a:bctwz"
      words := [("algorithm", "a", .something), ("untagged", "untagged", .nothing)] ++ sumWords }
  withArguments s.name 1 g args fun a =>
    let short := ["bsd", "sysv", "crc"]
    let known := short ++ DigestKind.all.map Prod.fst
    match (a.valuesOf "a").foldlM (fun _ text => wordOf s.name "--algorithm" known text true) "crc" with
    | .error r => r
    | .ok kind =>
      let kind? := DigestKind.all.lookup kind
      if a.has "c" ∧ a.has "a" ∧ kind?.isNone then
        faultOf 1 s.name "--check is not supported with --algorithm=\x7bbsd,sysv,crc\x7d".toList
      else
        let tags := a.last? ["tag", "untagged"] ≠ some "untagged"
        match sumMisuse? a (kind?.isSome && tags) with
        | some text => misuse 1 s.name text.toList
        | none =>
          let ending := if a.has "z" then '\x00' else '\n'
          s.eachFile a.operands (s.unreadable 1) (fromWhole fun d =>
            if a.has "c" then checkSums s a kind? d
            else
              match kind? with
              | some kind =>
                textOut (sumLine (if tags then some kind.tag else none) false ending (kind.text d.data) d.path)
              | none => textOut (shortLine kind (!a.operands.isEmpty) d ++ [ending]))

/-- Writes checksums of 16 bits. -/
def sum : Utility := fun s args =>
  let g : Grammar := { letters := "rs", words := [("sysv", "s", .nothing)] }
  withArguments s.name 1 g args fun a =>
    let kind := if a.last? ["r", "s"] = some "s" then "sysv" else "bsd"
    s.eachFile a.operands (s.unreadable 1)
      (fromWhole fun d => textOut (shortLine kind (!a.operands.isEmpty) d ++ ['\n']))

end Foreman.Shell.Utility
