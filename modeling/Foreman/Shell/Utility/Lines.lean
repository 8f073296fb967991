import Foreman.Shell.Utility.Basic

/-!
# `Foreman.Shell.Utility.Lines` — whole files and their ends

## Contents
- `cat`, with its ways of showing characters.
- `head` and `tail`, with **`Amount`**: how much of a file they take.
- `tac`, `rev`.
- `wc`, with **`Counts`**.
-/

namespace Foreman.Shell.Utility

/-! ## Whole files -/

/-- How a byte is shown that is not printable. -/
def visibleByte (c : Char) : Octets :=
  let low (n : Nat) : Octets :=
    if n < 32 then ['^', Char.ofNat (n + 64)] else if n = 127 then ['^', '?'] else [Char.ofNat n]
  if c.toNat < 128 then low c.toNat else 'M' :: '-' :: low (c.toNat - 128)

/-- Shows a line as the options ask for. -/
def shownLine (a : Arguments) (line : Octets) : Octets :=
  let shows := a.hasAny ["v", "A", "e", "t"]
  let tabs := a.hasAny ["T", "A", "t"]
  let ends := a.hasAny ["E", "A", "e"]
  line.flatMap fun c =>
    if c = '\n' then if ends then ['$', '\n'] else ['\n']
    else if c = '\t' then if tabs then ['^', 'I'] else ['\t']
    else if shows then visibleByte c
    else [c]

/-- What is known of the lines of all files so far. -/
structure CatState where
  /-- The number of the last line that was numbered. -/
  number : Nat := 0
  isLineOpen : Bool := false
  wasBlank : Bool := false

/-- Shows lines one after the other, after some that are shown already, the latest first. -/
def catLines (a : Arguments) (done : List Octets) :
    CatState → List Octets → CatState × List Octets
  | st, [] => (st, done.reverse)
  | st, line :: rest =>
    let isBlank := line = ['\n'] && !st.isLineOpen
    if isBlank ∧ st.wasBlank ∧ a.has "s" then catLines a done st rest
    else
      let isNumbered := !st.isLineOpen && (if a.has "b" then !isBlank else a.has "n")
      let number := if isNumbered then st.number + 1 else st.number
      let front := if isNumbered then padLeft 6 (natText number) ++ ['\t'] else []
      let st := { number, isLineOpen := line.getLast? ≠ some '\n', wasBlank := isBlank }
      catLines a ((front ++ shownLine a line) :: done) st rest

/-- Writes files one after the other. -/
def cat : Utility := fun s args =>
  let g : Grammar :=
    { letters := "benstuvAET"
      words := [("number-nonblank", "b", .nothing), ("number", "n", .nothing),
        ("squeeze-blank", "s", .nothing), ("show-nonprinting", "v", .nothing),
        ("show-ends", "E", .nothing), ("show-tabs", "T", .nothing), ("show-all", "A", .nothing)] }
  withArguments s.name 1 g args fun a =>
    let isPlain := !a.hasAny ["b", "n", "s", "v", "e", "t", "A", "E", "T"]
    let step (acc : CatState × Report) (e : Octets × Except PathFault FileData) : CatState × Report :=
      match e.2 with
      | .error fault => (acc.1, acc.2.and (s.unreadable 1 e.1 fault))
      | .ok d =>
        let begins := if d.isInput then (s.inputSize?.getD 0) - d.data.length else 0
        if s.isOutput e.1 ∧ begins < s.outputStart + acc.2.output.length then
          (acc.1, acc.2.and (faultOf 1 s.name (nameInMessage e.1 ++ ": input file is output file".toList)))
        else if isPlain then (acc.1, acc.2.and (fromWhole (fun d => textOut d.data) d))
        else
          let (st, texts) := catLines a [] acc.1 (linesKept '\n' d.data)
          (st, acc.2.and (fromWhole (fun _ => textOut texts.flatten) d))
    ((s.readAll (orInput a.operands)).foldl step ({}, {})).2

/-! ## Ends of files -/

/-- How much of a file is taken. -/
structure Amount where
  /-- Whether bytes are counted, and not lines. -/
  isBytes : Bool := false
  number : Nat := 10
  /-- Whether the number counts from the other end. -/
  isReversed : Bool := false
  ending : Char := '\n'

/-- The bytes up to the end of a number of lines, after some bytes in reverse order, and how many lines
    are missing. -/
def frontLines (ending : Char) (acc : Octets) : Nat → Octets → Octets × Nat
  | 0, _ => (acc.reverse, 0)
  | n, [] => (acc.reverse, n)
  | n + 1, c :: rest => frontLines ending (c :: acc) (if c = ending then n else n + 1) rest

/-- The front of some data. -/
def Amount.front (m : Amount) (data : Octets) : Octets :=
  match m.isBytes, m.isReversed with
  | true, false => data.take m.number
  | true, true => data.take (data.length - m.number)
  | false, false => (frontLines m.ending [] m.number data).1
  | false, true =>
    let lines := linesKept m.ending data
    (lines.take (lines.length - m.number)).flatten

/-- The end of some data. -/
def Amount.back (m : Amount) (data : Octets) : Octets :=
  match m.isBytes, m.isReversed with
  | true, false => data.drop (data.length - m.number)
  | true, true => data.drop (m.number - 1)
  | false, false =>
    let lines := linesKept m.ending data
    (lines.drop (lines.length - m.number)).flatten
  | false, true => ((linesKept m.ending data).drop (m.number - 1)).flatten

/-- The report on some data from the front of a file. Of the input, no more is taken than is needed. -/
def Amount.reportFront (m : Amount) (d : FileData) : Report :=
  let text := m.front d.data
  if m.isReversed then fromWhole (fun _ => textOut text) d
  else
    let isShort := if m.isBytes then text.length < m.number
      else (frontLines m.ending [] m.number d.data).2 ≠ 0
    { textOut text with
      isHungry := d.isCut && isShort
      appetite :=
        if !d.isInput then .nothing
        else if isShort then .everything
        else if m.isBytes then .exactly text.length
        else .bytes text.length }

/-- The name of a file in the line above it. -/
def headerName (path : Octets) : Octets := if path = ['-'] then "standard input".toList else path

/-- Reports parts of files, with the name of each above it if there are several. -/
def withHeaders (s : Scene) (showsNames : Bool) (operands : List Octets) (f : FileData → Report) : Report :=
  let step (acc : Bool × Report) (e : Octets × Except PathFault FileData) : Bool × Report :=
    let (isFirst, r) := acc
    let header := if showsNames then
        textOut ((if isFirst then [] else ['\n']) ++ "==> ".toList ++ headerName e.1 ++ " <==\n".toList)
      else {}
    match e.2 with
    | .ok d => (false, (r.and header).and (f d))
    | .error .isFolder =>
      (false, (r.and header).and
        (faultOf 1 s.name ("error reading ".toList ++ quotedName e.1 ++ ": Is a directory".toList)))
    | .error fault =>
      (isFirst, r.and (faultOf 1 s.name
        ("cannot open ".toList ++ quotedName e.1 ++ " for reading: ".toList ++ fault.text.toList)))
  ((s.readAll (orInput operands)).foldl step (true, {})).2

/-- The options of `head` and `tail`. -/
def endsGrammar : Grammar :=
  { letters := "n:c:qvzf"
    words := [("lines", "n", .something), ("bytes", "c", .something), ("quiet", "q", .nothing),
      ("silent", "q", .nothing), ("verbose", "v", .nothing), ("zero-terminated", "z", .nothing),
      ("follow", "f", .perhaps)] }

/-- Rewrites a first argument that is a number with a sign. -/
def withOldNumber (signs : List Char) (args : List Octets) : List Octets :=
  match args with
  | (sign :: c :: more) :: rest =>
    if signs.contains sign ∧ c.isDigit then
      let digits := (c :: more).takeWhile Char.isDigit
      let letters := (c :: more).drop digits.length
      let unit := letters.filter fun c => c = 'k' || c = 'm' || c = 'b'
      let isBytes := letters.contains 'c' || unit ≠ []
      if letters.all fun c => "bkmclqvf".toList.contains c then
        let value := (if sign = '+' then ['+'] else []) ++ digits ++ unit
        [['-', if isBytes then 'c' else 'n'], value] ++
          (letters.filter fun c => c = 'q' || c = 'v' || c = 'f').map (fun c => ['-', c]) ++ rest
      else args
    else args
  | args => args

/-- The amount that options ask for; a sign other than the given one does not matter. -/
def amountOf (a : Arguments) (sign : Char) : Except Octets Amount :=
  let ending := if a.has "z" then '\x00' else '\n'
  match a.last? ["n", "c"] with
  | none => .ok { ending }
  | some name =>
    let text := (a.value? name).getD []
    let number := if text.head? = some '-' ∨ text.head? = some '+' then text.tail else text
    match sizeNumber? number with
    | some n => .ok { isBytes := name = "c", number := n, isReversed := text.head? = some sign, ending }
    | none =>
      .error ("invalid number of ".toList ++ (if name = "c" then "bytes" else "lines").toList ++ ": ".toList ++
        quotedText (if text.head? = some '-' then number else text))

/-- Writes the front of files. -/
def head : Utility := fun s args =>
  withArguments s.name 1 endsGrammar (withOldNumber ['-'] args) fun a =>
    match amountOf a '-' with
    | .error text => faultOf 1 s.name text
    | .ok m =>
      let showsNames := a.last? ["q", "v"] = some "v" || (!a.has "q" && 1 < a.operands.length)
      withHeaders s showsNames a.operands m.reportFront

/-- How long a program goes on that waits for more. -/
def endlessPause : Nat := 10 ^ 40

/-- Writes the end of files. -/
def tail : Utility := fun s args =>
  let old := if args.length ≤ 2 then withOldNumber ['-', '+'] args else args
  match old with
  | ('-' :: c :: more) :: _ =>
    if c.isDigit then
      faultOf 1 s.name ("option used in invalid context -- ".toList ++ (c :: more).take 1)
    else run s old
  | _ => run s old
where
  /-- Follows the options. -/
  run (s : Scene) (args : List Octets) : Report :=
    withArguments s.name 1 endsGrammar args fun a =>
      match amountOf a '+' with
      | .error text => faultOf 1 s.name text
      | .ok m =>
        let showsNames := a.last? ["q", "v"] = some "v" || (!a.has "q" && 1 < a.operands.length)
        let r := withHeaders s showsNames a.operands (fromWhole fun d => textOut (m.back d.data))
        if a.has "f" ∧ r.status = 0 then { r with pause := endlessPause } else r

/-! ## Reversed lines -/

/-- The parts of a text, each of which ends with a separator or begins with one. -/
def partsAround (separator : Octets) (isBefore : Bool) : Nat → Octets → Octets → List Octets
  | 0, acc, cs => [acc.reverse ++ cs]
  | _ + 1, acc, [] => if acc.isEmpty then [] else [acc.reverse]
  | fuel + 1, acc, c :: rest =>
    if separator.isPrefixOf (c :: rest) then
      let after := (c :: rest).drop separator.length
      if isBefore then
        (if acc.isEmpty then [] else [acc.reverse]) ++
          partsAround separator isBefore fuel separator.reverse after
      else (acc.reverse ++ separator) :: partsAround separator isBefore fuel [] after
    else partsAround separator isBefore fuel (c :: acc) rest

/-- Writes the lines of files in reverse order. -/
def tac : Utility := fun s args =>
  let g : Grammar :=
    { letters := "brs:"
      words := [("before", "b", .nothing), ("regex", "r", .nothing), ("separator", "s", .something)] }
  withArguments s.name 1 g args fun a =>
    let separator := match a.value? "s" with
      | some [] | none => ['\n']
      | some text => text
    s.eachFile a.operands (fun path fault =>
      match fault with
      | .isFolder => faultOf 1 s.name (nameInMessage path ++ ": read error: Invalid argument".toList)
      | fault =>
        faultOf 1 s.name ("failed to open ".toList ++ quotedName path ++ " for reading: ".toList ++
          fault.text.toList))
      (fromWhole fun d =>
        textOut (partsAround separator (a.has "b") (d.data.length + 1) [] d.data).reverse.flatten)

/-- Writes each line of files from its end on. -/
def rev : Utility := fun s args =>
  withArguments s.name 1 {} args fun a =>
    s.eachFile a.operands (fun path fault =>
      faultOf 1 s.name ("cannot open ".toList ++ path ++ ": ".toList ++ fault.text.toList))
      (fromWhole fun d =>
        textOut ((linesKept '\n' d.data).flatMap fun line =>
          let (text, ending) := splitEnd line
          text.reverse ++ ending))

/-! ## Counts -/

/-- What is counted in a file. -/
structure Counts where
  lines : Nat := 0
  words : Nat := 0
  bytes : Nat := 0
  /-- The width of the widest line. -/
  widest : Nat := 0

/-- The sum of two counts; of widths it is the greater one. -/
def Counts.add (x y : Counts) : Counts :=
  ⟨x.lines + y.lines, x.words + y.words, x.bytes + y.bytes, max x.widest y.widest⟩

/-- Counts the words of some data, from a number on; the flag says whether a word goes on at its front. A
    word begins with a printable character. -/
def wordCount (inside : Bool) (count : Nat) : Octets → Nat
  | [] => count
  | c :: rest =>
    if c = ' ' ∨ ('\t' ≤ c ∧ c ≤ '\r') then wordCount false count rest
    else if c < ' ' ∨ '~' < c then wordCount inside count rest
    else wordCount true (if inside then count else count + 1) rest

/-- The width of the widest line of some data. -/
def widestLine (most now : Nat) : Octets → Nat
  | [] => max most now
  | c :: rest =>
    if c = '\n' ∨ c = '\r' ∨ c = '\x0c' then widestLine (max most now) 0 rest
    else if c = '\t' then widestLine most (now + 8 - now % 8) rest
    else if c.toNat < 32 ∨ 127 ≤ c.toNat then widestLine most now rest
    else widestLine most (now + 1) rest

/-- Counts what is in some data. -/
def Counts.of (data : Octets) : Counts :=
  { lines := data.count '\n', words := wordCount false 0 data, bytes := data.length
    widest := widestLine 0 0 data }

/-- Counts the lines, words and bytes of files. -/
def wc : Utility := fun s args =>
  let g : Grammar :=
    { letters := "clmwL"
      words := [("bytes", "c", .nothing), ("chars", "m", .nothing), ("lines", "l", .nothing),
        ("words", "w", .nothing), ("max-line-length", "L", .nothing), ("total", "total", .something)] }
  withArguments s.name 1 g args fun a =>
    let all := !a.hasAny ["c", "m", "l", "w", "L"]
    let parts (x : Counts) : List Nat :=
      (if all || a.has "l" then [x.lines] else []) ++ (if all || a.has "w" then [x.words] else []) ++
        (if a.has "m" then [x.bytes] else []) ++ (if all || a.has "c" then [x.bytes] else []) ++
        (if a.has "L" then [x.widest] else [])
    let ds := s.readAll (orInput a.operands)
    let size? (path : Octets) : Option (Option Nat) :=
      if path = ['-'] then some s.inputSize?
      else (s.look? path).map fun e => if e.isFile then some e.data.length else none
    let sizes := (orInput a.operands).map size?
    let least := if sizes.any (· = some none) then 7 else 1
    let width :=
      if (ds.length ≤ 1 ∧ (parts {}).length = 1) ∨ sizes.head? = some none then 1
      else max least (natText (sumOf id (sizes.filterMap (·.bind id)))).length
    let row (x : Counts) (name : Octets) : Octets :=
      let columns := [' '].intercalate ((parts x).map fun n => padLeft width (natText n))
      columns ++ (if name.isEmpty then [] else ' ' :: name) ++ ['\n']
    let step (acc : Counts × Report) (e : Octets × Except PathFault FileData) : Counts × Report :=
      let name := if a.operands.isEmpty then [] else nameInLine e.1
      match e.2 with
      | .ok d =>
        let x := Counts.of d.data
        (acc.1.add x, acc.2.and (fromWhole (fun _ => textOut (row x name)) d))
      | .error .isFolder =>
        (acc.1, (acc.2.and (s.unreadable 1 e.1 .isFolder)).and (textOut (row {} name)))
      | .error fault => (acc.1, acc.2.and (s.unreadable 1 e.1 fault))
    let (total, r) := ds.foldl step ({}, {})
    let r := if a.value? "total" = some "only".toList then
        { r with texts := r.texts.filter (·.1 = 2) }
      else r
    match String.ofList ((a.value? "total").getD "auto".toList) with
    | "never" => r
    | "only" => r.out ([' '].intercalate ((parts total).map natText) ++ ['\n'])
    | "always" => r.out (row total "total".toList)
    | _ => if 1 < a.operands.length then r.out (row total "total".toList) else r
where
  /-- The name of a file in a row of counts. -/
  nameInLine (path : Octets) : Octets := if path.contains '\n' then quotedName path else path

end Foreman.Shell.Utility
