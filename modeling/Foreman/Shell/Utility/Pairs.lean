import Foreman.Shell.Utility.Order

/-!
# `Foreman.Shell.Utility.Pairs` — two sorted files side by side

Lines of two files are paired as long as both are in order. A line that is out of order is complained
about if the user asks for it, or if some line has no partner, since then the order matters.

## Contents
- **`Demand`**: when a line out of order is complained about; **`Pairing`**: the work so far.
- `comm`: the lines that files have in common.
- **`Joining`**: how lines are joined; `join`: lines with a common field.
-/

namespace Foreman.Shell.Utility

/-! ## Pairs of lines -/

/-- When a line that is out of order is complained about. -/
inductive Demand where
  | never
  | ifAlone
  | always
  deriving DecidableEq

/-- What the options demand. -/
def Demand.of (a : Arguments) : Demand :=
  match a.last? ["check", "nocheck"] with
  | some "check" => .always
  | some _ => .never
  | none => .ifAlone

/-- The state of pairing the lines of two files. -/
structure Pairing where
  /-- What was written, the latest first. -/
  texts : List (Nat × Octets) := []
  /-- The files with a line out of order. -/
  unsorted : List Nat := []
  /-- Whether some line has no partner. -/
  hasAlone : Bool := false
  /-- Whether a demand for order was disappointed, which ends the work. -/
  isOver : Bool := false

namespace Pairing

/-- Adds a line that is shown. -/
def showing (p : Pairing) (line : Octets) : Pairing :=
  if line.isEmpty then p else { p with texts := (1, line) :: p.texts }

/-- Complains about a line of a file that is out of order, once for each file. -/
def checked (p : Pairing) (demand : Demand) (file : Nat) (isFine : Bool) (complaint : Octets) :
    Pairing :=
  if isFine ∨ p.isOver ∨ p.unsorted.contains file then p
  else if demand = .always ∨ (demand = .ifAlone ∧ p.hasAlone) then
    { p with texts := (2, complaint) :: p.texts, unsorted := file :: p.unsorted,
             isOver := demand = .always }
  else p

/-- The report of the work, after that of reading the files. -/
def report (p : Pairing) (name : String) (r : Report) : Report :=
  let r := { r with texts := r.texts ++ p.texts.reverse }
  if p.isOver then { r with status := 1 }
  else if p.unsorted.isEmpty then r
  else r.and (faultOf 1 name "input is not in sorted order".toList)

end Pairing

/-- The two operands of a utility, or a report of their number. -/
def twoOperands (s : Scene) (a : Arguments) (status : Nat) : Except Report (Octets × Octets) :=
  match a.operands with
  | [] => .error (misuse status s.name "missing operand".toList)
  | [x] => .error (misuse status s.name ("missing operand after ".toList ++ quotedText x))
  | [x, y] => .ok (x, y)
  | _ :: _ :: z :: _ => .error (misuse status s.name ("extra operand ".toList ++ quotedText z))

/-! ## Common lines -/

/-- Whether two lines are in order. -/
def inOrder (x y : Octets) : Bool := compareBytes x y ≠ .gt

/-- How common lines are shown. -/
structure Columns where
  demand : Demand
  /-- A line as it is shown in the column of one file, of the other, or of both. -/
  column : Nat → Octets → Octets
  /-- The complaint about a file. -/
  blame : Nat → Octets

/-- Goes on to the next line of a file. At the end, the last two lines are compared again. -/
def Columns.step (c : Columns) (p : Pairing) (file : Nat) (before : Option Octets) (line : Octets)
    (rest : List Octets) : Pairing :=
  match rest, before with
  | next :: _, _ => p.checked c.demand file (inOrder line next) (c.blame file)
  | [], some before => p.checked c.demand file (inOrder before line) (c.blame file)
  | [], none => p

/-- Compares the lines of two files, each with the line before them. -/
def Columns.pair (c : Columns) : Nat → Pairing → Option Octets → Option Octets → List Octets →
    List Octets → Pairing
  | 0, p, _, _, _, _ => p
  | fuel + 1, p, u, v, xs, ys =>
    if p.isOver then p
    else
      let alone (p : Pairing) (n : Nat) (line : Octets) : Pairing :=
        { p with hasAlone := true }.showing (c.column n line)
      match xs, ys with
      | [], [] => p
      | x :: xs, [] => c.pair fuel (c.step (alone p 1 x) 1 u x xs) (some x) v xs []
      | [], y :: ys => c.pair fuel (c.step (alone p 2 y) 2 v y ys) u (some y) [] ys
      | x :: xs, y :: ys =>
        match compareBytes x y with
        | .eq =>
          let p := c.step (c.step (p.showing (c.column 3 x)) 1 u x xs) 2 v y ys
          c.pair fuel p (some x) (some y) xs ys
        | .lt => c.pair fuel (c.step (alone p 1 x) 1 u x xs) (some x) v xs (y :: ys)
        | .gt => c.pair fuel (c.step (alone p 2 y) 2 v y ys) u (some y) (x :: xs) ys

/-- How many lines two sorted files have alone and in common. -/
def countPairs : Nat → List Octets → List Octets → Nat × Nat × Nat
  | 0, _, _ => (0, 0, 0)
  | fuel + 1, xs, ys =>
    match xs, ys with
    | xs, [] => (xs.length, 0, 0)
    | [], ys => (0, ys.length, 0)
    | x :: xs, y :: ys =>
      match compareBytes x y with
      | .eq => let (a, b, c) := countPairs fuel xs ys; (a, b, c + 1)
      | .lt => let (a, b, c) := countPairs fuel xs (y :: ys); (a + 1, b, c)
      | .gt => let (a, b, c) := countPairs fuel (x :: xs) ys; (a, b + 1, c)

/-- Compares two sorted files line by line. -/
def comm : Utility := fun s args =>
  let g : Grammar :=
    { letters := "123z"
      words := [("check-order", "check", .nothing), ("nocheck-order", "nocheck", .nothing),
        ("output-delimiter", "o", .something), ("total", "total", .nothing),
        ("zero-terminated", "z", .nothing)] }
  withArguments s.name 1 g args fun a =>
    let delimiters := a.valuesOf "o"
    match twoOperands s a 1 with
    | .error r => r
    | .ok (x, y) =>
      if delimiters.any fun d => some d ≠ delimiters.head? then
        faultOf 1 s.name "multiple output delimiters specified".toList
      else
        let (ds, r) := s.gather [x, y] (s.unreadable 1)
        match ds with
        | [d, e] =>
          let ending := if a.has "z" then '\x00' else '\n'
          let tab := match delimiters with
            | [] => ['\t']
            | [] :: _ => ['\x00']
            | tab :: _ => tab
          let column (n : Nat) (line : Octets) : Octets :=
            if a.has (toString n) then []
            else
              let before := (List.range n).filter fun k => 0 < k && k < n && !a.has (toString k)
              (before.flatMap fun _ => tab) ++ line ++ [ending]
          let (xs, ys) := (linesBy ending d.data, linesBy ending e.data)
          let blame (n : Nat) : Octets :=
            (s.name ++ ": file " ++ toString n ++ " is not in sorted order\n").toList
          let p := Columns.pair ⟨.of a, column, blame⟩ (xs.length + ys.length + 1) {} none none xs ys
          let (m, n, k) := countPairs (xs.length + ys.length + 1) xs ys
          let p := if a.has "total" ∧ !p.isOver then
              p.showing (tab.intercalate [natText m, natText n, natText k, "total".toList] ++ [ending])
            else p
          p.report s.name r
        | _ => { r with texts := r.texts.take 1 }

/-! ## Joined lines -/

/-- What separates the fields of a line. -/
inductive Separation where
  | blanks
  | char (c : Char)
  /-- The whole line is a field. -/
  | none
  deriving DecidableEq

/-- The fields of a line. A blank at the end has an empty field after it. -/
def fieldsOf (separation : Separation) (line : Octets) : List Octets :=
  if line.isEmpty then []
  else
    match separation with
    | .char c => partsAt c line
    | .none => [line]
    | .blanks =>
      let isBlank (c : Char) : Bool := c = ' ' || c = '\t' || c = '\n'
      let words := (partsAt ' ' (line.map fun c => if isBlank c then ' ' else c)).filter (!·.isEmpty)
      if words.isEmpty ∨ !line.getLast?.any isBlank then words else words ++ [[]]

/-- A line of a file, with its number. -/
structure JoinLine where
  number : Nat
  text : Octets
  fields : List Octets

/-- How lines are joined. -/
structure Joining where
  separation : Separation := .blanks
  /-- The fields that are compared, counted from zero. -/
  first : Nat := 0
  second : Nat := 0
  /-- The files whose lines are shown without a partner. -/
  alone : List Nat := []
  /-- Whether joined lines are shown. -/
  showsPairs : Bool := true
  /-- What stands for an empty field. -/
  empty : Octets := []
  /-- The fields that are shown: of a file, or the common one. -/
  format : List (Nat × Nat) := []
  /-- How many fields of each file are shown, if that is settled by the first lines. -/
  widths : Option (Nat × Nat) := none
  foldsCase : Bool := false
  demand : Demand := .ifAlone
  ending : Char := '\n'
  /-- The names of the files. -/
  paths : Octets × Octets := ([], [])
  name : String := ""

namespace Joining

/-- The common field of a line of one of the files. -/
def key (j : Joining) (file : Nat) (line : JoinLine) : Octets :=
  let text := (line.fields[if file = 1 then j.first else j.second]?).getD []
  if j.foldsCase then text.map Char.toUpper else text

/-- A joined line. -/
def shown (j : Joining) (x y : Option JoinLine) : Octets :=
  let separator := match j.separation with
    | .char c => [c]
    | .blanks => [' ']
    | .none => ['\n']
  let field (line : Option JoinLine) (n : Nat) : Octets :=
    match line.bind fun line => line.fields[n]? with
    | some [] | none => j.empty
    | some text => text
  let common : Octets := if x.isSome then field x j.first else field y j.second
  let others (line : Option JoinLine) (place : Nat) (width : Option Nat) : List Octets :=
    let width := width.getD ((line.map fun line => line.fields.length).getD 0)
    ((List.range width).filter (· ≠ place)).map (field line)
  let fields := match j.format with
    | [] => common :: others x j.first (j.widths.map Prod.fst) ++ others y j.second (j.widths.map Prod.snd)
    | places => places.map fun (file, n) =>
      match file with
      | 0 => common
      | 1 => field x (n - 1)
      | _ => field y (n - 1)
  separator.intercalate fields ++ [j.ending]

/-- Goes on from a line of a file to the next one. -/
def step (j : Joining) (p : Pairing) (file : Nat) (line : JoinLine) (rest : List JoinLine) : Pairing :=
  match rest with
  | [] => p
  | next :: _ =>
    let path := if file = 1 then j.paths.1 else j.paths.2
    p.checked j.demand file (inOrder (j.key file line) (j.key file next))
      ((j.name ++ ": ").toList ++ path ++
        (":" ++ toString next.number ++ ": is not sorted: ").toList ++ next.text ++ ['\n'])

/-- Joins the lines of two files. -/
def pair (j : Joining) : Nat → Pairing → List JoinLine → List JoinLine → Pairing
  | 0, p, _, _ => p
  | fuel + 1, p, xs, ys =>
    let lone (p : Pairing) (file : Nat) (text : Octets) : Pairing :=
      if j.alone.contains file then p.showing text else p
    if p.isOver then p
    else
      match xs, ys with
      | [], [] => p
      | x :: xs, [] => j.pair fuel (j.step (lone p 1 (j.shown (some x) none)) 1 x xs) xs []
      | [], y :: ys => j.pair fuel (j.step (lone p 2 (j.shown none (some y))) 2 y ys) [] ys
      | x :: xs, y :: ys =>
        match compareBytes (j.key 1 x) (j.key 2 y) with
        | .lt =>
          let p := j.step (lone p 1 (j.shown (some x) none)) 1 x xs
          j.pair fuel { p with hasAlone := true } xs (y :: ys)
        | .gt =>
          let p := j.step (lone p 2 (j.shown none (some y))) 2 y ys
          j.pair fuel { p with hasAlone := true } (x :: xs) ys
        | .eq =>
          let same := xs.takeWhile fun z => j.key 1 z = j.key 1 x
          let equal := ys.takeWhile fun z => j.key 2 z = j.key 2 y
          let (xs, ys) := (xs.drop same.length, ys.drop equal.length)
          let p := j.step (j.step p 1 x xs) 2 y ys
          let p := if j.showsPairs ∧ !p.isOver then
              p.showing ((x :: same).flatMap fun x =>
                (y :: equal).flatMap fun y => j.shown (some x) (some y))
            else p
          j.pair fuel p xs ys

end Joining

/-- The number of a field that a text writes, counted from zero. -/
def fieldNumber (text : Octets) : Except Octets Nat :=
  match natNumber? text with
  | some (n + 1) => .ok n
  | _ => .error ("invalid field number: ".toList ++ quotedText text)

/-- The fields that a format of joined lines shows. -/
def readJoinFormat (text : Octets) : Except Octets (List (Nat × Nat)) :=
  let items := partsAt ',' (text.map fun c => if c = ' ' ∨ c = '\t' then ',' else c)
  items.mapM fun item =>
    match item with
    | ['0'] => .ok (0, 0)
    | '1' :: '.' :: n => return (1, (← fieldNumber n) + 1)
    | '2' :: '.' :: n => return (2, (← fieldNumber n) + 1)
    | '0' :: _ | '1' :: _ | '2' :: _ => .error ("invalid field specifier: ".toList ++ quotedText item)
    | item => .error ("invalid file number in field spec: ".toList ++ quotedText item)

/-- What an option says about joining. -/
def Joining.withOption (j : Joining × List (String × Nat)) (option : String × Octets) :
    Except Octets (Joining × List (String × Nat)) :=
  let (j, places) := j
  let value := option.2
  let place (names : List String) : Except Octets (Joining × List (String × Nat)) := do
    let n ← fieldNumber value
    match names.findSome? fun name => (places.lookup name).filter (· ≠ n) with
    | some old =>
      throw ("incompatible join fields " ++ toString old ++ ", " ++ toString n).toList
    | none => return (j, names.map (fun name => (name, n)) ++ places)
  let alone (showsPairs : Bool) : Except Octets (Joining × List (String × Nat)) :=
    match natNumber? value with
    | some 1 => .ok ({ j with alone := 1 :: j.alone, showsPairs }, places)
    | some 2 => .ok ({ j with alone := 2 :: j.alone, showsPairs }, places)
    | _ => .error ("invalid field number: ".toList ++ quotedText value)
  match option.1 with
  | "1" => place ["1"]
  | "2" => place ["2"]
  | "j" => place ["1", "2"]
  | "a" => alone j.showsPairs
  | "v" => alone false
  | "i" => .ok ({ j with foldsCase := true }, places)
  | "z" => .ok ({ j with ending := '\x00' }, places)
  | "e" =>
    if places.lookup "e" = some 1 ∧ j.empty ≠ value then
      .error "conflicting empty-field replacement strings".toList
    else .ok ({ j with empty := value }, ("e", 1) :: places)
  | "o" =>
    if value = "auto".toList then .ok ({ j with widths := some (0, 0) }, places)
    else do
      let more ← readJoinFormat value
      return ({ j with format := j.format ++ more }, places)
  | "t" => do
    let separation ← match value with
      | [] => pure .none
      | [c] => pure (.char c)
      | ['\\', '0'] => pure (.char '\x00')
      | _ => .error ("multi-character tab ".toList ++ quotedText value)
    if j.separation ≠ .blanks ∧ j.separation ≠ separation then .error "incompatible tabs".toList
    else .ok ({ j with separation }, places)
  | _ => .ok (j, places)

/-- Joins two sorted files by a common field. -/
def join : Utility := fun s args =>
  let g : Grammar :=
    { letters := "a:e:i1:2:j:o:t:v:z"
      words := [("ignore-case", "i", .nothing), ("check-order", "check", .nothing),
        ("nocheck-order", "nocheck", .nothing), ("header", "header", .nothing),
        ("zero-terminated", "z", .nothing)] }
  withArguments s.name 1 g args fun a =>
    match a.options.foldlM Joining.withOption ({}, []), twoOperands s a 1 with
    | .error text, _ => faultOf 1 s.name text
    | _, .error r => r
    | .ok (j, places), .ok (x, y) =>
      if x = ['-'] ∧ y = ['-'] then faultOf 1 s.name "both files cannot be standard input".toList
      else
        let (ds, r) := s.gather [x, y] fun path fault =>
          match fault with
          | .isFolder => faultOf 1 s.name "read error: Is a directory".toList
          | fault => s.unreadable 1 path fault
        match ds with
        | [d, e] =>
          let j := { j with
            first := (places.lookup "1").getD 0
            second := (places.lookup "2").getD 0
            demand := .of a
            paths := (x, y)
            name := s.name }
          let lines (data : Octets) : List JoinLine :=
            (linesBy j.ending data).mapIdx fun n text => ⟨n + 1, text, fieldsOf j.separation text⟩
          let (xs, ys) := (lines d.data, lines e.data)
          let width (lines : List JoinLine) : Nat :=
            (lines.head?.map fun line => line.fields.length).getD 0
          let j := { j with widths := j.widths.map fun _ => (width xs, width ys) }
          let fuel := xs.length + ys.length + 1
          let p :=
            if a.has "header" ∧ !(xs.isEmpty ∧ ys.isEmpty) then
              let blank : JoinLine := ⟨0, [], []⟩
              let front (lines : List JoinLine) (other : List JoinLine) : Option JoinLine :=
                if lines.isEmpty ∧ !other.isEmpty then none else some (lines.headD blank)
              j.pair fuel (Pairing.showing {} (j.shown (front xs ys) (front ys xs))) xs.tail ys.tail
            else j.pair fuel {} xs ys
          p.report s.name r
        | _ => { r with texts := r.texts.take 1 }

end Foreman.Shell.Utility
