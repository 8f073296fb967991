import Foreman.Shell.Arithmetic
import Foreman.Shell.Regex
import Foreman.Shell.Utility.Basic

/-!
# `Foreman.Shell.Utility.Numbering` — numbers in front of lines

A text has pages of a header, a body and a footer. Each of these sections has its own style, which says
what lines are numbered. The text starts in a body.

## Contents
- **`NumberStyle`**: what lines of a section are numbered.
- **`Numbering`**: what the options say; **`Count`**: what is counted.
- `nl`.
-/

namespace Foreman.Shell.Utility

/-- What lines of a section are numbered. -/
inductive NumberStyle where
  | all
  | text
  | none
  /-- Lines with a match. -/
  | matching (r : Regex)

/-- How numbers are written. -/
inductive NumberFormat where
  | left
  | right
  | zeros
  deriving DecidableEq

/-- A section of a page. -/
inductive Section where
  | header
  | body
  | footer
  deriving DecidableEq

/-- How lines are numbered. -/
structure Numbering where
  header : NumberStyle := .none
  body : NumberStyle := .text
  footer : NumberStyle := .none
  first : Int := 1
  increment : Int := 1
  /-- How many empty lines count as one, where empty lines are numbered. -/
  joined : Int := 1
  width : Nat := 6
  separator : Octets := ['\t']
  format : NumberFormat := .right
  /-- What a line between sections is made of. -/
  delimiter : Octets := ['\\', ':']
  startsOver : Bool := true

/-- What is counted. -/
structure Count where
  number : Int
  /-- The empty lines in sequence. -/
  blanks : Int := 0
  place : Section := .body
  /-- What is shown, the latest line first. -/
  shown : List Octets := []
  /-- Whether there were no more numbers. -/
  isOver : Bool := false

namespace Numbering

/-- The section that a line begins. -/
def section? (o : Numbering) (line : Octets) : Option Section :=
  if o.delimiter.length < 2 then .none
  else if line = o.delimiter ++ o.delimiter ++ o.delimiter then some .header
  else if line = o.delimiter ++ o.delimiter then some .body
  else if line = o.delimiter then some .footer
  else .none

/-- The style of a section. -/
def styleOf (o : Numbering) : Section → NumberStyle
  | .header => o.header
  | .body => o.body
  | .footer => o.footer

/-- A number in its field. -/
def field (o : Numbering) (n : Int) : Octets :=
  let text := (toString n).toList
  match o.format with
  | .left => padRight o.width text
  | .right => padLeft o.width text
  | .zeros =>
    let digits := natText n.natAbs
    let sign : Octets := if n < 0 then ['-'] else []
    sign ++ List.replicate (o.width - sign.length - digits.length) '0' ++ digits

/-- Shows a line with the next number. -/
def numbered (o : Numbering) (c : Count) (line : Octets) : Count :=
  if c.number ≠ wrap c.number then { c with isOver := true }
  else
    { c with number := c.number + o.increment
             shown := (o.field c.number ++ o.separator ++ line ++ ['\n']) :: c.shown }

/-- Shows a line with no number. -/
def unnumbered (o : Numbering) (c : Count) (line : Octets) : Count :=
  let blank := List.replicate (o.width + o.separator.length) ' '
  { c with shown := (blank ++ line ++ ['\n']) :: c.shown }

/-- Shows a line. -/
def add (o : Numbering) (c : Count) (line : Octets) : Count :=
  if c.isOver then c
  else
    match o.section? line with
    | some place =>
      { c with place, number := if o.startsOver then o.first else c.number,
               shown := ['\n'] :: c.shown }
    | .none =>
      match o.styleOf c.place with
      | .none => o.unnumbered c line
      | .text => if line.isEmpty then o.unnumbered c line else o.numbered c line
      | .matching r => if r.isIn false line then o.numbered c line else o.unnumbered c line
      | .all =>
        if o.joined ≤ 1 then o.numbered c line
        else if !line.isEmpty ∨ c.blanks + 1 = o.joined then
          o.numbered { c with blanks := 0 } line
        else o.unnumbered { c with blanks := c.blanks + 1 } line

end Numbering

/-- The style that the value of an option writes; none if there is no such style. -/
def NumberStyle.read? (value : Octets) : Except Octets (Option NumberStyle) :=
  match value with
  | 'a' :: _ => .ok (some .all)
  | 't' :: _ => .ok (some .text)
  | 'n' :: _ => .ok (some .none)
  | 'p' :: expression =>
    match readRegex { isExtended := false } expression with
    | .ok (r, _) => .ok (some (.matching r))
    | .error fault => .error fault.text.toList
  | _ => .ok .none

/-- What an option says about numbering, after complaints about styles. -/
def Numbering.withOption (o : Numbering × List Octets) (option : String × Octets) :
    Except Octets (Numbering × List Octets) := do
  let (o, complaints) := o
  let value := option.2
  let styled (what : String) (use : NumberStyle → Numbering) : Except Octets (Numbering × List Octets) := do
    match ← NumberStyle.read? value with
    | some style => return (use style, complaints)
    | none =>
      let complaint := ("invalid " ++ what ++ " numbering style: ").toList ++ quotedText value
      return (o, complaints ++ [complaint])
  let number (what : String) (least most : Int) : Except Octets Int :=
    boundedNumber ("invalid " ++ what) least most value
  match option.1 with
  | "h" => styled "header" fun style => { o with header := style }
  | "b" => styled "body" fun style => { o with body := style }
  | "f" => styled "footer" fun style => { o with footer := style }
  | "v" => return ({ o with first := ← number "starting line number" (-2 ^ 63) largest }, complaints)
  | "i" => return ({ o with increment := ← number "line number increment" (-2 ^ 63) largest }, complaints)
  | "l" => return ({ o with joined := ← number "line number of blank lines" 1 largest }, complaints)
  | "w" =>
    let n ← number "line number field width" 1 (2 ^ 31 - 1)
    return ({ o with width := n.toNat }, complaints)
  | "s" => return ({ o with separator := value }, complaints)
  | "p" => return ({ o with startsOver := false }, complaints)
  | "d" =>
    let delimiter := match value with
      | [c] => [c, o.delimiter.getD 1 ':']
      | value => value
    return ({ o with delimiter }, complaints)
  | "n" =>
    match String.ofList value with
    | "ln" => return ({ o with format := .left }, complaints)
    | "rn" => return ({ o with format := .right }, complaints)
    | "rz" => return ({ o with format := .zeros }, complaints)
    | _ =>
      return (o, complaints ++ ["invalid line numbering format: ".toList ++ quotedText value])
  | _ => return (o, complaints)

/-- Numbers the lines of files. -/
def nl : Utility := fun s args =>
  let g : Grammar :=
    { letters := "b:d:f:h:i:l:n:ps:v:w:"
      words := [("header-numbering", "h", .something), ("body-numbering", "b", .something),
        ("footer-numbering", "f", .something), ("starting-line-number", "v", .something),
        ("line-increment", "i", .something), ("no-renumber", "p", .nothing),
        ("join-blank-lines", "l", .something), ("number-separator", "s", .something),
        ("number-width", "w", .something), ("number-format", "n", .something),
        ("section-delimiter", "d", .something)] }
  withArguments s.name 1 g args fun a =>
    match a.options.foldlM Numbering.withOption ({}, []) with
    | .error text => faultOf 1 s.name text
    | .ok (o, complaints) =>
      match complaints.reverse with
      | last :: others =>
        (others.reverse.foldl (fun (r : Report) text => r.and (faultOf 1 s.name text)) {}).and
          (misuse 1 s.name last)
      | [] =>
        let (ds, r) := s.gather a.operands (s.unreadable 1)
        let lines := ds.flatMap fun d => linesIn d.data
        let c := lines.foldl o.add { number := o.first }
        let r := r.and (textOut c.shown.reverse.flatten)
        if c.isOver then r.and (faultOf 1 s.name "line number overflow".toList) else r

end Foreman.Shell.Utility
