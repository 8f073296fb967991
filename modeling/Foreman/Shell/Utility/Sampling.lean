import Foreman.Shell.Utility.Basic

/-!
# `Foreman.Shell.Utility.Sampling` — lines in any order

Any order of the lines is as good as another one, so they are taken as they come.

## Contents
- `shuf`.
-/

namespace Foreman.Shell.Utility

/-- The numbers that a range in a text holds. -/
def rangeIn? (text : Octets) : Option (List Octets) :=
  match partsAt '-' text with
  | [low, high] => do
    let low ← natNumber? low
    let high ← natNumber? high
    if low ≤ high + 1 then some ((List.range' low (high + 1 - low)).map natText) else none
  | _ => none

/-- Writes lines in any order. -/
def shuf : Utility := fun s args =>
  let g : Grammar :=
    { letters := "ei:n:o:rz"
      words := [("echo", "e", .nothing), ("input-range", "i", .something), ("head-count", "n", .something),
        ("output", "o", .something), ("random-source", "random-source", .something),
        ("repeat", "r", .nothing), ("zero-terminated", "z", .nothing)] }
  withArguments s.name 1 g args fun a =>
    let wrong (text : Octets) : Report := faultOf 1 s.name text
    let counts := a.valuesOf "n"
    let ranges := a.valuesOf "i"
    match counts.find? (natNumber? · |>.isNone), ranges.find? (rangeIn? · |>.isNone), ranges with
    | some text, _, _ => wrong ("invalid line count: ".toList ++ quotedText text)
    | none, some text, _ => wrong ("invalid input range: ".toList ++ quotedText text)
    | none, none, _ :: _ :: _ => wrong "multiple -i options specified".toList
    | none, none, ranges =>
      if a.has "e" ∧ a.has "i" then misuse 1 s.name "cannot combine -e and -i options".toList
      else
        let extra := if a.has "e" then none
          else if a.has "i" then a.operands.head?
          else (a.operands.drop 1).head?
        match extra with
        | some text => misuse 1 s.name ("extra operand ".toList ++ quotedText text)
        | none =>
          let ending := if a.has "z" then '\x00' else '\n'
          let most? := (counts.filterMap natNumber?).foldl (fun m n => some (m.elim n (min n))) none
          let path := a.operands.headD ['-']
          let readsFile : Bool := !a.has "e" && !a.has "i" && most? ≠ some 0
          let source : Except PathFault (List Octets × Bool) :=
            if a.has "e" then .ok (a.operands, false)
            else
              match ranges with
              | text :: _ => .ok ((rangeIn? text).getD [], false)
              | [] =>
                if !readsFile then .ok ([], false)
                else (s.readPath path).map fun (data, isCut) => (linesBy ending data, isCut)
          match source with
          | .error .isFolder => wrong "read error: Is a directory".toList
          | .error fault => s.unreadable 1 path fault
          | .ok (lines, isCut) =>
            let repeats : Bool := a.has "r" && most? ≠ some 0
            if repeats ∧ lines.isEmpty then wrong "no lines to repeat".toList
            else
              let size := max 1 (sumOf List.length lines)
              let chosen :=
                if repeats then
                  let count := most?.getD (s.room / size + 1)
                  ((List.replicate (count / lines.length + 1) lines).flatten).take count
                else match most? with
                  | some n => lines.take n
                  | none => lines
              let text := endedBy ending chosen
              let r : Report :=
                { isHungry := isCut
                  isEndless := repeats && most?.isNone
                  appetite := if readsFile ∧ Scene.isInput path then .everything else .nothing }
              match a.value? "o" with
              | none => r.out text
              | some target =>
                match s.find target with
                | .error fault => s.unreadable 1 target fault
                | .ok ⟨here, old⟩ =>
                  if old.any Entry.isFolder then s.unreadable 1 target .isFolder
                  else { r with files := some (s.files.write here (s.newMode 0o666) text) }

end Foreman.Shell.Utility
