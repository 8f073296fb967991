import Foreman.Shell.Arithmetic
import Foreman.Shell.Scene

/-!
# `Foreman.Shell.Test` — conditions written as arguments

## Contents
- **Operators**: on one argument and on two.
- **`Verdict`**: the truth of the front of some arguments, and what is left of them.
- `judge`: the truth of all arguments; `test`: the report of it.
-/

namespace Foreman.Shell

/-! ## Operators -/

/-- The operators on one argument. -/
def isUnary (a : Octets) : Bool :=
  match a with
  | ['-', c] => "bcdefghknprstuwxzGLOS".toList.contains c
  | _ => false

/-- The operators on two arguments. -/
def isBinary (a : Octets) : Bool :=
  ["=", "!=", "<", ">", "-eq", "-ne", "-gt", "-ge", "-lt", "-le", "-nt", "-ot", "-ef"].contains
    (String.ofList a)

/-- The truth of an operator on one argument. -/
def unaryTruth (s : Scene) (op : Octets) (a : Octets) : Bool :=
  let entry := s.look? a
  let bit (n : Nat) : Bool := entry.any fun e => e.mode &&& n ≠ 0
  match op with
  | ['-', 'n'] => !a.isEmpty
  | ['-', 'z'] => a.isEmpty
  | ['-', 'e'] | ['-', 'r'] | ['-', 'w'] | ['-', 'O'] | ['-', 'G'] => entry.isSome
  | ['-', 'd'] => entry.any Entry.isFolder
  | ['-', 'x'] => entry.any Entry.isExecutable
  | ['-', 'f'] => entry.any Entry.isFile
  | ['-', 's'] => entry.any fun e => e.isFolder || !e.data.isEmpty
  | ['-', 'c'] => entry.any fun e => e.node = .device
  | ['-', 'p'] => entry.any fun e => e.node = .fifo
  | ['-', 'h'] | ['-', 'L'] => (s.lookAt? a).any Entry.isLink
  | ['-', 'u'] => bit 0o4000
  | ['-', 'g'] => bit 0o2000
  | ['-', 'k'] => bit 0o1000
  | _ => false

/-- Whether a file was changed later than another one. -/
def isNewer (s : Scene) (a b : Octets) : Bool :=
  match s.look? a, s.look? b with
  | some x, some y => y.changed < x.changed
  | some _, none => true
  | none, _ => false

/-- The number that an argument writes. -/
def argumentNumber (a : Octets) : Except Octets Int :=
  match decimal? a with
  | some n => .ok n
  | none => .error ("Illegal number: ".toList ++ a)

/-- The truth of an operator on two arguments. -/
def binaryTruth (s : Scene) (a op b : Octets) : Except Octets Bool :=
  let numbers (test : Int → Int → Bool) : Except Octets Bool := do
    return test (← argumentNumber a) (← argumentNumber b)
  match String.ofList op with
  | "=" => .ok (a = b)
  | "!=" => .ok (a ≠ b)
  | "<" => .ok (a < b)
  | ">" => .ok (b < a)
  | "-eq" => numbers fun m n => m = n
  | "-ne" => numbers fun m n => m ≠ n
  | "-lt" => numbers fun m n => m < n
  | "-le" => numbers fun m n => m ≤ n
  | "-gt" => numbers fun m n => n < m
  | "-ge" => numbers fun m n => n ≤ m
  | "-nt" => .ok (isNewer s a b)
  | "-ot" => .ok (isNewer s b a)
  | "-ef" =>
    match s.find a, s.find b with
    | .ok x, .ok y => .ok (x.entry.isSome && x.path = y.path)
    | _, _ => .ok false
  | _ => .ok false

/-! ## Conditions -/

/-- The truth of the front of some arguments, the last argument of it, and the arguments after it. -/
structure Verdict where
  truth : Bool
  last : Octets
  rest : List Octets

/-- Whether an argument that looks like an operator on the next one stands for itself. -/
def standsAlone (rest : List Octets) : Bool :=
  match rest with
  | [] => true
  | [_] => false
  | op :: _ => isBinary op

mutual

/-- Judges conditions joined by "or". -/
def judgeEither (s : Scene) : Nat → List Octets → Except Octets Verdict
  | 0, _ => .error []
  | fuel + 1, args => do
    let v ← judgeBoth s fuel args
    match v.rest with
    | ['-', 'o'] :: rest => do
      let w ← judgeEither s fuel rest
      return { w with truth := v.truth || w.truth }
    | _ => return v

/-- Judges conditions joined by "and". -/
def judgeBoth (s : Scene) : Nat → List Octets → Except Octets Verdict
  | 0, _ => .error []
  | fuel + 1, args => do
    let v ← judgeOne s fuel args
    match v.rest with
    | ['-', 'a'] :: rest => do
      let w ← judgeBoth s fuel rest
      return { w with truth := v.truth && w.truth }
    | _ => return v

/-- Judges a single condition. Nothing is false. -/
def judgeOne (s : Scene) : Nat → List Octets → Except Octets Verdict
  | 0, _ => .error []
  | fuel + 1, args =>
    match args with
    | [] => .ok ⟨false, [], []⟩
    | ['!'] :: rest => do
      let v ← judgeOne s fuel rest
      return { v with truth := !v.truth }
    | ['('] :: a :: rest =>
      if a = [')'] then .ok ⟨false, a, rest⟩
      else do
        let v ← judgeEither s fuel (a :: rest)
        match v.rest with
        | [')'] :: rest => return ⟨v.truth, [')'], rest⟩
        | _ => .error "closing paren expected".toList
    | a :: rest =>
      if isUnary a ∧ !standsAlone rest then
        match rest with
        | b :: rest => .ok ⟨unaryTruth s a b, b, rest⟩
        | [] => .error (a ++ ": argument expected".toList)
      else
        match rest with
        | op :: rest =>
          if isBinary op then
            match rest with
            | b :: rest => do return ⟨← binaryTruth s a op b, b, rest⟩
            | [] => .error (op ++ ": argument expected".toList)
          else .ok ⟨!a.isEmpty, a, op :: rest⟩
        | [] => .ok ⟨!a.isEmpty, a, []⟩

end

/-- The arguments after the negations of a condition of three or four arguments. -/
def afterNegations : List Octets → List Octets
  | [['!'], a, b] => if isBinary a then [['!'], a, b] else [a, b]
  | [['!'], a, b, c] => afterNegations [a, b, c]
  | args => args

/-- The truth of some arguments as a whole. However many negations a short condition starts with, they
    count as one, and negate all of it. -/
def judge (s : Scene) (args : List Octets) : Except Octets Bool := do
  let whole (args : List Octets) := do
    let v ← judgeEither s (4 * args.length + 4) args
    if v.rest.isEmpty then return v.truth
    else .error (v.last ++ ": unexpected operator".toList)
  let core := afterNegations args
  let truth ← match core with
    | [a, op, b] =>
      if isBinary op then binaryTruth s a op b
      else if a = ['('] ∧ b = [')'] then whole [op] else whole core
    | [['('], a, b, [')']] => whole [a, b]
    | _ => whole core
  return truth != (core.length ≠ args.length)

/-- Tests arguments; messages begin with the given text. -/
def test (blame : Octets) (s : Scene) (args : List Octets) : Report :=
  match judge s args with
  | .ok truth => { status := if truth then 0 else 1 }
  | .error text => failure 2 (blame ++ text)

end Foreman.Shell
