import Foreman.Number.Binary64
import Foreman.Shell.Regex

/-!
# `Foreman.Shell.Records.Syntax` — programs that go through records

A program is a list of rules. Each has a pattern that selects records, and an action. Names are numbers
here: the reader of programs has given every variable a place.

## Contents
- **`Variable`**, **`Expr`**, **`Spot`**: values, and what can be assigned to.
- **`Statement`**: actions.
- **`Rule`**, **`Function`**, **`Program`**.
-/

namespace Foreman.Shell.Records

/-! ## Expressions -/

/-- The place of a variable. -/
inductive VariableId where
  | shared (n : Nat)
  /-- A parameter of the function around. -/
  | own (n : Nat)
  deriving DecidableEq, Inhabited

/-- What is done with two numbers. -/
inductive Arithmetic where
  | add
  | sub
  | mul
  | div
  | mod
  | pow
  deriving DecidableEq

/-- How two values are compared. -/
inductive Comparison where
  | less
  | atMost
  | equal
  | different
  | greater
  | atLeast
  deriving DecidableEq

/-- A function of the language that only needs the values of its arguments. -/
inductive Builtin where
  | index
  | substr
  | sprintf
  | sine
  | cosine
  | arctangent
  | exp
  | log
  | int
  | sqrt
  | random
  | seed
  | lower
  | upper
  | time
  | moment
  | timeText
  /-- The functions that reach beyond the program: closing and flushing streams, running commands. -/
  | close
  | flush
  | system
  deriving DecidableEq

mutual

/-- An expression. -/
inductive Expr where
  | number (x : Binary64)
  | text (t : Octets)
  /-- Whether the record matches. -/
  | here (r : Regex)
  | read (s : Spot)
  | assign (s : Spot) (op : Option Arithmetic) (e : Expr)
  /-- Adds one or takes one away; the value is the one before or after that. -/
  | step (s : Spot) (isUp isBefore : Bool)
  | not (e : Expr)
  | sign (isNegative : Bool) (e : Expr)
  | arithmetic (op : Arithmetic) (a b : Expr)
  | concat (a b : Expr)
  | compare (op : Comparison) (a b : Expr)
  /-- Whether a text matches, or does not. -/
  | fits (isNegated : Bool) (a : Expr) (pattern : Matcher)
  | and (a b : Expr)
  | or (a b : Expr)
  | choose (test a b : Expr)
  /-- Whether an array has a key. -/
  | has (keys : List Expr) (array : VariableId)
  | call (function : Nat) (args : List Expr)
  | builtin (f : Builtin) (args : List Expr)
  /-- The length of a text, or of an array. -/
  | length (e : Expr)
  | replace (isGlobal : Bool) (pattern : Matcher) (replacement : Expr) (s : Spot)
  | find (e : Expr) (pattern : Matcher)
  | split (e : Expr) (array : VariableId) (separator : Option Matcher)
  | getLine (source : LineSource) (target : Option Spot)

/-- What can be assigned to. -/
inductive Spot where
  | variable (v : VariableId)
  | element (array : VariableId) (keys : List Expr)
  | field (e : Expr)
  | fieldCount

/-- What a text is matched against. -/
inductive Matcher where
  | fixed (r : Regex) (text : Octets)
  /-- An expression whose value is read as a regular expression. -/
  | dynamic (e : Expr)

/-- Where a line comes from. -/
inductive LineSource where
  | input
  | file (e : Expr)
  | command (e : Expr)

end

instance : Inhabited Expr := ⟨.text []⟩

instance : Inhabited Spot := ⟨.fieldCount⟩

/-! ## Statements -/

/-- Where output goes. -/
inductive Direction where
  | newFile
  | endOfFile
  | command
  deriving DecidableEq

/-- A statement. -/
inductive Statement where
  | block (body : List Statement)
  | expression (e : Expr)
  | print (args : List Expr) (target : Option (Direction × Expr))
  | printf (args : List Expr) (target : Option (Direction × Expr))
  | branch (test : Expr) (a : Statement) (b : Option Statement)
  | loop (test : Expr) (body : Statement)
  | loopAfter (body : Statement) (test : Expr)
  | count (start : Option Expr) (test : Option Expr) (step : Option Expr) (body : Statement)
  | each (v : VariableId) (array : VariableId) (body : Statement)
  | breaks
  | continues
  | next
  | nextFile
  | exits (e : Option Expr)
  | returns (e : Option Expr)
  | delete (array : VariableId) (keys : Option (List Expr))

instance : Inhabited Statement := ⟨.block []⟩

/-! ## Programs -/

/-- Which records a rule applies to. -/
inductive Selection where
  | always
  | test (e : Expr)
  /-- From a record to another one. -/
  | range (first last : Expr)

/-- A rule: the records, and what is done with them; without an action they are printed. -/
structure Rule where
  selection : Selection
  action : Option Statement

/-- A function of a program. -/
structure Function where
  name : String
  parameters : Nat
  body : Statement

/-- A program. -/
structure Program where
  before : List Statement
  rules : List Rule
  after : List Statement
  functions : Array Function
  /-- The names of the variables that all functions share, by their numbers. -/
  shared : List String

/-! ## Variables with a meaning -/

/-- The names of the variables that have a meaning from the start, by their numbers. -/
def meaningfulNames : List String :=
  ["RS", "FS", "CONVFMT", "OFMT", "NR", "FNR", "FILENAME", "OFS", "ORS", "SUBSEP", "RSTART", "RLENGTH",
    "ARGC", "ENVIRON", "ARGV"]

/-- The number of the first variable that stands for an array from the start. -/
def firstArray : Nat := 13

namespace VariableId

/-- What stands between records. -/
def recordSeparator : VariableId := .shared 0

/-- What stands between fields. -/
def fieldSeparator : VariableId := .shared 1

/-- How a number becomes a text. -/
def conversionFormat : VariableId := .shared 2

/-- How a number is printed. -/
def outputFormat : VariableId := .shared 3

/-- The number of the record. -/
def recordNumber : VariableId := .shared 4

/-- The number of the record in its file. -/
def fileRecordNumber : VariableId := .shared 5

/-- The name of the file that is read. -/
def fileName : VariableId := .shared 6

/-- What is printed between values. -/
def outputFieldSeparator : VariableId := .shared 7

/-- What is printed at the end. -/
def outputRecordSeparator : VariableId := .shared 8

/-- What stands between the parts of a key. -/
def keySeparator : VariableId := .shared 9

/-- Where the last match begins. -/
def matchStart : VariableId := .shared 10

/-- How long the last match is. -/
def matchLength : VariableId := .shared 11

/-- The number of arguments. -/
def argumentCount : VariableId := .shared 12

/-- The environment of the program. -/
def environment : VariableId := .shared 13

/-- The arguments, with the name of the program as the first one. -/
def arguments : VariableId := .shared 14

end VariableId

end Foreman.Shell.Records
