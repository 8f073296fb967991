import Foreman.Text.Octets

/-!
# `Foreman.Shell.Syntax` — the commands of the shell

Tasks are written in a shell: simple commands with their words and redirections, combined by lists,
conditions, pipes, loops, functions and subshells.

## Contents
- **`Opening`**: how a file is opened.
- **`Piece`**: a part of a word; a word is a list of pieces.
- **`Use`**: what an expansion makes of the value of a parameter.
- **`Redirection`**, **`Command`**.
-/

namespace Foreman.Shell

/-- How a redirection opens a file. -/
inductive Opening where
  | read
  | write
  /-- For writing, also where an existing file would be spared. -/
  | clobber
  | append
  | readWrite
  deriving DecidableEq

mutual

/-- A part of a word. What is quoted is not split into several words and matches only itself. -/
inductive Piece where
  | plain (text : Octets) (isQuoted : Bool)
  | parameter (name : String) (use : Use) (isQuoted : Bool)
  | arithmetic (body : List Piece) (isQuoted : Bool)
  /-- The output of a command. -/
  | output (command : Command) (isQuoted : Bool)

/-- What an expansion makes of the value of a parameter. Some uses treat an empty value like a missing
    one. -/
inductive Use where
  | value
  | size
  /-- A word in place of a missing value. -/
  | fallback (emptyToo : Bool) (word : List Piece)
  /-- A word in place of a missing value, which becomes the value. -/
  | assign (emptyToo : Bool) (word : List Piece)
  /-- A word in place of a value that is there. -/
  | alternative (emptyToo : Bool) (word : List Piece)
  /-- Without a value, the end of the shell with a message. -/
  | demand (emptyToo : Bool) (message : List Piece)
  /-- The value without the part at one of its ends that matches a pattern. -/
  | trim (atEnd isLongest : Bool) (pattern : List Piece)
  | unknown

/-- A command. Some know the line where they start. -/
inductive Command where
  | nothing
  | simple (line : Nat) (settings : List (String × List Piece)) (words : List (List Piece))
      (redirections : List Redirection)
  | redirected (line : Nat) (body : Command) (redirections : List Redirection)
  | sequence (first second : Command)
  | andThen (first second : Command)
  | orElse (first second : Command)
  | inverted (body : Command)
  | background (body : Command)
  | piped (source sink : Command)
  | subshell (line : Nat) (body : Command)
  | choice (test yes no : Command)
  /-- Repeats its body as long as its test succeeds, or fails. -/
  | loop (test body : Command) (whileSuccess : Bool)
  /-- Runs its body for each of some words, or of the parameters. -/
  | forEach (line : Nat) (name : String) (words : Option (List (List Piece))) (body : Command)
  /-- Runs the command of the first branch with a pattern that matches. -/
  | cases (line : Nat) (subject : List Piece) (branches : List (List (List Piece) × Command))
  | define (line : Nat) (name : String) (body : Command)

/-- Where the input of a command comes from, or one of its outputs goes to. -/
inductive Redirection where
  | file (descriptor : Nat) (opening : Opening) (target : List Piece)
  /-- The descriptor becomes the same as another one, or is closed. -/
  | duplicate (descriptor : Nat) (target : List Piece)
  /-- The descriptor reads a text. -/
  | document (descriptor : Nat) (body : List Piece)

end

instance : Inhabited Command := ⟨.nothing⟩

end Foreman.Shell
