import Foreman.Shell.Arithmetic
import Foreman.Shell.Pattern
import Foreman.Shell.Variables

/-!
# `Foreman.Shell.Expansion` — words to fields

A word is expanded piece by piece. The values in it that are not quoted are split into fields at the
characters of the variable `IFS`.

## Contents
- **`Fields`**: the fields so far, with the one that is not finished.
- **`Splitting`**: what is split.
- `expandPieces`: the pieces of a word; `expandGlyphs`, `expandText`: a word that is not split;
  `expandWords`: words, matched against the names of files.
-/

namespace Foreman.Shell

/-! ## Fields -/

/-- The fields of a word. -/
structure Fields where
  /-- The field that is not finished, the latest glyph first, if one has begun. -/
  current : Option (List Glyph) := none
  /-- Whether a blank has just ended a field. -/
  isAfterBlank : Bool := false
  /-- The finished fields, the latest first. -/
  finished : List (List Glyph) := []

namespace Fields

/-- Adds glyphs to the present field. -/
def add (f : Fields) (gs : List Glyph) : Fields :=
  { f with current := some (gs.reverse ++ f.current.getD []), isAfterBlank := false }

/-- Ends the present field. -/
def close (f : Fields) : Fields :=
  match f.current with
  | some field => { current := none, finished := field.reverse :: f.finished }
  | none => f

/-- Adds text that is split: at blanks, of which several count as one, and at other marks, of which each
    ends a field. -/
def addSplit (blanks marks : List Char) (f : Fields) : Octets → Fields
  | [] => f
  | c :: rest =>
    let f :=
      if blanks.contains c then
        if f.current.isSome then { f.close with isAfterBlank := true } else f
      else if marks.contains c then
        if f.current.isSome then f.close
        else if f.isAfterBlank then { f with isAfterBlank := false }
        else { f with finished := [] :: f.finished }
      else f.add [⟨c, false⟩]
    addSplit blanks marks f rest

/-- Adds fields of their own. The first goes on with the present field, and the last is not finished. -/
def addAll (f : Fields) : List (List Glyph) → Fields
  | [] => f
  | [field] => f.add field
  | field :: rest => addAll (f.add field).close rest

/-- The field that is not finished. -/
def last (f : Fields) : List Glyph := (f.current.getD []).reverse

/-- The fields in order. -/
def all (f : Fields) : List (List Glyph) := f.close.finished.reverse

end Fields

/-! ## Pieces -/

/-- What is split into fields. -/
inductive Splitting where
  | nothing
  /-- Values that are not quoted. -/
  | values
  /-- All text that is not quoted. -/
  | everything
  deriving DecidableEq

/-- Adds the value of an expansion. -/
def addValue (mode : Splitting) (isQuoted : Bool) (text : Octets) (f : Fields) : Act Fields := do
  let (blanks, marks) ← Act.read State.separators
  return if isQuoted then f.add (glyphs true text)
    else if text.isEmpty then f
    else if mode = .nothing then f.add (glyphs false text)
    else f.addSplit blanks marks text

/-- Whether the parameters of the script become fields of their own. -/
def State.isParted (s : State) (mode : Splitting) (name : String) (isQuoted : Bool) : Bool :=
  mode ≠ .nothing && if isQuoted then name = "@" else (s.valueOf? "IFS").isSome

/-- The parameters of the script as one text. Where they become fields, null characters part them. -/
def State.parametersText (s : State) (mode : Splitting) (name : String) (isQuoted : Bool) : Octets :=
  if s.isParted mode name isQuoted then ['\x00'].intercalate s.parameters else s.joined s.parameters

/-- Adds the text of the parameters of the script, or what is left of it. -/
def addParameters (mode : Splitting) (name : String) (isQuoted : Bool) (text : Octets) (f : Fields) :
    Act Fields := do
  if ← Act.read fun s => s.isParted mode name isQuoted then
    let (blanks, marks) ← Act.read State.separators
    return if isQuoted then f.addAll ((partsAt '\x00' text).map (glyphs true))
      else f.addSplit ('\x00' :: blanks) marks text
  else addValue mode isQuoted text f

/-- Adds the parameters of the script. If there are none, they are not even an empty field. -/
def addAllParameters (mode : Splitting) (name : String) (isQuoted : Bool) (f : Fields) :
    Act Fields := do
  if isQuoted ∧ name = "@" ∧ mode ≠ .nothing ∧ (← Act.read fun s => s.parameters.isEmpty) then
    return f
  else addParameters mode name isQuoted (← Act.read fun s => s.parametersText mode name isQuoted) f

/-- Whether a name stands for all parameters of the script. -/
def isAllParameters (name : String) : Bool := name = "@" || name = "*"

/-- Whether a value counts as missing. -/
def isMissing (emptyToo : Bool) (value : Option Octets) : Bool :=
  value.isNone || (emptyToo && value = some [])

/-- The fault of a parameter that has no value where one is demanded. -/
def unsetText (name : String) : Octets := octetsOf (name ++ ": parameter not set")

/-- The value of a parameter, which has to have one if the shell demands it. -/
def demanded (name : String) : Act Octets := do
  match ← Act.read fun s => s.value? name with
  | some value => return value
  | none =>
    if ← Act.read fun s => s.has 'u' then abort (unsetText name)
    return []

/-- The value of an arithmetic expression. The variables that it sets are set. -/
def evaluated (text : Octets) : Act Int := do
  let lookup ← Act.read fun s (name : String) => (s.value? name).getD []
  let (value, bindings) := arithmetic lookup text
  bindings.reverse.forM fun (name, n) => setVariable name (toString n).toList
  match value with
  | .error fault => abort (fault.message text)
  | .ok n => return n

/-- What is split in a word that stands for a parameter. -/
def inWord (mode : Splitting) (isQuoted : Bool) : Splitting :=
  if isQuoted ∨ mode = .nothing then mode else .everything

/-- Adds the text of a word itself. -/
def addPlain (mode : Splitting) (text : Octets) (isQuoted : Bool) (f : Fields) : Act Fields :=
  if mode = .everything ∧ !isQuoted then addValue mode false text f
  else pure (f.add (glyphs isQuoted text))

mutual

/-- Expands the pieces of a word. Commands in it are run by the given function. -/
def expandPieces (run : Command → Act Octets) (mode : Splitting) :
    List Piece → Fields → Act Fields
  | [], f => pure f
  | piece :: rest, f => do
    let f ← expandPiece run mode piece f
    expandPieces run mode rest f

/-- Expands a piece of a word. -/
def expandPiece (run : Command → Act Octets) (mode : Splitting) : Piece → Fields → Act Fields
  | .plain text isQuoted, f => addPlain mode text isQuoted f
  | .parameter name use isQuoted, f => expandUse run mode name isQuoted use f
  | .arithmetic body isQuoted, f => do
    let body ← expandPieces run .nothing body {}
    let n ← evaluated (textOf body.last)
    addValue mode isQuoted (toString n).toList f
  | .output command isQuoted, f => do
    let text ← run command
    addValue mode isQuoted (text.reverse.dropWhile (· = '\n')).reverse f

/-- Expands a word that stands for a parameter. -/
def expandSubstitute (run : Command → Act Octets) (mode : Splitting) (isQuoted : Bool) :
    List Piece → Fields → Act Fields
  | [], f => pure (if isQuoted then f.add [] else f)
  | .plain text false :: rest, f => do
    let home ← Act.read fun s => s.withHome false (!rest.isEmpty) text
    match home, isQuoted with
    | .plain path true :: _, false =>
      let name := text.takeWhile (· ≠ '/')
      let f := f.add (glyphs true path)
      expandPieces run (inWord mode false) rest (f.add (glyphs false (text.drop (name.length))))
    | _, _ => do
      let f ← addPlain (inWord mode isQuoted) text false (if isQuoted then f.add [] else f)
      expandPieces run (inWord mode isQuoted) rest f
  | piece :: rest, f => do
    let f ← expandPiece run (inWord mode isQuoted) piece (if isQuoted then f.add [] else f)
    expandPieces run (inWord mode isQuoted) rest f

/-- Expands a parameter. -/
def expandUse (run : Command → Act Octets) (mode : Splitting) (name : String) (isQuoted : Bool) :
    Use → Fields → Act Fields
  | .value, f => do
    if isAllParameters name then addAllParameters mode name isQuoted f
    else addValue mode isQuoted (← demanded name) f
  | .size, f => do
    addValue mode isQuoted (toString (← demanded name).length).toList f
  | .fallback emptyToo word, f => do
    match ← Act.read fun s => s.value? name with
    | some value =>
      if isMissing emptyToo (some value) then
        expandSubstitute run mode isQuoted word f
      else if isAllParameters name then addAllParameters mode name isQuoted f
      else addValue mode isQuoted value f
    | none => expandSubstitute run mode isQuoted word f
  | .assign emptyToo word, f => do
    let value ← Act.read fun s => s.value? name
    if isMissing emptyToo value then
      let word ← expandPieces run .nothing word {}
      let text := textOf word.last
      setVariable name text
      addValue mode isQuoted text f
    else addValue mode isQuoted (value.getD []) f
  | .alternative emptyToo word, f => do
    if isMissing emptyToo (← Act.read fun s => s.value? name) then
      pure (if isQuoted then f.add [] else f)
    else expandSubstitute run mode isQuoted word f
  | .demand emptyToo message, f => do
    let value ← Act.read fun s => s.value? name
    if isMissing emptyToo value then
      let word ← expandPieces run .nothing message {}
      let text := textOf word.last
      abort (if text.isEmpty then
          unsetText name ++ if emptyToo then " or null".toList else []
        else octetsOf (name ++ ": ") ++ text)
    else addValue mode isQuoted (value.getD []) f
  | .trim atEnd isLongest p, f => do
    let value ← if isAllParameters name then
        Act.read fun s => s.parametersText mode name isQuoted
      else demanded name
    let p ← expandPieces run .nothing p {}
    let left := trim atEnd isLongest (pattern p.last) value
    if isAllParameters name then addParameters mode name isQuoted left f
    else addValue mode isQuoted left f
  | .unknown, _ => abort "Bad substitution".toList

end

/-! ## Words -/

/-- Expands a word that is not split, and keeps what is quoted in it. -/
def expandGlyphs (run : Command → Act Octets) (word : List Piece) : Act (List Glyph) := do
  let word ← Act.read fun s => s.withHomes false word
  let f ← expandPieces run .nothing word {}
  return f.last

/-- Expands a word that is not split. -/
def expandText (run : Command → Act Octets) (word : List Piece) : Act Octets :=
  textOf <$> expandGlyphs run word

/-- Expands the value of a variable. -/
def expandValue (run : Command → Act Octets) (word : List Piece) : Act Octets := do
  let word ← Act.read fun s => s.withHomes true word
  let f ← expandPieces run .nothing word {}
  return textOf f.last

/-! ## Names of files -/

/-- The parts of a pattern between slashes. -/
def patternParts (acc : List Glyph) : List Glyph → List (List Glyph)
  | [] => [acc.reverse]
  | g :: rest =>
    if g.char = '/' then acc.reverse :: patternParts [] rest else patternParts (g :: acc) rest

/-- The paths that match the parts of a pattern, with a front that is already there. -/
def State.paths (s : State) : Octets → List (List Glyph) → List Octets
  | front, [] => [front]
  | front, part :: rest =>
    let isLast := rest.isEmpty
    let goOn (name : Octets) : List Octets :=
      if isLast then [front ++ name] else s.paths (front ++ name ++ ['/']) rest
    if !part.any Glyph.isWild then
      let path := front ++ textOf part
      if !isLast ∨ path.isEmpty ∨ (s.world.files.lookAt? s.folder path).isSome then goOn (textOf part)
      else []
    else
      match s.world.files.find s.folder (if front.isEmpty then ['.'] else front) with
      | .ok place =>
        if !place.isFolder then []
        else
          let p := pattern part
          let isHidden := part.head?.any fun g => g.char = '.'
          let names := (if isHidden then [['.'], ['.', '.']] else []) ++
            (s.world.files.children place.path).map String.toList
          (names.filter fun name => fits p name && (isHidden || name.head? ≠ some '.')).flatMap
            fun name =>
              if isLast ∨ (s.world.files.look? s.folder (front ++ name)).any Entry.isFolder then
                goOn name
              else []
      | .error _ => []

/-- The paths that a field matches, or the field itself. -/
def State.matched (s : State) (field : List Glyph) : List Octets :=
  let wild := unescaped field
  if s.has 'f' ∨ !wild.any Glyph.isWild then [textOf field]
  else
    let paths := (s.paths [] (patternParts [] wild)).mergeSort fun a b => !(b < a)
    if paths.isEmpty then [textOf field] else paths

/-- Expands a word into fields. -/
def expandWord (run : Command → Act Octets) (word : List Piece) : Act (List Octets) := do
  let word ← Act.read fun s => s.withHomes false word
  let f ← expandPieces run .values word {}
  Act.read fun s => f.all.flatMap s.matched

/-- Expands words into fields. -/
def expandWords (run : Command → Act Octets) : List (List Piece) → Act (List Octets)
  | [] => pure []
  | word :: rest => do
    let fields ← expandWord run word
    return fields ++ (← expandWords run rest)

end Foreman.Shell
