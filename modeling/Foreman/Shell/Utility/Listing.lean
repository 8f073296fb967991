import Foreman.Shell.Utility.Tree
import Foreman.Shell.Utility.Versions

/-!
# `Foreman.Shell.Utility.Listing` — what is in folders

## Contents
- **`Item`**: a file as it is listed; `itemOrder`, the order of items.
- **Layout**: items on lines, in columns, or with all that is known of them.
- `ls`.
- `stat`, `du`.
-/

namespace Foreman.Shell.Utility

/-! ## Items -/

/-- A file as it is listed. -/
structure Item where
  shown : Octets
  path : String
  entry : Entry

/-- The size of a file, as it is shown. Folders have the size of a block. -/
def Item.size (x : Item) : Nat :=
  match x.entry.node with
  | .folder => 4096
  | .link target => target.length
  | .device | .fifo => 0
  | _ => x.entry.data.length

/-- How many units of 1024 bytes a file takes. -/
def Item.blocks (x : Item) : Nat :=
  match x.entry.node with
  | .folder => 4
  | .link _ | .device | .fifo => 0
  | _ => (x.entry.data.length + 4095) / 4096 * 4

/-- How many names a file has. -/
def linkCount (f : Files) (x : Item) : Nat :=
  if x.entry.isFolder then
    2 + ((f.children x.path).filter fun name => (f.entry? (childPath x.path name)).any Entry.isFolder).length
  else (f.sharing x.path).length

/-- The letter of the kind of a file. -/
def kindLetter (e : Entry) : Char :=
  match e.node with
  | .folder => 'd'
  | .link _ => 'l'
  | .device => 'c'
  | .fifo => 'p'
  | _ => '-'

/-- The mark that stands behind the name of a file. -/
def kindMark (a : Arguments) (e : Entry) : Octets :=
  let isFull := a.has "F"
  match e.node with
  | .folder => if isFull ∨ a.has "p" ∨ a.has "file-type" then ['/'] else []
  | .link _ => if isFull ∨ a.has "file-type" then ['@'] else []
  | .file _ | .program => if isFull ∧ e.isExecutable then ['*'] else []
  | .fifo => if isFull ∨ a.has "file-type" then ['|'] else []
  | .device => []

/-- The ending of a name from its last dot on. -/
def nameEnding (name : Octets) : Octets :=
  let tail := name.reverse.takeWhile (· ≠ '.')
  if tail.length = name.length then [] else (tail.reverse)

/-- The order of items: whether one may stand in front of another. -/
def itemOrder (a : Arguments) (x y : Item) : Bool :=
  let byName := compareTexts x.shown y.shown
  let order : Ordering := match a.last? ["S", "t", "X", "U", "v"] with
    | some "S" => (compare y.size x.size).then byName
    | some "t" => (compare y.entry.changed x.entry.changed).then byName
    | some "v" => (compareVersions x.shown y.shown).then byName
    | some "X" => (compareTexts (nameEnding x.shown) (nameEnding y.shown)).then byName
    | _ => byName
  if a.has "r" then order ≠ .lt else order ≠ .gt
where
  /-- The order of two texts, byte by byte. -/
  compareTexts (x y : Octets) : Ordering := if x = y then .eq else if x < y then .lt else .gt

/-! ## Layout -/

/-- A name as the options ask for. -/
def itemName (a : Arguments) (name : Octets) : Octets :=
  match a.last? ["Q", "b", "N", "q"] with
  | some "Q" =>
    '"' :: (name.flatMap fun c =>
      if c = '"' ∨ c = '\\' then ['\\', c] else (shownControl? c).getD [c]) ++ ['"']
  | some "b" => name.flatMap fun c => if c = ' ' then ['\\', ' '] else if c = '\\' then ['\\', '\\'] else (shownControl? c).getD [c]
  | some "q" => name.map fun c => if (shownControl? c).isSome then '?' else c
  | _ => name

/-- A size with a unit. -/
def humanSize (n : Nat) : Octets :=
  let rec go : Nat → Nat → Nat → List Char → Octets
    | 0, _, _, _ => []
    | fuel + 1, n, scale, units =>
      match units with
      | [] => natText (n / scale)
      | unit :: more =>
        if n < 1024 * scale ∨ more.isEmpty then
          let tenths := (n * 10 + scale - 1) / scale
          if tenths < 100 then natText (tenths / 10) ++ '.' :: natText (tenths % 10) ++ [unit]
          else
            let whole := (n + scale - 1) / scale
            if 1024 ≤ whole ∧ !more.isEmpty then go fuel n (scale * 1024) more else natText whole ++ [unit]
        else go fuel n (scale * 1024) more
  if n < 1024 then natText n else go 8 n 1024 ['K', 'M', 'G', 'T', 'P']

/-- The time of a file in a long list. -/
def itemTime (a : Arguments) (now changed : Nat) : Octets :=
  let half : Nat := 15778476 * 1000000000
  match (a.value? "time-style").map String.ofList with
  | some "long-iso" => formatDate changed "%Y-%m-%d %H:%M".toList
  | some "full-iso" => formatDate changed "%Y-%m-%d %H:%M:%S.%N %z".toList
  | some "iso" =>
    formatDate changed (if changed + half < now then "%Y-%m-%d " else "%m-%d %H:%M").toList
  | some style =>
    if style.startsWith "+" then formatDate changed (style.toList.drop 1)
    else formatDate changed "%b %e %H:%M".toList
  | none =>
    if a.has "full-time" then formatDate changed "%Y-%m-%d %H:%M:%S.%N %z".toList
    else formatDate changed (if changed + half < now ∨ now < changed then "%b %e  %Y" else "%b %e %H:%M").toList

/-- Texts in columns, each as wide as its widest text. -/
def alignedRows (rows : List (List (Bool × Octets))) : List Octets :=
  let count := rows.foldl (fun n r => max n r.length) 0
  let widths := (List.range count).map fun k =>
    rows.foldl (fun n r => max n ((r[k]?.map fun c => c.2.length).getD 0)) 0
  rows.map fun row =>
    [' '].intercalate ((row.zip widths).map fun ((isLeft, text), width) =>
      if isLeft then padRight width text else padLeft width text)

/-- The mark in front of a name: the number and the size of a file. -/
def itemFront (a : Arguments) (x : Item) : List (Bool × Octets) :=
  (if a.has "i" then [(false, natText (1000 + (x.path.toList.foldl (fun n c => n * 31 + c.toNat) 7) % 1000000))]
    else []) ++
    (if a.has "s" then [(false, if a.has "h" then humanSize (x.blocks * 1024) else natText x.blocks)] else [])

/-- A long list. -/
def longLines (s : Scene) (a : Arguments) (items : List Item) : List Octets :=
  let owner : Octets := if a.has "n" then ['0'] else "root".toList
  let rows := items.map fun x =>
    let e := x.entry
    let name := itemName a x.shown
    let last := match e.node with
      | .link target =>
        let goal := if a.has "F" then (s.files.look? (parentPath x.path) target).map (kindMark a) else none
        name ++ " -> ".toList ++ target ++ goal.getD []
      | _ => name ++ kindMark a e
    itemFront a x ++
      [(true, kindLetter e :: rightsText e.mode), (false, natText (linkCount s.files x))] ++
      (if a.has "g" then [] else [(true, owner)]) ++
      (if a.has "o" ∨ a.has "G" then [] else [(true, owner)]) ++
      [(false, if a.has "h" then humanSize x.size else natText x.size),
        (true, itemTime a s.files.now e.changed), (true, last)]
  -- The last column is not filled.
  (alignedRows rows).map fun line => (line.reverse.dropWhile (· = ' ')).reverse

/-- The lines of texts in columns, filled downwards or along the lines. -/
def columnLines (isAcross : Bool) (width : Nat) (texts : List Octets) : List Octets :=
  let n := texts.length
  let layout (columns : Nat) : List Nat × Nat :=
    let rows := (n + columns - 1) / columns
    let place (k : Nat) : Nat := if isAcross then k % columns else k / rows
    let used := if isAcross then columns else (n + rows - 1) / rows
    let widths := (List.range used).map fun c =>
      (texts.zipIdx).foldl (fun w (t, k) => if place k = c then max w t.length else w) 0
    (widths.zipIdx.map fun (w, c) => if c + 1 = used then w else w + 2, rows)
  let fits (columns : Nat) : Bool := sumOf id (layout columns).1 < width
  let columns := (((List.range (min n (width / 3 + 1))).map (· + 1)).reverse.find? fits).getD 1
  let (widths, rows) := layout columns
  (List.range rows).map fun r =>
    let ks := (List.range columns).map fun c => if isAcross then r * columns + c else c * rows + r
    let cells := ks.filterMap fun k => texts[k]?
    let last := cells.length - 1
    (cells.zip widths).zipIdx.flatMap fun ((t, w), c) => if c = last then t else padRight w t

/-- A list of items. -/
def itemLines (s : Scene) (a : Arguments) (items : List Item) : List Octets :=
  let plain (x : Item) : Octets :=
    [' '].intercalate ((itemFront a x).map Prod.snd ++ [itemName a x.shown ++ kindMark a x.entry])
  match a.last? ["l", "n", "g", "o", "full-time", "1", "C", "x", "m"] with
  | some "C" => columnLines false 80 (items.map plain)
  | some "x" => columnLines true 80 (items.map plain)
  | some "m" => if items.isEmpty then [] else [", ".toList.intercalate (items.map plain)]
  | some "1" | none =>
    if a.hasAny ["l", "n", "g", "o", "full-time"] ∧ !(a.last? ["l", "n", "g", "o", "full-time", "1"] = none) then
      longLines s a items
    else if a.hasAny ["s", "i"] then
      (alignedRows (items.map fun x => itemFront a x ++ [(true, itemName a x.shown ++ kindMark a x.entry)])).map
        fun line => (line.reverse.dropWhile (· = ' ')).reverse
    else items.map plain
  | some _ => longLines s a items

/-! ## Lists of folders -/

/-- Whether a list shows all that is known of items. -/
def isLong (a : Arguments) : Bool := a.hasAny ["l", "n", "g", "o", "full-time"]

/-- The items of a folder. -/
def folderItems (s : Scene) (a : Arguments) (folder : String) : List Item :=
  let all := (s.files.children folder).filterMap fun name =>
    (s.files.entry? (childPath folder name)).map fun entry =>
      let path := childPath folder name
      if a.has "L" then
        match s.files.look? "" path.toList with
        | some e => ({ shown := name.toList, path, entry := e } : Item)
        | none => { shown := name.toList, path, entry }
      else { shown := name.toList, path, entry }
  let hides (x : Item) : Bool :=
    (!a.hasAny ["a", "A", "f"] && x.shown.head? = some '.') || (a.has "B" && x.shown.getLast? = some '~')
  let seen := (all.filter (!hides ·))
  let dots : List Item := if a.hasAny ["a", "f"] then
      let item (shown : String) (path : String) : List Item :=
        ((s.files.entry? path).map fun entry => ({ shown := shown.toList, path, entry } : Item)).toList
      item "." folder ++ item ".." (parentPath folder)
    else []
  if a.hasAny ["U", "f"] then dots ++ seen else (dots ++ seen).mergeSort (itemOrder a)

/-- The lines of a folder, and of the folders below it if asked to. -/
def folderLines (s : Scene) (a : Arguments) (hasHeader isFirst : Bool) : Nat → String → Octets → List Octets
  | 0, _, _ => []
  | depth + 1, folder, shown =>
    let items := folderItems s a folder
    let total := if isLong a ∨ a.has "s" then
        let sum := sumOf Item.blocks items
        ["total ".toList ++ if a.has "h" then if sum = 0 then ['0'] else humanSize (sum * 1024) else natText sum]
      else []
    let header := if hasHeader then (if isFirst then [] else [[]]) ++ [shown ++ [':']] else []
    let below := if a.has "R" then
        (items.filter fun x => x.entry.isFolder && x.shown ≠ ['.'] && x.shown ≠ ['.', '.']).flatMap fun x =>
          folderLines s a true false depth x.path (shownChild shown (String.ofList x.shown))
      else []
    header ++ total ++ itemLines s a items ++ below

/-- Lists files and what is in folders. -/
def ls : Utility := fun s args =>
  let g : Grammar :=
    { letters := "aAbBcCdfFgGhHiI:klLmnNopqQrRsStT:uUvw:xXZ1"
      words := [("all", "a", .nothing), ("almost-all", "A", .nothing), ("escape", "b", .nothing),
        ("ignore-backups", "B", .nothing), ("directory", "d", .nothing), ("classify", "F", .perhaps),
        ("file-type", "file-type", .nothing), ("full-time", "full-time", .nothing),
        ("no-group", "G", .nothing), ("human-readable", "h", .nothing), ("inode", "i", .nothing),
        ("dereference", "L", .nothing), ("numeric-uid-gid", "n", .nothing), ("literal", "N", .nothing),
        ("hide-control-chars", "q", .nothing), ("quote-name", "Q", .nothing), ("reverse", "r", .nothing),
        ("recursive", "R", .nothing), ("size", "s", .nothing), ("sort", "sort", .something),
        ("time-style", "time-style", .something), ("time", "time", .something), ("width", "w", .something),
        ("color", "color", .perhaps), ("format", "format", .something),
        ("group-directories-first", "first", .nothing), ("indicator-style", "indicator", .something),
        ("zero", "zero", .nothing), ("hyperlink", "hyperlink", .perhaps), ("author", "author", .nothing)] }
  withArguments s.name 2 g args fun a =>
    let sort := match (a.value? "sort").map String.ofList with
      | some "size" => [("S", [])]
      | some "time" => [("t", [])]
      | some "extension" => [("X", [])]
      | some "none" => [("U", [])]
      | _ => []
    let a := { a with options := a.options ++ sort }
    let operands := if a.operands.isEmpty then [['.']] else a.operands
    let followsLinks := !(a.has "d" || isLong a || a.has "F") || a.hasAny ["L", "H"]
    let find (path : Octets) : Except PathFault Place :=
      let found := s.files.findWith (followsLinks || path.getLast? = some '/') s.folder path
      match found with
      | .ok ⟨_, none⟩ | .error .missing =>
        if a.has "L" then found else s.files.findWith false s.folder path
      | .ok ⟨here, some e⟩ =>
        if path.getLast? = some '/' ∧ !e.isFolder then .error .notFolder else .ok ⟨here, some e⟩
      | other => other
    let step (acc : Report × List Item) (path : Octets) : Report × List Item :=
      let cannot (fault : PathFault) : Report × List Item :=
        (acc.1.and (faultOf 2 s.name ("cannot access ".toList ++ quotedName path ++ (": " ++ fault.text).toList)), acc.2)
      match find path with
      | .ok ⟨here, some entry⟩ => (acc.1, { shown := path, path := here, entry } :: acc.2)
      | .ok ⟨_, none⟩ => cannot .missing
      | .error fault => cannot fault
    let (r, items) := operands.foldl step ({}, [])
    let items := if a.hasAny ["U", "f"] then items.reverse else items.mergeSort (itemOrder a)
    let (folders, files) := items.partition fun x => x.entry.isFolder && !a.has "d"
    let fileLines := if files.isEmpty then [] else itemLines s a files
    let hasHeader := 1 < operands.length || a.has "R"
    let shown := folders.foldl (fun (acc : List Octets × Bool) x =>
      (acc.1 ++ folderLines s a hasHeader acc.2 depthOfFolders x.path x.shown, false))
      (fileLines, fileLines.isEmpty)
    r.and (textOut (endedBy (if a.has "zero" then '\x00' else '\n') shown.1))

/-! ## Single files -/

/-- The name of the kind of a file. -/
def statKind (e : Entry) : String :=
  match e.node with
  | .folder => "directory"
  | .link _ => "symbolic link"
  | .device => "character special file"
  | .fifo => "fifo"
  | _ => if e.data.isEmpty then "regular empty file" else "regular file"

/-- What a letter of a format stands for. -/
def statField (s : Scene) (x : Item) (c : Char) : Octets :=
  let e := x.entry
  match c with
  | 'a' => modeDigits 1 e.mode
  | 'A' => kindLetter e :: rightsText e.mode
  | 'b' => natText (x.blocks * 2)
  | 'B' => "512".toList
  | 'F' => (statKind e).toList
  | 'f' =>
    let kind := match e.node with
      | .folder => 0o040000
      | .link _ => 0o120000
      | .device => 0o020000
      | .fifo => 0o010000
      | _ => 0o100000
    Nat.toDigits 16 (kind + e.mode)
  | 'g' | 'u' => ['0']
  | 'G' | 'U' => "root".toList
  | 'h' => natText (linkCount s.files x)
  | 'n' => x.shown
  | 'N' =>
    match e.node with
    | .link target => quotedName x.shown ++ " -> ".toList ++ quotedName target
    | _ => quotedName x.shown
  | 'o' => "4096".toList
  | 's' => natText x.size
  | 'X' | 'Y' | 'Z' | 'W' => natText (e.changed / 1000000000)
  | 'x' | 'y' | 'z' | 'w' => formatDate e.changed "%Y-%m-%d %H:%M:%S.%N %z".toList
  | 'm' => ['/']
  | '%' => ['%']
  | _ => ['?']

/-- Fills in a format, with escapes replaced if asked to. -/
def statText (s : Scene) (x : Item) (escapes : Bool) : Nat → Octets → Octets
  | 0, _ => []
  | _ + 1, [] => []
  | fuel + 1, '%' :: whole =>
    let flags := whole.takeWhile fun c => "-0+ #".toList.contains c
    let digits := (whole.drop flags.length).takeWhile Char.isDigit
    match whole.drop (flags.length + digits.length) with
    | c :: rest =>
      let text := statField s x c
      let width := digitsValue digits
      let filled := if flags.contains '-' then padRight width text
        else if flags.contains '0' then List.replicate (width - text.length) '0' ++ text
        else padLeft width text
      filled ++ statText s x escapes fuel rest
    | [] => '%' :: whole
  | fuel + 1, '\\' :: rest =>
    if escapes then
      let (text, rest) := escape rest
      text ++ statText s x escapes fuel rest
    else '\\' :: statText s x escapes fuel rest
  | fuel + 1, c :: rest => c :: statText s x escapes fuel rest

/-- Shows what is known of files. -/
def stat : Utility := fun s args =>
  let g : Grammar :=
    { letters := "c:fLt"
      words := [("format", "c", .something), ("printf", "printf", .something), ("dereference", "L", .nothing),
        ("terse", "t", .nothing), ("file-system", "f", .nothing)] }
  withArguments s.name 1 g args fun a =>
    let format := "  File: %N\n  Size: %-10s\tBlocks: %-10b IO Block: %-6o %F\n".toList
    let one (path : Octets) : Report :=
      match s.files.findWith (a.has "L" || path.getLast? = some '/') s.folder path with
      | .ok ⟨here, some entry⟩ =>
        let x : Item := { shown := path, path := here, entry }
        match a.last? ["c", "printf"] with
        | some "c" =>
          let f := (a.value? "c").getD []
          lineOut (statText s x false (f.length + 1) f)
        | some _ =>
          let f := (a.value? "printf").getD []
          textOut (statText s x true (f.length + 1) f)
        | none =>
          let unquoted : Octets := match entry.node with
            | .link target => path ++ " -> ".toList ++ target
            | _ => path
          let rest := (format.dropWhile (· ≠ '\n')).drop 1
          textOut ("  File: ".toList ++ unquoted ++ ['\n'] ++ statText s x false (rest.length + 1) rest ++
            statText s x false 400
              ("Device: 0,1\tInode: 1000        Links: %h\nAccess: (%04a/%A)  Uid: (    0/    root)   Gid: (    0/    root)\n" ++
                "Access: %x\nModify: %y\nChange: %z\n Birth: %w\n").toList)
      | .ok ⟨_, none⟩ => cannot s path .missing
      | .error fault => cannot s path fault
    if a.operands.isEmpty then misuse 1 s.name "missing operand".toList
    else a.operands.foldl (fun (r : Report) path => r.and (one path)) {}
where
  /-- The report of a file that is not there. -/
  cannot (s : Scene) (path : Octets) (fault : PathFault) : Report :=
    faultOf 1 s.name ("cannot statx ".toList ++ quotedName path ++ (": " ++ fault.text).toList)

/-- The units of 1024 bytes that a folder takes with all below it, and a line for each folder. -/
def folderUsage (s : Scene) (a : Arguments) : Nat → String → Octets → Nat × List Octets
  | 0, _, _ => (0, [])
  | depth + 1, path, shown =>
    match s.files.entry? path with
    | none => (0, [])
    | some entry =>
      let own : Nat :=
        if a.has "b" then ({ shown, path, entry } : Item).size else ({ shown, path, entry } : Item).blocks
      let line (n : Nat) : Octets :=
        (if a.has "h" then humanSize (n * 1024) else natText n) ++ '\t' :: shown
      if entry.isFolder then
        let (sum, lines) := (s.files.children path).foldl (fun (acc : Nat × List Octets) name =>
          let (n, lines) := folderUsage s a depth (childPath path name) (shownChild shown name)
          (acc.1 + n, acc.2 ++ lines)) (own, [])
        (sum, lines ++ [line sum])
      else (own, if a.has "a" then [line own] else [])

/-- Shows how much room files take. -/
def du : Utility := fun s args =>
  let g : Grammar :=
    { letters := "abcd:hkms"
      words := [("summarize", "s", .nothing), ("all", "a", .nothing), ("bytes", "b", .nothing),
        ("human-readable", "h", .nothing), ("max-depth", "d", .something), ("total", "c", .nothing),
        ("apparent-size", "b", .nothing)] }
  withArguments s.name 1 g args fun a =>
    let operands := if a.operands.isEmpty then [['.']] else a.operands
    operands.foldl (fun (r : Report) path =>
      match s.files.findWith false s.folder path with
      | .ok ⟨here, some e⟩ =>
        let (n, lines) := folderUsage s a depthOfFolders here path
        let last := (if a.has "h" then humanSize (n * 1024) else natText n) ++ '\t' :: path
        r.and (textOut (withEnds (if a.has "s" ∨ !e.isFolder then [last] else lines)))
      | .ok ⟨_, none⟩ =>
        r.and (faultOf 1 s.name ("cannot access ".toList ++ quotedName path ++ ": No such file or directory".toList))
      | .error fault =>
        r.and (faultOf 1 s.name ("cannot access ".toList ++ quotedName path ++ (": " ++ fault.text).toList))) {}

end Foreman.Shell.Utility
