import Turnwise.Host.Utility.Copying
import Turnwise.Host.Version

/-!
# Tools that tell about files

One lists directories, and one tells what is known about single files by a format.
Operands that are no directories are listed first, and each directory gets a heading
when there are several operands.
-/

namespace Turnwise
namespace Host
namespace Utility

open SystemError (Code)

/-- An object in a listing. -/
structure Entry where
  /-- Its name. -/
  name : Octets
  /-- What is known about it. -/
  status : Status
  /-- What it says, if it is a symbolic link. -/
  target : Option Octets
  /-- The form of what a symbolic link leads to. -/
  leads : Option Status
  /-- Whether more than its form is known. -/
  known : Bool

/-- How entries are laid out. -/
inductive Layout where
  /-- One in a line. -/
  | single
  /-- One in a line with details. -/
  | long
  /-- With commas after them. -/
  | commas
  /-- In columns, one after the other. -/
  | columns
  /-- In rows, one after the other. -/
  | rows
  deriving DecidableEq, Repr

/-- The layout after an option, given the one before. -/
def Layout.after (layout : Layout) (letter : Char) : Layout :=
  if "lngo\x01".toList.contains letter then .long
  else
    match letter with
    | '1' => if layout = .long then .long else .single
    | 'C' => .columns
    | 'x' => .rows
    | 'm' => .commas
    | '\x14' => .single
    | 'f' => if layout = .long then .single else layout
    | _ => layout

/-- How things are listed. -/
structure ListStyle where
  /-- The options that were given. -/
  given : List Given
  /-- How entries are laid out. -/
  layout : Layout
  /-- Whether symbolic links are followed. -/
  follows : Bool
  /-- How long a line may be; zero stands for no bound. -/
  width : Nat
  /-- How far apart tab stops are. -/
  tab : Nat

namespace ListStyle

/-- Whether an option was given. -/
def has (style : ListStyle) (letter : Char) : Bool :=
  Given.has style.given letter

/-- Whether details are shown. -/
def long (style : ListStyle) : Bool :=
  style.layout == .long

/-- The option that says which marks come after names. -/
def marks (style : ListStyle) : Option Char :=
  (Given.final? style.given "Fp\x0e\x10").filter (· != '\x10')

/-- Whether more than the form of entries has to be known. -/
def asks (style : ListStyle) : Bool :=
  style.long || style.has 's' ||
    (Given.final? style.given "tSUfXv\x13").any fun letter => letter == 't' || letter == 'S'

end ListStyle

/-- How many blocks of a kilobyte an object takes. -/
def blocks (status : Status) : Nat :=
  match status.form with
  | .file => (status.size + 4095) / 4096 * 4
  | .directory => 4
  | _ => 0

/-- The letter of a form. -/
def formLetter : Form → Char
  | .file => '-'
  | .directory => 'd'
  | .link => 'l'
  | .queue => 'p'
  | .device => 'c'

/-- The mark after the name of an object, given which marks are asked for: those of
directories alone, those of forms, or also those of files that can be executed. -/
def formMark (marks : Char) (status : Status) : Octets :=
  match status.form with
  | .directory => ['/']
  | .link => if marks = 'p' then [] else ['@']
  | .queue => if marks = 'p' then [] else ['|']
  | .file => if marks != 'F' || status.mode &&& 0o111 = 0 then [] else ['*']
  | .device => []

/-- A number of bytes in large units, rounded up; the limit bounds the units. -/
def inUnits : (limit : Nat) → (unit : Nat) → (size : Nat) → Octets
  | 0, _, size => Text.ofNat size
  | limit + 1, unit, size =>
      if size < 1024 && unit = 0 then Text.ofNat size
      else
        let letter := ("KMGTPE".toList[unit]?).getD 'E'
        let scale := Nat.pow 1024 (unit + 1)
        let tenths := (size * 10 + scale - 1) / scale
        if tenths < 100 then
          Text.ofNat (tenths / 10) ++ '.' :: Text.ofNat (tenths % 10) ++ [letter]
        else if (size + scale - 1) / scale < 1024 then
          Text.ofNat ((size + scale - 1) / scale) ++ [letter]
        else inUnits limit (unit + 1) size

/-- A time as listings show it. -/
def listedTime (style : ListStyle) (now time : Nat) : Octets :=
  let seconds : Int := (time / 1000000000 : Nat)
  if style.has '\x01' then
    dateText seconds "%Y-%m-%d %H:%M:%S.".toList ++
      Octets.padLeft 9 '0' (Text.ofNat (time % 1000000000)) ++ " +0000".toList
  else if time ≤ now && now < time + 15778476 * 1000000000 then
    dateText seconds "%b %e %H:%M".toList
  else dateText seconds "%b %e  %Y".toList

/-- The details of an object, each with whether it is filled up at the left. -/
def details (style : ListStyle) (now : Nat) (entry : Entry) : List (Bool × Octets) :=
  let status := entry.status
  let owner : Octets := if style.has 'n' then ['0'] else "root".toList
  let size := if style.has 'h' then inUnits 6 0 status.size
    else if status.form = .device then "1, 3".toList else Text.ofNat status.size
  (if style.has 'i' then [(true, Text.ofNat status.serial)] else []) ++
  (if style.has 's' then [(true, Text.ofNat (blocks status))] else []) ++
  (if style.long && !entry.known then
    [(false, formLetter status.form :: List.replicate 9 '?'), (true, ['?'])] ++
    (if style.has 'g' then [] else [(false, ['?'])]) ++
    (if style.has 'o' || style.has 'G' then [] else [(false, ['?'])]) ++
    [(true, ['?']), (true, ['?'])]
  else if style.long then
    [(false, formLetter status.form :: Mode.allLetters status.mode),
      (true, Text.ofNat status.links)] ++
    (if style.has 'g' then [] else [(false, owner)]) ++
    (if style.has 'o' || style.has 'G' then [] else [(false, owner)]) ++
    [(true, size), (true, listedTime style now status.modified)]
  else [])

/-- A name in the quotes of a listing. -/
def quotedName (style : ListStyle) (name : Octets) : Octets :=
  match Given.final? style.given "QbN\x11\x12" with
  | some 'Q' =>
      '"' :: (name.flatMap fun c =>
        if c = '"' || c = '\\' then ['\\', c]
        else if Tool.isShown c then [c] else Tool.escapedOctet c) ++ ['"']
  | some 'b' =>
      name.flatMap fun c =>
        if c = ' ' || c = '\\' then ['\\', c]
        else if Tool.isShown c then [c] else Tool.escapedOctet c
  | some '\x11' => Tool.named name
  | some '\x12' => Tool.shellQuoted name
  | _ => if style.has 'q' then name.map fun c => if Tool.isShown c then c else '?' else name

/-- A name as listings show it. -/
def listedName (style : ListStyle) (entry : Entry) : Octets :=
  let mark (status : Status) : Octets :=
    match style.marks with
    | some letter => formMark letter status
    | none => []
  match style.long, entry.target with
  | true, some target =>
      quotedName style entry.name ++ " -> ".toList ++ quotedName style target ++
        ((entry.leads.map mark).getD [])
  | _, _ => quotedName style entry.name ++ mark entry.status

/-- How many places a text takes. -/
def placesOf (text : Octets) : Nat :=
  (text.filter Tool.isShown).length

/-- The end of a name from its last point on. -/
def extension (name : Octets) : Octets :=
  if name.contains '.' then '.' :: (name.reverse.takeWhile (· != '.')).reverse else []

/-- The order of a listing. -/
def listedBefore (style : ListStyle) (first second : Entry) : Bool :=
  let byName := Octets.notAfter first.name second.name
  let newest (a b : Entry) : Bool := b.status.modified < a.status.modified
  match Given.final? style.given "tSUfXv\x13" with
  | some 't' => newest first second || (!newest second first && byName)
  | some 'S' => second.status.size < first.status.size ||
      (first.status.size = second.status.size && byName)
  | some 'X' =>
      if extension first.name = extension second.name then byName
      else Octets.notAfter (extension first.name) (extension second.name)
  | some 'v' =>
      match Version.order first.name second.name with
      | .lt => true
      | .eq => byName
      | .gt => false
  | some '\x13' =>
      placesOf first.name < placesOf second.name ||
        (placesOf first.name = placesOf second.name && byName)
  | _ => byName

/-- Entries in the order of a listing. -/
def arranged (style : ListStyle) (entries : List Entry) : List Entry :=
  let sorted :=
    match Given.final? style.given "tSUfXv\x13" with
    | some 'U' => entries
    | some 'f' => entries
    | _ => entries.mergeSort (listedBefore style)
  let ordered := if style.has 'r' then sorted.reverse else sorted
  if style.has '\x02' then
    let isDirectory (entry : Entry) : Bool :=
      entry.status.form == .directory || entry.leads.any (·.form == .directory)
    ordered.filter isDirectory ++ ordered.filter (!isDirectory ·)
  else ordered

/-- Rows of details, each column filled up to its width. -/
def aligned (rows : List (List (Bool × Octets))) : List Octets :=
  let count := (rows.map List.length).foldl max 0
  let widths := (List.range count).map fun column =>
    (rows.map fun row => ((row[column]?).map (·.2.length)).getD 0).foldl max 0
  rows.map fun row =>
    (row.zip widths).flatMap fun ((left, text), width) =>
      (if left then Octets.padLeft width ' ' text else Octets.padRight width ' ' text) ++ [' ']

/-- The widths of columns that hold texts of some lengths, given where each one goes among
how many columns; all but the last leave two places free. -/
def columnWidths (count : Nat) (column : Nat → Nat) (lengths : List Nat) : List Nat :=
  lengths.zipIdx.foldl
    (fun widths (length, index) =>
      let needed := if column index + 1 = count then length else length + 2
      widths.modify (column index) (max needed))
    (List.replicate count 3)

/-- The column of an entry, given how many entries and columns there are. -/
def columnOf (layout : Layout) (entries count index : Nat) : Nat :=
  if layout = .columns then index / ((entries + count - 1) / count) else index % count

/-- The greatest number of columns with which lines are shorter than a width, and the widths
of the columns. -/
def fittingColumns (layout : Layout) (width : Nat) (lengths : List Nat) : Nat → List Nat
  | 0 => columnWidths 1 (fun _ => 0) lengths
  | count + 1 =>
      let widths := columnWidths (count + 1) (columnOf layout lengths.length (count + 1)) lengths
      if count = 0 || widths.foldl (· + ·) 0 < width || widths.all (· == 3) then widths
      else fittingColumns layout width lengths count

/-- The blanks and tabs that lead from one place of a line to another; the limit bounds how
many they are. -/
def gap (tab : Nat) : (limit : Nat) → (start stop : Nat) → Octets
  | 0, _, _ => []
  | limit + 1, start, stop =>
      if stop ≤ start then []
      else if tab != 0 && (start + 1) / tab < stop / tab then
        '\t' :: gap tab limit (start + tab - start % tab) stop
      else ' ' :: gap tab limit (start + 1) stop

/-- A line with texts in columns, given where it begins. -/
def columnLine (tab : Nat) : (place : Nat) → List Octets → (widths : List Nat) → Octets
  | place, text :: next :: rest, width :: widths =>
      text ++ gap tab width (place + placesOf text) (place + width) ++
        columnLine tab (place + width) (next :: rest) widths
  | _, text :: _, _ => text
  | _, [], _ => []

/-- Texts in as many columns as fit, line by line. -/
def columnLines (style : ListStyle) (texts : List Octets) : List Octets :=
  let lengths := texts.map placesOf
  let most := min texts.length ((style.width + 2) / 3)
  let widths := fittingColumns style.layout style.width lengths most
  let count := widths.length
  let height := (texts.length + count - 1) / count
  let cells := List.toArray texts
  (List.range height).map fun row =>
    let line := (List.range count).filterMap fun column =>
      cells[if style.layout = .columns then column * height + row else row * count + column]?
    columnLine style.tab 0 line widths

/-- Texts in lines that are shorter than a width, each with a mark between it and the next
one. -/
def separated (width : Nat) (mark : Char) : (place : Nat) → List Octets → Octets
  | place, text :: next :: rest =>
      let place := place + placesOf text
      if width = 0 || place + placesOf next + 2 < width then
        text ++ mark :: ' ' :: separated width mark (place + 2) (next :: rest)
      else text ++ mark :: '\n' :: separated width mark 0 (next :: rest)
  | _, [text] => text
  | _, [] => []

/-- Print entries. -/
def printEntries (style : ListStyle) (entries : List Entry) : Tool Unit := do
  let now ← Tool.program .now
  let rows := aligned (entries.map (details style now))
  let texts := (rows.zip entries).map fun (row, entry) => row ++ listedName style entry
  if texts.isEmpty then return
  if style.layout = .commas then Tool.printLine (separated style.width ',' 0 texts)
  else if style.layout = .columns || style.layout = .rows then
    if style.width = 0 then Tool.printLine (separated 0 ' ' 0 texts)
    else for line in columnLines style texts do Tool.printLine line
  else for text in texts do Tool.printLine text

/-- What is known about the object at a path, to be listed under a name; a missing one
is noted by a status.  Of an entry of a directory at least the form is known. -/
def entryOf (failure : Nat) (entered follows : Bool) (name path : Octets) :
    Tool (Option Entry) := do
  let outcome ←
    if follows then Tool.program (.status path) else Tool.program (.statusHere path)
  match outcome with
  | .error code => do
      Tool.grumble failure (because "cannot access " path code)
      if entered then
        match ← Tool.program (.statusHere path) with
        | .ok status => return some ⟨name, status, none, none, false⟩
        | .error _ => return none
      else return none
  | .ok status =>
      if status.form = .link then
        let target : Option Octets ←
          match ← Tool.program (.target path) with
          | .ok target => pure (some target)
          | .error _ => pure none
        let leads : Option Status ←
          match ← Tool.program (.status path) with
          | .ok leads => pure (some leads)
          | .error _ => pure none
        return some ⟨name, status, target, leads, true⟩
      else return some ⟨name, status, none, none, true⟩

/-- Whether a name is listed. -/
def isListed (style : ListStyle) (name : Octets) : Bool :=
  let hidden := name.head? == some '.'
  let ignored := style.given.any fun option =>
    (option.letter == 'I' || (option.letter == '\x0c' && !style.has 'a' && !style.has 'A')) &&
      Glob.isMatch (Glob.ofText (option.value.getD [])) name
  (!hidden || style.has 'a' || style.has 'A' || style.has 'f') &&
    !(style.has 'B' && Text.endsIn '~' name) && !ignored

/-- List a directory, and with it those that lie in it; headings are printed where asked
for, after an empty line unless it is the first. -/
def listDirectory (style : ListStyle) (headed : Bool) :
    (limit : Nat) → (first : Bool) → (path : Octets) → Tool Unit
  | 0, _, _ => return
  | limit + 1, first, path => do
      match ← (Program.call (.names path) : Program (Except Code (List Octets))) with
      | .error code => Tool.grumble 2 (because "cannot open directory " path code)
      | .ok names => do
          if !first then Tool.print ['\n']
          if headed then Tool.printLine (quotedName style path ++ [':'])
          let own : List Octets :=
            match Given.final? style.given "aAf" with
            | some 'A' => []
            | some _ => [['.'], ['.', '.']]
            | none => []
          let mut found : List Entry := []
          for name in own ++ names.filter (isListed style) do
            let place :=
              if path = ['.'] then name
              else if Text.endsIn '/' path then path ++ name else path ++ '/' :: name
            let follows := style.follows &&
              (style.asks || style.marks.isSome || style.has 'R' || style.has 'i' ||
                style.has '\x02')
            match ← entryOf 1 true follows name place with
            | some entry => found := entry :: found
            | none => pure ()
          let entries := arranged style found.reverse
          if style.long || style.has 's' then
            let total := entries.foldl (fun total entry => total + blocks entry.status) 0
            Tool.printLine ("total ".toList ++
              if style.has 'h' then inUnits 6 0 (total * 1024) else Text.ofNat total)
          printEntries style entries
          if style.has 'R' then
            for entry in entries do
              if entry.status.form = .directory && entry.name != ['.'] &&
                  entry.name != ['.', '.'] then
                listDirectory style headed limit false
                  (if Text.endsIn '/' path then path ++ entry.name
                  else path ++ '/' :: entry.name)

/-- The options of listings. -/
def lsGrammar : Grammar :=
  ⟨[.flag '1' "", .flag 'a' "all", .flag 'A' "almost-all", .flag 'b' "escape",
    .flag 'B' "ignore-backups", .flag 'c' "", .flag 'C' "", .flag 'd' "directory",
    .flag 'f' "", ⟨'F', "", .nothing⟩, ⟨'\x04', "classify", .optional⟩, .flag 'g' "",
    .flag 'G' "no-group", .flag 'h' "human-readable", .flag 'H' "dereference-command-line",
    .flag 'i' "inode", .value 'I' "ignore", .flag 'k' "kibibytes", .flag 'l' "",
    .flag 'L' "dereference", .flag 'm' "", .flag 'n' "numeric-uid-gid", .flag 'N' "literal",
    .flag 'o' "", .flag 'p' "", .flag 'q' "hide-control-chars", .flag 'Q' "quote-name",
    .flag 'r' "reverse", .flag 'R' "recursive", .flag 's' "size", .flag 'S' "",
    .flag 't' "", .value 'T' "tabsize", .flag 'u' "", .flag 'U' "", .flag 'v' "",
    .value 'w' "width", .flag 'x' "", .flag 'X' "", .flag '\x01' "full-time",
    .flag '\x02' "group-directories-first", ⟨'\x05', "color", .optional⟩,
    .value '\x06' "sort", .value '\x07' "format", .value '\x08' "indicator-style",
    .value '\x0b' "quoting-style", .value '\x0c' "hide", .flag '\x0e' "file-type"], true, 2⟩

/-- The words for options of listings that have letters too. -/
def lsWords : List (Char × String × List (Char × List String)) :=
  [('\x05', "--color",
      [('\x05', ["always", "yes", "force"]), ('\x15', ["never", "no", "none"]),
        ('\x15', ["auto", "tty", "if-tty"])]),
    ('\x06', "--sort",
      [('U', ["none"]), ('t', ["time"]), ('S', ["size"]), ('X', ["extension"]),
        ('v', ["version"]), ('\x13', ["width"])]),
    ('\x07', "--format",
      [('l', ["verbose", "long"]), ('m', ["commas"]), ('x', ["horizontal", "across"]),
        ('C', ["vertical"]), ('\x14', ["single-column"])]),
    ('\x08', "--indicator-style",
      [('\x10', ["none"]), ('p', ["slash"]), ('\x0e', ["file-type"]), ('F', ["classify"])]),
    ('\x0b', "--quoting-style",
      [('N', ["literal"]), ('\x11', ["shell"]), ('\x12', ["shell-always"]),
        ('\x11', ["shell-escape"]), ('\x12', ["shell-escape-always"]), ('Q', ["c"]),
        ('\x11', ["c-maybe"]), ('b', ["escape"]), ('\x12', ["locale"]),
        ('Q', ["clocale"])])]

/-- An option of listings, by its letter if it is given by a word. -/
def lettered (option : Given) : Tool Given := do
  match lsWords.find? (·.1 == option.letter), option.value with
  | some (_, name, choices), some word => return ⟨← Tool.chosen 1 name choices word, none⟩
  | _, _ => return if option.letter == '\x04' then ⟨'F', none⟩ else option

/-- A number of places, which may be written in octal digits after a zero. -/
def places? (text : Octets) : Option Nat :=
  if text.head? = some '0' then Octets.octalValue? text else Text.digits? text

/-- A number of places that an option or the environment gives; a wrong one in the
environment does not count. -/
def placesGiven (start : Start) (given : List Given) (letter : Char) (what name : String)
    (standard : Nat) : Tool Nat := do
  match Given.last? given letter, start.value? name with
  | some text, _ =>
      match places? text with
      | some places => return places
      | none => Tool.die 2 ("invalid ".toList ++ what.toList ++ ": ".toList ++ Tool.quoted text)
  | none, some text =>
      match places? text with
      | some places => return places
      | none => do
          if !text.isEmpty then
            Tool.complain ("ignoring invalid ".toList ++
              ((what.splitOn " ").getLastD "").toList ++ " in environment variable ".toList ++
              name.toList ++ ": ".toList ++ Tool.quoted text)
          return standard
  | none, none => return standard

/-- List files and directories. -/
def ls : Work := fun start => do
  let (given, operands) ← lsGrammar.read start.arguments
  let given ← given.mapM lettered
  let layout := given.foldl (fun layout option => layout.after option.letter) Layout.single
  let long := layout = .long
  let gathers := layout != .long && layout != .single
  let width ← if gathers || Given.has given 'w' then
    placesGiven start given 'w' "line width" "COLUMNS" 80 else pure 80
  let tab ← if gathers || Given.has given 'T' then
    placesGiven start given 'T' "tab size" "TABSIZE" 8 else pure 8
  let style : ListStyle := ⟨given, layout, Given.has given 'L', width, tab⟩
  let paths := if operands.isEmpty then [['.']] else operands
  let lists := !style.has 'd'
  let mut others : List Entry := []
  let mut directories : List Entry := []
  for path in paths do
    let linkedDirectory ←
      if style.has 'H' || (!long && !style.has 'F' && lists) then leadsToDirectory true path
      else pure false
    match ← entryOf 2 false (style.follows || linkedDirectory || style.has 'H') path path with
    | none => pure ()
    | some entry =>
        if entry.status.form = .directory && lists then directories := entry :: directories
        else others := entry :: others
  let files := arranged style others.reverse
  printEntries style files
  let headed := 1 < paths.length || style.has 'R'
  let mut first := files.isEmpty
  for entry in arranged style directories.reverse do
    listDirectory style headed depthLimit first entry.name
    first := false

/-- The value of a directive of a format that tells about a file. -/
def statPart (path : Octets) (status : Status) (target : Option Octets) (letter : Char) :
    Octets :=
  let kind : Nat := match status.form with
    | .file => 0o100000
    | .directory => 0o40000
    | .link => 0o120000
    | .queue => 0o10000
    | .device => 0o20000
  let seconds : Int := (status.modified / 1000000000 : Nat)
  match letter with
  | 'n' => path
  | 'N' =>
      Tool.shellQuoted path ++
        (match target with
        | some target => " -> ".toList ++ Tool.shellQuoted target
        | none => [])
  | 's' => Text.ofNat status.size
  | 'a' => Nat.toDigits 8 status.mode
  | 'A' => formLetter status.form :: Mode.allLetters status.mode
  | 'F' => formTitle status
  | 'f' => Nat.toDigits 16 (kind + status.mode)
  | 'h' => Text.ofNat status.links
  | 'i' => Text.ofNat status.serial
  | 'u' => ['0']
  | 'g' => ['0']
  | 'U' => "root".toList
  | 'G' => "root".toList
  | 'b' => Text.ofNat (blocks status * 2)
  | 'B' => "512".toList
  | 'o' => "4096".toList
  | 't' => if status.form = .device then ['1'] else ['0']
  | 'T' => if status.form = .device then ['3'] else ['0']
  | 'd' => "65024".toList
  | 'D' => "fe00".toList
  | 'X' => Text.ofInt seconds
  | 'Y' => Text.ofInt seconds
  | 'Z' => Text.ofInt seconds
  | 'W' => Text.ofInt seconds
  | '%' => ['%']
  | c =>
      if "xyzw".toList.contains c then
        dateText seconds "%Y-%m-%d %H:%M:%S.".toList ++
          Octets.padLeft 9 '0' (Text.ofNat (status.modified % 1000000000)) ++ " +0000".toList
      else ['?']

/-- What a format tells about a file; the limit bounds its length. -/
def statText (escapes : Bool) (part : Char → Octets) : (limit : Nat) → Octets → Octets
  | 0, _ => []
  | _ + 1, [] => []
  | limit + 1, '\\' :: c :: rest =>
      if escapes then
        (match c with
        | 'n' => ['\n']
        | 't' => ['\t']
        | 'r' => ['\r']
        | '0' => ['\x00']
        | '\\' => ['\\']
        | '"' => ['"']
        | c => ['\\', c]) ++ statText escapes part limit rest
      else '\\' :: statText escapes part limit (c :: rest)
  | limit + 1, '%' :: rest =>
      let flags := rest.takeWhile fun c => "-0 +#'".toList.contains c
      let width := (rest.drop flags.length).takeWhile Char.isDigit
      match rest.drop (flags.length + width.length) with
      | [] => '%' :: rest
      | letter :: after =>
          let text := part letter
          let size := Nat.ofDigitChars 10 width 0
          (if flags.contains '-' then Octets.padRight size ' ' text
          else Octets.padLeft size (if flags.contains '0' then '0' else ' ') text) ++
            statText escapes part limit after
  | limit + 1, c :: rest => c :: statText escapes part limit rest

/-- The format of what is told about a file when no other is given. -/
def statFormat : Octets :=
  ("  File: %N\n  Size: %-10s\tBlocks: %-10b IO Block: %-6o %F\n" ++
    "Device: 254,0\tInode: %-11i Links: %h\n" ++
    "Access: (%04a/%10A)  Uid: (%5u/%8U)   Gid: (%5g/%8G)\n" ++
    "Access: %x\nModify: %y\nChange: %z\n Birth: %w\n").toList

/-- Tell what is known about files. -/
def stat : Work := fun start => do
  let grammar : Grammar :=
    ⟨[.value 'c' "format", .value '\x01' "printf", .flag 'L' "dereference",
      .flag 'f' "file-system", .flag 't' "terse"], true, 1⟩
  let (given, operands) ← grammar.read start.arguments
  if operands.isEmpty then Tool.misuse 1 "missing operand".toList
  for path in operands do
    let outcome ←
      if path = ['-'] then Tool.program (.statusOf 0)
      else if Given.has given 'L' then Tool.program (.status path)
      else Tool.program (.statusHere path)
    match outcome with
    | .error code =>
        Tool.grumble 1 (if path = ['-'] then "cannot stat standard input: ".toList ++ code.title
          else because "cannot statx " path code)
    | .ok status =>
        let target : Option Octets ←
          match ← Tool.program (.target path) with
          | .ok target => pure (if status.form = .link then some target else none)
          | .error _ => pure none
        let text (escapes : Bool) (format : Octets) : Octets :=
          statText escapes (statPart path status target) (format.length + 1) format
        match Given.final? given "c\x01" with
        | some 'c' => Tool.printLine (text false ((Given.last? given 'c').getD []))
        | some _ => Tool.print (text true ((Given.last? given '\x01').getD []))
        | none => Tool.print (text false statFormat)

end Utility
end Host
end Turnwise
