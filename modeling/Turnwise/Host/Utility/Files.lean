import Turnwise.Host.Mode
import Turnwise.Host.Utility.Values

/-!
# Tools that make and remove files

They make files, directories and queues, remove them, say who may do what with them,
and tell where paths lead.  A complaint names the path in quotes and the reason that the
system gives.
-/

namespace Turnwise
namespace Host
namespace Utility

open SystemError (Code)

/-- A complaint about a path, with the reason that the system gives. -/
def because (what : String) (path : Octets) (code : Code) : Octets :=
  what.toList ++ Tool.shellQuoted path ++ ": ".toList ++ code.title

/-- The path of a name in a directory. -/
def pathIn (directory name : Octets) : Octets :=
  let kept := withoutSlashes directory
  if kept = ['/'] then '/' :: name else kept ++ '/' :: name

/-- How deep trees are walked. -/
def depthLimit : Nat := 4096

/-- The number of a day, counted from the first of January 1970. -/
def dayNumber (year month day : Nat) : Int :=
  let year := if month ≤ 2 then year - 1 else year
  let inYear := (153 * ((month + 9) % 12) + 2) / 5 + day - 1
  let inEra := year % 400 * 365 + year % 400 / 4 - year % 400 / 100 + inYear
  (year / 400 * 146097 + inEra : Nat) - 719468

/-- The time that digits for a year, a month, a day, an hour and a minute denote, in
seconds. -/
def stampTime? (text : Octets) : Option Int := do
  let digits := text.takeWhile (· != '.')
  let seconds ←
    match text.drop digits.length with
    | [] => some 0
    | _ :: rest => if rest.length = 2 then Text.digits? rest else none
  let number (start count : Nat) : Option Nat := Text.digits? ((digits.drop start).take count)
  let (year, rest) ←
    match digits.length with
    | 12 => (number 0 4).map fun year => (year, 4)
    | 10 => (number 0 2).map fun year => (if year < 69 then 2000 + year else 1900 + year, 2)
    | 8 => some (2023, 0)
    | _ => none
  let month ← number rest 2
  let day ← number (rest + 2) 2
  let hour ← number (rest + 4) 2
  let minute ← number (rest + 6) 2
  if month = 0 || 12 < month || day = 0 || 31 < day || 23 < hour || 59 < minute then none
  else
    some (dayNumber year month day * 86400 + (hour * 3600 + minute * 60 + seconds : Nat))

/-- The time that options give to files, in nanoseconds. -/
def touchTime (given : List Given) (now : Nat) : Tool Nat := do
  let billion : Nat := 1000000000
  match Given.final? given "dtr" with
  | some 'd' =>
      let text := (Given.last? given 'd').getD []
      match text with
      | '@' :: digits =>
          match Text.digits? digits with
          | some seconds => return seconds * billion
          | none => Tool.die 1 ("invalid date format ".toList ++ Tool.quoted text)
      | _ =>
          if text = "now".toList then return now
          else Tool.die 1 ("invalid date format ".toList ++ Tool.quoted text)
  | some 't' =>
      let text := (Given.last? given 't').getD []
      match stampTime? text with
      | some seconds => return seconds.toNat * billion
      | none => Tool.die 1 ("invalid date format ".toList ++ Tool.quoted text)
  | some _ =>
      let path := (Given.last? given 'r').getD []
      match ← Tool.program (.status path) with
      | .ok status => return status.modified
      | .error code => Tool.die 1 (because "failed to get attributes of " path code)
  | none => return now

/-- Set the time of what stands at a path itself; a missing object is no failure if none
is expected. -/
def touchHere (expected : Bool) (time : Nat) (path : Octets) : Tool Unit := do
  match ← Tool.program (.statusHere path) with
  | .error code =>
      if expected || code != .noEntry then
        Tool.grumble 1 (because "setting times of " path code)
  | .ok status =>
      if status.form != .link then
        let _ ← Tool.program (.change (.stamp path time))

/-- Set the time of a file, and make it if it is missing. -/
def touchFile (creates : Bool) (time : Nat) (path : Octets) : Tool Unit := do
  let opens : Bool ←
    match ← Tool.program (.status path) with
    | .ok status => pure (status.form == .file)
    | .error _ => pure true
  let mut failure : Option Code := none
  if creates && opens then
    match ← Tool.program (.openFile path { writes := true, creates := true }) with
    | .ok descriptor => Tool.program (.close descriptor)
    | .error code => failure := some code
  match ← Tool.program (.change (.stamp path time)), failure with
  | .ok (), _ => return
  | .error code, none =>
      if creates || code != .noEntry then
        Tool.grumble 1 (because "setting times of " path code)
  | .error code, some .isDirectory => Tool.grumble 1 (because "setting times of " path code)
  | .error _, some code => Tool.grumble 1 (because "cannot touch " path code)

/-- Set the times of files. -/
def touch : Work := fun start => do
  let grammar : Grammar :=
    ⟨[.flag 'a' "", .flag 'c' "no-create", .flag 'f' "", .flag 'h' "no-dereference",
      .flag 'm' "", .value 'd' "date", .value 't' "", .value 'r' "reference"], true, 1⟩
  let (given, operands) ← grammar.read start.arguments
  let time ← touchTime given (← Tool.program .now)
  if operands.isEmpty then Tool.misuse 1 "missing file operand".toList
  for path in operands do
    if path = ['-'] then pure ()
    else if Given.has given 'h' then touchHere (!Given.has given 'c') time path
    else touchFile (!Given.has given 'c') time path

/-- The beginnings of a path that lead to the directories above it, given what stands
before, the last character first. -/
def ancestorsFrom : Octets → Octets → List Octets
  | _, [] => []
  | before, c :: rest =>
      let more := ancestorsFrom (c :: before) rest
      if c = '/' && !before.isEmpty && before.head? != some '/' && rest.any (· != '/') then
        before.reverse :: more
      else more

/-- The beginnings of a path that lead to the directories above it. -/
def ancestors (path : Octets) : List Octets :=
  ancestorsFrom [] path

/-- The mode that an option gives to new objects. -/
def givenMode (given : List Given) (standard : Nat) : Tool (Option Nat) := do
  match Given.last? given 'm' with
  | none => return none
  | some text =>
      match Mode.apply true (← Tool.program (.mask none)) text standard with
      | some mode => return some mode
      | none => Tool.die 1 ("invalid mode ".toList ++ Tool.quoted text)

/-- Make the directories above a path, as far as they are missing; the answer tells
whether that was possible. -/
def makeAncestors (verbose : Bool) : List Octets → Tool Bool
  | [] => return true
  | path :: rest => do
      match ← Tool.program (.change (.makeDirectory path 0o777)) with
      | .ok () => do
          if verbose then
            Tool.printLine ((← get).name ++ ": created directory ".toList ++
              Tool.shellQuoted path)
          makeAncestors verbose rest
      | .error code => do
          match ← Tool.program (.status path) with
          | .ok status =>
              if status.form = .directory then makeAncestors verbose rest
              else
                Tool.grumble 1 (because "cannot create directory " path .notDirectory)
                return false
          | .error reason => do
              Tool.grumble 1 (because "cannot create directory " path
                (if reason = .noEntry then code else reason))
              return false

/-- Make directories. -/
def mkdir : Work := fun start => do
  let grammar : Grammar :=
    ⟨[.flag 'p' "parents", .value 'm' "mode", .flag 'v' "verbose"], true, 1⟩
  let (given, operands) ← grammar.read start.arguments
  let parents := Given.has given 'p'
  let verbose := Given.has given 'v'
  if operands.isEmpty then Tool.misuse 1 "missing operand".toList
  let mode ← givenMode given 0o777
  for path in operands do
    let ready ← if parents then makeAncestors verbose (ancestors path) else pure true
    if ready then
      match ← Tool.program (.change (.makeDirectory path 0o777)) with
      | .ok () =>
          if verbose then
            Tool.printLine ((← get).name ++ ": created directory ".toList ++
              Tool.shellQuoted path)
          match mode with
          | some mode =>
              let _ ← Tool.program (.change (.permit path mode))
          | none => pure ()
      | .error code =>
          let present : Bool ←
            match ← Tool.program (.status path) with
            | .ok status => pure (parents && status.form == .directory)
            | .error _ => pure false
          if !present then Tool.grumble 1 (because "cannot create directory " path code)

/-- Remove a directory, and then the empty directories above it. -/
def removeDirectories (verbose lenient : Bool) : (first : Bool) → List Octets → Tool Unit
  | _, [] => return
  | first, path :: rest => do
      if verbose then
        Tool.printLine ((← get).name ++ ": removing directory, ".toList ++
          Tool.shellQuoted path)
      match ← Tool.program (.change (.removeDirectory path)) with
      | .ok () => removeDirectories verbose lenient false rest
      | .error code =>
          if lenient && code = .notEmpty then return
          else
            let linked : Bool ←
              match ← Tool.program (.statusHere (withoutSlashes path)) with
              | .ok status =>
                  pure (code == .notDirectory && Text.endsIn '/' path && status.form == .link)
              | .error _ => pure false
            let what := if first then "failed to remove " else "failed to remove directory "
            Tool.grumble 1
              (if linked then
                what.toList ++ Tool.shellQuoted path ++ ": Symbolic link not followed".toList
              else because what path code)

/-- Remove empty directories. -/
def rmdir : Work := fun start => do
  let grammar : Grammar :=
    ⟨[.flag 'p' "parents", .flag 'v' "verbose", .flag '\x01' "ignore-fail-on-non-empty"],
      true, 1⟩
  let (given, operands) ← grammar.read start.arguments
  if operands.isEmpty then Tool.misuse 1 "missing operand".toList
  for path in operands do
    let above := if Given.has given 'p' then (ancestors path).reverse else []
    removeDirectories (Given.has given 'v') (Given.has given '\x01') true (path :: above)

/-- A line of the standard input, read byte by byte. -/
def readAnswer : Tool Octets :=
  Tool.repeating ([] : Octets) fun reversed => do
    match ← Tool.program (.read 0 1) with
    | .ok [c] => if c = '\n' then return .inr reversed.reverse else return .inl (c :: reversed)
    | _ => return .inr reversed.reverse

/-- Ask a question; an answer with a y means yes. -/
def agrees (question : Octets) : Tool Bool := do
  Tool.flush
  let _ ← Tool.program (.write 2 ((← get).name ++ ": ".toList ++ question ++ "? ".toList))
  let answer ← readAnswer
  return answer.head? == some 'y' || answer.head? == some 'Y'

/-- What an object is called. -/
def formTitle (status : Status) : Octets :=
  match status.form with
  | .file => if status.size = 0 then "regular empty file".toList else "regular file".toList
  | .directory => "directory".toList
  | .link => "symbolic link".toList
  | .queue => "fifo".toList
  | .device => "character special file".toList

/-- How objects are removed. -/
structure Removal where
  /-- With all that is in them. -/
  recursive : Bool
  /-- Empty directories too. -/
  empties : Bool
  /-- Missing objects are no failure. -/
  force : Bool
  /-- Only after asking. -/
  asks : Bool
  /-- Tell what is removed. -/
  verbose : Bool

/-- Remove what stands at a path; the answer tells whether all of it is gone. -/
def removeTree (removal : Removal) : (limit : Nat) → (path : Octets) → Tool Bool
  | 0, path => do
      Tool.grumble 1 (because "cannot remove " path .nameTooLong)
      return false
  | limit + 1, path => do
      match ← Tool.program (.statusHere path) with
      | .error _ => drop path .unlink
      | .ok status =>
          if status.form = .directory && removal.recursive then
            let names : List Octets ←
              match ← Tool.program (.names path) with
              | .ok names => pure names
              | .error _ => pure []
            if removal.asks && !names.isEmpty then
              if !(← agrees ("descend into directory ".toList ++ Tool.shellQuoted path)) then
                return false
            let mut gone := true
            for name in names do
              if !(← removeTree removal limit (pathIn path name)) then gone := false
            if gone then discard path status .removeDirectory else return false
          else if status.form = .directory && removal.empties then
            match ← Tool.program (.names path) with
            | .ok (_ :: _) =>
                Tool.grumble 1 (because "cannot remove " path .notEmpty)
                return false
            | _ => discard path status .removeDirectory
          else if status.form = .directory then
            Tool.grumble 1 (because "cannot remove " path .isDirectory)
            return false
          else discard path status .unlink
where
  /-- Remove one object. -/
  discard (path : Octets) (status : Status) (change : Octets → Disk.Change) : Tool Bool := do
    if removal.asks then
      if !(← agrees ("remove ".toList ++ formTitle status ++ [' '] ++ Tool.shellQuoted path)) then
        return false
    let gone ← drop path change
    if gone && removal.verbose then
      Tool.printLine ((if status.form = .directory then "removed directory ".toList
        else "removed ".toList) ++ Tool.shellQuoted path)
    return gone
  /-- Take the entry of an object away; a missing one may be no failure. -/
  drop (path : Octets) (change : Octets → Disk.Change) : Tool Bool := do
    match ← Tool.program (.change (change path)) with
    | .ok () => return true
    | .error code =>
        if removal.force && (code = .noEntry || code = .notDirectory) then return true
        else
          Tool.grumble 1 (because "cannot remove " path code)
          return false

/-- The options of removing. -/
def rmGrammar : Grammar :=
  ⟨[.flag 'r' "recursive", .flag 'R' "", .flag 'f' "force", .flag 'i' "", .flag 'I' "",
    ⟨'\x04', "interactive", .optional⟩, .flag 'd' "dir", .flag 'v' "verbose",
    .flag '\x01' "one-file-system", .flag '\x02' "no-preserve-root",
    .flag '\x03' "preserve-root"], true, 1⟩

/-- The letter of an option that says when to ask, which may be written as a word. -/
def askingLetter (option : Given) : Tool Char := do
  match option.letter, option.value with
  | '\x04', some word =>
      Tool.chosen 1 "--interactive"
        [('n', ["never", "no", "none"]), ('I', ["once"]), ('i', ["always", "yes"])] word
  | '\x04', none => return 'i'
  | letter, _ => return letter

/-- Remove files, and directories with all that is in them. -/
def rm : Work := fun start => do
  let (given, operands) ← rmGrammar.read start.arguments
  let letters ← given.mapM askingLetter
  let lastOf (among : List Char) : Option Char := letters.reverse.find? (among.contains ·)
  let removal : Removal :=
    { recursive := Given.has given 'r' || Given.has given 'R'
      empties := Given.has given 'd'
      force := lastOf ['f', 'i', 'I'] == some 'f'
      asks := lastOf ['f', 'i', 'I', 'n'] == some 'i'
      verbose := Given.has given 'v' }
  if operands.isEmpty then
    if removal.force then Tool.exit 0 else Tool.misuse 1 "missing operand".toList
  if lastOf ['f', 'i', 'I', 'n'] == some 'I' then
    if removal.recursive || 3 < operands.length then
      let sure ← agrees ("remove ".toList ++ Text.ofNat operands.length ++
        (if operands.length = 1 then " argument" else " arguments").toList ++
        (if removal.recursive then " recursively" else "").toList)
      if !sure then Tool.exit 0
  for path in operands do
    let last := lastSegment path
    let isRoot : Bool ←
      match ← Tool.program (.statusHere path) with
      | .ok status => pure (status.serial == Disk.root)
      | .error _ => pure false
    if removal.recursive && isRoot then
      Tool.complain ("it is dangerous to operate recursively on ".toList ++
        (if path = ['/'] then "'/'".toList
        else Tool.shellQuoted path ++ " (same as '/')".toList))
      Tool.grumble 1 "use --no-preserve-root to override this failsafe".toList
    else if removal.recursive && (last = ['.'] || last = ['.', '.']) then
      Tool.grumble 1 ("refusing to remove '.' or '..' directory: skipping ".toList ++
        Tool.shellQuoted path)
    else
      let _ ← removeTree removal depthLimit path

/-- Take a name from a file. -/
def unlink : Work := fun start => do
  let (_, operands) ← (⟨[], false, 1⟩ : Grammar).read start.arguments
  match operands with
  | [] => Tool.misuse 1 "missing operand".toList
  | [path] =>
      match ← Tool.program (.change (.unlink path)) with
      | .ok () => return
      | .error code => Tool.die 1 (because "cannot unlink " path code)
  | _ :: extra :: _ => Tool.misuse 1 ("extra operand ".toList ++ Tool.quoted extra)

/-- Give a file another name. -/
def link : Work := fun start => do
  let (_, operands) ← (⟨[], false, 1⟩ : Grammar).read start.arguments
  match operands with
  | [] => Tool.misuse 1 "missing operand".toList
  | [path] => Tool.misuse 1 ("missing operand after ".toList ++ Tool.quoted path)
  | [existing, path] =>
      match ← Tool.program (.change (.link existing path)) with
      | .ok () => return
      | .error code =>
          Tool.die 1 ("cannot create link ".toList ++ Tool.shellQuoted path ++
            because " to " existing code)
  | _ :: _ :: extra :: _ => Tool.misuse 1 ("extra operand ".toList ++ Tool.quoted extra)

/-- Whether a word is a change of permissions that looks like an option. -/
def isModeOption : Octets → Bool
  | '-' :: c :: _ => "rwxXstugoa,+=01234567".toList.contains c
  | _ => false

/-- How permissions are shown when they change. -/
def modeTitle (mode : Nat) : Octets :=
  Octets.octal 4 mode ++ " (".toList ++ Mode.allLetters mode ++ [')']

/-- How permissions are changed. -/
structure Permitting where
  /-- The change, for a directory or another object with some mode. -/
  change : Bool → Nat → Nat
  /-- The change that one would expect. -/
  expected : Bool → Nat → Nat
  /-- In all that is in a directory too. -/
  recursive : Bool
  /-- Tell about each object. -/
  verbose : Bool
  /-- Tell about each change. -/
  changes : Bool
  /-- Do not complain about missing objects. -/
  quiet : Bool

/-- Change the permissions of what a path leads to. -/
def permitTree (permitting : Permitting) : (limit : Nat) → (top : Bool) → (path : Octets) →
    Tool Unit
  | 0, _, _ => return
  | limit + 1, top, path => do
      let linked : Bool ←
        match ← Tool.program (.statusHere path) with
        | .ok status => pure (status.form == .link)
        | .error _ => pure false
      if linked && !top then
        if permitting.verbose then
          Tool.printLine ("neither symbolic link ".toList ++ Tool.shellQuoted path ++
            " nor referent has been changed".toList)
        return
      match ← Tool.program (.status path) with
      | .error code =>
          if permitting.quiet then Tool.fail 1
          else if linked && code = .noEntry then
            Tool.grumble 1 ("cannot operate on dangling symlink ".toList ++
              Tool.shellQuoted path)
          else Tool.grumble 1 (because "cannot access " path code)
          if permitting.verbose then
            Tool.printLine (Tool.shellQuoted path ++ " could not be accessed".toList)
      | .ok status =>
          let mode := permitting.change (status.form == .directory) status.mode
          match ← Tool.program (.change (.permit path mode)) with
          | .error code => Tool.grumble 1 (because "changing permissions of " path code)
          | .ok () =>
              if mode != status.mode && (permitting.verbose || permitting.changes) then
                Tool.printLine ("mode of ".toList ++ Tool.shellQuoted path ++
                  " changed from ".toList ++ modeTitle status.mode ++ " to ".toList ++
                  modeTitle mode)
              else if permitting.verbose then
                Tool.printLine ("mode of ".toList ++ Tool.shellQuoted path ++
                  " retained as ".toList ++ modeTitle mode)
              let expected := permitting.expected (status.form == .directory) status.mode
              if Mode.without mode expected != 0 then
                Tool.grumble 1 (Tool.named path ++ ": new permissions are ".toList ++
                  Mode.allLetters mode ++ ", not ".toList ++ Mode.allLetters expected)
          if permitting.recursive && status.form = .directory then
            match ← Tool.program (.names path) with
            | .ok names =>
                for name in names do permitTree permitting limit false (pathIn path name)
            | .error _ => pure ()

/-- Change the permissions of files. -/
def chmod : Work := fun start => do
  let grammar : Grammar :=
    ⟨[.flag 'R' "recursive", .flag 'v' "verbose", .flag 'c' "changes", .flag 'f' "silent",
      .value '\x01' "reference"], true, 1⟩
  let options := start.arguments.takeWhile (· != ['-', '-'])
  let modes := options.filter isModeOption
  let (given, operands) ← grammar.read
    (options.filter (!isModeOption ·) ++ start.arguments.drop options.length)
  let (text, paths) : Octets × List Octets :=
    if !modes.isEmpty then (Text.joinWith [','] modes, operands)
    else if Given.has given '\x01' then ([], operands)
    else (operands.headD [], operands.drop 1)
  if modes.isEmpty && operands.isEmpty && !Given.has given '\x01' then
    Tool.misuse 1 "missing operand".toList
  if paths.isEmpty then
    if text.isEmpty then Tool.misuse 1 "missing operand".toList
    else Tool.misuse 1 ("missing operand after ".toList ++
      Tool.quoted (if modes.isEmpty then text else (start.arguments.getLast?).getD []))
  let mask ← Tool.program (.mask none)
  let change : Bool → Nat → Option Nat ←
    match Given.last? given '\x01' with
    | none => pure fun directory mode => Mode.apply directory mask text mode
    | some path =>
        match ← Tool.program (.status path) with
        | .ok status => pure fun _ _ => some status.mode
        | .error code => Tool.die 1 (because "failed to get attributes of " path code)
  if (change false 0).isNone then Tool.misuse 1 ("invalid mode: ".toList ++ Tool.quoted text)
  for path in paths do
    permitTree
      { change := fun directory mode => (change directory mode).getD mode
        expected := fun directory mode =>
          ((if modes.isEmpty then change directory mode
          else Mode.apply directory 0 text mode)).getD mode
        recursive := Given.has given 'R'
        verbose := Given.final? given "vc" == some 'v'
        changes := Given.final? given "vc" == some 'c'
        quiet := Given.has given 'f' } depthLimit true path

/-- Make queues. -/
def mkfifo : Work := fun start => do
  let (given, operands) ← (⟨[.value 'm' "mode"], true, 1⟩ : Grammar).read start.arguments
  if operands.isEmpty then Tool.misuse 1 "missing operand".toList
  let mode ← givenMode given 0o666
  for path in operands do
    match ← Tool.program (.change (.makeQueue path 0o666)) with
    | .ok () =>
        match mode with
        | some mode =>
            let _ ← Tool.program (.change (.permit path mode))
        | none => pure ()
    | .error code => Tool.grumble 1 (because "cannot create fifo " path code)

/-- The characters that replace those of a template. -/
def templateLetters : Array Char :=
  List.toArray "abcdefghijklmnopqrstuvwxyzABCDEFGHIJKLMNOPQRSTUVWXYZ0123456789".toList

/-- A name of some letters for a number. -/
def templateName : (count : Nat) → (number : Nat) → Octets
  | 0, _ => []
  | count + 1, number =>
      (templateLetters[number % 62]?).getD 'a' :: templateName count (number / 62 * 31 + number)

/-- Make a file or a directory with a name that is free; the limit bounds how many names
are tried. -/
def makeTemporary (directory : Bool) (start stop : Octets) (count : Nat) :
    (limit : Nat) → (number : Nat) → Tool (Except Code Octets)
  | 0, _ => return .error .exists
  | limit + 1, number => do
      let path := start ++ templateName count number ++ stop
      let outcome : Except Code Unit ←
        if directory then Tool.program (.change (.makeDirectory path 0o700))
        else
          match ← Tool.program (.openFile path
              { reads := true, writes := true, creates := true, excludes := true }) with
          | .ok descriptor => do
              Tool.program (.close descriptor)
              Tool.program (.change (.permit path 0o600))
          | .error code => pure (.error code)
      match outcome with
      | .ok () => return .ok path
      | .error .exists => makeTemporary directory start stop count limit (number + 1)
      | .error code => return .error code

/-- Make a file or a directory with a new name. -/
def mktemp : Work := fun start => do
  let grammar : Grammar :=
    ⟨[.flag 'd' "directory", .flag 'u' "dry-run", .flag 'q' "quiet", .flag 't' "",
      ⟨'p', "", .value⟩, ⟨'\x01', "tmpdir", .optional⟩, .value '\x02' "suffix"], true, 1⟩
  let (given, operands) ← grammar.read start.arguments
  match operands with
  | _ :: _ :: _ => Tool.misuse 1 "too many templates".toList
  | _ =>
      let template := operands.headD "tmp.XXXXXXXXXX".toList
      let suffix? := Given.last? given '\x02'
      if suffix?.isSome && template.getLast? != some 'X' then
        Tool.die 1 ("with --suffix, template ".toList ++ Tool.quoted template ++
          " must end in X".toList)
      let reversed := template.reverse
      let ending := (reversed.takeWhile (· != 'X')).reverse
      let count := ((reversed.drop ending.length).takeWhile (· == 'X')).length
      let beginning := (reversed.drop (ending.length + count)).reverse
      let ending := ending ++ suffix?.getD []
      if ending.contains '/' then
        Tool.die 1 ("invalid suffix ".toList ++ Tool.quoted ending ++
          ", contains directory separator".toList)
      if count < 3 then Tool.die 1 ("too few X's in template ".toList ++ Tool.quoted template)
      let standard := (start.value? "TMPDIR").getD "/tmp".toList
      let standard := if standard.isEmpty then "/tmp".toList else standard
      let directory? : Option Octets :=
        if Given.has given 't' then
          some ((start.value? "TMPDIR").getD ((Given.last? given 'p').getD standard))
        else if Given.has given 'p' then some ((Given.last? given 'p').getD standard)
        else if Given.has given '\x01' then some ((Given.last? given '\x01').getD standard)
        else if operands.isEmpty then some standard
        else none
      let beginning := match directory? with
        | some directory => pathIn directory beginning
        | none => beginning
      let seed := (← Tool.program .identity).number * 7919
      if Given.has given 'u' then
        Tool.printLine (beginning ++ templateName count seed ++ ending)
      else
        match ← makeTemporary (Given.has given 'd') beginning ending count 1000 seed with
        | .ok path => Tool.printLine path
        | .error code =>
            if Given.has given 'q' then Tool.exit 1
            else
              let kind := if Given.has given 'd' then "directory" else "file"
              Tool.die 1 ("failed to create ".toList ++ kind.toList ++
                " via template ".toList ++
                Tool.quoted (beginning ++ List.replicate count 'X' ++ ending) ++
                ": ".toList ++ code.title)

/-- The new size of a file, given how it is written and the old size. -/
def newSize? : Octets → (size : Nat) → Option Nat
  | '+' :: rest, size => (amount? rest).map (size + ·)
  | '-' :: rest, size => (amount? rest).map (size - ·)
  | '<' :: rest, size => (amount? rest).map (min size ·)
  | '>' :: rest, size => (amount? rest).map (max size ·)
  | '/' :: rest, size => (amount? rest).map fun unit => size / unit * unit
  | '%' :: rest, size => (amount? rest).map fun unit => (size + unit - 1) / unit * unit
  | text, _ => amount? text

/-- Cut or fill up files to a size. -/
def truncate : Work := fun start => do
  let grammar : Grammar :=
    ⟨[.flag 'c' "no-create", .flag 'o' "io-blocks", .value 'r' "reference",
      .value 's' "size"], true, 1⟩
  let (given, operands) ← grammar.read start.arguments
  let text := (Given.last? given 's').getD []
  if Given.has given 's' && (newSize? text 0).isNone then
    Tool.die 1 ("Invalid number: ".toList ++ Tool.quoted
      (if "+-<>/%".toList.contains (text.headD ' ') then text.drop 1 else text))
  if !Given.has given 's' && !Given.has given 'r' then
    Tool.misuse 1 "you must specify either '--size' or '--reference'".toList
  if operands.isEmpty then Tool.misuse 1 "missing file operand".toList
  let base? : Option Nat ←
    match Given.last? given 'r' with
    | none => pure none
    | some path =>
        match ← Tool.program (.status path) with
        | .ok status => pure (some status.size)
        | .error code => Tool.die 1 (because "cannot stat " path code)
  for path in operands do
    match ← Tool.program
        (.openFile path { writes := true, creates := !Given.has given 'c' }) with
    | .error code =>
        if !(Given.has given 'c' && code = .noEntry) then
          Tool.grumble 1 ("cannot open ".toList ++ Tool.shellQuoted path ++
            " for writing: ".toList ++ code.title)
    | .ok descriptor => do
        let old : Nat ←
          match ← Tool.program (.statusOf descriptor) with
          | .ok status => pure (base?.getD status.size)
          | .error _ => pure 0
        Tool.program (.close descriptor)
        let size := if Given.has given 's' then (newSize? text old).getD old else old
        match ← Tool.program (.change (.resize path size)) with
        | .ok () => pure ()
        | .error code =>
            Tool.grumble 1 ("failed to truncate ".toList ++ Tool.shellQuoted path ++
              " at ".toList ++ Text.ofNat size ++ " bytes: ".toList ++ code.title)

/-- What must exist of a path that is made canonical. -/
inductive Existence where
  /-- All of it. -/
  | all
  /-- All but its last segment. -/
  | parents
  /-- Nothing. -/
  | nothing
  deriving DecidableEq, Repr

/-- How a path is made canonical. -/
structure Canonical where
  /-- What must exist. -/
  existence : Existence
  /-- Whether symbolic links are replaced by what they say. -/
  resolves : Bool

/-- The path of segments from the root. -/
def absolute (segments : List Octets) : Octets :=
  if segments.isEmpty then ['/'] else segments.flatMap ('/' :: ·)

/-- Follow segments from others, the last of which comes first, to a path without links
and dots. -/
def Canonical.follow (canonical : Canonical) :
    (limit : Nat) → (links : Nat) → List Octets → List Octets → Program (Except Code (List Octets))
  | 0, _, _, _ => pure (.error .tooManyLinks)
  | _ + 1, _, done, [] => pure (.ok done)
  | limit + 1, links, done, name :: rest => do
      if name = ['.'] then canonical.follow limit links done rest
      else if name = ['.', '.'] then canonical.follow limit links (done.drop 1) rest
      else
        let path := absolute (name :: done).reverse
        match ← Program.statusHere path with
        | .error code =>
            let forgiven : Bool :=
              match canonical.existence with
              | .all => false
              | .parents => code == .noEntry && rest.all (· == ['.'])
              | .nothing => true
            if forgiven then canonical.follow limit links (name :: done) rest
            else pure (.error code)
        | .ok status =>
            if status.form = .link && canonical.resolves then
              if links = 0 && canonical.existence = .nothing then
                canonical.follow limit links (name :: done) rest
              else if links = 0 then pure (.error .tooManyLinks)
              else
                match ← Program.target path with
                | .error code => pure (.error code)
                | .ok target =>
                    canonical.follow limit (links - 1)
                      (if Disk.isAbsolute target then [] else done)
                      (Disk.segments target ++ rest)
            else if status.form != .directory && !rest.isEmpty &&
                canonical.existence != .nothing then
              pure (.error .notDirectory)
            else canonical.follow limit links (name :: done) rest

/-- The path without links and dots to what a path leads to. -/
def Canonical.path (canonical : Canonical) (path : Octets) : Program (Except Code Octets) := do
  if path.isEmpty then pure (.error .noEntry)
  else
    let origin : Except Code Octets ←
      if Disk.isAbsolute path then pure (.ok ['/']) else Program.current
    match origin with
    | .error code => pure (.error code)
    | .ok origin =>
        let trailing := if Text.endsIn '/' path && canonical.existence != .nothing then
          [['.']] else []
        match ← canonical.follow 10000 Disk.linkLimit (Disk.segments origin).reverse
            (Disk.segments path ++ trailing) with
        | .ok done => pure (.ok (absolute done.reverse))
        | .error code => pure (.error code)

/-- Tell what symbolic links say, or where paths lead. -/
def readlink : Work := fun start => do
  let grammar : Grammar :=
    ⟨[.flag 'f' "canonicalize", .flag 'e' "canonicalize-existing",
      .flag 'm' "canonicalize-missing", .flag 'n' "no-newline", .flag 'q' "quiet",
      .flag 's' "silent", .flag 'v' "verbose", .flag 'z' "zero"], true, 1⟩
  let (given, operands) ← grammar.read start.arguments
  if operands.isEmpty then Tool.misuse 1 "missing operand".toList
  let bare := Given.has given 'n'
  if bare && 1 < operands.length then
    Tool.complain "ignoring --no-newline with multiple arguments".toList
  let ending : Octets :=
    if bare && operands.length = 1 then []
    else if Given.has given 'z' then ['\x00'] else ['\n']
  for path in operands do
    let found : Except Code Octets ←
      match Given.final? given "fem" with
      | some 'f' => Tool.program (Canonical.path ⟨.parents, true⟩ path)
      | some 'e' => Tool.program (Canonical.path ⟨.all, true⟩ path)
      | some _ => Tool.program (Canonical.path ⟨.nothing, true⟩ path)
      | none => Tool.program (.target path)
    match found with
    | .ok target => Tool.print (target ++ ending)
    | .error code =>
        if Given.has given 'v' then
          Tool.grumble 1 (Tool.named path ++ ": ".toList ++ code.title)
        else Tool.fail 1

/-- The path from one directory to an object, both given by their segments. -/
def relativePath : List Octets → List Octets → Octets
  | a :: origin, b :: goal =>
      if a = b then relativePath origin goal
      else Text.joinWith ['/'] ((a :: origin).map (fun _ => ['.', '.']) ++ b :: goal)
  | origin, goal =>
      if origin.isEmpty && goal.isEmpty then ['.']
      else Text.joinWith ['/'] (origin.map (fun _ => ['.', '.']) ++ goal)

/-- Tell where paths lead. -/
def realpath : Work := fun start => do
  let grammar : Grammar :=
    ⟨[.flag 'e' "canonicalize-existing", .flag 'm' "canonicalize-missing",
      .flag 'L' "logical", .flag 'P' "physical", .flag 'q' "quiet", .flag 's' "strip",
      .flag '\x03' "no-symlinks", .flag 'z' "zero", .value '\x01' "relative-to",
      .value '\x02' "relative-base"], true, 1⟩
  let (given, operands) ← grammar.read start.arguments
  if operands.isEmpty then Tool.misuse 1 "missing operand".toList
  let resolves := !(Given.has given 's' || Given.has given '\x03')
  let canonical : Canonical :=
    ⟨match Given.final? given "em" with
      | some 'e' => .all
      | some _ => .nothing
      | none => if resolves then .parents else .nothing, resolves⟩
  let origin? : Option Octets ←
    match Given.last? given '\x01' with
    | none => pure none
    | some path =>
        match ← Tool.program (canonical.path path) with
        | .ok origin => pure (some origin)
        | .error code => Tool.die 1 (Tool.named path ++ ": ".toList ++ code.title)
  for path in operands do
    match ← Tool.program (canonical.path path) with
    | .ok found =>
        let text := match origin? with
          | some origin => relativePath (Disk.segments origin) (Disk.segments found)
          | none => found
        Tool.print (text ++ if Given.has given 'z' then ['\x00'] else ['\n'])
    | .error code =>
        if Given.has given 'q' then Tool.fail 1
        else Tool.grumble 1 (Tool.named path ++ ": ".toList ++ code.title)

/-- Print the path of the current directory. -/
def pwd : Work := fun start => do
  let (given, operands) ←
    (⟨[.flag 'L' "logical", .flag 'P' "physical"], true, 1⟩ : Grammar).read start.arguments
  if !operands.isEmpty then Tool.complain "ignoring non-option arguments".toList
  let logical? : Option Octets ←
    match Given.final? given "LP", start.value? "PWD" with
    | some 'L', some path =>
        let dotted := (Disk.segments path).any fun name => name == ['.'] || name == ['.', '.']
        match ← Tool.program (.status path), ← Tool.program (.status ['.']) with
        | .ok there, .ok here =>
            if there.serial = here.serial && Disk.isAbsolute path && !dotted then
              pure (some path)
            else pure none
        | _, _ => pure none
    | _, _ => pure none
  match logical? with
  | some path => Tool.printLine path
  | none =>
      match ← Tool.program .current with
      | .ok path => Tool.printLine path
      | .error code =>
          Tool.die 1 ("couldn't find directory entry in '..' with matching i-node".toList ++
            if code = .noEntry then [] else ": ".toList ++ code.title)

end Utility
end Host
end Turnwise
