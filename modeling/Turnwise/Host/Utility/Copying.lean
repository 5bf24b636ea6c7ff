import Turnwise.Host.Utility.Files

/-!
# Tools that copy, move and link

The last operand says where things go: into a directory, where each keeps its last name,
or to a path of its own.  Nothing is copied over itself, no directory goes where a file
stands, and no file where a directory stands.
-/

namespace Turnwise
namespace Host
namespace Utility

open SystemError (Code)

/-- What a path leads to; nothing is said about a missing object. -/
def present (follows : Bool) (path : Octets) : Tool (Except Code (Option Status)) := do
  let outcome ←
    if follows then Tool.program (.status path) else Tool.program (.statusHere path)
  match outcome with
  | .ok status => return .ok (some status)
  | .error .noEntry => return .ok none
  | .error code => return .error code

/-- Whether a path leads to a directory. -/
def leadsToDirectory (follows : Bool) (path : Octets) : Tool Bool := do
  match ← present follows path with
  | .ok (some status) => return status.form == .directory
  | _ => return false

/-- The pairs of a source and a goal that operands name. -/
structure Plan where
  /-- Each source with its goal. -/
  pairs : List (Octets × Octets)
  /-- Whether the goals lie in a directory. -/
  gathered : Bool

/-- The goal of a source in a directory. -/
def goalIn (directory source : Octets) : Octets :=
  let last := lastSegment source
  (if Text.endsIn '/' directory then directory else directory ++ ['/']) ++
    if last = ['/'] then [] else last

/-- Find out where operands go. -/
def plan (given : List Given) (operands : List Octets) : Tool Plan := do
  let into (directory : Octets) (sources : List Octets) : Plan :=
    ⟨sources.map fun source => (source, goalIn directory source), true⟩
  match Given.last? given 't', operands with
  | _, [] => Tool.misuse 1 "missing file operand".toList
  | some directory, sources =>
      if ← leadsToDirectory true directory then return into directory sources
      else
        let code : Code ←
          match ← Tool.program (.status directory) with
          | .ok _ => pure Code.notDirectory
          | .error code => pure code
        Tool.die 1 (because "target directory " directory code)
  | none, [source] =>
      Tool.misuse 1 ("missing destination file operand after ".toList ++
        Tool.shellQuoted source)
  | none, operands =>
      let goal := (operands.getLast?).getD []
      let sources := operands.dropLast
      if Given.has given 'T' then
        match operands with
        | _ :: _ :: extra :: _ =>
            Tool.misuse 1 ("extra operand ".toList ++ Tool.shellQuoted extra)
        | _ => return ⟨sources.map fun source => (source, goal), false⟩
      else if ← leadsToDirectory true goal then return into goal sources
      else if 1 < sources.length then
        let code : Code ←
          match ← Tool.program (.status goal) with
          | .ok _ => pure Code.notDirectory
          | .error code => pure code
        Tool.die 1 (because "target " goal code)
      else return ⟨sources.map fun source => (source, goal), false⟩

/-- How things are copied. -/
structure Copying where
  /-- Directories with all that is in them. -/
  recursive : Bool
  /-- Symbolic links as what they lead to. -/
  follows : Bool
  /-- With their mode and time. -/
  preserves : Bool
  /-- In place of files that cannot be written. -/
  force : Bool
  /-- Only over files after asking. -/
  asks : Bool
  /-- Never over files. -/
  spares : Bool
  /-- Only over older files. -/
  updates : Bool
  /-- Tell what is copied. -/
  verbose : Bool
  /-- Make names instead of copies. -/
  links : Bool
  /-- Make symbolic links instead of copies. -/
  points : Bool

/-- What is known while one operand is copied. -/
structure Copied where
  /-- The first directory that was made. -/
  made : Option Nat
  /-- Whether all went well. -/
  well : Bool
  /-- Whether a directory was met in its own copy. -/
  inside : Bool

/-- Keep the mode and the time of an object. -/
def preserve (goal : Octets) (status : Status) : Tool Unit := do
  let _ ← Tool.program (.change (.permit goal status.mode))
  let _ ← Tool.program (.change (.stamp goal status.modified))
  return

/-- Copy the content of a file; the answer tells whether that was possible. -/
def copyContent
    (copying : Copying)
    (source goal : Octets)
    (status : Status)
    (old : Option Status) : Tool Bool := do
  match ← Tool.program (.openFile source .reading) with
  | .error code => do
      Tool.grumble 1 ("cannot open ".toList ++ Tool.shellQuoted source ++
        " for reading: ".toList ++ code.title)
      return false
  | .ok reader => do
      let opening : Opening :=
        if old.isSome then { writes := true, truncates := true }
        else { writes := true, creates := true, excludes := true }
      let outcome : Except Code Nat ←
        match ← Tool.program (.openFile goal opening) with
        | .error code =>
            if copying.force && old.isSome then do
              let _ ← Tool.program (.change (.unlink goal))
              Tool.program (.openFile goal { writes := true, creates := true, excludes := true })
            else pure (.error code)
        | .ok writer => pure (.ok writer)
      match outcome with
      | .error code => do
          Tool.program (.close reader)
          let code := if code = .isDirectory && Text.endsIn '/' goal then .notDirectory else code
          if code = .exists then
            Tool.grumble 1 ("not writing through dangling symlink ".toList ++
              Tool.shellQuoted goal)
          else Tool.grumble 1 (because "cannot create regular file " goal code)
          return false
      | .ok writer => do
          let failure ← Tool.repeating () fun _ => do
            match ← Tool.program (.read reader Program.blockSize) with
            | .error code => return .inr (some code)
            | .ok [] => return .inr none
            | .ok block =>
                match ← Tool.program (.write writer block) with
                | .ok _ => return .inl ()
                | .error code => return .inr (some code)
          Tool.program (.close reader)
          Tool.program (.close writer)
          match failure with
          | some code => do
              Tool.grumble 1 (because "error copying to " goal code)
              return false
          | none => do
              if old.isNone then
                let mask ← Tool.program (.mask none)
                let mode := Disk.permitted (status.mode % 512) mask
                let _ ← Tool.program (.change (.permit goal mode))
              if copying.preserves then preserve goal status
              return true

/-- Copy a symbolic link, or make one. -/
def copyLink (target goal : Octets) (old : Option Status) : Tool Bool := do
  if old.isSome then
    let _ ← Tool.program (.change (.unlink goal))
  match ← Tool.program (.change (.makeLink target goal)) with
  | .ok () => return true
  | .error code => do
      Tool.grumble 1 (because "cannot create symbolic link " goal code)
      return false

/-- Tell that a thing goes from one path to another. -/
def announce (source goal : Octets) : Tool Unit :=
  Tool.printLine (Tool.shellQuoted source ++ " -> ".toList ++ Tool.shellQuoted goal)

/-- Whether a source may go where an object stands; if not, that was said. -/
def mayReplace (source goal : Octets) (status old : Status) : Tool Bool := do
  if status.form = .directory && old.form != .directory then
    Tool.grumble 1 ("cannot overwrite non-directory ".toList ++ Tool.shellQuoted goal ++
      " with directory ".toList ++ Tool.shellQuoted source)
    return false
  else if status.form != .directory && old.form = .directory then
    Tool.grumble 1 ("cannot overwrite directory ".toList ++ Tool.shellQuoted goal ++
      " with non-directory".toList)
    return false
  else return true

/-- Whether a path, with what stands there itself, leads to an object. -/
def leadsThere (path : Octets) (status there : Status) : Tool Bool := do
  if status.form = .link && there.form != .link then
    match ← Tool.program (.status path) with
    | .ok reached => return reached.serial == there.serial
    | .error _ => return false
  else return there.serial == status.serial

/-- Whether a path names an object in the current directory. -/
def liesHere (path : Octets) : Tool Bool := do
  match ← Tool.program (.status (parentPath path)), ← Tool.program (.status ['.']) with
  | .ok there, .ok here => return there.serial == here.serial
  | _, _ => return false

/-- Copy what stands at a path to another one, for an operand with a goal of its own. -/
def copyTree (copying : Copying) (top topGoal : Octets) :
    (limit : Nat) → (source goal : Octets) → Copied → Tool Copied
  | 0, _, _, copied => return { copied with well := false }
  | limit + 1, source, goal, copied => do
      let failed : Copied := { copied with well := false }
      let outcome ←
        if copying.follows then Tool.program (.status source)
        else Tool.program (.statusHere source)
      match outcome with
      | .error code => do
          Tool.grumble 1 (because "cannot stat " source code)
          return failed
      | .ok status =>
          if status.form = .directory && !copying.recursive then
            Tool.grumble 1 ("-r not specified; omitting directory ".toList ++
              Tool.shellQuoted source)
            return failed
          if status.form = .directory && copied.made = some status.serial then
            Tool.grumble 1 ("cannot copy a directory, ".toList ++ Tool.shellQuoted top ++
              ", into itself, ".toList ++ Tool.shellQuoted topGoal)
            return { failed with inside := true }
          match ← present (status.form != .link) goal with
          | .error code => do
              Tool.grumble 1 (because "cannot stat " goal code)
              return failed
          | .ok old =>
              match old with
              | some there =>
                  if !copying.spares && (← leadsThere source status there) then
                    Tool.grumble 1 (Tool.shellQuoted source ++ " and ".toList ++
                      Tool.shellQuoted goal ++ " are the same file".toList)
                    return failed
                  if status.form != .directory && copying.spares then return copied
                  if status.form != .directory && copying.updates &&
                      status.modified ≤ there.modified then return copied
                  if !(← mayReplace source goal status there) then return failed
                  if status.form != .directory && copying.asks then
                    if !(← agrees ("overwrite ".toList ++ Tool.shellQuoted goal)) then
                      Tool.fail 1
                      return failed
              | none => pure ()
              if copying.verbose && !(status.form = .directory && old.isSome) then
                announce source goal
              let done (well : Bool) : Copied := { copied with well := copied.well && well }
              match status.form with
              | .link =>
                  match ← Tool.program (.target source) with
                  | .ok target => return done (← copyLink target goal old)
                  | .error _ => return failed
              | .directory => do
                  let mut state := copied
                  if old.isNone then
                    match ← Tool.program (.change (.makeDirectory goal 0o777)) with
                    | .error code => do
                        Tool.grumble 1 (because "cannot create directory " goal code)
                        return failed
                    | .ok () =>
                        match ← Tool.program (.status goal) with
                        | .ok made =>
                            if state.made.isNone then
                              state := { state with made := some made.serial }
                        | .error _ => pure ()
                  let names : List Octets ←
                    match ← (Program.call (.names source) :
                        Program (Except Code (List Octets))) with
                    | .ok names => pure names
                    | .error _ => pure []
                  for name in names do
                    if !state.inside then
                      state ← copyTree copying top topGoal limit (pathIn source name)
                        (pathIn goal name) state
                  if copying.preserves then preserve goal status
                  return state
              | .queue =>
                  if copying.recursive then
                    match ← Tool.program (.change (.makeQueue goal status.mode)) with
                    | .ok () => return copied
                    | .error code => do
                        Tool.grumble 1 (because "cannot create fifo " goal code)
                        return failed
                  else return done (← copyContent copying source goal status old)
              | _ =>
                  if copying.links then
                    if copying.force && old.isSome then
                      let _ ← Tool.program (.change (.unlink goal))
                    match ← Tool.program (.change (.link source goal)) with
                    | .ok () => return copied
                    | .error code => do
                        Tool.grumble 1 ("cannot create hard link ".toList ++
                          Tool.shellQuoted goal ++ because " to " source code)
                        return failed
                  else if copying.points then
                    let relative ← if Disk.isAbsolute source then pure true else liesHere goal
                    if !relative then
                      Tool.grumble 1 (Tool.named goal ++
                        ": can make relative symbolic links only in current directory".toList)
                      return failed
                    return done (← copyLink source goal (if copying.force then old else none))
                  else return done (← copyContent copying source goal status old)

/-- The options of copying. -/
def cpGrammar : Grammar :=
  ⟨[.flag 'a' "archive", .flag 'r' "recursive", .flag 'R' "", .flag 'p' "",
    ⟨'\x01', "preserve", .optional⟩, .flag 'f' "force", .flag 'i' "interactive",
    .flag 'n' "no-clobber", ⟨'u', "", .nothing⟩, ⟨'\x02', "update", .optional⟩,
    .flag 'v' "verbose", .value 't' "target-directory", .flag 'T' "no-target-directory",
    .flag 'l' "link", .flag 's' "symbolic-link", .flag 'd' "", .flag 'P' "no-dereference",
    .flag 'L' "dereference", .flag 'H' "", .flag 'x' "one-file-system"], true, 1⟩

/-- Copy files, and directories with all that is in them. -/
def cp : Work := fun start => do
  let (given, operands) ← cpGrammar.read start.arguments
  let has := Given.has given
  let recursive := has 'r' || has 'R' || has 'a'
  let update := Given.last? given '\x02'
  if has 'n' then
    Tool.complain ("warning: behavior of -n is non-portable and may change in future; " ++
      "use --update=none instead").toList
  let copying : Copying :=
    { recursive := recursive
      follows :=
        match Given.final? given "LPda" with
        | some 'L' => true
        | some _ => false
        | none => !recursive
      preserves := has 'p' || has 'a' || has '\x01'
      force := has 'f'
      asks := Given.final? given "ifn" == some 'i'
      spares := has 'n' || update == some "none".toList
      updates := has 'u' || (has '\x02' && (update.isNone || update == some "older".toList))
      verbose := has 'v'
      links := has 'l'
      points := has 's' }
  let plan ← plan given operands
  let mut seen : List (Nat × Octets) := []
  let mut goals : List Octets := []
  for (source, goal) in plan.pairs do
    let goal := if plan.gathered && lastSegment source = ['.', '.'] then goal.dropLast else goal
    let status? : Option Status ←
      match ← Tool.program (.status source) with
      | .ok status => pure (some status)
      | .error _ => pure none
    let serial := (status?.map (·.serial)).getD 0
    let isDirectory := status?.any (·.form == .directory)
    let omitted := isDirectory && !recursive
    if plan.gathered && status?.isSome && !omitted && seen.contains (serial, goal) then
      let kind := if isDirectory then "directory " else "file "
      Tool.complain ("warning: source ".toList ++ kind.toList ++ Tool.shellQuoted source ++
        " specified more than once".toList)
    else if plan.gathered && status?.isSome && !isDirectory && goals.contains goal then
      Tool.grumble 1 ("will not overwrite just-created ".toList ++ Tool.shellQuoted goal ++
        " with ".toList ++ Tool.shellQuoted source)
    else
      let copied ← copyTree copying source goal depthLimit source goal ⟨none, true, false⟩
      if copied.well then goals := goal :: goals
      seen := (serial, goal) :: seen

/-- How things are moved. -/
structure Moving where
  /-- Only over files after asking. -/
  asks : Bool
  /-- Never over files. -/
  spares : Bool
  /-- Only over older files. -/
  updates : Bool
  /-- Tell what is moved. -/
  verbose : Bool

/-- Move what stands at a path to another one; the answer tells whether it was moved. -/
def moveTo (moving : Moving) (source goal : Octets) : Tool Bool := do
  let refuse (message : Octets) : Tool Bool := do
    Tool.grumble 1 message
    return false
  if moving.spares then
    match ← Tool.program (.statusHere (withoutSlashes source)),
        ← Tool.program (.statusHere (withoutSlashes goal)) with
    | .ok _, .ok _ => return ← refuse ("not replacing ".toList ++ Tool.shellQuoted goal)
    | _, _ => pure ()
  match ← Tool.program (.statusHere source) with
  | .error code => refuse (because "cannot stat " source code)
  | .ok status =>
      if goal.isEmpty then
        if status.form = .directory then
          return ← refuse ("cannot move ".toList ++ Tool.shellQuoted source ++
            because " to " goal .busy)
        else
          return ← refuse ("cannot overwrite directory ".toList ++ Tool.shellQuoted goal ++
            " with non-directory".toList)
      match ← present false goal with
      | .error code => refuse (because "cannot stat " goal code)
      | .ok old =>
          match old with
          | some there =>
              if ← leadsThere source status there then
                return ← refuse (Tool.shellQuoted source ++ " and ".toList ++
                  Tool.shellQuoted goal ++ " are the same file".toList)
              if moving.updates && status.modified ≤ there.modified then return false
              if !(← mayReplace source goal status there) then return false
              if moving.asks then
                if !(← agrees ("overwrite ".toList ++ Tool.shellQuoted goal)) then
                  Tool.fail 1
                  return false
          | none => pure ()
          match ← Tool.program (.change (.rename source goal)) with
          | .ok () => do
              if moving.verbose then
                Tool.print "renamed ".toList
                announce source goal
              return true
          | .error .invalid =>
              refuse ("cannot move ".toList ++ Tool.shellQuoted source ++
                " to a subdirectory of itself, ".toList ++ Tool.shellQuoted goal)
          | .error .notEmpty => refuse (because "cannot overwrite " goal .notEmpty)
          | .error code =>
              refuse ("cannot move ".toList ++ Tool.shellQuoted source ++
                because " to " goal code)

/-- Move files and directories. -/
def mv : Work := fun start => do
  let grammar : Grammar :=
    ⟨[.flag 'f' "force", .flag 'i' "interactive", .flag 'n' "no-clobber",
      ⟨'u', "", .nothing⟩, ⟨'\x02', "update", .optional⟩, .flag 'v' "verbose",
      .value 't' "target-directory", .flag 'T' "no-target-directory",
      .flag '\x03' "strip-trailing-slashes"], true, 1⟩
  let (given, operands) ← grammar.read start.arguments
  let moving : Moving :=
    { asks := Given.final? given "ifn" == some 'i'
      spares := Given.final? given "ifn" == some 'n'
      updates := Given.has given 'u' || Given.has given '\x02'
      verbose := Given.has given 'v' }
  let plan ← plan given operands
  let mut goals : List Octets := []
  for (source, goal) in plan.pairs do
    if plan.gathered && goals.contains goal then
      Tool.grumble 1 ("will not overwrite just-created ".toList ++ Tool.shellQuoted goal ++
        " with ".toList ++ Tool.shellQuoted source)
    else if ← moveTo moving source goal then goals := goal :: goals

/-- How links are made. -/
structure Linking where
  /-- Symbolic ones. -/
  points : Bool
  /-- In place of what stands there. -/
  force : Bool
  /-- In place of it only after asking. -/
  asks : Bool
  /-- To what symbolic links lead to. -/
  follows : Bool
  /-- With paths from where they stand. -/
  relative : Bool
  /-- Tell what is linked. -/
  verbose : Bool

/-- What a symbolic link at a path has to say to lead to a source. -/
def Linking.target (linking : Linking) (source goal : Octets) : Tool Octets := do
  if !linking.relative then return source
  let canonical : Canonical := ⟨.nothing, true⟩
  match ← Tool.program (canonical.path (parentPath goal)),
      ← Tool.program (canonical.path source) with
  | .ok origin, .ok found =>
      return relativePath (Disk.segments origin) (Disk.segments found)
  | _, _ => return source

/-- Link a goal to a source. -/
def linkTo (linking : Linking) (source goal : Octets) : Tool Unit := do
  let source ← linking.target source goal
  let status : Except Code Status ←
    if linking.follows then Tool.program (.status source)
    else Tool.program (.statusHere source)
  match linking.points, status with
  | false, .error code => return ← Tool.grumble 1 (because "failed to access " source code)
  | false, .ok status =>
      if status.form = .directory then
        return ← Tool.grumble 1 (Tool.named source ++
          ": hard link not allowed for directory".toList)
  | true, _ => pure ()
  if linking.force || linking.asks then
    match ← Tool.program (.statusHere goal), status with
    | .ok old, status =>
        if old.form = .directory then
          return ← Tool.grumble 1 (Tool.named goal ++ ": cannot overwrite directory".toList)
        let same : Bool := match status with
          | .ok status => status.serial == old.serial && lastSegment source == lastSegment goal
          | .error _ => false
        if same then
          return ← Tool.grumble 1 (Tool.shellQuoted source ++ " and ".toList ++
            Tool.shellQuoted goal ++ " are the same file".toList)
        if linking.asks then
          if !(← agrees ("replace ".toList ++ Tool.shellQuoted goal)) then
            return ← Tool.fail 1
        let _ ← Tool.program (.change (.unlink goal))
    | .error _, _ => pure ()
  let existing : Octets ←
    if linking.follows && !linking.points then
      match ← Tool.program (Canonical.path ⟨.all, true⟩ source) with
      | .ok path => pure path
      | .error _ => pure source
    else pure source
  let change : Disk.Change :=
    if linking.points then .makeLink source goal else .link existing goal
  match ← Tool.program (.change change) with
  | .ok () =>
      if linking.verbose then
        Tool.printLine (Tool.shellQuoted goal ++
          (if linking.points then " -> ".toList else " => ".toList) ++ Tool.shellQuoted source)
  | .error code =>
      let brief := if linking.points then code != .nameTooLong && !source.isEmpty
        else code = .exists || code = .noSpace
      let kind := if linking.points then "symbolic" else "hard"
      let arrow := if linking.points then " -> " else " => "
      Tool.grumble 1 ("failed to create ".toList ++ kind.toList ++ " link ".toList ++
        if brief then because "" goal code
        else Tool.shellQuoted goal ++ because arrow source code)

/-- Where links go.  A target directory that is no directory is complained about, and a
symbolic link is none if links are not followed.  Two operands may also be a source and a
goal. -/
def linkPlan (linking : Linking) (given : List Given) (operands : List Octets) :
    Tool Plan := do
  match Given.last? given 't' with
  | some directory =>
      match ← Tool.program (.status directory) with
      | .error code => Tool.die 1 (because "failed to access " directory code)
      | .ok status =>
          if status.form != .directory then
            Tool.die 1 ("target ".toList ++ Tool.shellQuoted directory ++
              " is not a directory".toList)
  | none => pure ()
  if linking.relative && !linking.points && !operands.isEmpty then
    Tool.die 1 "cannot do --relative without --symbolic".toList
  if Given.has given 't' || Given.has given 'T' then return ← plan given operands
  match operands with
  | [source] => return ⟨[(source, goalIn ['.'] source)], true⟩
  | _ =>
      let goal := (operands.getLast?).getD []
      let shielded : Bool ←
        if Given.has given 'n' then do
          let directory ← leadsToDirectory false goal
          pure !directory
        else pure (linking.points && !linking.relative && operands.head? == some [])
      if shielded && operands.length = 2 then return ← plan (⟨'T', none⟩ :: given) operands
      if Given.has given 'n' then
        match ← Tool.program (.statusHere goal) with
        | .ok status =>
            if status.form = .link then Tool.die 1 (because "target " goal .notDirectory)
        | .error _ => pure ()
      plan given operands

/-- Give files other names, or make symbolic links. -/
def ln : Work := fun start => do
  let grammar : Grammar :=
    ⟨[.flag 's' "symbolic", .flag 'f' "force", .flag 'i' "interactive",
      .flag 'n' "no-dereference", .flag 'v' "verbose", .value 't' "target-directory",
      .flag 'T' "no-target-directory", .flag 'L' "logical", .flag 'P' "physical",
      .flag 'r' "relative"], true, 1⟩
  let (given, operands) ← grammar.read start.arguments
  let linking : Linking :=
    { points := Given.has given 's'
      force := Given.final? given "fi" == some 'f'
      asks := Given.final? given "fi" == some 'i'
      follows := Given.final? given "LP" == some 'L'
      relative := Given.has given 'r'
      verbose := Given.has given 'v' }
  let plan ← linkPlan linking given operands
  for (source, goal) in plan.pairs do linkTo linking source goal

end Utility
end Host
end Turnwise
