import Std.Data.TreeMap
import Turnwise.Host.Octets
import Turnwise.SystemError

/-!
# Disks

A disk keeps objects under serial numbers: files, directories, symbolic links, queues
and devices.  A directory gives names to objects, and a file may have several names.
A path is followed from a directory, one segment after the other; symbolic links on
the way are replaced by what they say, a limited number of times.
-/

namespace Turnwise
namespace Host

open SystemError (Code)

/-- A device. -/
inductive Device where
  /-- Nothing to read, and nothing is kept of what is written. -/
  | null
  /-- Zeros without end. -/
  | zero
  /-- Zeros without end, and no room for anything. -/
  | full
  /-- The terminal, which nobody sits at. -/
  | terminal
  /-- What a process has open under a descriptor. -/
  | descriptor (number : Nat)
  deriving DecidableEq, Repr

/-- What stands under a serial number. -/
inductive Object where
  /-- A file with its content. -/
  | file (content : ByteArray)
  /-- A directory with the one above it and its entries, in order of creation. -/
  | directory (above : Nat) (entries : List (Octets × Nat))
  /-- A symbolic link. -/
  | link (target : Octets)
  /-- A queue between processes. -/
  | queue
  /-- A device. -/
  | device (device : Device)

/-- An object and what is known about it. -/
structure Inode where
  /-- The object. -/
  object : Object
  /-- Who may do what with it, as nine bits. -/
  mode : Nat
  /-- How many entries name it; a removed directory has none. -/
  links : Nat
  /-- When it was last changed, in nanoseconds. -/
  modified : Nat

/-- The form of an object. -/
inductive Form where
  | file
  | directory
  | link
  | queue
  | device
  deriving DecidableEq, Repr

/-- The form of an object. -/
def Object.form : Object → Form
  | .file _ => .file
  | .directory _ _ => .directory
  | .link _ => .link
  | .queue => .queue
  | .device _ => .device

/-- What a process may learn about an object. -/
structure Status where
  /-- Its serial number. -/
  serial : Nat
  /-- Its form. -/
  form : Form
  /-- Who may do what with it. -/
  mode : Nat
  /-- How many entries name it. -/
  links : Nat
  /-- How many bytes it holds. -/
  size : Nat
  /-- When it was last changed, in nanoseconds. -/
  modified : Nat
  deriving DecidableEq, Repr

/-- How a file is to be opened. -/
structure Opening where
  /-- For reading. -/
  reads : Bool := false
  /-- For writing. -/
  writes : Bool := false
  /-- Every write goes to the end. -/
  appends : Bool := false
  /-- A missing file is made. -/
  creates : Bool := false
  /-- The file must not be there yet. -/
  excludes : Bool := false
  /-- What the file holds is dropped. -/
  truncates : Bool := false
  deriving DecidableEq, Repr

namespace Opening

/-- Read a file. -/
def reading : Opening := { reads := true }

/-- Write a file from its beginning. -/
def writing : Opening := { writes := true, creates := true, truncates := true }

/-- Write at the end of a file. -/
def appending : Opening := { writes := true, appends := true, creates := true }

/-- Read and write a file. -/
def updating : Opening := { reads := true, writes := true, creates := true }

end Opening

/-- A disk. -/
structure Disk where
  /-- The objects. -/
  inodes : Std.TreeMap Nat Inode
  /-- The next serial number. -/
  fresh : Nat

/-- Where a path leads. -/
structure Place where
  /-- The directory in which the last segment is looked up. -/
  directory : Nat
  /-- The last segment. -/
  name : Octets
  /-- What stands there. -/
  object : Option Nat
  deriving DecidableEq, Repr

/-- What following some segments leads to. -/
inductive Stride where
  /-- To a place. -/
  | reached (place : Place)
  /-- To a symbolic link in a directory, with segments left. -/
  | link (directory : Nat) (target : Octets) (rest : List Octets)
  /-- To a failure. -/
  | failed (code : Code)

/-- From where and when a process looks at a disk. -/
structure Viewpoint where
  /-- The current directory. -/
  directory : Nat
  /-- The permissions that new objects do not get. -/
  mask : Nat
  /-- The time, in nanoseconds. -/
  now : Nat
  deriving DecidableEq, Repr

namespace Disk

/-- The serial number of the root directory. -/
def root : Nat := 0

/-- A disk with an empty root directory. -/
def empty : Disk :=
  ⟨Std.TreeMap.empty.insert root ⟨.directory root [], 0o755, 2, 0⟩, 1⟩

/-- The object under a serial number. -/
def inode? (disk : Disk) (serial : Nat) : Option Inode :=
  disk.inodes[serial]?

/-- Put an object under a serial number. -/
def set (disk : Disk) (serial : Nat) (inode : Inode) : Disk :=
  { disk with inodes := disk.inodes.insert serial inode }

/-- Change the object under a serial number. -/
def update (disk : Disk) (serial : Nat) (change : Inode → Inode) : Disk :=
  match disk.inode? serial with
  | some inode => disk.set serial (change inode)
  | none => disk

/-- The directory above a directory, and its entries. -/
def directory? (disk : Disk) (serial : Nat) : Option (Nat × List (Octets × Nat)) :=
  match disk.inode? serial with
  | some ⟨.directory above entries, _, _, _⟩ => some (above, entries)
  | _ => none

/-- Whether a directory stands under a serial number. -/
def isDirectory (disk : Disk) (serial : Nat) : Bool :=
  (disk.directory? serial).isSome

/-- The entries of a directory. -/
def entries (disk : Disk) (serial : Nat) : List (Octets × Nat) :=
  ((disk.directory? serial).map (·.2)).getD []

/-- What a name stands for in a directory. -/
def entry? (disk : Disk) (serial : Nat) (name : Octets) : Option Nat :=
  ((disk.entries serial).find? (·.1 == name)).map (·.2)

/-- What is known about the object under a serial number. -/
def status? (disk : Disk) (serial : Nat) : Option Status :=
  (disk.inode? serial).map fun inode =>
    { serial := serial
      form := inode.object.form
      mode := inode.mode
      links := inode.links
      size :=
        match inode.object with
        | .file content => content.size
        | .directory _ _ => 4096
        | .link target => target.length
        | _ => 0
      modified := inode.modified }

/-- The longest segment of a path. -/
def segmentLimit : Nat := 255

/-- No path is as long as this. -/
def pathLimit : Nat := 4096

/-- How many symbolic links may be followed for one path. -/
def linkLimit : Nat := 40

/-- The segments of a path. -/
def segments (path : Octets) : List Octets :=
  (path.splitOn '/').filter (!·.isEmpty)

/-- Whether a path begins at the root. -/
def isAbsolute (path : Octets) : Bool :=
  path.head? == some '/'

/-- Follow segments from a directory until they end or a symbolic link comes; a link
that stands last is passed over when it is not to be followed. -/
def stride (disk : Disk) (follows : Bool) : Nat → List Octets → Stride
  | serial, [] => .reached ⟨serial, ['.'], some serial⟩
  | serial, name :: rest =>
      match disk.directory? serial with
      | none => .failed .notDirectory
      | some (above, entries) =>
          if name = ['.'] then stride disk follows serial rest
          else if name = ['.', '.'] then
            if rest.isEmpty then .reached ⟨above, name, some above⟩
            else stride disk follows above rest
          else if segmentLimit < name.length then .failed .nameTooLong
          else
            match entries.find? (·.1 == name) with
            | none =>
                if rest.isEmpty then .reached ⟨serial, name, none⟩ else .failed .noEntry
            | some (_, found) =>
                match disk.inode? found with
                | some ⟨.link target, _, _, _⟩ =>
                    if rest.isEmpty && !follows then .reached ⟨serial, name, some found⟩
                    else .link serial target rest
                | _ =>
                    if rest.isEmpty then .reached ⟨serial, name, some found⟩
                    else stride disk follows found rest

/-- Follow segments from a directory, and a limited number of symbolic links. -/
def pursue (disk : Disk) (follows : Bool) :
    (limit : Nat) → Nat → List Octets → Except Code Place
  | 0, _, _ => .error .tooManyLinks
  | limit + 1, serial, path =>
      match disk.stride follows serial path with
      | .reached place => .ok place
      | .failed code => .error code
      | .link directory target rest =>
          if target.isEmpty then .error .noEntry
          else
            pursue disk follows limit (if isAbsolute target then root else directory)
              (segments target ++ rest)

/-- Where a path leads from a directory.  A path that ends in a slash leads to a
directory, if to anything. -/
def resolve (disk : Disk) (current : Nat) (follows : Bool) (path : Octets) :
    Except Code Place := do
  if path.isEmpty then throw .noEntry
  if pathLimit ≤ path.length then throw .nameTooLong
  let origin := if isAbsolute path then root else current
  let open_ := Text.endsIn '/' path
  let place ← disk.pursue (follows || open_) (linkLimit + 1) origin (segments path)
  match place.object with
  | some serial => if open_ && !disk.isDirectory serial then throw .notDirectory
  | none => pure ()
  return place

/-- Where the last name of a path stands, whether or not a slash comes after it.  A symbolic
link there is not followed. -/
def locate (disk : Disk) (current : Nat) (path : Octets) : Except Code Place := do
  if pathLimit ≤ path.length then throw .nameTooLong
  let bare : Octets := path.dropEndWhile (· == '/')
  disk.resolve current false (if bare.isEmpty then path else bare)

/-- The object that a path leads to. -/
def find (disk : Disk) (current : Nat) (follows : Bool) (path : Octets) :
    Except Code Nat := do
  match (← disk.resolve current follows path).object with
  | some serial => return serial
  | none => throw .noEntry

/-- What is known about the object that a path leads to. -/
def status (disk : Disk) (current : Nat) (follows : Bool) (path : Octets) :
    Except Code Status := do
  match disk.status? (← disk.find current follows path) with
  | some status => return status
  | none => throw .noEntry

/-- Give a name to an object in a directory, in place of what it stood for. -/
def enter (disk : Disk) (directory : Nat) (name : Octets) (serial now : Nat) : Disk :=
  disk.update directory fun inode =>
    match inode.object with
    | .directory above entries =>
        let entries :=
          if entries.any (·.1 == name) then
            entries.map fun entry => if entry.1 == name then (name, serial) else entry
          else entries ++ [(name, serial)]
        { inode with object := .directory above entries, modified := now }
    | _ => inode

/-- Take a name out of a directory. -/
def strike (disk : Disk) (directory : Nat) (name : Octets) (now : Nat) : Disk :=
  disk.update directory fun inode =>
    match inode.object with
    | .directory above entries =>
        { inode with
          object := .directory above (entries.filter (·.1 != name)), modified := now }
    | _ => inode

/-- Change how many entries name an object. -/
def relink (disk : Disk) (serial : Nat) (count : Nat → Nat) : Disk :=
  disk.update serial fun inode => { inode with links := count inode.links }

/-- Keep a new object under a name. -/
def create (disk : Disk) (directory : Nat) (name : Octets) (object : Object)
    (mode now : Nat) : Nat × Disk :=
  let serial := disk.fresh
  let links := if object.form = .directory then 2 else 1
  let made := { disk.set serial ⟨object, mode, links, now⟩ with fresh := serial + 1 }
  let named := made.enter directory name serial now
  (serial, if object.form = .directory then named.relink directory (· + 1) else named)

/-- A permission without the bits of a mask. -/
def permitted (mode mask : Nat) : Nat :=
  mode &&& (0o7777 ^^^ (mask &&& 0o777))

/-- A place at which a new object can be kept: nothing stands there, and its directory
has not been removed. -/
def vacant (disk : Disk) (place : Place) : Except Code Place := do
  if place.object.isSome then throw .exists
  match disk.inode? place.directory with
  | some inode => if inode.links = 0 then throw .noEntry
  | none => throw .noEntry
  return place

/-- A name that ends in a slash is that of a directory, even if nothing or something else
has the name: no file can be made there. -/
def refuseSlash (disk : Disk) (current : Nat) (path : Octets) : Except Code Unit := do
  match (segments path).getLast? with
  | none => return
  | some name =>
      if Text.endsIn '/' path && name != ['.'] && name != ['.', '.'] then
        if pathLimit ≤ path.length then throw .nameTooLong
        let origin := if isAbsolute path then root else current
        let above ← disk.pursue true (linkLimit + 1) origin (segments path).dropLast
        match above.object with
        | none => throw .noEntry
        | some serial =>
            throw (if disk.isDirectory serial then .isDirectory else .notDirectory)

/-- Open the object that a path leads to, or make a file there. -/
def openFile (disk : Disk) (view : Viewpoint) (path : Octets) (opening : Opening) :
    Except Code (Nat × Disk) := do
  if opening.creates then disk.refuseSlash view.directory path
  let follows := !(opening.creates && opening.excludes)
  let place ← disk.resolve view.directory follows path
  match place.object with
  | none =>
      if !opening.creates then throw .noEntry
      let place ← disk.vacant place
      return disk.create place.directory place.name (.file ByteArray.empty)
        (permitted 0o666 view.mask) view.now
  | some serial =>
      if opening.creates && opening.excludes then throw .exists
      match disk.inode? serial with
      | some ⟨.directory _ _, _, _, _⟩ =>
          if opening.writes || opening.creates then throw .isDirectory
          return (serial, disk)
      | some ⟨.file _, mode, links, _⟩ =>
          if Text.endsIn '/' path then throw .notDirectory
          if opening.truncates then
            return (serial, disk.set serial ⟨.file ByteArray.empty, mode, links, view.now⟩)
          else return (serial, disk)
      | some ⟨.device .terminal, _, _, _⟩ => throw .noDevice
      | some _ => return (serial, disk)
      | none => throw .noEntry

/-- The content of the file under a serial number. -/
def content? (disk : Disk) (serial : Nat) : Option ByteArray :=
  match disk.inode? serial with
  | some ⟨.file content, _, _, _⟩ => some content
  | _ => none

/-- Bytes written over others from a position; a gap is filled with zeros. -/
def overwrite (content : ByteArray) (position : Nat) (bytes : ByteArray) : ByteArray :=
  if position = content.size then content ++ bytes
  else
    let before :=
      if position ≤ content.size then content.extract 0 position
      else content ++ ⟨(Array.replicate (position - content.size) 0)⟩
    before ++ bytes ++ content.extract (position + bytes.size) content.size

/-- Write to the file under a serial number from a position. -/
def writeAt (disk : Disk) (serial position : Nat) (bytes : ByteArray) (now : Nat) : Disk :=
  disk.update serial fun inode =>
    match inode.object with
    | .file content =>
        { inode with object := .file (overwrite content position bytes), modified := now }
    | _ => inode

/-- The names that lead from the root to a directory. -/
def namesTo? (disk : Disk) : (limit : Nat) → (serial : Nat) → Option (List Octets)
  | 0, _ => none
  | limit + 1, serial =>
      if serial = root then some []
      else
        match disk.directory? serial with
        | none => none
        | some (above, _) =>
            match (disk.entries above).find? (·.2 == serial) with
            | none => none
            | some (name, _) => (namesTo? disk limit above).map (· ++ [name])

/-- The path of a directory from the root; a removed directory has none. -/
def pathTo? (disk : Disk) (serial : Nat) : Option Octets :=
  (disk.namesTo? disk.fresh serial).map fun names =>
    if names.isEmpty then ['/'] else names.flatMap ('/' :: ·)

/-- Whether a directory lies in another one, or is it. -/
def isInside (disk : Disk) : (limit : Nat) → (inner outer : Nat) → Bool
  | 0, _, _ => false
  | limit + 1, inner, outer =>
      inner == outer ||
        (inner != root &&
          match disk.directory? inner with
          | some (above, _) => isInside disk limit above outer
          | none => false)

/-- A change of the names on a disk. -/
inductive Change where
  /-- Make a directory. -/
  | makeDirectory (path : Octets) (mode : Nat)
  /-- Remove an empty directory. -/
  | removeDirectory (path : Octets)
  /-- Take a name from a file. -/
  | unlink (path : Octets)
  /-- Give a file another name. -/
  | link (existing path : Octets)
  /-- Make a symbolic link. -/
  | makeLink (target path : Octets)
  /-- Make a queue. -/
  | makeQueue (path : Octets) (mode : Nat)
  /-- Move an object from one name to another. -/
  | rename (source target : Octets)
  /-- Say who may do what. -/
  | permit (path : Octets) (mode : Nat)
  /-- Set the time of the last change. -/
  | stamp (path : Octets) (time : Nat)
  /-- Cut or fill up a file to a size. -/
  | resize (path : Octets) (size : Nat)

/-- A place at which a name can be given to what is no directory, so that no slash comes
after the name. -/
def vacantFile (disk : Disk) (view : Viewpoint) (path : Octets) : Except Code Place := do
  let place ← disk.locate view.directory path
  if place.object.isNone && Text.endsIn '/' path then throw .noEntry
  disk.vacant place

/-- Make an object that is no directory at a path that leads to nothing. -/
def makeAt (disk : Disk) (view : Viewpoint) (path : Octets) (object : Object)
    (mode : Nat) : Except Code Disk := do
  let place ← disk.vacantFile view path
  return (disk.create place.directory place.name object mode view.now).2

/-- Remove the empty directory that a path leads to; a symbolic link is no directory. -/
def removeDirectoryAt (disk : Disk) (view : Viewpoint) (path : Octets) :
    Except Code Disk := do
  let place ← disk.locate view.directory path
  match place.object with
  | none => throw .noEntry
  | some serial =>
      let last := ((segments path).getLast?).getD []
      if serial = root then throw .busy
      if last = ['.'] then throw .invalid
      if last = ['.', '.'] then throw .notEmpty
      if !disk.isDirectory serial then throw .notDirectory
      if !(disk.entries serial).isEmpty then throw .notEmpty
      return ((disk.strike place.directory place.name view.now).relink
        place.directory (· - 1)).relink serial fun _ => 0

/-- Take from a file the name that a path leads to. -/
def unlinkAt (disk : Disk) (view : Viewpoint) (path : Octets) : Except Code Disk := do
  let place ← disk.locate view.directory path
  match place.object with
  | none => throw .noEntry
  | some serial =>
      if disk.isDirectory serial then throw .isDirectory
      if Text.endsIn '/' path then throw .notDirectory
      return (disk.strike place.directory place.name view.now).relink serial (· - 1)

/-- Give the file that a path leads to another name. -/
def linkAt (disk : Disk) (view : Viewpoint) (existing path : Octets) :
    Except Code Disk := do
  let serial ← disk.find view.directory false existing
  let place ← disk.vacantFile view path
  if disk.isDirectory serial then throw .notPermitted
  return (disk.enter place.directory place.name serial view.now).relink serial (· + 1)

/-- Move an object from one name to another. -/
def renameAt (disk : Disk) (view : Viewpoint) (source target : Octets) :
    Except Code Disk := do
  let origin ← disk.locate view.directory source
  let goal ← disk.locate view.directory target
  let dotted (path : Octets) : Bool :=
    match (segments path).getLast? with
    | some last => last = ['.'] || last = ['.', '.']
    | none => true
  match origin.object with
  | none => throw .noEntry
  | some moved =>
      if dotted source || dotted target then throw .busy
      let directory := disk.isDirectory moved
      if !directory && (Text.endsIn '/' source || Text.endsIn '/' target) then
        throw .notDirectory
      if directory && disk.isInside disk.fresh goal.directory moved then throw .invalid
      let cleared ←
        match goal.object with
        | none => do
            let _ ← disk.vacant goal
            pure disk
        | some old =>
            if old = moved then return disk
            if directory && !disk.isDirectory old then throw .notDirectory
            if !directory && disk.isDirectory old then throw .isDirectory
            if !(disk.entries old).isEmpty then throw .notEmpty
            pure <|
              if directory then (disk.relink old fun _ => 0).relink goal.directory (· - 1)
              else disk.relink old (· - 1)
      let moved_ := (cleared.strike origin.directory origin.name view.now).enter
        goal.directory goal.name moved view.now
      if directory then
        return ((moved_.relink origin.directory (· - 1)).relink goal.directory (· + 1)).update
          moved fun inode =>
            match inode.object with
            | .directory _ entries => { inode with object := .directory goal.directory entries }
            | _ => inode
      else return moved_

/-- Make a change, seen from a viewpoint. -/
def apply (disk : Disk) (view : Viewpoint) : Change → Except Code Disk
  | .makeDirectory path mode => do
      let place ← disk.vacant (← disk.locate view.directory path)
      return (disk.create place.directory place.name (.directory place.directory [])
        (permitted mode view.mask) view.now).2
  | .removeDirectory path => disk.removeDirectoryAt view path
  | .unlink path => disk.unlinkAt view path
  | .link existing path => disk.linkAt view existing path
  | .makeLink target path =>
      if target.isEmpty then .error .noEntry
      else disk.makeAt view path (.link target) 0o777
  | .makeQueue path mode =>
      disk.makeAt view path .queue (permitted mode view.mask)
  | .rename source target => disk.renameAt view source target
  | .permit path mode => do
      let serial ← disk.find view.directory true path
      return disk.update serial fun inode => { inode with mode := mode }
  | .stamp path time => do
      let serial ← disk.find view.directory true path
      return disk.update serial fun inode => { inode with modified := time }
  | .resize path size => do
      let serial ← disk.find view.directory true path
      if disk.isDirectory serial then throw .isDirectory
      return disk.update serial fun inode =>
        match inode.object with
        | .file content =>
            { inode with
              object := .file (overwrite (content.extract 0 size) (min size content.size)
                ⟨Array.replicate (size - content.size) 0⟩)
              modified := view.now }
        | _ => inode

/-- Make the directories that lead to a path, as far as they are missing, and give the
serial number of the last. -/
def makeDirectories (disk : Disk) (serial : Nat) : List Octets → Except Code (Nat × Disk)
  | [] => .ok (serial, disk)
  | name :: rest =>
      match disk.pursue true (linkLimit + 1) serial [name] with
      | .error code => .error code
      | .ok place =>
          match place.object with
          | some found =>
              if disk.isDirectory found then makeDirectories disk found rest
              else .error .notDirectory
          | none =>
              let (made, disk) := disk.create place.directory place.name
                (.directory place.directory []) 0o755 0
              makeDirectories disk made rest

/-- Make the directories that lead along segments, until something stands in the way. -/
def makeReachable (disk : Disk) (serial : Nat) : List Octets → Disk
  | [] => disk
  | name :: rest =>
      match disk.makeDirectories serial [name] with
      | .ok (next, disk) => makeReachable disk next rest
      | .error _ => disk

/-- Put a file at an absolute path, with the directories that lead to it. -/
def place (disk : Disk) (path : Octets) (object : Object) (mode : Nat) : Disk :=
  match (segments path).getLast?, disk.makeDirectories root (segments path).dropLast with
  | some name, .ok (directory, disk) =>
      match disk.entry? directory name with
      | some serial => disk.set serial ⟨object, mode, 1, 0⟩
      | none => (disk.create directory name object mode 0).2
  | _, _ => disk

/-- Make a directory at an absolute path, with those that lead to it. -/
def placeDirectory (disk : Disk) (path : Octets) : Disk :=
  match disk.makeDirectories root (segments path) with
  | .ok (_, disk) => disk
  | .error _ => disk

/-- Remove all that stands in a directory; what is removed keeps no names. -/
def clear (disk : Disk) : (limit : Nat) → (serial : Nat) → Disk
  | 0, _ => disk
  | limit + 1, serial =>
      (disk.entries serial).foldl
        (fun disk entry =>
          let disk := disk.clear limit entry.2
          (disk.strike serial entry.1 0).relink entry.2 fun links =>
            if disk.isDirectory entry.2 then 0 else links - 1) disk

/-- The files that stand directly in a directory or that links there lead to, by name. -/
def files (disk : Disk) (serial : Nat) : List (Octets × ByteArray) :=
  (disk.entries serial).filterMap fun entry => do
    let place ← (disk.pursue true (linkLimit + 1) serial [entry.1]).toOption
    let content ← disk.content? (← place.object)
    return (entry.1, content)

end Disk
end Host
end Turnwise
