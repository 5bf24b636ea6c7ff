import Turnwise.Host.Task

/-!
# The system

The system keeps a disk, the processes, what they have open, and a clock.  It answers
the requests of processes, one process at a time: a process runs until its request
cannot be answered yet, and then the next one takes its turn.  When all processes wait,
the clock moves to the time for which the first of them sleeps.

Whether a pipe still has readers or writers is seen from what the processes have open,
so that a process that ends can leave nothing behind.
-/

namespace Turnwise
namespace Host

open SystemError (Code)

/-- What a descriptor leads to. -/
inductive Channel where
  /-- An object of the disk. -/
  | object (serial : Nat)
  /-- A pipe, or the queue of an object. -/
  | pipe (key : Nat)
  /-- What somebody outside collects. -/
  | sink (index : Nat)
  deriving DecidableEq, Repr

/-- An open channel, which descriptors of several processes may share. -/
structure Description where
  /-- The channel. -/
  channel : Channel
  /-- Whether it can be read. -/
  reads : Bool
  /-- Whether it can be written. -/
  writes : Bool
  /-- Whether every write goes to the end. -/
  appends : Bool
  /-- Where the next read or write takes place. -/
  position : Nat
  deriving DecidableEq, Repr

/-- What was written to a pipe and not read. -/
structure Pipe where
  /-- The oldest pieces, in order. -/
  front : List Octets
  /-- The newest pieces, the newest first. -/
  back : List Octets
  /-- How many bytes there are. -/
  size : Nat

namespace Pipe

/-- A pipe with nothing in it. -/
def empty : Pipe := ⟨[], [], 0⟩

/-- How many bytes a pipe may hold before writers have to wait. -/
def capacity : Nat := 65536

/-- Write to a pipe. -/
def push (pipe : Pipe) (octets : Octets) : Pipe :=
  ⟨pipe.front, octets :: pipe.back, pipe.size + octets.length⟩

/-- Take at most a number of bytes from pieces, given what was taken before, the last
piece first. -/
def takeFrom : (count : Nat) → List Octets → (taken : List Octets) → Octets × List Octets
  | _, [], taken => (taken.reverse.flatten, [])
  | count, piece :: rest, taken =>
      if count = 0 then (taken.reverse.flatten, piece :: rest)
      else
        let part := piece.take count
        if part.length < piece.length then
          ((part :: taken).reverse.flatten, piece.drop count :: rest)
        else takeFrom (count - part.length) rest (part :: taken)

/-- Read at most a number of bytes. -/
def pull (pipe : Pipe) (count : Nat) : Octets × Pipe :=
  let pieces := if pipe.back.isEmpty then pipe.front else pipe.front ++ pipe.back.reverse
  let (taken, rest) := takeFrom count pieces []
  (taken, ⟨rest, [], pipe.size - taken.length⟩)

end Pipe

/-- A descriptor of a process. -/
structure Handle where
  /-- Its number. -/
  number : Nat
  /-- The number of what it leads to. -/
  description : Nat
  /-- Whether it is closed when the process becomes another program. -/
  withheld : Bool
  deriving DecidableEq, Repr

/-- What a process is doing. -/
inductive Phase where
  /-- It has something to do. -/
  | active (task : Task)
  /-- It has ended, and nobody has asked how. -/
  | ended (ending : Ending)

/-- A process. -/
structure Process where
  /-- Its parent. -/
  parent : Nat
  /-- Its group. -/
  group : Nat
  /-- Its current directory. -/
  directory : Nat
  /-- The permissions that its new objects do not get. -/
  mask : Nat
  /-- Its descriptors. -/
  handles : List Handle
  /-- What it does about signals, where that is not the standard. -/
  dispositions : List (Signal × Disposition)
  /-- The signals that it has caught and not looked at. -/
  pending : List Signal
  /-- Whether a signal has stopped it. -/
  stopped : Bool
  /-- What it is doing. -/
  phase : Phase

/-- The system. -/
structure Kernel where
  /-- The disk. -/
  disk : Disk
  /-- The open channels. -/
  descriptions : Std.TreeMap Nat Description
  /-- The number of the next open channel. -/
  freshDescription : Nat
  /-- The pipes, those of queues under odd keys. -/
  pipes : Std.TreeMap Nat Pipe
  /-- The number of the next pipe. -/
  freshPipe : Nat
  /-- What was written to each sink, the newest piece first. -/
  sinks : Std.TreeMap Nat (List Octets)
  /-- The number of the next sink. -/
  freshSink : Nat
  /-- The processes. -/
  processes : Std.TreeMap Nat Process
  /-- The number of the next process. -/
  freshProcess : Nat
  /-- The processes in the order of their turns. -/
  order : List Nat
  /-- Nanoseconds since the system was started. -/
  clock : Nat
  /-- How many requests will still be answered. -/
  budget : Nat

namespace Process

/-- What a process does about a signal. -/
def disposition (process : Process) (signal : Signal) : Disposition :=
  ((process.dispositions.find? (·.1 == signal)).map (·.2)).getD .standard

/-- The number of the channel under a descriptor. -/
def description? (process : Process) (descriptor : Nat) : Option Nat :=
  (process.handles.find? (·.number == descriptor)).map (·.description)

/-- Drop a descriptor. -/
def drop (process : Process) (descriptor : Nat) : Process :=
  { process with handles := process.handles.filter (·.number != descriptor) }

/-- Put a channel under a descriptor, in place of what it led to. -/
def attach (process : Process) (descriptor description : Nat) (withheld : Bool) : Process :=
  { process with
    handles := ⟨descriptor, description, withheld⟩ ::
      process.handles.filter (·.number != descriptor) }

/-- The least free descriptor that is not below a bound. -/
def freeDescriptor (process : Process) (least : Nat) : Nat :=
  ((List.range (process.handles.length + 1)).map (· + least)).find?
    (fun number => !process.handles.any (·.number == number)) |>.getD least

/-- Whether the process has ended. -/
def hasEnded (process : Process) : Bool :=
  process.phase matches .ended _

end Process

namespace Kernel

/-- The process that starts jobs. -/
def host : Nat := 1

/-- The parent of processes whose parent has ended. -/
def nobody : Nat := 0

/-- A system over a disk, with no processes. -/
def ofDisk (disk : Disk) : Kernel where
  disk := disk
  descriptions := .empty
  freshDescription := 0
  pipes := .empty
  freshPipe := 0
  sinks := .empty
  freshSink := 0
  processes := .empty
  freshProcess := 4001
  order := []
  clock := 1700000000000000000
  budget := 0

/-- From where a process looks at the disk. -/
def view (kernel : Kernel) (process : Process) : Viewpoint :=
  ⟨process.directory, process.mask, kernel.clock⟩

/-- Change a process. -/
def update (kernel : Kernel) (number : Nat) (change : Process → Process) : Kernel :=
  match kernel.processes[number]? with
  | some process => { kernel with processes := kernel.processes.insert number (change process) }
  | none => kernel

/-- Open a channel. -/
def openChannel (kernel : Kernel) (description : Description) : Nat × Kernel :=
  (kernel.freshDescription,
    { kernel with
      descriptions := kernel.descriptions.insert kernel.freshDescription description
      freshDescription := kernel.freshDescription + 1 })

/-- What a descriptor of a process leads to. -/
def description? (kernel : Kernel) (process : Process) (descriptor : Nat) :
    Option (Nat × Description) := do
  let number ← process.description? descriptor
  let description ← kernel.descriptions[number]?
  return (number, description)

/-- Move the position of a channel. -/
def setPosition (kernel : Kernel) (number position : Nat) : Kernel :=
  match kernel.descriptions[number]? with
  | some description =>
      { kernel with
        descriptions := kernel.descriptions.insert number
          { description with position := position } }
  | none => kernel

/-- Whether some process has a channel open that satisfies a test. -/
def isHeld (kernel : Kernel) (test : Description → Bool) : Bool :=
  kernel.processes.any fun _ process =>
    process.handles.any fun handle =>
      (kernel.descriptions[handle.description]?).any test

/-- The key of the pipe behind a queue. -/
def queueKey (serial : Nat) : Nat := 2 * serial + 1

/-- Whether a process waits to open a queue in a certain way. -/
def isOpening (kernel : Kernel) (serial : Nat) (test : Opening → Bool) : Bool :=
  kernel.processes.any fun _ process =>
    match process.phase with
    | .active (.call (.openFile path opening) _) =>
        test opening &&
          (match kernel.disk.find process.directory true path with
          | .ok found => found == serial
          | .error _ => false)
    | _ => false

/-- Whether a process waits to open the queue behind a pipe in a certain way. -/
def isOpeningKey (kernel : Kernel) (key : Nat) (test : Opening → Bool) : Bool :=
  key % 2 == 1 && kernel.isOpening (key / 2) test

/-- Whether somebody may still write to a pipe. -/
def hasWriters (kernel : Kernel) (key : Nat) : Bool :=
  kernel.isHeld (fun description => description.channel == .pipe key && description.writes) ||
    kernel.isOpeningKey key (·.writes)

/-- Whether somebody may still read from a pipe. -/
def hasReaders (kernel : Kernel) (key : Nat) : Bool :=
  kernel.isHeld (fun description => description.channel == .pipe key && description.reads) ||
    kernel.isOpeningKey key (·.reads)

/-- Whether a sink may still get something. -/
def isFed (kernel : Kernel) (index : Nat) : Bool :=
  kernel.isHeld fun description => description.channel == .sink index

/-- End a process.  Its children are nobody's, and nobody asks how they end. -/
def finish (kernel : Kernel) (number : Nat) (ending : Ending) : Kernel :=
  match kernel.processes[number]? with
  | none => kernel
  | some process =>
      if process.hasEnded then kernel
      else
        let orphaned := kernel.processes.filterMap fun _ child =>
          if child.parent = number then
            if child.hasEnded then none else some { child with parent := nobody }
          else some child
        { kernel with
          processes :=
            if process.parent = nobody then orphaned.erase number
            else orphaned.insert number
              { process with handles := [], phase := .ended ending, pending := [] }
          order := kernel.order.filter (· != number) }

/-- Let a signal reach a process. -/
def deliver (kernel : Kernel) (number : Nat) (signal : Signal) : Kernel :=
  match kernel.processes[number]? with
  | none => kernel
  | some process =>
      if process.hasEnded || signal = 0 then kernel
      else
        let disposition := if signal = .kill || signal = 19 then .standard
          else process.disposition signal
        match disposition with
        | .caught =>
            kernel.update number fun process =>
              { process with
                pending := process.pending.filter (· != signal) ++ [signal], stopped := false }
        | .ignored =>
            if signal = .proceed then
              kernel.update number fun process => { process with stopped := false }
            else kernel
        | .standard =>
            match Signal.effect signal with
            | .ends => kernel.finish number (.signalled signal)
            | .stops => kernel.update number fun process => { process with stopped := true }
            | .proceeds => kernel.update number fun process => { process with stopped := false }
            | .nothing => kernel

/-- The processes that a signal is sent to. -/
def targets (kernel : Kernel) (sender : Process) (target : Int) : List Nat :=
  match target with
  | .ofNat 0 => members sender.group
  | .ofNat number => if kernel.processes.contains number then [number] else []
  | .negSucc 0 => kernel.processes.keys
  | .negSucc group => members (group + 1)
where
  /-- The processes of a group. -/
  members (group : Nat) : List Nat :=
    (kernel.processes.filter fun _ process => process.group == group).keys

/-- Read from an open channel; nothing is said when the process has to wait. -/
def readFrom
    (kernel : Kernel)
    (process : Process)
    (number : Nat)
    (description : Description)
    (count : Nat) : Option (Except Code Octets × Kernel) :=
  if !description.reads then some (.error .badDescriptor, kernel)
  else
    match description.channel with
    | .sink _ => some (.ok [], kernel)
    | .pipe key =>
        let pipe := (kernel.pipes[key]?).getD .empty
        if 0 < pipe.size then
          let (taken, pipe) := pipe.pull count
          some (.ok taken, { kernel with pipes := kernel.pipes.insert key pipe })
        else if !kernel.hasWriters key then some (.ok [], kernel)
        else if !process.pending.isEmpty then some (.error .interrupted, kernel)
        else none
    | .object serial =>
        match kernel.disk.inode? serial with
        | some ⟨.file content, _, _, _⟩ =>
            let taken := Octets.ofArray content description.position count
            some (.ok taken, kernel.setPosition number (description.position + taken.length))
        | some ⟨.directory _ _, _, _, _⟩ => some (.error .isDirectory, kernel)
        | some ⟨.device .null, _, _, _⟩ => some (.ok [], kernel)
        | some ⟨.device _, _, _, _⟩ => some (.ok (List.replicate count '\x00'), kernel)
        | _ => some (.error .badDescriptor, kernel)

/-- Write to an open channel; nothing is said when the process has to wait. -/
def writeTo
    (kernel : Kernel)
    (self : Nat)
    (process : Process)
    (number : Nat)
    (description : Description)
    (octets : Octets) : Option (Except Code Nat × Kernel) :=
  if !description.writes then some (.error .badDescriptor, kernel)
  else
    match description.channel with
    | .sink index =>
        let pieces := (kernel.sinks[index]?).getD []
        some (.ok octets.length,
          { kernel with sinks := kernel.sinks.insert index (octets :: pieces) })
    | .pipe key =>
        let pipe := (kernel.pipes[key]?).getD .empty
        if !kernel.hasReaders key then
          some (.error .brokenPipe, kernel.deliver self .pipe)
        else if pipe.size < Pipe.capacity then
          some (.ok octets.length,
            { kernel with pipes := kernel.pipes.insert key (pipe.push octets) })
        else if !process.pending.isEmpty then some (.error .interrupted, kernel)
        else none
    | .object serial =>
        match kernel.disk.inode? serial with
        | some ⟨.file content, _, _, _⟩ =>
            let position := if description.appends then content.size else description.position
            let kernel := { kernel with
              disk := kernel.disk.writeAt serial position (Octets.toArray octets) kernel.clock }
            some (.ok octets.length, kernel.setPosition number (position + octets.length))
        | some ⟨.device .full, _, _, _⟩ => some (.error .noSpace, kernel)
        | some ⟨.device _, _, _, _⟩ => some (.ok octets.length, kernel)
        | _ => some (.error .badDescriptor, kernel)

/-- Give a process a descriptor for a channel. -/
def grant
    (kernel : Kernel)
    (self : Nat)
    (process : Process)
    (channel : Channel)
    (opening : Opening) : Nat × Kernel :=
  let (number, kernel) := kernel.openChannel
    ⟨channel, opening.reads, opening.writes, opening.appends, 0⟩
  let descriptor := process.freeDescriptor 0
  (descriptor, kernel.update self fun process => process.attach descriptor number false)

/-- Open again what a process has open under a descriptor. -/
def reopen
    (kernel : Kernel)
    (self : Nat)
    (process : Process)
    (descriptor : Nat)
    (opening : Opening) : Except Code Nat × Kernel :=
  match kernel.description? process descriptor with
  | none => (.error .noEntry, kernel)
  | some (_, description) =>
      match description.channel, opening.truncates with
      | .object serial, true =>
          let kernel := { kernel with
            disk := kernel.disk.update serial fun inode =>
              match inode.object with
              | .file _ =>
                  { inode with object := .file ByteArray.empty, modified := kernel.clock }
              | _ => inode }
          let (descriptor, kernel) := kernel.grant self process description.channel opening
          (.ok descriptor, kernel)
      | channel, _ =>
          let (descriptor, kernel) := kernel.grant self process channel opening
          (.ok descriptor, kernel)

/-- Open a file for a process.  A queue opens when there is somebody at its other
end. -/
def openFor
    (kernel : Kernel)
    (self : Nat)
    (process : Process)
    (path : Octets)
    (opening : Opening) : Option (Except Code Nat × Kernel) :=
  match kernel.disk.openFile (kernel.view process) path opening with
  | .error code => some (.error code, kernel)
  | .ok (serial, disk) =>
      let kernel := { kernel with disk := disk }
      match disk.inode? serial with
      | some ⟨.device (.descriptor number), _, _, _⟩ =>
          some (kernel.reopen self process number opening)
      | some ⟨.queue, _, _, _⟩ =>
          let key := queueKey serial
          let met := (opening.reads && opening.writes) ||
            (if opening.reads then kernel.hasWriters key else kernel.hasReaders key)
          if met then
            let (descriptor, kernel) := kernel.grant self process (.pipe key) opening
            some (.ok descriptor, kernel)
          else if !process.pending.isEmpty then some (.error .interrupted, kernel)
          else none
      | _ =>
          let (descriptor, kernel) := kernel.grant self process (.object serial) opening
          some (.ok descriptor, kernel)

/-- What is known about what a descriptor leads to. -/
def statusOf (kernel : Kernel) (process : Process) (descriptor : Nat) : Except Code Status :=
  match kernel.description? process descriptor with
  | none => .error .badDescriptor
  | some (number, description) =>
      match description.channel with
      | .object serial =>
          match kernel.disk.status? serial with
          | some status => .ok status
          | none => .error .badDescriptor
      | .pipe key => .ok ⟨1000000 + key, .queue, 0o600, 1, 0, kernel.clock⟩
      | .sink _ => .ok ⟨2000000 + number, .queue, 0o600, 1, 0, kernel.clock⟩

/-- What is known about the object that a path leads to. -/
def statusAt (kernel : Kernel) (process : Process) (path : Octets) (follows : Bool) :
    Except Code Status := do
  let serial ← kernel.disk.find process.directory follows path
  match kernel.disk.inode? serial, follows with
  | some ⟨.device (.descriptor number), _, _, _⟩, true =>
      (kernel.statusOf process number).mapError fun _ => .noEntry
  | _, _ =>
      match kernel.disk.status? serial with
      | some status => return status
      | none => throw .noEntry

/-- The content of a file that can be executed, seen from a directory. -/
def load (kernel : Kernel) (directory : Nat) (path : Octets) : Except Code Octets := do
  let serial ← kernel.disk.find directory true path
  match kernel.disk.inode? serial with
  | some ⟨.file content, mode, _, _⟩ =>
      if mode &&& 0o111 = 0 then throw .accessDenied
      return Octets.ofArray content 0 content.size
  | _ => throw .accessDenied

/-- Look for a child that has ended. -/
def awaitChild
    (kernel : Kernel)
    (self : Nat)
    (process : Process)
    (child : Option Nat)
    (patience : Patience) : Option (Except Code (Option (Nat × Ending)) × Kernel) :=
  let children := kernel.processes.filter fun number candidate =>
    candidate.parent == self && (child.isNone || child == some number)
  let ended := children.toList.findSome? fun (number, candidate) =>
    match candidate.phase with
    | .ended ending => some (number, ending)
    | .active _ => none
  if children.isEmpty then some (.error .noChild, kernel)
  else
    match ended, patience with
    | some found, _ =>
        some (.ok (some found), { kernel with processes := kernel.processes.erase found.1 })
    | none, .none => some (.ok none, kernel)
    | none, .upTo time =>
        if time ≤ kernel.clock then some (.ok none, kernel)
        else if !process.pending.isEmpty then some (.error .interrupted, kernel)
        else none
    | none, .endless =>
        if !process.pending.isEmpty then some (.error .interrupted, kernel) else none
    | none, .deaf => none

/-- Answer a request, or say nothing when the process has to wait. -/
def answer (kernel : Kernel) (self : Nat) (process : Process) :
    (request : Request) → Option (request.Reply × Kernel)
  | .pause => some ((), kernel)
  | .spin => none
  | .read descriptor count =>
      match kernel.description? process descriptor with
      | none => some (.error .badDescriptor, kernel)
      | some (number, description) => kernel.readFrom process number description count
  | .write descriptor octets =>
      match kernel.description? process descriptor with
      | none => some (.error .badDescriptor, kernel)
      | some (number, description) => kernel.writeTo self process number description octets
  | .openFile path opening => kernel.openFor self process path opening
  | .close descriptor =>
      if (process.description? descriptor).isSome then
        some (.ok (), kernel.update self (·.drop descriptor))
      else some (.error .badDescriptor, kernel)
  | .duplicate descriptor least withheld =>
      match process.description? descriptor with
      | none => some (.error .badDescriptor, kernel)
      | some description =>
          let free := process.freeDescriptor least
          some (.ok free, kernel.update self (·.attach free description withheld))
  | .connect descriptor target =>
      match process.description? descriptor with
      | none => some (.error .badDescriptor, kernel)
      | some description =>
          some (.ok (),
            if descriptor = target then kernel
            else kernel.update self (·.attach target description false))
  | .seek descriptor position =>
      match kernel.description? process descriptor with
      | none => some (.error .badDescriptor, kernel)
      | some (number, description) =>
          match description.channel with
          | .object _ => some (.ok (), kernel.setPosition number position)
          | _ => some (.error .noSeek, kernel)
  | .position descriptor =>
      match kernel.description? process descriptor with
      | none => some (.error .badDescriptor, kernel)
      | some (_, description) =>
          match description.channel with
          | .object _ => some (.ok description.position, kernel)
          | _ => some (.error .noSeek, kernel)
  | .pipe =>
      let key := 2 * kernel.freshPipe
      let kernel := { kernel with freshPipe := kernel.freshPipe + 1 }
      let (reader, kernel) := kernel.openChannel ⟨.pipe key, true, false, false, 0⟩
      let (writer, kernel) := kernel.openChannel ⟨.pipe key, false, true, false, 0⟩
      let first := process.freeDescriptor 0
      let process := process.attach first reader false
      let second := process.freeDescriptor 0
      some ((first, second),
        kernel.update self fun _ => process.attach second writer false)
  | .wait child patience => kernel.awaitChild self process child patience
  | .sleep time =>
      if time ≤ kernel.clock then some (.ok (), kernel)
      else if !process.pending.isEmpty then some (.error .interrupted, kernel)
      else none
  | .signal target signal =>
      match kernel.targets process target with
      | [] => some (.error .noProcess, kernel)
      | numbers =>
          some (.ok (), numbers.foldl (fun kernel number => kernel.deliver number signal) kernel)
  | .dispose signal disposition =>
      some ((),
        kernel.update self fun process =>
          { process with
            dispositions := (signal, disposition) ::
              process.dispositions.filter (·.1 != signal) })
  | .caught =>
      some (process.pending,
        if process.pending.isEmpty then kernel
        else kernel.update self fun process => { process with pending := [] })
  | .disposition signal => some (process.disposition signal, kernel)
  | .identity =>
      some (⟨self, if process.parent = nobody then host else process.parent, process.group⟩,
        kernel)
  | .lead => some ((), kernel.update self fun process => { process with group := self })
  | .now => some (kernel.clock, kernel)
  | .status path follows => some (kernel.statusAt process path follows, kernel)
  | .statusOf descriptor => some (kernel.statusOf process descriptor, kernel)
  | .names path =>
      let found : Except Code (List Octets) := do
        match kernel.disk.directory? (← kernel.disk.find process.directory true path) with
        | some (_, entries) => return entries.map (·.1)
        | none => throw .notDirectory
      some (found, kernel)
  | .target path =>
      let found : Except Code Octets := do
        match kernel.disk.inode? (← kernel.disk.find process.directory false path) with
        | some ⟨.link target, _, _, _⟩ => return target
        | _ => throw .invalid
      some (found, kernel)
  | .change change =>
      match kernel.disk.apply (kernel.view process) change with
      | .ok disk => some (.ok (), { kernel with disk := disk })
      | .error code => some (.error code, kernel)
  | .moveTo path =>
      let found : Except Code Nat := do
        let serial ← kernel.disk.find process.directory true path
        if !kernel.disk.isDirectory serial then throw .notDirectory
        return serial
      match found with
      | .ok serial =>
          some (.ok (), kernel.update self fun process => { process with directory := serial })
      | .error code => some (.error code, kernel)
  | .current =>
      match kernel.disk.pathTo? process.directory with
      | some path => some (.ok path, kernel)
      | none => some (.error .noEntry, kernel)
  | .mask mask =>
      some (process.mask,
        match mask with
        | some mask => kernel.update self fun process => { process with mask := mask }
        | none => kernel)
  | .load path => some (kernel.load process.directory path, kernel)
  | .become =>
      some ((),
        kernel.update self fun process =>
          { process with
            handles := process.handles.filter (!·.withheld)
            dispositions := process.dispositions.filter (·.2 != .caught)
            pending := [] })

/-- Start a child of a process. -/
def spawnChild (kernel : Kernel) (self : Nat) (child : Task) : Nat × Kernel :=
  match kernel.processes[self]? with
  | none => (0, kernel)
  | some process =>
      let number := kernel.freshProcess
      (number,
        { kernel with
          freshProcess := number + 1
          processes := kernel.processes.insert number
            { process with parent := self, pending := [], phase := .active child }
          order := kernel.order ++ [number] })

/-- How many requests a process may make in one turn. -/
def quantum : Nat := 4096

/-- Let a process go on with a task for a number of requests. -/
def slice (self : Nat) : (quantum : Nat) → Task → Kernel → Kernel
  | 0, task, kernel => kernel.update self fun process => { process with phase := .active task }
  | _ + 1, .done ending, kernel => kernel.finish self ending
  | quantum + 1, .fork child next, kernel =>
      if (kernel.processes[self]?).any (!·.hasEnded) then
        let (number, kernel) := kernel.spawnChild self child
        slice self quantum (next number) { kernel with budget := kernel.budget - 1 }
      else kernel
  | quantum + 1, .call request next, kernel =>
      match kernel.processes[self]? with
      | none => kernel
      | some process =>
          if process.hasEnded then kernel
          else if process.stopped then
            kernel.update self fun process =>
              { process with phase := .active (.call request next) }
          else
            match kernel.answer self process request with
            | none =>
                kernel.update self fun process =>
                  { process with phase := .active (.call request next) }
            | some (reply, kernel) =>
                slice self quantum (next reply) { kernel with budget := kernel.budget - 1 }

/-- Give a process its turn, if it can do something. -/
def turn? (kernel : Kernel) (self : Nat) : Option Kernel :=
  match kernel.processes[self]? with
  | none => none
  | some process =>
      match process.phase with
      | .ended _ => none
      | .active task =>
          let runs :=
            !process.stopped &&
              match task with
              | .call request _ => (kernel.answer self process request).isSome
              | _ => true
          if runs then
            let kernel := { kernel with
              order := kernel.order.filter (· != self) ++ [self] }
            some (slice self quantum task kernel)
          else none

/-- The first turn that can be taken. -/
def nextTurn? (kernel : Kernel) : Option Kernel :=
  kernel.order.findSome? kernel.turn?

/-- The time for which a task waits. -/
def wakeTime? : Task → Option Nat
  | .call (.sleep time) _ => some time
  | .call (.wait _ (.upTo time)) _ => some time
  | _ => none

/-- The first time for which a process waits. -/
def nextTime? (kernel : Kernel) : Option Nat :=
  (kernel.processes.toList.filterMap fun (_, process) =>
    match process.phase with
    | .active task => if process.stopped then none else wakeTime? task
    | .ended _ => none).min?

/-- Let processes run until a goal is reached; the answer tells whether it was, before
the deadline. -/
def runUntil (goal : Kernel → Bool) (deadline : Nat) : (limit : Nat) → Kernel → Bool × Kernel
  | 0, kernel => (false, kernel)
  | limit + 1, kernel =>
      if goal kernel then (true, kernel)
      else if kernel.budget = 0 then (false, kernel)
      else
        match kernel.nextTurn? with
        | some kernel => runUntil goal deadline limit kernel
        | none =>
            match kernel.nextTime? with
            | some time =>
                if time < deadline then
                  runUntil goal deadline limit { kernel with clock := max time kernel.clock }
                else (false, { kernel with clock := max deadline kernel.clock })
            | none => (false, { kernel with clock := max deadline kernel.clock })

/-- Kill all processes of a group. -/
def killGroup (kernel : Kernel) (group : Nat) : Kernel :=
  (kernel.processes.filter fun _ process => process.group == group).keys.foldl
    (fun kernel number => kernel.deliver number .kill) kernel

end Kernel
end Host
end Turnwise
