import Turnwise.Host.Installed
import Turnwise.Host.Kernel
import Turnwise.Settings
import Turnwise.Toolchain.Store

/-!
# The machine

A machine is a system with the directory and the environment in which a program runs,
and perhaps an interrupt that waits for a process to meet.  A job is a program to start
with arguments; it runs to its end within a limit of time, or it is killed with all
processes of its group.  Processes that a job has left behind go on while later jobs
run.
-/

namespace Turnwise
namespace Host

open SystemError (Code)

/-- A machine as a program sees it. -/
structure Machine where
  /-- The system. -/
  kernel : Kernel
  /-- The current directory, by its serial number. -/
  current : Nat
  /-- What started programs inherit. -/
  environment : Environment
  /-- Whether an interrupt will meet the next program started. -/
  interrupted : Bool
  /-- How many temporary directories were made. -/
  temporaries : Nat

/-- A program to start. -/
structure Job where
  /-- The program. -/
  program : Text
  /-- Its arguments. -/
  arguments : List Text
  /-- What it reads; nothing can be read when this is missing. -/
  input : Option Text
  /-- The directory in which it runs. -/
  directory : Path
  deriving DecidableEq, Repr

/-- How much time a job has, and what it is called in errors. -/
structure Terms where
  /-- The name of the job. -/
  label : Text
  /-- Milliseconds that it may take. -/
  limit : Nat
  deriving DecidableEq, Repr

/-- A job that came to its end. -/
structure Completion where
  /-- How it ended. -/
  ending : Ending
  /-- What it printed to its standard output. -/
  output : Bytes
  /-- What it printed to its standard error. -/
  errors : Bytes
  deriving DecidableEq, Repr

namespace Completion

/-- The exit status; a job that was killed has none. -/
def status? (completion : Completion) : Option Nat :=
  match completion.ending with
  | .exited status => some status
  | .signalled _ => none

/-- Whether the job exited with status zero. -/
def success (completion : Completion) : Bool :=
  completion.status? == some 0

/-- What was printed, the standard output first. -/
def combined (completion : Completion) : Text :=
  Utf8.lenient completion.output ++ Utf8.lenient completion.errors

/-- The kind of failure that a status stands for when a merged job could not start
its program. -/
def startFailureKind? : Nat → Option SystemError.Kind
  | 127 => some .notFound
  | 126 => some .permissionDenied
  | _ => none

/-- The failure of a merged job to start its program. -/
def startFailure? (completion : Completion) (label : Text) : Option ToolError :=
  (completion.status?.bind startFailureKind?).map fun kind =>
    .spawn label (.described kind completion.combined.trim)

end Completion

namespace Job

/-- The script that sends errors where the output goes and then becomes the program
that its arguments name. -/
def mergingScript : Text := "exec \"$@\" 2>&1".toList

/-- The same job with its two outputs merged in the order of printing. -/
def merged (job : Job) : Job :=
  { job with
    program := "sh".toList
    arguments := "-c".toList :: mergingScript :: "sh".toList :: job.program :: job.arguments }

/-- Whether the words of a job can be handed over: none holds a null character. -/
def isClean (job : Job) : Bool :=
  (job.program :: job.directory :: job.arguments).all (!·.contains '\x00')

end Job

namespace Machine

/-- A machine over a disk, with an environment. -/
def ofDisk (disk : Disk) (environment : Environment) : Machine :=
  ⟨.ofDisk disk, Disk.root, environment, false, 0⟩

/-- From where the machine looks at its disk. -/
def view (machine : Machine) : Viewpoint :=
  ⟨machine.current, 0o022, machine.kernel.clock⟩

/-- Put another disk in place. -/
def withDisk (machine : Machine) (disk : Disk) : Machine :=
  { machine with kernel := { machine.kernel with disk := disk } }

/-- Whether a path can be handed to the system. -/
def checkPath (path : Path) : Except SystemError Unit :=
  if path.contains '\x00' then
    .error (.described .invalidInput
      "file name contained an unexpected NUL byte".toList)
  else .ok ()

/-- The content of what stands under a serial number; devices hold nothing. -/
def content (machine : Machine) (serial : Nat) : Except Code Bytes :=
  match machine.kernel.disk.inode? serial with
  | some ⟨.file content, _, _, _⟩ => .ok content.toList
  | some ⟨.directory _ _, _, _, _⟩ => .error .isDirectory
  | some ⟨.device .terminal, _, _, _⟩ => .error .noDevice
  | _ => .ok []

/-- The content of a file. -/
def read (machine : Machine) (path : Path) : Except SystemError Bytes := do
  checkPath path
  let found : Except Code Bytes := do
    machine.content (← machine.kernel.disk.find machine.current true (Octets.ofText path))
  found.mapError .coded

/-- Replace the content of a file. -/
def write
    (machine : Machine)
    (path : Path)
    (content : Bytes) : Except SystemError Unit × Machine :=
  match checkPath path, machine.kernel.disk.openFile machine.view (Octets.ofText path) .writing with
  | .error cause, _ => (.error cause, machine)
  | _, .error code => (.error (.coded code), machine)
  | _, .ok (serial, disk) =>
      match disk.inode? serial with
      | some ⟨.device .full, _, _, _⟩ =>
          (if content.isEmpty then .ok () else .error (.coded .noSpace), machine)
      | _ =>
          (.ok (), machine.withDisk
            (disk.writeAt serial 0 ⟨List.toArray content⟩ machine.kernel.clock))

/-- The files of the machine. -/
def store : Store Machine where
  read path machine := machine.read path
  write path content machine := machine.write path content

/-- Make a directory with all that lead to it, as far as that is possible. -/
def makeDirectories (machine : Machine) (path : Path) : Machine :=
  if path.isEmpty || path.contains '\x00' then machine
  else
    let octets := Octets.ofText path
    let origin := if Disk.isAbsolute octets then Disk.root else machine.current
    machine.withDisk (machine.kernel.disk.makeReachable origin (Disk.segments octets))

/-- Remove all that stands in a directory, and the directory itself when the path names
it as an entry; a symbolic link is only removed itself. -/
def removeDirectory (machine : Machine) (path : Path) : Machine :=
  let octets := Octets.ofText path
  let disk := machine.kernel.disk
  match disk.find machine.current false octets with
  | .error _ => machine
  | .ok serial =>
      if disk.isDirectory serial then
        let bare := disk.clear disk.fresh serial
        match bare.removeDirectoryAt machine.view octets with
        | .ok gone => machine.withDisk gone
        | .error _ => machine.withDisk bare
      else
        match disk.inode? serial with
        | some ⟨.link _, _, _, _⟩ =>
            match disk.unlinkAt machine.view octets with
            | .ok gone => machine.withDisk gone
            | .error _ => machine
        | _ => machine

/-- Remove a file. -/
def removeFile (machine : Machine) (path : Path) : Machine :=
  match machine.kernel.disk.unlinkAt machine.view (Octets.ofText path) with
  | .ok disk => machine.withDisk disk
  | .error _ => machine

/-- Make a directory. -/
def makeDirectory (machine : Machine) (path : Path) : Except Code Machine := do
  return machine.withDisk
    (← machine.kernel.disk.apply machine.view (.makeDirectory (Octets.ofText path) 0o700))

/-- The directory that a path leads to, by its serial number. -/
def enter (machine : Machine) (path : Path) : Except Code Nat := do
  let serial ← machine.kernel.disk.find machine.current true (Octets.ofText path)
  if !machine.kernel.disk.isDirectory serial then throw .notDirectory
  return serial

/-- The path of the current directory. -/
def currentPath (machine : Machine) : Path :=
  ((machine.kernel.disk.pathTo? machine.current).map Octets.toText).getD []

/-- The names in the directory that a path leads to. -/
def names (machine : Machine) (path : Path) : List Text :=
  match machine.enter path with
  | .ok serial => (machine.kernel.disk.entries serial).map fun entry => Octets.toText entry.1
  | .error _ => []

/-- The files in the directory that a path leads to, by name. -/
def files (machine : Machine) (path : Path) : List (Text × Bytes) :=
  match machine.enter path with
  | .ok serial =>
      (machine.kernel.disk.files serial).map fun entry =>
        (Octets.toText entry.1, entry.2.toList)
  | .error _ => []

/-- With what the program of a job is started. -/
def start (machine : Machine) (job : Job) : Start where
  name := Octets.ofText job.program
  arguments := job.arguments.map Octets.ofText
  environment := machine.environment.distinct.map fun entry =>
    (Octets.ofText entry.1, Octets.ofText entry.2)

/-- The utility that a program is, and with what it is started, seen from a directory. -/
def locate (machine : Machine) (directory : Nat) (start : Start) :
    Except Code (Octets × Start) :=
  let load (path : Octets) : Except (Octets × Start) (Except Code Octets) :=
    pure (machine.kernel.load directory path)
  let attempt (path : Octets) : Except (Octets × Start) Code := do
    if !Image.fits start then return .tooManyArguments
    match ← Image.resolve load Image.scriptDepth path start with
    | .ok found => throw found
    | .error code => return code
  match Image.search attempt (start.value? "PATH") start.name with
  | .error found => .ok found
  | .ok code => .error code

/-- Find out what a job will do, and in which directory. -/
def prepare (machine : Machine) (job : Job) : Except SystemError (Task × Nat) := do
  if !job.isClean then
    throw (.described .invalidInput "nul byte found in provided data".toList)
  let directory ← (machine.enter job.directory).mapError SystemError.coded
  let (utility, start) ← (machine.locate directory (machine.start job)).mapError SystemError.coded
  return (Installed.launch utility start, directory)

/-- Open what a job reads. -/
def openInput (kernel : Kernel) (input : Option Text) : Nat × Kernel :=
  match input with
  | some text =>
      let key := 2 * kernel.freshPipe
      let octets := Octets.ofText text
      let pipe := if octets.isEmpty then Pipe.empty else Pipe.empty.push octets
      let kernel := { kernel with
        freshPipe := kernel.freshPipe + 1, pipes := kernel.pipes.insert key pipe }
      kernel.openChannel ⟨.pipe key, true, false, false, 0⟩
  | none =>
      match kernel.disk.find Disk.root true "/dev/null".toList with
      | .ok serial => kernel.openChannel ⟨.object serial, true, false, false, 0⟩
      | .error _ =>
          let key := 2 * kernel.freshPipe
          { kernel with freshPipe := kernel.freshPipe + 1 }.openChannel
            ⟨.pipe key, true, false, false, 0⟩

/-- Open something that collects what a job prints. -/
def openSink (kernel : Kernel) : Nat × Nat × Kernel :=
  let index := kernel.freshSink
  let (number, kernel) := { kernel with freshSink := index + 1 }.openChannel
    ⟨.sink index, false, true, false, 0⟩
  (index, number, kernel)

/-- How many requests a job may make. -/
def budget : Nat := 3000000

/-- A job that has been started: its process, and what collects its output and its
errors. -/
structure Running where
  /-- The number of the process. -/
  number : Nat
  /-- What collects the output. -/
  output : Nat
  /-- What collects the errors. -/
  errors : Nat

/-- Start a job in a group of its own. -/
def launch (kernel : Kernel) (input : Option Text) (directory : Nat) (task : Task) :
    Running × Kernel :=
  let (reader, kernel) := openInput kernel input
  let (output, writer, kernel) := openSink kernel
  let (errors, complainer, kernel) := openSink kernel
  let number := kernel.freshProcess
  let process : Process :=
    { parent := Kernel.host
      group := number
      directory := directory
      mask := 0o022
      handles := [⟨0, reader, false⟩, ⟨1, writer, false⟩, ⟨2, complainer, false⟩]
      dispositions := []
      pending := []
      stopped := false
      phase := .active task }
  (⟨number, output, errors⟩,
    { kernel with
      freshProcess := number + 1
      processes := kernel.processes.insert number process
      order := kernel.order ++ [number]
      budget := budget })

/-- Whether a job has ended and nobody prints for it any more. -/
def isOver (running : Running) (kernel : Kernel) : Bool :=
  (kernel.processes[running.number]?).all (·.hasEnded) &&
    !kernel.isFed running.output && !kernel.isFed running.errors

/-- How the process of a job ended. -/
def endingOf (running : Running) (kernel : Kernel) : Ending :=
  match kernel.processes[running.number]? with
  | some ⟨_, _, _, _, _, _, _, _, .ended ending⟩ => ending
  | _ => .signalled .kill

/-- What was collected. -/
def collected (kernel : Kernel) (index : Nat) : Bytes :=
  Octets.toBytes (((kernel.sinks[index]?).getD []).reverse.flatten)

/-- Forget a job. -/
def forget (running : Running) (kernel : Kernel) : Kernel :=
  { kernel with
    processes := kernel.processes.erase running.number
    sinks := (kernel.sinks.erase running.output).erase running.errors }

/-- Run a job to its end, within its limit of time.  An interrupt that waits meets the
job as soon as it has started. -/
def run
    (machine : Machine)
    (job : Job)
    (terms : Terms) : Except ToolError Completion × Machine :=
  match machine.prepare job with
  | .error cause => (.error (.spawn terms.label cause), machine)
  | .ok (task, directory) =>
      let late := ToolError.timeout terms.label (terms.limit / 1000)
      if machine.interrupted then
        (.error (.interrupted terms.label), { machine with interrupted := false })
      else if terms.limit = 0 then (.error late, machine)
      else
        let (running, kernel) := launch machine.kernel job.input directory task
        let deadline := kernel.clock + terms.limit * 1000000
        match kernel.runUntil (isOver running) deadline (2 * budget) with
        | (true, kernel) =>
            (.ok ⟨endingOf running kernel, collected kernel running.output,
                collected kernel running.errors⟩,
              { machine with kernel := forget running kernel })
        | (false, kernel) =>
            (.error late,
              { machine with kernel := forget running (kernel.killGroup running.number) })

end Machine
end Host
end Turnwise
