import Turnwise.CommandLine
import Turnwise.Proofs.Host.Machine
import Turnwise.Proofs.Prompt.Dialogue
import Turnwise.Proofs.Text.Utf8

/-!
# Files of the user

A session over a file of the user writes its programs to that very file.  What the file
held is kept twice, as the preamble and for the end, and no dialogue changes either: every
program begins with it, and leaving the workspace puts it back.
-/

namespace Turnwise
namespace Workspace

open Host (Disk Machine Octets)

variable {State : Type}
variable {file : Path}
variable {machine : Machine}

/-- A file cannot be extended when it cannot be read or holds no text. -/
theorem unreadable_or_notText_of_ofFile
    {failure : Failure}
    (failed : ofFile file machine = .error failure) :
    (∃ cause, machine.read file = .error cause) ∨
      ∃ content fault, machine.read file = .ok content ∧
        Utf8.strict content = .error fault := by
  cases read : machine.read file with
  | error cause => exact .inl ⟨cause, rfl⟩
  | ok content =>
      cases decoded : Utf8.strict content with
      | error fault => exact .inr ⟨content, fault, rfl, decoded⟩
      | ok preamble =>
          simp only [ofFile, read, decoded, bind, Except.bind, Except.mapError, pure,
            Except.pure] at failed
          cases failed

/-- The workspace of a file keeps the content as it is and as text. -/
theorem exists_of_ofFile_eq_ok
    {workspace : Workspace}
    (opened : ofFile file machine = .ok workspace) :
    ∃ original,
      machine.read file = .ok original ∧
      Utf8.encode workspace.preamble = original ∧
      workspace.file = file ∧
      workspace.closing = .restore original := by
  cases read : machine.read file with
  | error cause =>
      simp only [ofFile, read, bind, Except.bind, Except.mapError] at opened
      cases opened
  | ok original =>
      cases decoded : Utf8.strict original with
      | error fault =>
          simp only [ofFile, read, decoded, bind, Except.bind, Except.mapError] at opened
          cases opened
      | ok preamble =>
          simp only [ofFile, read, decoded, bind, Except.bind, Except.mapError, pure,
            Except.pure] at opened
          cases opened
          exact ⟨original, rfl, Utf8.encode_of_strict decoded, rfl, rfl⟩

/-- A file that cannot be extended is left alone, with all else on the machine. -/
theorem run_of_ofFile_eq_error
    {failure : Failure}
    (failed : ofFile file machine = .error failure)
    {arguments : List Text}
    {parsed : Arguments}
    (read : Arguments.parse arguments = .ok parsed)
    (named : parsed.file = some file)
    (input : Bytes) :
    (CommandLine.run arguments input machine).machine = machine := by
  simp only [CommandLine.run, read, named, CommandLine.openWorkspace, failed]

/-- Leaving the workspace of a file puts the content back where the path leads to a file. -/
theorem read_close
    {workspace : Workspace}
    {original : Bytes}
    (closing : workspace.closing = .restore original)
    (written : (machine.write workspace.file original).1 = .ok ())
    (leads : (workspace.close machine).leadsToFile workspace.file = true) :
    (workspace.close machine).read workspace.file = .ok original := by
  have closed : workspace.close machine = (machine.write workspace.file original).2 := by
    rw [close, closing]
  rw [closed] at leads ⊢
  exact Host.Machine.read_write (Prod.ext written rfl) leads

/-- A file that cannot be read or holds no text is left alone.  Otherwise its content is the
encoding of the preamble; whatever is entered, and whatever the tools do on the machine and
beside it, every program of the session begins with the content; and when the workspace
is left and the content can be written back, the file holds just the content again,
provided that the path then leads to a file. -/
theorem ofFile_restores
    (host : State → Machine)
    (bench : Bench State)
    (shell : Shell State)
    (repair : RepairSettings)
    (file : Path)
    (state : State)
    (entries : List Prompt.Entry) :
    (∀ failure, ofFile file (host state) = .error failure →
      ((∃ cause, (host state).read file = .error cause) ∨
        ∃ content fault, (host state).read file = .ok content ∧
          Utf8.strict content = .error fault) ∧
      ∀ arguments parsed input,
        Arguments.parse arguments = .ok parsed → parsed.file = some file →
        (CommandLine.run arguments input (host state)).machine = host state) ∧
    ∀ workspace, ofFile file (host state) = .ok workspace →
      let dialogue := Prompt.Dialogue.hold bench shell repair (.fresh workspace.session) state
        entries
      let closed := workspace.close (host dialogue.state)
      ∃ original,
        (host state).read file = .ok original ∧
        Utf8.encode workspace.session.preamble = original ∧
        (∀ event ∈ dialogue.events,
          ∀ source ∈ event.requests.filterMap Bench.Call.source?,
            original <+: Utf8.encode source) ∧
        (((host dialogue.state).write file original).1 = .ok () →
          closed.leadsToFile file = true → closed.read file = .ok original) := by
  constructor
  · intro failure failed
    exact ⟨unreadable_or_notText_of_ofFile failed,
      fun _ _ input read named => run_of_ofFile_eq_error failed read named input⟩
  · intro workspace opened dialogue closed
    obtain ⟨original, read, encoded, rfl, closing⟩ := exists_of_ofFile_eq_ok opened
    refine ⟨original, read, encoded, fun event entered source present => ?_,
      fun written leads => read_close closing written leads⟩
    rw [← encoded]
    exact Utf8.encode_prefix_encode (Prompt.Dialogue.preamble_prefix_source entered present)

/-! ## One program file -/

/-- A machine with the null device and one more file. -/
def machineHolding (file : Path) (content : Bytes) : Machine :=
  .ofDisk
    ((Disk.empty.place (Octets.ofText file) (.file ⟨content.toArray⟩) 0o644).place
      "/dev/null".toList (.device .null) 0o666) []

/-- A program file. -/
def programFile : Path := "/main.go".toList

/-- What the program file holds. -/
def program : Bytes := Utf8.encode "package main\n".toList

/-- The workspace of the program file. -/
def programWorkspace : Workspace :=
  ⟨"/".toList, programFile, "package main\n".toList, .restore program⟩

/-- Tools that accept every program; the programs are written to the machine. -/
def accepting : Bench Machine where
  organize source _ machine := (.ok source, machine)
  write := Machine.store.writeText
  run _ _ machine := (.ok (.ofOutput [] true), machine)

/-- A command that puts a symbolic link in the place of a file; its last words are the
target of the link and the file. -/
def linking : Shell Machine
  | [_, _, target, path], _, machine =>
      match machine.kernel.disk.unlinkAt machine.view (Octets.ofText path) with
      | .error _ => (.ok (.failed []), machine)
      | .ok disk =>
          match disk.apply machine.view (.makeLink (Octets.ofText target) (Octets.ofText path)) with
          | .error _ => (.ok (.failed []), machine)
          | .ok disk => (.ok (.succeeded []), machine.withDisk disk)
  | _, _, machine => (.ok (.failed []), machine)

/-- The dialogue of some entries over the program file. -/
def programDialogue (entries : List Prompt.Entry) : Prompt.Dialogue Machine :=
  .hold accepting linking ⟨16, .standard⟩ (.fresh programWorkspace.session)
    (machineHolding programFile program) entries

/-- After a turn the file holds another program, and leaving the workspace puts the first
one back.  A file that holds no text is left alone. -/
theorem ofFile_restores_programFile :
    (let dialogue := programDialogue [.line "x := 1".toList]
    dialogue.state.read programFile ≠ .ok program ∧
    (programWorkspace.close dialogue.state).read programFile = .ok program) ∧
    (CommandLine.run [programFile] [] (machineHolding programFile [0xFF])).machine =
      machineHolding programFile [0xFF] := by
  constructor
  · intro dialogue
    have opened : ofFile programFile (machineHolding programFile program) =
        .ok programWorkspace := by
      decide +kernel
    have held : (machineHolding programFile program).read programFile = .ok program := by
      decide +kernel
    have written : (dialogue.state.write programFile program).1 = .ok () := by
      decide +kernel
    have leads : (programWorkspace.close dialogue.state).leadsToFile programFile = true := by
      decide +kernel
    refine ⟨by decide +kernel, ?_⟩
    obtain ⟨original, read, _, _, restores⟩ :=
      (ofFile_restores (fun machine => machine) accepting linking ⟨16, .standard⟩ programFile
        (machineHolding programFile program) [.line "x := 1".toList]).2 programWorkspace opened
    have same : original = program := Except.ok.inj (read.symm.trans held)
    subst same
    exact restores written leads
  · have failed : ofFile programFile (machineHolding programFile [0xFF]) =
        .error (.notText programFile (.illFormed 1 0)) := by
      decide +kernel
    have parsed : Arguments.parse [programFile] =
        .ok ⟨some programFile, none, none, none, none, none⟩ := by
      decide +kernel
    exact ((ofFile_restores (fun machine => machine) accepting linking ⟨16, .standard⟩ programFile
      (machineHolding programFile [0xFF]) []).1 _ failed).2 _ _ [] parsed rfl

/-- When a command has put a link to the null device in the place of the file, the content
can be written back, and nothing of it is kept. -/
theorem not_restored_behind_link :
    let dialogue := programDialogue [.line ":ln -sf /dev/null /main.go".toList]
    ofFile programFile (machineHolding programFile program) = .ok programWorkspace ∧
    (machineHolding programFile program).read programFile = .ok program ∧
    (dialogue.state.write programFile program).1 = .ok () ∧
    (programWorkspace.close dialogue.state).read programFile ≠ .ok program := by
  intro dialogue
  refine ⟨?_, ?_, ?_, ?_⟩
  · decide +kernel
  · decide +kernel
  · decide +kernel
  · decide +kernel

end Workspace
end Turnwise
