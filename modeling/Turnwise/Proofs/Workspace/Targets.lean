import Turnwise.Proofs.Host.Octets
import Turnwise.Proofs.Host.Walks
import Turnwise.Proofs.Path.Directories
import Turnwise.Proofs.Workspace.Restoration
import Turnwise.Toolchain.Miniature

/-!
# The file that is run

The runner works in the directory of a program file and is given the name by which the file
is seen from there.  That name is one component, the name of the file; and from the directory
it leads to what the whole path leads to, so that the file that is run is the one that was
written.
-/

namespace Turnwise
namespace Workspace

open Host (Disk Machine Octets)
open Turnwise.Path (Divides Housed assemble directoryOf start)

variable {disk : Disk}
variable {current serial : Nat}
variable {file : Path}
variable {kept gap back : List Text}
variable {name : Text}

/-! ## From the directory -/

/-- A name without a slash is looked up in the directory itself. -/
theorem find_name
    (divides : Divides file kept gap name back)
    (short : (Octets.ofText file).length < Disk.pathLimit)
    (arrives : Disk.Arrives disk (Disk.linkLimit + 1) current [Octets.ofText name] serial) :
    disk.find current true (Octets.ofText name) = .ok serial := by
  have named : name ≠ [] := by
    rintro rfl
    cases divides.named
  have slashFree : '/' ∉ Octets.ofText name :=
    mt Octets.slash_mem_of_mem_ofText divides.slash_not_mem
  have relative : Disk.isAbsolute (Octets.ofText name) = false := by
    rw [Disk.isAbsolute, beq_eq_false_iff_ne]
    exact fun first => slashFree (List.mem_of_mem_head? first)
  have alone : Disk.segments (Octets.ofText name) = [Octets.ofText name] := by
    rw [Disk.segments_ofText, List.splitOn_eq_singleton divides.slash_not_mem,
      List.filter_cons_of_pos (by simpa using named)]
    rfl
  refine Disk.find_eq_ok_iff.mpr ⟨mt Octets.ofText_eq_nil_iff.mp named, ?_, ?_, fun closed => ?_⟩
  · exact (Octets.ofText_infix_ofText divides.name_infix).length_le.trans_lt short
  · rw [relative, alone]
    exact arrives
  · exact absurd (List.mem_of_getLast? (eq_of_beq closed)) slashFree

/-- The directory of a file can be entered where the file is found, and there the name of the
file leads to it. -/
theorem exists_directory_of_find
    (divides : Divides file kept gap name back)
    (housed : Housed file kept)
    (found : disk.find current true (Octets.ofText file) = .ok serial) :
    ∃ directory,
      disk.find current true (Octets.ofText (directoryOf file)) = .ok directory ∧
      disk.isDirectory directory = true ∧
      disk.find directory true (Octets.ofText name) = .ok serial := by
  obtain ⟨-, short, arrives, -⟩ := Disk.find_eq_ok_iff.mp found
  obtain ⟨dots, more, dotsDotted, moreDotted, whole⟩ := divides.written
  have dotted {parts : List Text} (all : ∀ segment ∈ parts, segment = ['.']) :
      ∀ octets ∈ parts.map Octets.ofText, octets = ['.'] := by
    intro octets present
    obtain ⟨segment, member, rfl⟩ := List.mem_map.mp present
    rw [all segment member]
    rfl
  have nonempty := divides.directory_ne_nil housed
  have beginning := divides.directory_prefix
  rw [divides.directoryOf_housed housed]
  generalize assemble (start file) kept = path at whole nonempty beginning
  have parts : Disk.segments (Octets.ofText file) =
      Disk.segments (Octets.ofText path) ++
        (dots.map Octets.ofText ++ ([Octets.ofText name] ++ more.map Octets.ofText)) := by
    rw [Disk.segments_ofText, Disk.segments_ofText, whole, List.map_append, List.map_append,
      List.map_cons, List.singleton_append]
  rw [parts, Disk.isAbsolute_ofText, ← Path.isAbsolute_of_prefix beginning nonempty,
    ← Disk.isAbsolute_ofText] at arrives
  -- The walk to the file passes the directory, and what follows there is the name and dots.
  obtain ⟨directory, before, after⟩ := arrives.exists_of_append (by simp)
  have standing := after.isDirectory (by simp)
  refine ⟨directory, Disk.find_eq_ok_iff.mpr ⟨mt Octets.ofText_eq_nil_iff.mp nonempty, ?_, before,
    fun _ => standing⟩, standing, find_name divides short ?_⟩
  · exact (Octets.ofText_prefix_ofText beginning).length_le.trans_lt short
  · exact (after.of_dots (dotted dotsDotted)).of_dots_end (dotted moreDotted)

/-- The dot leads to the current directory, where anything is found from there. -/
theorem find_dot
    (divides : Divides file kept gap name back)
    (begun : start file = .segment)
    (found : disk.find current true (Octets.ofText file) = .ok serial) :
    disk.isDirectory current = true ∧
      disk.find current true (Octets.ofText ['.']) = .ok current := by
  obtain ⟨-, -, arrives, -⟩ := Disk.find_eq_ok_iff.mp found
  obtain ⟨dots, more, -, -, whole⟩ := divides.written
  have onward : Disk.segments (Octets.ofText file) ≠ [] := by
    rw [Disk.segments_ofText, whole]
    simp
  have relative : Disk.isAbsolute (Octets.ofText file) = false := by
    rw [Disk.isAbsolute_ofText, Path.isAbsolute, begun]
    rfl
  rw [relative] at arrives
  have standing : disk.isDirectory current = true := arrives.isDirectory onward
  have dotted : ∀ name ∈ [(['.'] : Octets)], name = ['.'] := fun name => List.mem_singleton.mp
  have stays := Disk.stride_dots dotted standing []
  exact ⟨standing, Disk.find_eq_ok_iff.mpr
    ⟨by decide, by decide, .reached stays, fun _ => standing⟩⟩

/-! ## Targets -/

variable {machine : Machine}

/-- The runner is given the name of a file, or the path of one without a directory. -/
theorem target_eq
    (divides : Divides file kept gap name back) :
    Housed file kept ∧ Hosted.target file (directoryOf file) = name ∨
      start file = .segment ∧ directoryOf file = ['.'] ∧
        Hosted.target file (directoryOf file) = file := by
  rcases Path.housed_or_bare file kept with housed | ⟨begun, rfl⟩
  · refine .inl ⟨housed, ?_⟩
    rw [Hosted.target, divides.relativeTo?_housed housed]
    rfl
  · refine .inr ⟨begun, divides.directoryOf_bare begun, ?_⟩
    rw [Hosted.target, divides.relativeTo?_bare begun]
    rfl

theorem enter_eq_ok
    {path : Path}
    {directory : Nat}
    (found : machine.kernel.disk.find machine.current true (Octets.ofText path) = .ok directory)
    (standing : machine.kernel.disk.isDirectory directory = true) :
    machine.enter path = .ok directory := by
  simp only [Machine.enter, found, standing, bind, Except.bind, pure, Except.pure, Bool.not_true,
    Bool.false_eq_true, if_false]

/-- From the directory in which it works, the runner finds what the path of the file leads
to. -/
theorem exists_enter_of_find
    (named : Path.fileName? file = some name)
    (found : machine.kernel.disk.find machine.current true (Octets.ofText file) = .ok serial) :
    ∃ directory, machine.enter (directoryOf file) = .ok directory ∧
      machine.kernel.disk.find directory true
        (Octets.ofText (Hosted.target file (directoryOf file))) = .ok serial := by
  obtain ⟨kept, gap, back, divides⟩ := Path.exists_divides named
  rcases target_eq divides with ⟨housed, target⟩ | ⟨begun, dot, target⟩
  · obtain ⟨directory, entered, standing, reached⟩ :=
      exists_directory_of_find divides housed found
    rw [target]
    exact ⟨directory, enter_eq_ok entered standing, reached⟩
  · obtain ⟨standing, entered⟩ := find_dot divides begun found
    rw [target, dot]
    exact ⟨machine.current, enter_eq_ok entered standing, found⟩

/-- A target can be handed to the system when the path of the file can. -/
theorem checkPath_target
    (named : Path.fileName? file = some name)
    (proper : Machine.checkPath file = .ok ()) :
    Machine.checkPath (Hosted.target file (directoryOf file)) = .ok () := by
  obtain ⟨kept, gap, back, divides⟩ := Path.exists_divides named
  rcases target_eq divides with ⟨-, target⟩ | ⟨-, -, target⟩
  · rw [target, Machine.checkPath, if_neg]
    intro unclean
    rw [Machine.checkPath, if_pos] at proper
    · cases proper
    · rw [List.contains_iff_mem] at unclean ⊢
      exact divides.name_infix.subset unclean
  · rw [target]
    exact proper

/-- A written program is what stands under the target when the runner starts. -/
theorem read_target_of_write
    {after : Machine}
    {content : Bytes}
    (named : Path.fileName? file = some name)
    (written : machine.write file content = (.ok (), after))
    (leads : after.leadsToFile file = true) :
    ∃ directory, after.enter (directoryOf file) = .ok directory ∧
      { after with current := directory }.read (Hosted.target file (directoryOf file)) =
        .ok content := by
  obtain ⟨proper, -⟩ := Machine.exists_lays_of_write written
  obtain ⟨serial, held, found, kept⟩ := Machine.exists_content_of_leadsToFile leads
  have whole : held.toList = content :=
    Except.ok.inj ((Machine.read_of_find proper found kept).symm.trans
      (Machine.read_write written leads))
  obtain ⟨directory, entered, reached⟩ := exists_enter_of_find named found
  have read : Machine.read { after with current := directory }
      (Hosted.target file (directoryOf file)) = .ok held.toList :=
    Machine.read_of_find (checkPath_target named proper) reached kept
  exact ⟨directory, entered, whole ▸ read⟩

theorem directory_of_ofFile
    {workspace : Workspace}
    (opened : ofFile file machine = .ok workspace) :
    workspace.directory = directoryOf file ∧ workspace.file = file := by
  simp only [ofFile, bind, Except.bind, pure, Except.pure] at opened
  split at opened
  · cases opened
  split at opened
  · cases opened
  cases opened
  exact ⟨rfl, rfl⟩

/-- The runner is given a single component, the name of the file, and diagnostics name the
file by it.  From the directory of the workspace it leads to the very object to which the path
of the file leads, and so, after a program was written to a file, to this program. -/
theorem components_target
    (file : Path)
    (name : Text)
    (named : Path.fileName? file = some name) :
    let directory := directoryOf file
    let target := Hosted.target file directory
    Path.components target = [.entry name] ∧
    Miniature.marker target = Diagnostic.fileMarker ++ name ∧
    (∀ machine workspace, ofFile file machine = .ok workspace →
      workspace.directory = directory ∧ workspace.file = file) ∧
    (∀ (machine : Machine) serial,
      machine.kernel.disk.find machine.current true (Octets.ofText file) = .ok serial →
      ∃ entered, machine.enter directory = .ok entered ∧
        machine.kernel.disk.find entered true (Octets.ofText target) = .ok serial) ∧
    ∀ (machine after : Machine) content,
      machine.write file content = (.ok (), after) → after.leadsToFile file = true →
      ∃ entered, after.enter directory = .ok entered ∧
        { after with current := entered }.read target = .ok content := by
  intro directory target
  have alone : Path.components target = [.entry name] :=
    Path.components_relativeTo?_directoryOf named
  refine ⟨alone, ?_, fun machine workspace opened => directory_of_ofFile opened,
    fun machine serial found => exists_enter_of_find named found,
    fun machine after content written leads => read_target_of_write named written leads⟩
  · rw [Miniature.marker, Path.fileName?_of_components alone]
    rfl

/-- A path that is not as short as it could be. -/
def roundabout : Path := "src//./main.go".toList

/-- A program that is written to its file. -/
def edited : Bytes := Utf8.encode "package edited\n".toList

/-- From the directory of a roundabout path the runner finds the file, before and after a
program is written to it. -/
theorem components_target_roundabout :
    let machine := machineHolding roundabout program
    let after := (machine.write roundabout edited).2
    let directory := directoryOf roundabout
    let target := Hosted.target roundabout directory
    Path.components target = [.entry "main.go".toList] ∧
    Miniature.marker target = "./main.go".toList ∧
    (∃ workspace, ofFile roundabout machine = .ok workspace ∧
      workspace.directory = directory ∧ workspace.file = roundabout) ∧
    (∃ serial entered,
      machine.kernel.disk.find machine.current true (Octets.ofText roundabout) = .ok serial ∧
      machine.enter directory = .ok entered ∧
      machine.kernel.disk.find entered true (Octets.ofText target) = .ok serial) ∧
    ∃ entered, after.enter directory = .ok entered ∧
      { after with current := entered }.read target = .ok edited := by
  intro machine after directory target
  obtain ⟨alone, marked, opens, finds, writes⟩ :=
    components_target roundabout "main.go".toList (by decide)
  have opened : ofFile roundabout machine =
      .ok ⟨"src".toList, roundabout, "package main\n".toList, .restore program⟩ := by
    decide +kernel
  have found : machine.kernel.disk.find machine.current true (Octets.ofText roundabout) =
      .ok 2 := by
    decide +kernel
  have written : (machine.write roundabout edited).1 = .ok () := by
    decide +kernel
  have leads : after.leadsToFile roundabout = true := by
    decide +kernel
  obtain ⟨entered, entering, reached⟩ := finds machine 2 found
  exact ⟨alone, marked, ⟨_, opened, opens machine _ opened⟩,
    ⟨2, entered, found, entering, reached⟩,
    writes machine after edited (Prod.ext written rfl) leads⟩

end Workspace
end Turnwise
