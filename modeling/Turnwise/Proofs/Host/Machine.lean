import Turnwise.Host.Machine
import Turnwise.Proofs.Host.Disk

/-!
# Reading back what was written

A write that succeeds leaves exactly its content in the file that the path then leads to.
A path may as well lead to a device or to a queue, which takes what is written and keeps
nothing of it.
-/

namespace Turnwise
namespace Host

/-! ## Arrays of bytes -/

/-- Reading an array from an index on yields its bytes from there, behind those already
read. -/
theorem toList_loop
    (bytes : ByteArray)
    (index : Nat)
    (reversed : Bytes) :
    ByteArray.toList.loop bytes index reversed =
      reversed.reverse ++ bytes.data.toList.drop index := by
  fun_induction ByteArray.toList.loop bytes index reversed with
  | case1 index reversed inside inductionHypothesis =>
      have bound : index < bytes.data.toList.length := by simpa using inside
      have read : bytes.get! index = bytes.data.toList[index] := by
        rw [Array.getElem_toList, ← getElem!_pos bytes.data index inside]
        rfl
      rw [inductionHypothesis, read, List.drop_eq_getElem_cons bound, List.reverse_cons,
        List.append_assoc, List.singleton_append]
  | case2 index reversed outside =>
      rw [List.drop_eq_nil_of_le (by simpa using Nat.le_of_not_lt outside), List.append_nil]

/-- The bytes of an array that was made of bytes. -/
@[simp] theorem toList_mk (bytes : Bytes) : (ByteArray.mk bytes.toArray).toList = bytes := by
  rw [ByteArray.toList, toList_loop, List.reverse_nil, List.nil_append, List.drop_zero]

namespace Machine

/-- Whether a path leads to a file, and not to a device or a queue. -/
def leadsToFile (machine : Machine) (path : Path) : Bool :=
  match machine.kernel.disk.status machine.current true (Octets.ofText path) with
  | .ok status => status.form == .file
  | .error _ => false

theorem read_of_find
    {machine : Machine}
    {path : Path}
    {serial : Nat}
    {content : ByteArray}
    (proper : checkPath path = .ok ())
    (found : machine.kernel.disk.find machine.current true (Octets.ofText path) = .ok serial)
    (held : machine.kernel.disk.content? serial = some content) :
    machine.read path = .ok content.toList := by
  have read : machine.content serial = .ok content.toList := by
    unfold Disk.content? at held
    split at held
    · rename_i content mode links modified inode
      cases held
      rw [Machine.content, inode]
    · cases held
  simp only [Machine.read, proper, found, read, bind, Except.bind, Except.mapError]

/-- A path that leads to a file leads to an object with a content. -/
theorem exists_content_of_leadsToFile
    {machine : Machine}
    {path : Path}
    (file : machine.leadsToFile path = true) :
    ∃ serial content,
      machine.kernel.disk.find machine.current true (Octets.ofText path) = .ok serial ∧
      machine.kernel.disk.content? serial = some content := by
  unfold leadsToFile Disk.status at file
  cases found : machine.kernel.disk.find machine.current true (Octets.ofText path) with
  | error code =>
      rw [found] at file
      cases file
  | ok serial =>
      rw [found] at file
      simp only [bind, Except.bind, pure, Except.pure, throw, throwThe, MonadExceptOf.throw,
        Disk.status?] at file
      cases inode : machine.kernel.disk.inode? serial with
      | none =>
          rw [inode] at file
          cases file
      | some stored =>
          rw [inode] at file
          rcases stored with ⟨content | _ | _ | _ | _, _, _, _⟩
          case file => exact ⟨serial, content, rfl, by rw [Disk.content?, inode]⟩
          all_goals cases file

/-- What a write that succeeded has made of the disk: at the place to which the path led,
there is a file with the content or something that keeps nothing. -/
theorem exists_lays_of_write
    {machine after : Machine}
    {path : Path}
    {content : Bytes}
    (written : machine.write path content = (.ok (), after)) :
    checkPath path = .ok () ∧
    after.current = machine.current ∧
    ∃ place serial,
      machine.kernel.disk.resolve machine.current true (Octets.ofText path) = .ok place ∧
      (place.object = none ∨ place.object = some serial) ∧
      Disk.Lays machine.kernel.disk after.kernel.disk place serial ∧
      (after.kernel.disk.content? serial = none ∨
        after.kernel.disk.content? serial = some ⟨content.toArray⟩) := by
  unfold Machine.write at written
  cases proper : checkPath path with
  | error cause =>
      rw [proper] at written
      cases written
  | ok =>
      rw [proper] at written
      cases opened : machine.kernel.disk.openFile machine.view (Octets.ofText path) .writing with
      | error code =>
          rw [opened] at written
          cases written
      | ok pair =>
          obtain ⟨serial, disk⟩ := pair
          obtain ⟨place, led, readies⟩ := Disk.readies_of_openFile opened
          rw [opened] at written
          dsimp only at written
          split at written
          -- A full device has no room for anything, so the content is empty.
          · rename_i device
            have noFile : disk.content? serial = none := by
              rw [Disk.content?, device]
            cases readies.eq_of_no_file noFile
            cases congrArg Prod.snd written
            exact ⟨rfl, rfl, place, serial, led, readies.object, readies.lays, .inl noFile⟩
          · cases written
            refine ⟨rfl, rfl, place, serial, led, readies.object, readies.lays.writeAt 0 _ _, ?_⟩
            have written := disk.content?_writeAt serial 0 ⟨content.toArray⟩ machine.kernel.clock
            rcases readies.content?_eq with nothing | empty
            · rw [nothing] at written
              exact .inl written
            · rw [empty, Option.map_some, Disk.overwrite_empty] at written
              exact .inr written

/-- A write that succeeds leaves exactly its content, when the path then leads to a
file. -/
theorem read_write
    {machine after : Machine}
    {path : Path}
    {content : Bytes}
    (written : machine.write path content = (.ok (), after))
    (file : after.leadsToFile path = true) :
    after.read path = .ok content := by
  obtain ⟨proper, stays, place, serial, led, there, lays, holds⟩ := exists_lays_of_write written
  obtain ⟨reached, held, found, kept⟩ := exists_content_of_leadsToFile file
  rw [stays] at found
  have same : serial = reached := by
    rcases lays.leads_find there led with ⟨code, failed⟩ | leads
    · rw [failed] at found
      cases found
    · exact Except.ok.inj (leads.symm.trans found)
  subst same
  rw [kept] at holds
  rcases holds with nothing | content
  · cases nothing
  · cases content
    rw [← stays] at found
    rw [read_of_find proper found kept, toList_mk]

end Machine
end Host
end Turnwise
