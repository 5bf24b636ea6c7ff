import Mathlib.Data.List.Basic
import Turnwise.Host.Disk

/-!
# Following paths over a write

A walk along a path asks each object on its way whether it is a directory, and with which
entries, or a symbolic link.  A write puts a file somewhere and may give it a name.  The
same walk afterwards ends as before, or it ends at that file, or the file stands in its
way and it fails.
-/

namespace Turnwise
namespace Host
namespace Disk

open SystemError (Code)

/-! ## Objects -/

/-- The target of the symbolic link under a serial number. -/
def link? (disk : Disk) (serial : Nat) : Option Octets :=
  match disk.inode? serial with
  | some ⟨.link target, _, _, _⟩ => some target
  | _ => none

variable {disk made : Disk}
variable {serial other : Nat}

theorem directory?_congr
    (same : made.inode? serial = disk.inode? serial) :
    made.directory? serial = disk.directory? serial := by
  rw [directory?, directory?, same]

theorem link?_congr
    (same : made.inode? serial = disk.inode? serial) :
    made.link? serial = disk.link? serial := by
  rw [link?, link?, same]

theorem inode?_set
    (disk : Disk)
    (serial other : Nat)
    (inode : Inode) :
    (disk.set serial inode).inode? other =
      if serial = other then some inode else disk.inode? other := by
  simp only [inode?, set, Std.TreeMap.getElem?_insert, Nat.compare_eq_eq]

@[simp] theorem inode?_set_self
    (disk : Disk)
    (serial : Nat)
    (inode : Inode) :
    (disk.set serial inode).inode? serial = some inode := by
  rw [inode?_set, if_pos rfl]

theorem inode?_set_of_ne
    (different : other ≠ serial)
    (disk : Disk)
    (inode : Inode) :
    (disk.set serial inode).inode? other = disk.inode? other := by
  rw [inode?_set, if_neg different.symm]

theorem inode?_update_self
    (disk : Disk)
    (serial : Nat)
    (change : Inode → Inode) :
    (disk.update serial change).inode? serial = (disk.inode? serial).map change := by
  unfold update
  cases found : disk.inode? serial with
  | none => exact found
  | some inode => exact inode?_set_self disk serial _

theorem inode?_update_of_ne
    (different : other ≠ serial)
    (disk : Disk)
    (change : Inode → Inode) :
    (disk.update serial change).inode? other = disk.inode? other := by
  unfold update
  cases disk.inode? serial with
  | none => rfl
  | some inode => exact inode?_set_of_ne different disk _

/-! ## Writing to a file -/

/-- Writing to a file makes nothing a directory, and no directory anything else. -/
theorem directory?_writeAt
    (disk : Disk)
    (serial position : Nat)
    (bytes : ByteArray)
    (now other : Nat) :
    (disk.writeAt serial position bytes now).directory? other = disk.directory? other := by
  by_cases same : other = serial
  · subst same
    rw [directory?, directory?, writeAt, inode?_update_self]
    cases disk.inode? other with
    | none => rfl
    | some inode => rcases inode with ⟨_ | _ | _ | _ | _, _, _, _⟩ <;> rfl
  · exact directory?_congr (inode?_update_of_ne same disk _)

/-- Writing to a file changes no symbolic link. -/
theorem link?_writeAt
    (disk : Disk)
    (serial position : Nat)
    (bytes : ByteArray)
    (now other : Nat) :
    (disk.writeAt serial position bytes now).link? other = disk.link? other := by
  by_cases same : other = serial
  · subst same
    rw [link?, link?, writeAt, inode?_update_self]
    cases disk.inode? other with
    | none => rfl
    | some inode => rcases inode with ⟨_ | _ | _ | _ | _, _, _, _⟩ <;> rfl
  · exact link?_congr (inode?_update_of_ne same disk _)

/-- The content of a file that was written to. -/
theorem content?_writeAt
    (disk : Disk)
    (serial position : Nat)
    (bytes : ByteArray)
    (now : Nat) :
    (disk.writeAt serial position bytes now).content? serial =
      (disk.content? serial).map fun content => overwrite content position bytes := by
  rw [content?, content?, writeAt, inode?_update_self]
  cases disk.inode? serial with
  | none => rfl
  | some inode => rcases inode with ⟨_ | _ | _ | _ | _, _, _, _⟩ <;> rfl

@[simp] theorem overwrite_empty (bytes : ByteArray) :
    overwrite ByteArray.empty 0 bytes = bytes :=
  ByteArray.empty_append

/-! ## Entering a name -/

/-- The entries of a directory in which a name stands for an object. -/
def named (entries : List (Octets × Nat)) (name : Octets) (serial : Nat) :
    List (Octets × Nat) :=
  if entries.any (·.1 == name) then
    entries.map fun entry => if entry.1 == name then (name, serial) else entry
  else entries ++ [(name, serial)]

/-- Where the name is replaced, the search for a name meets the same entries as before. -/
theorem find?_replaced
    {entries : List (Octets × Nat)}
    {name : Octets}
    (present : entries.any (·.1 == name) = true)
    (sought : Octets)
    (serial : Nat) :
    (entries.map fun entry => if entry.1 == name then (name, serial) else entry).find?
        (·.1 == sought) =
      if sought = name then some (name, serial) else entries.find? (·.1 == sought) := by
  have kept : ((·.1 == sought) ∘ fun entry : Octets × Nat =>
      if entry.1 == name then (name, serial) else entry) = (·.1 == sought) := by
    funext entry
    simp only [Function.comp_apply]
    split
    · rename_i same
      rw [beq_iff_eq.mp same]
    · rfl
  rw [List.find?_map, kept]
  cases found : entries.find? (·.1 == sought) with
  | none =>
      rw [if_neg, Option.map_none]
      rintro rfl
      obtain ⟨entry, member, same⟩ := List.any_eq_true.mp present
      exact List.find?_eq_none.mp found entry member same
  | some entry =>
      have label : entry.1 = sought := by simpa using List.find?_some found
      by_cases same : sought = name <;> simp [label, same]

/-- The name leads to the object, and all other names lead where they led. -/
theorem find?_named
    (entries : List (Octets × Nat))
    (name sought : Octets)
    (serial : Nat) :
    (named entries name serial).find? (·.1 == sought) =
      if sought = name then some (name, serial) else entries.find? (·.1 == sought) := by
  unfold named
  cases present : entries.any (·.1 == name) with
  | true =>
      rw [if_pos rfl]
      exact find?_replaced present sought serial
  | false =>
      have absent : entries.find? (·.1 == name) = none := by
        simpa using present
      rw [if_neg Bool.false_ne_true, List.find?_append]
      by_cases same : sought = name
      · subst same
        rw [absent, if_pos rfl, Option.none_or]
        simp
      · rw [if_neg same, List.find?_cons_of_neg (by simpa using Ne.symm same), List.find?_nil,
          Option.or_none]

theorem directory?_enter_self
    {directory above : Nat}
    {entries : List (Octets × Nat)}
    (found : disk.directory? directory = some (above, entries))
    (name : Octets)
    (serial now : Nat) :
    (disk.enter directory name serial now).directory? directory =
      some (above, named entries name serial) := by
  unfold directory? at found
  split at found
  · rename_i inode
    cases found
    rw [directory?, enter, inode?_update_self, inode]
    rfl
  · cases found

theorem inode?_enter_of_ne
    {directory : Nat}
    (different : other ≠ directory)
    (disk : Disk)
    (name : Octets)
    (serial now : Nat) :
    (disk.enter directory name serial now).inode? other = disk.inode? other :=
  inode?_update_of_ne different disk _

/-- Nothing can be entered in what is no directory. -/
theorem inode?_enter_of_none
    {directory : Nat}
    (none : disk.directory? directory = none)
    (name : Octets)
    (serial now other : Nat) :
    (disk.enter directory name serial now).inode? other = disk.inode? other := by
  by_cases same : other = directory
  · subst same
    rw [enter, inode?_update_self]
    rw [directory?] at none
    cases found : disk.inode? other with
    | none => rfl
    | some inode =>
        rw [found] at none
        rcases inode with ⟨_ | _ | _ | _ | _, _, _, _⟩ <;> first | rfl | cases none
  · exact inode?_enter_of_ne same disk name serial now

theorem link?_enter
    (disk : Disk)
    (directory : Nat)
    (name : Octets)
    (serial now other : Nat) :
    (disk.enter directory name serial now).link? other = disk.link? other := by
  by_cases same : other = directory
  · subst same
    rw [link?, link?, enter, inode?_update_self]
    cases disk.inode? other with
    | none => rfl
    | some inode => rcases inode with ⟨_ | _ | _ | _ | _, _, _, _⟩ <;> rfl
  · exact link?_congr (inode?_enter_of_ne same disk name serial now)

/-! ## Keeping a new file -/

/-- A disk with one more object, which has no name yet. -/
def keep (disk : Disk) (inode : Inode) : Disk :=
  { disk.set disk.fresh inode with fresh := disk.fresh + 1 }

theorem inode?_keep_fresh
    (disk : Disk)
    (inode : Inode) :
    (disk.keep inode).inode? disk.fresh = some inode :=
  inode?_set_self disk disk.fresh inode

theorem inode?_keep_of_ne
    (different : other ≠ disk.fresh)
    (inode : Inode) :
    (disk.keep inode).inode? other = disk.inode? other :=
  inode?_set_of_ne different disk inode

theorem create_file_eq
    (disk : Disk)
    (directory : Nat)
    (name : Octets)
    (content : ByteArray)
    (mode now : Nat) :
    disk.create directory name (.file content) mode now =
      (disk.fresh,
        (disk.keep ⟨.file content, mode, 1, now⟩).enter directory name disk.fresh now) := rfl

/-- A file that was made stands under its serial number, whatever was there. -/
theorem inode?_create_fresh
    (disk : Disk)
    (directory : Nat)
    (name : Octets)
    (content : ByteArray)
    (mode now : Nat) :
    (disk.create directory name (.file content) mode now).2.inode? disk.fresh =
      some ⟨.file content, mode, 1, now⟩ := by
  rw [create_file_eq]
  have stands := inode?_keep_fresh disk ⟨.file content, mode, 1, now⟩
  by_cases same : disk.fresh = directory
  · have bare : (disk.keep ⟨.file content, mode, 1, now⟩).directory? directory = none := by
      rw [← same, directory?, stands]
    rw [inode?_enter_of_none bare, stands]
  · rw [inode?_enter_of_ne same, stands]

/-! ## Walks -/

/-- How a walk goes on when a name is looked up in a directory, with segments left. -/
def meet
    (disk : Disk)
    (follows : Bool)
    (start : Nat)
    (name : Octets)
    (rest : List Octets) : Option (Octets × Nat) → Stride
  | none => if rest.isEmpty then .reached ⟨start, name, none⟩ else .failed .noEntry
  | some (_, found) =>
      match disk.link? found with
      | some target =>
          if rest.isEmpty && !follows then .reached ⟨start, name, some found⟩
          else .link start target rest
      | none =>
          if rest.isEmpty then .reached ⟨start, name, some found⟩
          else disk.stride follows found rest

theorem meet_of_link
    {follows : Bool}
    {start found : Nat}
    {name label target : Octets}
    {rest : List Octets}
    (link : disk.link? found = some target) :
    disk.meet follows start name rest (some (label, found)) =
      if rest.isEmpty && !follows then .reached ⟨start, name, some found⟩
      else .link start target rest := by
  rw [meet, link]

theorem meet_of_no_link
    {follows : Bool}
    {start found : Nat}
    {name label : Octets}
    {rest : List Octets}
    (noLink : disk.link? found = none) :
    disk.meet follows start name rest (some (label, found)) =
      if rest.isEmpty then .reached ⟨start, name, some found⟩
      else disk.stride follows found rest := by
  rw [meet, noLink]

/-- A walk reads nothing but the entries of directories and the targets of symbolic
links. -/
theorem stride_cons
    (disk : Disk)
    (follows : Bool)
    (start : Nat)
    (name : Octets)
    (rest : List Octets) :
    disk.stride follows start (name :: rest) =
      match disk.directory? start with
      | none => .failed .notDirectory
      | some (above, entries) =>
          if name = ['.'] then disk.stride follows start rest
          else if name = ['.', '.'] then
            if rest.isEmpty then .reached ⟨above, name, some above⟩
            else disk.stride follows above rest
          else if segmentLimit < name.length then .failed .nameTooLong
          else disk.meet follows start name rest (entries.find? (·.1 == name)) := by
  rw [stride]
  cases disk.directory? start with
  | none => rfl
  | some directory =>
      dsimp only
      cases directory.2.find? (·.1 == name) with
      | none => rfl
      | some entry =>
          obtain ⟨_, found⟩ := entry
          unfold meet link?
          dsimp only
          cases disk.inode? found with
          | none => rfl
          | some inode => rcases inode with ⟨_ | _ | _ | _ | _, _, _, _⟩ <;> rfl

/-- A walk cannot go on from what is no directory. -/
theorem stride_of_none
    {start : Nat}
    {path : List Octets}
    (bare : disk.directory? start = none)
    (follows : Bool)
    (onward : path.isEmpty = false) :
    disk.stride follows start path = .failed .notDirectory := by
  cases path with
  | nil => cases onward
  | cons name rest => rw [stride_cons, bare]

/-- How a directory differs from before when an object was perhaps entered at a place: a name
leads to the object, or it leads where it led. -/
def Enters (disk made : Disk) (place : Place) (serial directory : Nat) : Prop :=
  (disk.directory? directory = none ∧ made.directory? directory = none) ∨
    ∃ above before after,
      disk.directory? directory = some (above, before) ∧
      made.directory? directory = some (above, after) ∧
      ∀ name,
        (after.find? (·.1 == name) = some (name, serial) ∧ made.link? serial = none) ∨
        (after.find? (·.1 == name) = before.find? (·.1 == name) ∧
          (place.object = none → ¬ (directory = place.directory ∧ name = place.name)))

/-- A directory in which nothing was entered is as before. -/
theorem enters_of_same
    {place : Place}
    {directory : Nat}
    (same : made.directory? directory = disk.directory? directory)
    (elsewhere : place.object = none → directory ≠ place.directory) :
    Enters disk made place serial directory := by
  cases found : disk.directory? directory with
  | none => exact .inl ⟨found, same.trans found⟩
  | some pair =>
      exact .inr ⟨pair.1, pair.2, pair.2, found, same.trans found,
        fun _ => .inr ⟨rfl, fun absent there => elsewhere absent there.1⟩⟩

/-- A name that is entered in a directory leads to the object, if the directory is one. -/
theorem enters_enter
    {base : Disk}
    {directory : Nat}
    (kept : base.directory? directory = disk.directory? directory)
    (noLink : base.link? serial = none)
    (name : Octets)
    (now : Nat) :
    Enters disk (base.enter directory name serial now) ⟨directory, name, none⟩ serial
      directory := by
  cases found : disk.directory? directory with
  | none =>
      rw [found] at kept
      refine .inl ⟨found, ?_⟩
      rw [directory?_congr (inode?_enter_of_none kept name serial now directory), kept]
  | some pair =>
      rw [found] at kept
      refine .inr ⟨pair.1, pair.2, _, found, directory?_enter_self kept name serial now,
        fun sought => ?_⟩
      rw [find?_named, link?_enter]
      split
      · rename_i same
        exact .inl ⟨by rw [same], noLink⟩
      · rename_i different
        exact .inr ⟨rfl, fun _ there => different there.2⟩

/-- How a disk differs from the one before when an object that is no directory was put
under a serial number and perhaps entered at a place. -/
structure Lays (disk made : Disk) (place : Place) (serial : Nat) : Prop where
  /-- The object is no directory. -/
  bare : made.directory? serial = none
  /-- Symbolic links are what they were, but the object may have replaced one. -/
  links : ∀ other, made.link? other = disk.link? other ∨
    other = serial ∧ made.link? other = none
  /-- Directories are what they were, but the object may have been entered. -/
  entries : ∀ other, other ≠ serial → Enters disk made place serial other

/-- How a walk ends when something was put at a place, from how it ended before. -/
inductive Leads (place : Place) (serial : Nat) (before : Stride) : Stride → Prop
  /-- It fails. -/
  | failed (code : Code) : Leads place serial before (.failed code)
  /-- It ends at what was put there. -/
  | reached (found : Place) (there : found.object = some serial) :
      Leads place serial before (.reached found)
  /-- It ends as before, but not at the place when nothing was there. -/
  | same (elsewhere : place.object = none → before ≠ .reached place) :
      Leads place serial before before

/-- A name is looked up before and after something was put at a place. -/
theorem Lays.leads_meet
    {place : Place}
    {follows : Bool}
    {start : Nat}
    {name : Octets}
    {rest : List Octets}
    {before after : Option (Octets × Nat)}
    (lays : Lays disk made place serial)
    (onward : ∀ start, Leads place serial (disk.stride follows start rest)
      (made.stride follows start rest))
    (finds : (after = some (name, serial) ∧ made.link? serial = none) ∨
      (after = before ∧
        (place.object = none → ¬ (start = place.directory ∧ name = place.name)))) :
    Leads place serial (disk.meet follows start name rest before)
      (made.meet follows start name rest after) := by
  -- Whoever comes upon the object ends there.
  have met (label : Octets) (noLink : made.link? serial = none) :
      Leads place serial (disk.meet follows start name rest before)
        (made.meet follows start name rest (some (label, serial))) := by
    rw [meet_of_no_link noLink]
    cases last : rest.isEmpty with
    | true => exact .reached _ rfl
    | false =>
        rw [stride_of_none lays.bare follows last]
        exact .failed _
  rcases finds with ⟨rfl, noLink⟩ | ⟨rfl, elsewhere⟩
  · exact met name noLink
  cases after with
  | none =>
      cases last : rest.isEmpty with
      | true =>
          simp only [meet, last, if_true]
          refine .same fun absent reached => elsewhere absent ?_
          cases reached
          exact ⟨rfl, rfl⟩
      | false =>
          simp only [meet, last, Bool.false_eq_true, if_false]
          exact .failed _
  | some entry =>
      obtain ⟨label, found⟩ := entry
      rcases lays.links found with same | ⟨rfl, noLink⟩
      · cases link : disk.link? found with
        | some target =>
            rw [meet_of_link link, meet_of_link (same.trans link)]
            refine .same fun absent reached => ?_
            split at reached <;> cases reached
            cases absent
        | none =>
            rw [meet_of_no_link link, meet_of_no_link (same.trans link)]
            cases last : rest.isEmpty with
            | true =>
                refine .same fun absent reached => ?_
                cases reached
                cases absent
            | false => exact onward found
      · exact met label noLink

/-- A walk before and after something was put at a place. -/
theorem Lays.leads_stride
    {place : Place}
    (lays : Lays disk made place serial)
    (follows : Bool)
    (start : Nat)
    (path : List Octets) :
    Leads place serial (disk.stride follows start path) (made.stride follows start path) := by
  induction path generalizing start with
  | nil =>
      refine .same fun absent reached => ?_
      rw [stride] at reached
      cases reached
      cases absent
  | cons name rest inductionHypothesis =>
      by_cases here : start = serial
      · rw [here, stride_of_none lays.bare follows rfl]
        exact .failed _
      rcases lays.entries start here with ⟨before, after⟩ | ⟨above, old, new, before, after, finds⟩
      · rw [stride_of_none before follows rfl, stride_of_none after follows rfl]
        exact .failed _
      rw [stride_cons, stride_cons, before, after]
      dsimp only
      split
      · exact inductionHypothesis start
      split
      · split
        · exact .same fun absent reached => by cases reached; cases absent
        · exact inductionHypothesis above
      split
      · exact .failed _
      exact lays.leads_meet inductionHypothesis (finds name)

/-- Links on the way included, a path that led to the place fails or ends at what was put
there. -/
theorem Lays.leads_pursue
    {place : Place}
    (lays : Lays disk made place serial)
    (there : place.object = none ∨ place.object = some serial)
    {follows : Bool}
    {limit start : Nat}
    {path : List Octets}
    (led : disk.pursue follows limit start path = .ok place) :
    (∃ code, made.pursue follows limit start path = .error code) ∨
      ∃ found, made.pursue follows limit start path = .ok found ∧
        found.object = some serial := by
  induction limit generalizing start path with
  | zero => exact .inl ⟨_, rfl⟩
  | succ limit inductionHypothesis =>
      have leads := lays.leads_stride follows start path
      rw [pursue] at led ⊢
      generalize disk.stride follows start path = before at leads led
      generalize made.stride follows start path = after at leads
      cases leads with
      | failed code => exact .inl ⟨code, rfl⟩
      | reached found same => exact .inr ⟨found, rfl, same⟩
      | same elsewhere =>
          cases before with
          | failed code => cases led
          | reached found =>
              cases led
              exact .inr ⟨place, rfl, there.resolve_left fun absent => elsewhere absent rfl⟩
          | link directory target rest =>
              dsimp only at led ⊢
              split at led
              · cases led
              · rename_i onward
                rw [if_neg onward]
                exact inductionHypothesis led

/-- What a path leads to, step by step. -/
theorem resolve_eq
    (disk : Disk)
    (current : Nat)
    (follows : Bool)
    (path : Octets) :
    disk.resolve current follows path =
      if path.isEmpty then .error .noEntry
      else if pathLimit ≤ path.length then .error .nameTooLong
      else
        match disk.pursue (follows || Text.endsIn '/' path) (linkLimit + 1)
            (if isAbsolute path then root else current) (segments path) with
        | .error code => .error code
        | .ok place =>
            match place.object with
            | some serial =>
                if Text.endsIn '/' path && !disk.isDirectory serial then .error .notDirectory
                else .ok place
            | none => .ok place := by
  simp only [resolve, bind, Except.bind, pure, Except.pure, throw, throwThe, MonadExceptOf.throw]
  cases disk.pursue (follows || Text.endsIn '/' path) (linkLimit + 1)
    (if isAbsolute path then root else current) (segments path) <;> rfl

theorem find_eq
    (disk : Disk)
    (current : Nat)
    (follows : Bool)
    (path : Octets) :
    disk.find current follows path =
      match disk.resolve current follows path with
      | .error code => .error code
      | .ok place =>
          match place.object with
          | some serial => .ok serial
          | none => .error .noEntry := by
  simp only [find, bind, Except.bind, pure, Except.pure, throw, throwThe, MonadExceptOf.throw]
  cases disk.resolve current follows path <;> rfl

/-- A path that leads to a place is not empty, nor too long, and its segments lead there. -/
theorem pursue_of_resolve
    {current : Nat}
    {follows : Bool}
    {path : Octets}
    {place : Place}
    (led : disk.resolve current follows path = .ok place) :
    path.isEmpty = false ∧ ¬ pathLimit ≤ path.length ∧
      disk.pursue (follows || Text.endsIn '/' path) (linkLimit + 1)
        (if isAbsolute path then root else current) (segments path) = .ok place := by
  rw [resolve_eq] at led
  split at led
  · cases led
  rename_i nonempty
  split at led
  · cases led
  rename_i short
  refine ⟨by simpa using nonempty, short, ?_⟩
  split at led
  · cases led
  rename_i pursued
  rw [pursued]
  split at led
  · split at led
    · cases led
    · exact led
  · exact led

/-- The whole path: when it led to the place, it fails or leads to what was put there. -/
theorem Lays.leads_find
    {place : Place}
    (lays : Lays disk made place serial)
    (there : place.object = none ∨ place.object = some serial)
    {current : Nat}
    {path : Octets}
    (led : disk.resolve current true path = .ok place) :
    (∃ code, made.find current true path = .error code) ∨
      made.find current true path = .ok serial := by
  obtain ⟨nonempty, short, pursued⟩ := pursue_of_resolve led
  rw [find_eq, resolve_eq, nonempty, if_neg Bool.false_ne_true, if_neg short]
  rcases lays.leads_pursue there pursued with ⟨code, failed⟩ | ⟨found, reached, object⟩
  · rw [failed]
    exact .inl ⟨code, rfl⟩
  · rw [reached]
    dsimp only
    rw [object]
    dsimp only
    -- A path that ends in a slash asks for a directory.
    cases Text.endsIn '/' path && !made.isDirectory serial with
    | true => exact .inl ⟨.notDirectory, rfl⟩
    | false =>
        rw [if_neg Bool.false_ne_true]
        dsimp only
        rw [object]
        exact .inr rfl

/-! ## Opening for writing -/

/-- How an object is made ready for writing at a place. -/
inductive Readies (disk : Disk) (now : Nat) : Place → Nat → Disk → Prop
  /-- A file is made where nothing was. -/
  | created (directory : Nat) (name : Octets) (mode : Nat) :
      Readies disk now ⟨directory, name, none⟩ disk.fresh
        (disk.create directory name (.file ByteArray.empty) mode now).2
  /-- What a file held is dropped. -/
  | emptied {place : Place} {serial : Nat} {content : ByteArray} {mode links modified : Nat}
      (there : place.object = some serial)
      (file : disk.inode? serial = some ⟨.file content, mode, links, modified⟩) :
      Readies disk now place serial (disk.set serial ⟨.file ByteArray.empty, mode, links, now⟩)
  /-- Any other object is taken as it is, but no directory is. -/
  | taken {place : Place} {serial : Nat}
      (there : place.object = some serial)
      (noFile : disk.content? serial = none)
      (bare : disk.directory? serial = none) :
      Readies disk now place serial disk

variable {now : Nat}
variable {place : Place}

theorem eq_of_vacant
    {found : Place}
    (vacant : disk.vacant place = .ok found) :
    found = place := by
  simp only [Disk.vacant, bind, Except.bind, pure, Except.pure, throw, throwThe,
    MonadExceptOf.throw] at vacant
  split at vacant
  · cases vacant
  split at vacant
  · split at vacant
    · cases vacant
    · exact (Except.ok.inj vacant).symm
  · cases vacant

/-- Opening a path for writing follows the path and readies what is there. -/
theorem readies_of_openFile
    {view : Viewpoint}
    {path : Octets}
    (opened : disk.openFile view path .writing = .ok (serial, made)) :
    ∃ place, disk.resolve view.directory true path = .ok place ∧
      Readies disk view.now place serial made := by
  simp only [openFile, Opening.writing, bind, Except.bind, pure, Except.pure, throw, throwThe,
    MonadExceptOf.throw, if_true, Bool.and_false, Bool.not_false, Bool.not_true] at opened
  split at opened
  · cases opened
  split at opened
  · cases opened
  rename_i place resolved
  refine ⟨place, resolved, ?_⟩
  split at opened
  · rename_i absent
    rw [if_neg Bool.false_ne_true] at opened
    split at opened
    · cases opened
    rename_i vacant
    rw [eq_of_vacant vacant] at opened
    cases opened
    obtain ⟨directory, name, object⟩ := place
    cases absent
    exact .created directory name _
  · rename_i found there
    rw [if_neg Bool.false_ne_true] at opened
    split at opened
    · cases opened
    · rename_i file
      split at opened <;> cases opened
      exact .emptied there file
    · cases opened
    · rename_i inode noDirectory noFile _ stands
      cases opened
      rcases inode with ⟨content | ⟨above, entries⟩ | target | _ | device, mode, links, modified⟩
      case file => exact absurd rfl (noFile content mode links modified)
      case directory => exact absurd rfl (noDirectory above entries mode links modified)
      all_goals exact .taken there (by rw [content?, stands]) (by rw [directory?, stands])
    · cases opened

theorem Readies.object
    (readies : Readies disk now place serial made) :
    place.object = none ∨ place.object = some serial := by
  cases readies with
  | created => exact .inl rfl
  | emptied there => exact .inr there
  | taken there => exact .inr there

/-- What is ready holds nothing. -/
theorem Readies.content?_eq
    (readies : Readies disk now place serial made) :
    made.content? serial = none ∨ made.content? serial = some ByteArray.empty := by
  cases readies with
  | created directory name mode =>
      rw [content?, inode?_create_fresh]
      exact .inr rfl
  | emptied there file =>
      rw [content?, inode?_set_self]
      exact .inr rfl
  | taken there noFile => exact .inl noFile

/-- Making an object ready that is no file changes nothing. -/
theorem Readies.eq_of_no_file
    (readies : Readies disk now place serial made)
    (noFile : made.content? serial = none) :
    made = disk := by
  cases readies with
  | created directory name mode =>
      rw [content?, inode?_create_fresh] at noFile
      cases noFile
  | emptied there file =>
      rw [content?, inode?_set_self] at noFile
      cases noFile
  | taken => rfl

/-- An object that was there already is entered nowhere. -/
theorem lays_of_same
    (there : place.object = some serial)
    (bare : made.directory? serial = none)
    (links : ∀ other, made.link? other = disk.link? other ∨
      other = serial ∧ made.link? other = none)
    (directories : ∀ other, other ≠ serial → made.directory? other = disk.directory? other) :
    Lays disk made place serial := by
  refine ⟨bare, links, fun other different => enters_of_same (directories other different) ?_⟩
  rw [there]
  exact fun absent => nomatch absent

/-- A file that is made is entered in its directory. -/
theorem lays_create
    (disk : Disk)
    (directory : Nat)
    (name : Octets)
    (content : ByteArray)
    (mode now : Nat) :
    Lays disk (disk.create directory name (.file content) mode now).2 ⟨directory, name, none⟩
      disk.fresh := by
  have stands := inode?_create_fresh disk directory name content mode now
  refine ⟨by rw [directory?, stands], fun other => ?_, fun other different => ?_⟩
  · by_cases same : other = disk.fresh
    · rw [same, link?, stands]
      exact .inr ⟨rfl, rfl⟩
    · left
      rw [create_file_eq, link?_enter]
      exact link?_congr (inode?_keep_of_ne same _)
  · have kept : (disk.keep ⟨.file content, mode, 1, now⟩).directory? other =
        disk.directory? other :=
      directory?_congr (inode?_keep_of_ne different _)
    have noLink : (disk.keep ⟨.file content, mode, 1, now⟩).link? disk.fresh = none := by
      rw [link?, inode?_keep_fresh]
    rw [create_file_eq]
    by_cases here : other = directory
    · subst here
      exact enters_enter kept noLink name now
    · have same := directory?_congr
        (inode?_enter_of_ne here (disk.keep ⟨.file content, mode, 1, now⟩) name disk.fresh now)
      exact enters_of_same (same.trans kept) fun _ => here

/-- A walk meets what is ready as something that was put there. -/
theorem Readies.lays
    (readies : Readies disk now place serial made) :
    Lays disk made place serial := by
  cases readies with
  | created directory name mode => exact lays_create disk directory name _ mode now
  | @emptied _ _ _ mode links _ there file =>
      refine lays_of_same there (by rw [directory?, inode?_set_self]) (fun other => ?_)
        fun other different => directory?_congr (inode?_set_of_ne different disk _)
      by_cases same : other = serial
      · rw [same, link?, inode?_set_self]
        exact .inr ⟨rfl, rfl⟩
      · exact .inl (link?_congr (inode?_set_of_ne same disk _))
  | taken there noFile bare => exact lays_of_same there bare (fun _ => .inl rfl) fun _ _ => rfl

/-- Writing to an object makes no difference to walks. -/
theorem Lays.writeAt
    (lays : Lays disk made place serial)
    (position : Nat)
    (bytes : ByteArray)
    (now : Nat) :
    Lays disk (made.writeAt serial position bytes now) place serial := by
  obtain ⟨bare, links, entries⟩ := lays
  constructor <;> simpa only [Enters, directory?_writeAt, link?_writeAt]

end Disk
end Host
end Turnwise
