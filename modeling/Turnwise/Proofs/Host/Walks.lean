import Turnwise.Proofs.Host.Disk

/-!
# Walks in two parts

A walk along a path that is written in two parts is a walk along the first part and, from
where that arrives, one along the second.  It meets the symbolic links of both, so each part
alone stays within the limit of the whole.  Main result: what a path leads to is found from
the directory of its last name, too.
-/

namespace Turnwise
namespace Host
namespace Disk

variable {disk : Disk}

/-! ## Strides -/

/-- How a stride goes on with more segments. -/
def thenStride (disk : Disk) (more : List Octets) : Stride → Stride
  | .reached ⟨_, _, some serial⟩ => disk.stride true serial more
  | .reached ⟨_, _, none⟩ => .failed .noEntry
  | .failed code => .failed code
  | .link directory target rest => .link directory target (rest ++ more)

/-- A name looked up with segments left, of which there are some. -/
theorem meet_append
    {start : Nat}
    {name : Octets}
    {rest more : List Octets}
    (onward : more ≠ [])
    (goes : ∀ start, disk.stride true start (rest ++ more) =
      disk.thenStride more (disk.stride true start rest))
    (entry : Option (Octets × Nat)) :
    disk.meet true start name (rest ++ more) entry =
      disk.thenStride more (disk.meet true start name rest entry) := by
  have left : (rest ++ more).isEmpty = false := by simp [onward]
  cases entry with
  | none =>
      rw [meet, meet, left]
      cases rest.isEmpty <;> rfl
  | some entry =>
      obtain ⟨label, found⟩ := entry
      cases link : disk.link? found with
      | some target =>
          rw [meet_of_link link, meet_of_link link, Bool.not_true, Bool.and_false, Bool.and_false]
          rfl
      | none =>
          rw [meet_of_no_link link, meet_of_no_link link, left]
          cases rest with
          | nil => rfl
          | cons next rest => exact goes found

/-- A stride along two parts is a stride along the first, and then along the second. -/
theorem stride_append
    (disk : Disk)
    (start : Nat)
    (path : List Octets)
    {more : List Octets}
    (onward : more ≠ []) :
    disk.stride true start (path ++ more) = disk.thenStride more (disk.stride true start path) := by
  induction path generalizing start with
  | nil => rfl
  | cons name rest inductionHypothesis =>
      rw [List.cons_append, stride_cons, stride_cons]
      cases disk.directory? start with
      | none => rfl
      | some directory =>
          obtain ⟨above, entries⟩ := directory
          dsimp only
          split
          · exact inductionHypothesis start
          split
          · have left : (rest ++ more).isEmpty = false := by simp [onward]
            rw [left]
            cases rest with
            | nil => rfl
            | cons next rest => exact inductionHypothesis above
          split
          · rfl
          · exact meet_append onward inductionHypothesis _

/-- A dot stays in the directory. -/
theorem stride_dots
    {start : Nat}
    {dots : List Octets}
    (dotted : ∀ name ∈ dots, name = ['.'])
    (standing : disk.isDirectory start = true)
    (path : List Octets) :
    disk.stride true start (dots ++ path) = disk.stride true start path := by
  induction dots with
  | nil => rfl
  | cons name rest inductionHypothesis =>
      obtain ⟨directory, found⟩ := Option.isSome_iff_exists.mp standing
      rw [List.cons_append, stride_cons, found]
      dsimp only
      rw [if_pos (dotted name List.mem_cons_self)]
      exact inductionHypothesis fun later present =>
        dotted later (List.mem_cons_of_mem name present)

/-! ## Walks over links -/

/-- Segments lead from a directory to an object, with links followed up to a limit. -/
inductive Arrives (disk : Disk) : (limit start : Nat) → List Octets → (serial : Nat) → Prop
  /-- A stride reaches the object. -/
  | reached {limit start serial directory : Nat} {name : Octets} {path : List Octets}
      (met : disk.stride true start path = .reached ⟨directory, name, some serial⟩) :
      Arrives disk (limit + 1) start path serial
  /-- A stride comes to a link, and what it points at leads on. -/
  | link {limit start serial directory : Nat} {target : Octets} {path rest : List Octets}
      (met : disk.stride true start path = .link directory target rest)
      (nonempty : target.isEmpty = false)
      (onward : Arrives disk limit (if isAbsolute target then root else directory)
        (segments target ++ rest) serial) :
      Arrives disk (limit + 1) start path serial

variable {limit start serial : Nat}
variable {path more : List Octets}

/-- Following segments arrives at the object of the place it leads to. -/
theorem arrives_iff :
    Arrives disk limit start path serial ↔
      ∃ place, disk.pursue true limit start path = .ok place ∧ place.object = some serial := by
  constructor
  · intro arrives
    induction arrives with
    | reached met =>
        rw [pursue, met]
        exact ⟨_, rfl, rfl⟩
    | link met nonempty _ inductionHypothesis =>
        rw [pursue, met]
        dsimp only
        rw [if_neg (by rw [nonempty]; exact Bool.false_ne_true)]
        exact inductionHypothesis
  · rintro ⟨⟨directory, name, object⟩, led, rfl⟩
    induction limit generalizing start path with
    | zero => cases led
    | succ limit inductionHypothesis =>
        rw [pursue] at led
        cases met : disk.stride true start path with
        | reached place =>
            rw [met] at led
            cases led
            exact .reached met
        | failed code =>
            rw [met] at led
            cases led
        | link directory target rest =>
            rw [met] at led
            dsimp only at led
            split at led
            next => cases led
            next nonempty => exact .link met (by simpa using nonempty) (inductionHypothesis led)

/-- A higher limit changes nothing for a walk that arrives. -/
theorem Arrives.mono
    (arrives : Arrives disk limit start path serial)
    {higher : Nat}
    (bound : limit ≤ higher) :
    Arrives disk higher start path serial := by
  induction arrives generalizing higher with
  | reached met =>
      obtain ⟨fewer, rfl⟩ := Nat.exists_eq_add_one_of_ne_zero (Nat.ne_zero_of_lt bound)
      exact .reached met
  | link met nonempty _ inductionHypothesis =>
      obtain ⟨fewer, rfl⟩ := Nat.exists_eq_add_one_of_ne_zero (Nat.ne_zero_of_lt bound)
      exact .link met nonempty (inductionHypothesis (Nat.le_of_succ_le_succ bound))

/-- A walk along two parts arrives, after the first, where the second leads on from. -/
theorem Arrives.exists_of_append
    (arrives : Arrives disk limit start (path ++ more) serial)
    (onward : more ≠ []) :
    ∃ between, Arrives disk limit start path between ∧
      Arrives disk limit between more serial := by
  generalize whole : path ++ more = both at arrives
  induction arrives generalizing path with
  | reached met =>
      subst whole
      rw [stride_append disk _ path onward] at met
      generalize first : disk.stride true _ path = stride at met
      match stride, met with
      | .reached ⟨_, _, some between⟩, met => exact ⟨between, .reached first, .reached met⟩
  | link met nonempty following inductionHypothesis =>
      subst whole
      rw [stride_append disk _ path onward] at met
      generalize first : disk.stride true _ path = stride at met
      match stride, met with
      | .reached ⟨_, _, some between⟩, met =>
          exact ⟨between, .reached first, .link met nonempty following⟩
      -- The link stands in the first part, and its target comes before the rest of that part.
      | .link directory target rest, met =>
          cases met
          obtain ⟨between, before, after⟩ := inductionHypothesis (List.append_assoc _ _ _)
          exact ⟨between, .link first nonempty before, after.mono (Nat.le_succ _)⟩

/-- Only from a directory does a segment lead anywhere. -/
theorem Arrives.isDirectory
    (arrives : Arrives disk limit start path serial)
    (nonempty : path ≠ []) :
    disk.isDirectory start = true := by
  cases standing : disk.directory? start with
  | some directory => exact congrArg Option.isSome standing
  | none =>
      have fails := stride_of_none standing true (List.isEmpty_eq_false_iff.mpr nonempty)
      cases arrives with
      | reached met =>
          rw [fails] at met
          cases met
      | link met =>
          rw [fails] at met
          cases met

/-- Dots on the way can be left out. -/
theorem Arrives.of_dots
    {dots : List Octets}
    (arrives : Arrives disk limit start (dots ++ path) serial)
    (dotted : ∀ name ∈ dots, name = ['.']) :
    Arrives disk limit start path serial := by
  by_cases empty : dots ++ path = []
  · obtain ⟨rfl, rfl⟩ := List.append_eq_nil_iff.mp empty
    exact arrives
  · have same := stride_dots dotted (arrives.isDirectory empty) path
    cases arrives with
    | reached met => exact .reached (same.symm.trans met)
    | link met nonempty onward => exact .link (same.symm.trans met) nonempty onward

/-- Without segments a walk arrives nowhere else. -/
theorem Arrives.eq_of_nil
    (arrives : Arrives disk limit start [] serial) :
    start = serial := by
  cases arrives with
  | reached met =>
      cases met
      rfl
  | link met => cases met

/-- Dots at the end can be left out. -/
theorem Arrives.of_dots_end
    {dots : List Octets}
    (arrives : Arrives disk limit start (path ++ dots) serial)
    (dotted : ∀ name ∈ dots, name = ['.']) :
    Arrives disk limit start path serial := by
  by_cases empty : dots = []
  · rw [empty, List.append_nil] at arrives
    exact arrives
  · obtain ⟨between, before, after⟩ := arrives.exists_of_append empty
    rw [← List.append_nil dots] at after
    rw [← (after.of_dots dotted).eq_of_nil]
    exact before

/-! ## Paths -/

/-- A path is found when it is no longer than allowed and its segments arrive; with a slash
at the end it has to lead to a directory. -/
theorem find_eq_ok_iff
    {current : Nat}
    {path : Octets} :
    disk.find current true path = .ok serial ↔
      path ≠ [] ∧ path.length < pathLimit ∧
      Arrives disk (linkLimit + 1) (if isAbsolute path then root else current)
        (segments path) serial ∧
      (Text.endsIn '/' path = true → disk.isDirectory serial = true) := by
  rw [arrives_iff, find_eq, resolve_eq, Bool.true_or]
  by_cases empty : path = []
  · subst empty
    simp
  by_cases long : pathLimit ≤ path.length
  · simp [empty, long, Nat.not_lt.mpr long]
  rw [if_neg (mt List.isEmpty_iff.mp empty), if_neg long]
  cases disk.pursue true (linkLimit + 1) (if isAbsolute path then root else current)
      (segments path) with
  | error code => simp
  | ok place =>
      obtain ⟨directory, name, object⟩ := place
      cases object with
      | none => simp
      | some found =>
          cases standing : disk.isDirectory found <;> cases Text.endsIn '/' path <;>
            grind

end Disk
end Host
end Turnwise
