import Turnwise.Path
import Turnwise.Proofs.Text.Lines

/-!
# Beginnings and segments of paths

A path is its beginning and its segments put together.  Which segments can stand after a
beginning is said by `Spells`; a path that is put together from such segments gives the
beginning and the segments back.  What is read of a path, its components and so on, can
therefore be read off its segments.

Main result: a relative path seen from a directory has the components of the directory
first.
-/

namespace Turnwise
namespace Path

/-! ## Reading a path back -/

/-- Segments with which a path can go on after its beginning.  After a dot comes a slash, and
a path that begins with a segment begins with one that says something, unless it is empty. -/
def Follow : Start → List Text → Prop
  | .root, _ => True
  | .here, segments => segments.head? = some []
  | .segment, segments =>
      segments = [[]] ∨ ∃ first rest, segments = first :: rest ∧ isVoid first = false

/-- A beginning and segments that a path consists of. -/
structure Spells (start : Start) (segments : List Text) : Prop where
  /-- There is a segment, perhaps an empty one. -/
  nonempty : segments ≠ []
  /-- Slashes stand only between segments. -/
  slashFree : ∀ segment ∈ segments, '/' ∉ segment
  /-- The segments fit the beginning. -/
  follow : Follow start segments

theorem joinWith_splitOn_slash (text : Text) :
    Text.joinWith ['/'] (text.splitOn '/') = text :=
  List.intercalate_splitOn '/'

/-- The first segment of several, a slash, and the others. -/
theorem joinWith_cons_cons
    (first second : Text)
    (rest : List Text) :
    Text.joinWith ['/'] (first :: second :: rest) =
      first ++ '/' :: Text.joinWith ['/'] (second :: rest) := by
  rw [Text.joinWith, List.intercalate_cons_cons, List.append_assoc, List.singleton_append]
  rfl

theorem joinWith_singleton (segment : Text) : Text.joinWith ['/'] [segment] = segment :=
  List.intercalate_singleton

/-- Every path begins with the text of its beginning. -/
theorem text_append_drop (path : Path) :
    (start path).text ++ path.drop (start path).text.length = path := by
  fun_cases start path <;> rfl

/-- A path is its beginning and its segments. -/
@[simp] theorem assemble_segments (path : Path) :
    assemble (start path) (segments path) = path := by
  rw [assemble, segments, joinWith_splitOn_slash, text_append_drop]

/-- A path whose first segment says something begins with that segment. -/
theorem start_joinWith
    {first : Text}
    (slashFree : '/' ∉ first)
    (named : isVoid first = false)
    (rest : List Text) :
    start (Text.joinWith ['/'] (first :: rest)) = .segment := by
  -- The two characters at the beginning decide.
  have decided (tail : Text) (ends : tail = [] ∨ ∃ later, tail = '/' :: later) :
      start (first ++ tail) = .segment := by
    rcases first with _ | ⟨c, _ | ⟨d, others⟩⟩
    · cases named
    · have notSlash : c ≠ '/' := fun equal => slashFree (equal ▸ List.mem_cons_self)
      have notDot : c ≠ '.' := by
        rintro rfl
        cases named
      unfold start
      split <;> simp_all
    · have notSlash : c ≠ '/' := fun equal => slashFree (equal ▸ List.mem_cons_self)
      have nextNotSlash : d ≠ '/' := fun equal =>
        slashFree (equal ▸ List.mem_cons_of_mem _ List.mem_cons_self)
      unfold start
      split <;> simp_all
  cases rest with
  | nil =>
      rw [joinWith_singleton, ← List.append_nil first]
      exact decided [] (.inl rfl)
  | cons second rest =>
      rw [joinWith_cons_cons]
      exact decided _ (.inr ⟨_, rfl⟩)

variable {begins : Start}
variable {parts : List Text}

/-- A path that is put together begins as it should. -/
theorem Spells.start_assemble
    (spells : Spells begins parts) :
    start (assemble begins parts) = begins := by
  obtain ⟨nonempty, slashFree, follow⟩ := spells
  cases begins with
  | root => rfl
  | here =>
      obtain ⟨rest, rfl⟩ := List.head?_eq_some_iff.mp follow
      cases rest with
      | nil => rfl
      | cons second rest =>
          rw [assemble, joinWith_cons_cons]
          rfl
  | segment =>
      rcases follow with rfl | ⟨first, rest, rfl, named⟩
      · rfl
      · exact start_joinWith (slashFree first List.mem_cons_self) named rest

/-- A path that is put together has the segments it was put together from. -/
theorem Spells.segments_assemble
    (spells : Spells begins parts) :
    segments (assemble begins parts) = parts := by
  rw [segments, spells.start_assemble, assemble, List.drop_left]
  exact List.splitOn_intercalate '/' spells.slashFree spells.nonempty

/-- A path that begins with a segment is empty or begins with one that says something. -/
theorem follow_segment
    {path : Path}
    (begun : start path = .segment) :
    Follow .segment (path.splitOn '/') := by
  obtain ⟨first, rest, split⟩ :=
    List.exists_cons_of_ne_nil (List.splitOn_ne_nil '/' path)
  have whole := joinWith_splitOn_slash path
  rw [split] at whole ⊢
  cases void : isVoid first with
  | false => exact .inr ⟨first, rest, rfl, void⟩
  | true =>
      have blank : first = [] ∨ first = ['.'] := by
        simpa [isVoid] using void
      -- An empty or dotted first segment is another beginning, unless nothing follows.
      cases rest with
      | nil =>
          rw [joinWith_singleton] at whole
          rcases blank with rfl | rfl
          · exact .inl rfl
          · rw [← whole] at begun
            cases begun
      | cons second rest =>
          rw [joinWith_cons_cons] at whole
          rcases blank with rfl | rfl
          · rw [← whole] at begun
            cases begun
          · rw [← whole] at begun
            cases begun

/-- A path that begins with a dot has a slash after it, or nothing. -/
theorem follow_here
    {path : Path}
    (begun : start path = .here) :
    Follow .here ((path.drop 1).splitOn '/') := by
  unfold start at begun
  split at begun
  · cases begun
  · rfl
  · exact congrArg List.head? (List.splitOn_append_cons_self [] _)
  · cases begun

/-- Every path consists of its beginning and its segments. -/
theorem spells (path : Path) : Spells (start path) (segments path) := by
  refine ⟨List.splitOn_ne_nil '/' _, fun segment => Text.not_mem_of_mem_splitOn, ?_⟩
  rw [segments]
  cases begun : start path with
  | root => trivial
  | here => exact follow_here begun
  | segment => exact follow_segment begun

/-! ## Between slashes -/

/-- Segments with slashes between them are what they make up, but for empty ones. -/
theorem filter_splitOn_joinWith
    {parts : List Text}
    (slashFree : ∀ segment ∈ parts, '/' ∉ segment) :
    ((Text.joinWith ['/'] parts).splitOn '/').filter (!·.isEmpty) =
      parts.filter (!·.isEmpty) := by
  by_cases empty : parts = []
  · subst empty
    rfl
  · exact congrArg (List.filter _) (List.splitOn_intercalate '/' slashFree empty)

/-- After a dot the first segment is empty. -/
theorem Spells.headD
    {begins : Start}
    {parts : List Text}
    (spells : Spells begins parts)
    (here : begins = .here) :
    parts.headD [] = [] := by
  subst here
  obtain ⟨rest, rfl⟩ := List.head?_eq_some_iff.mp spells.follow
  rfl

/-- What a beginning says between slashes. -/
def Start.written : Start → List Text
  | .here => [['.']]
  | _ => []

/-- A beginning and segments between slashes are what they make up, but for empty ones. -/
theorem filter_splitOn_assemble
    {begins : Start}
    {parts : List Text}
    (slashFree : ∀ segment ∈ parts, '/' ∉ segment)
    (fits : begins = .here → parts.headD [] = []) :
    ((assemble begins parts).splitOn '/').filter (!·.isEmpty) =
      begins.written ++ parts.filter (!·.isEmpty) := by
  rw [← filter_splitOn_joinWith slashFree]
  cases begins with
  | root =>
      have split : (assemble .root parts).splitOn '/' =
          [] :: (Text.joinWith ['/'] parts).splitOn '/' :=
        List.splitOn_append_cons_self [] _
      rw [split]
      rfl
  | segment => rfl
  | here =>
      match parts, fits rfl with
      | [], _ => rfl
      | [[]], _ => rfl
      | [] :: second :: rest, _ =>
          have split (first : Text) :
              (first ++ Text.joinWith ['/'] ([] :: second :: rest)).splitOn '/' =
                first.splitOn '/' ++ (Text.joinWith ['/'] (second :: rest)).splitOn '/' :=
            List.splitOn_append_cons_self first _
          rw [assemble, split, ← List.nil_append (Text.joinWith ['/'] ([] :: second :: rest)),
            split]
          rfl

/-- What earlier segments spell comes before the others. -/
theorem joinWith_prefix
    (first second : List Text) :
    Text.joinWith ['/'] first <+: Text.joinWith ['/'] (first ++ second) := by
  induction first with
  | nil => exact List.nil_prefix
  | cons segment first inductionHypothesis =>
      cases first with
      | nil =>
          cases second with
          | nil => exact List.prefix_rfl
          | cons next second =>
              rw [List.singleton_append, joinWith_cons_cons, joinWith_singleton]
              exact List.prefix_append _ _
      | cons next first =>
          rw [List.cons_append, List.cons_append, joinWith_cons_cons, joinWith_cons_cons,
            List.prefix_append_right_inj, List.cons_prefix_cons]
          exact ⟨rfl, inductionHypothesis⟩

/-- A segment stands in what the segments spell. -/
theorem infix_joinWith
    {segment : Text}
    {parts : List Text}
    (present : segment ∈ parts) :
    segment <:+: Text.joinWith ['/'] parts := by
  induction parts with
  | nil => cases present
  | cons first rest inductionHypothesis =>
      cases rest with
      | nil =>
          rw [List.mem_singleton.mp present]
          exact (joinWith_singleton first).symm ▸ List.infix_rfl
      | cons second rest =>
          rw [joinWith_cons_cons]
          rcases List.mem_cons.mp present with rfl | later
          · exact (List.prefix_append _ _).isInfix
          · exact (inductionHypothesis later).trans
              ((List.suffix_cons '/' _).trans (List.suffix_append _ _)).isInfix

/-! ## Absolute paths -/

/-- A path is absolute when it begins with a slash. -/
theorem isAbsolute_iff
    {path : Path} :
    isAbsolute path = true ↔ path.head? = some '/' := by
  rw [isAbsolute, beq_iff_eq]
  constructor
  · intro begun
    unfold start at begun
    split at begun
    · rfl
    all_goals cases begun
  · intro first
    obtain ⟨rest, rfl⟩ := List.head?_eq_some_iff.mp first
    rfl

/-- A path that is not empty shows how all paths begin that go on from it. -/
theorem isAbsolute_of_prefix
    {first path : Path}
    (beginning : first <+: path)
    (nonempty : first ≠ []) :
    isAbsolute first = isAbsolute path := by
  rw [Bool.eq_iff_iff, isAbsolute_iff, isAbsolute_iff]
  obtain ⟨rest, rfl⟩ := beginning
  rw [List.head?_append_of_ne_nil _ nonempty]

/-! ## Components -/

/-- The components that segments stand for. -/
def steps (segments : List Text) : List Component :=
  (segments.filter (!isVoid ·)).map Component.ofSegment

@[simp] theorem steps_append (first second : List Text) :
    steps (first ++ second) = steps first ++ steps second := by
  rw [steps, List.filter_append, List.map_append]
  rfl

theorem components_eq (path : Path) :
    components path = (start path).components ++ steps (segments path) :=
  rfl

/-- The components of a path that is put together. -/
theorem Spells.components_assemble
    (spells : Spells begins parts) :
    components (assemble begins parts) = begins.components ++ steps parts := by
  rw [components_eq, spells.start_assemble, spells.segments_assemble]

/-- A slash after a path does not change how the path begins. -/
theorem start_append_slash
    {path : Path}
    (nonempty : path ≠ [])
    (rest : Text) :
    start (path ++ '/' :: rest) = start path := by
  fun_cases start path with
  | case1 later => rfl
  | case2 => rfl
  | case3 later => rfl
  | case4 notRoot notDot notDotSlash =>
      match path, nonempty with
      | [c], _ =>
          unfold start
          split <;> simp_all
      | c :: d :: later, _ =>
          unfold start
          split <;> simp_all

/-- What is written after a path and a slash adds its steps. -/
theorem components_append_slash
    {path : Path}
    (nonempty : path ≠ [])
    (rest : Text) :
    components (path ++ '/' :: rest) = components path ++ steps (rest.splitOn '/') := by
  have within : (start path).text.length ≤ path.length := by
    rw [← congrArg List.length (text_append_drop path), List.length_append]
    exact Nat.le_add_right _ _
  rw [components_eq, components_eq, segments, segments, start_append_slash nonempty,
    List.drop_append_of_le_length within, List.splitOn_append_cons_self, steps_append,
    List.append_assoc]

/-- What is written after a slash at the end of a path adds its steps. -/
theorem components_append_of_endsIn
    {directory : Path}
    (closed : Text.endsIn '/' directory = true)
    (path : Text) :
    components (directory ++ path) = components directory ++ steps (path.splitOn '/') := by
  obtain ⟨front, rfl⟩ := List.getLast?_eq_some_iff.mp (eq_of_beq closed)
  rw [List.append_assoc, List.singleton_append]
  by_cases empty : front = []
  · subst empty
    rfl
  · rw [components_append_slash empty, components_append_slash empty, List.splitOn_nil]
    exact congrArg (· ++ steps (path.splitOn '/')) (List.append_nil (components front)).symm

/-- A relative path seen from a directory adds its steps to the directory. -/
theorem components_join
    {directory path : Path}
    (nonempty : directory ≠ [])
    (relative : isAbsolute path = false) :
    components (join directory path) = components directory ++ steps (path.splitOn '/') := by
  have written : directory.isEmpty = false := List.isEmpty_eq_false_iff.mpr nonempty
  rw [join, relative, written, Bool.false_or, if_neg Bool.false_ne_true]
  split
  next closed => exact components_append_of_endsIn closed path
  next => exact components_append_slash nonempty path

/-- A path has the components of a directory first. -/
def LiesUnder (path directory : Path) : Prop :=
  components directory <+: components path

instance (path directory : Path) : Decidable (LiesUnder path directory) :=
  inferInstanceAs (Decidable (components directory <+: components path))

theorem LiesUnder.refl (path : Path) : LiesUnder path path :=
  List.prefix_rfl

/-- A relative path seen from a directory lies under it. -/
theorem join_liesUnder
    {path : Path}
    (relative : isAbsolute path = false)
    (directory : Path) :
    LiesUnder (join directory path) directory := by
  by_cases empty : directory = []
  · subst empty
    exact List.nil_prefix
  · rw [LiesUnder, components_join empty relative]
    exact List.prefix_append _ _

/-- An absolute path replaces the directory it is seen from. -/
theorem join_of_isAbsolute
    {path : Path}
    (absolute : isAbsolute path = true)
    (directory : Path) :
    join directory path = path := by
  rw [join, absolute, Bool.true_or, if_pos rfl]

end Path
end Turnwise
