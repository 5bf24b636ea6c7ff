import Mathlib.Data.List.DropRight
import Mathlib.Data.List.TakeWhile
import Turnwise.Text.Blank

/-!
# Beginnings, endings and trimming

A part that stands at an end of a text is read off by what is put together again.
Trimming a text drops blank characters at its ends and no others, so a text keeps a
character that is not blank, and a blank character added at the end makes no
difference.
-/

namespace Turnwise
namespace Text

/-! ## Beginnings and endings -/

theorem after?_eq_some_iff
    {beginning text rest : Text} :
    after? beginning text = some rest ↔ beginning ++ rest = text :=
  List.isPrefixOf?_eq_some_iff_append_eq

theorem upTo?_eq_some_iff
    {ending text rest : Text} :
    upTo? ending text = some rest ↔ rest ++ ending = text := by
  rw [upTo?, Option.map_eq_some_iff]
  constructor
  · rintro ⟨reversed, found, rfl⟩
    rw [← List.reverse_inj, ← List.isPrefixOf?_eq_some_iff_append_eq.mp found,
      List.reverse_append, List.reverse_reverse]
  · rintro rfl
    refine ⟨rest.reverse, ?_, List.reverse_reverse rest⟩
    rw [List.isPrefixOf?_eq_some_iff_append_eq, List.reverse_append]

/-- A run of characters that pass a test ends before the first that does not. -/
theorem takeWhile_append_cons
    {test : Char → Bool}
    {first : Text}
    {stop : Char}
    (passes : ∀ c ∈ first, test c = true)
    (stops : test stop = false)
    (rest : Text) :
    (first ++ stop :: rest).takeWhile test = first := by
  rw [List.takeWhile_append_of_pos passes, List.takeWhile_cons_of_neg (by simp [stops]),
    List.append_nil]

theorem dropWhile_append_cons
    {test : Char → Bool}
    {first : Text}
    {stop : Char}
    (passes : ∀ c ∈ first, test c = true)
    (stops : test stop = false)
    (rest : Text) :
    (first ++ stop :: rest).dropWhile test = stop :: rest := by
  rw [List.dropWhile_append_of_pos passes, List.dropWhile_cons_of_neg (by simp [stops])]

/-- The end of a run is found in one place only. -/
theorem append_cons_inj
    {test : Char → Bool}
    {first second rest other : Text}
    {stop : Char}
    (firstPasses : ∀ c ∈ first, test c = true)
    (secondPasses : ∀ c ∈ second, test c = true)
    (stops : test stop = false)
    (same : first ++ stop :: rest = second ++ stop :: other) :
    first = second ∧ rest = other := by
  have run := congrArg (List.takeWhile test) same
  rw [takeWhile_append_cons firstPasses stops, takeWhile_append_cons secondPasses stops] at run
  subst run
  exact ⟨rfl, List.tail_eq_of_cons_eq (List.append_cancel_left same)⟩

/-- A text that goes on with a beginning after a run is put together from the run, the
beginning and the rest. -/
theorem eq_append_of_after?_dropWhile
    {test : Char → Bool}
    {beginning text rest : Text}
    (found : after? beginning (text.dropWhile test) = some rest) :
    text = text.takeWhile test ++ (beginning ++ rest) := by
  rw [after?_eq_some_iff.mp found, List.takeWhile_append_dropWhile]

/-- A text is put together again from the parts before and after a cut. -/
theorem append_of_cutAt?
    {pattern text before rest : Text}
    (cut : cutAt? pattern text = some (before, rest)) :
    before ++ (pattern ++ rest) = text := by
  induction text generalizing before with
  | nil =>
      simp only [cutAt?, Option.ite_none_right_eq_some, List.isEmpty_iff] at cut
      obtain ⟨rfl, equal⟩ := cut
      cases equal
      rfl
  | cons c tail inductionHypothesis =>
      rw [cutAt?] at cut
      cases here : pattern.isPrefixOf? (c :: tail) with
      | some found =>
          rw [here] at cut
          cases cut
          rw [List.nil_append]
          exact List.isPrefixOf?_eq_some_iff_append_eq.mp here
      | none =>
          rw [here] at cut
          obtain ⟨⟨first, last⟩, later, equal⟩ := Option.map_eq_some_iff.mp cut
          cases equal
          rw [List.cons_append, inductionHypothesis later]

/-! ## Final characters -/

@[simp] theorem dropFinal_nil (final : Char) : dropFinal final [] = [] := rfl

@[simp] theorem dropFinal_concat
    (final : Char)
    (text : Text) :
    dropFinal final (text ++ [final]) = text := by
  simp [dropFinal]

theorem dropFinal_concat_of_ne
    {final last : Char}
    (other : last ≠ final)
    (text : Text) :
    dropFinal final (text ++ [last]) = text ++ [last] := by
  simp [dropFinal, other]

/-- A text does not end in a character that it does not have. -/
theorem endsIn_of_not_mem
    {final : Char}
    {text : Text}
    (absent : final ∉ text) :
    endsIn final text = false := by
  rw [endsIn, beq_eq_false_iff_ne]
  exact fun ends => absent (List.mem_of_getLast? ends)

/-- A text that ends otherwise loses nothing. -/
theorem dropFinal_of_not_endsIn
    {final : Char}
    {text : Text}
    (unended : endsIn final text = false) :
    dropFinal final text = text := by
  rcases List.eq_nil_or_concat text with rfl | ⟨rest, last, rfl⟩
  · rfl
  · rw [List.concat_eq_append] at unended ⊢
    apply dropFinal_concat_of_ne
    simpa [endsIn] using unended

/-- A text without the final character loses nothing. -/
theorem dropFinal_of_not_mem
    {final : Char}
    {text : Text}
    (absent : final ∉ text) :
    dropFinal final text = text :=
  dropFinal_of_not_endsIn (endsIn_of_not_mem absent)

/-- The final character of two texts put together is that of the second. -/
theorem dropFinal_append
    (final : Char)
    (first : Text)
    {second : Text}
    (nonempty : second ≠ []) :
    dropFinal final (first ++ second) = first ++ dropFinal final second := by
  obtain ⟨rest, last, rfl⟩ := List.eq_nil_or_concat second |>.resolve_left nonempty
  rw [List.concat_eq_append, ← List.append_assoc]
  by_cases equal : last = final
  · subst equal
    rw [dropFinal_concat, dropFinal_concat]
  · rw [dropFinal_concat_of_ne equal, dropFinal_concat_of_ne equal, List.append_assoc]

theorem mem_of_mem_dropFinal
    {final c : Char}
    {text : Text}
    (present : c ∈ dropFinal final text) :
    c ∈ text := by
  unfold dropFinal at present
  split at present
  · split at present
    · exact List.dropLast_subset _ present
    · exact present
  · cases present

theorem dropEndWhile_concat
    {test : Char → Bool}
    {c : Char}
    (passes : test c = true)
    (text : Text) :
    dropEndWhile test (text ++ [c]) = dropEndWhile test text :=
  List.rdropWhile_concat_pos test text c passes

/-- What is dropped at the end of a text does not depend on what precedes it, as long as
something remains. -/
theorem dropEndWhile_append
    {test : Char → Bool}
    (first : Text)
    {second : Text}
    (remains : second.all test = false) :
    dropEndWhile test (first ++ second) = first ++ dropEndWhile test second := by
  rw [dropEndWhile, dropEndWhile, List.reverse_append, List.dropWhile_append]
  split
  · rename_i empty
    have every : ∀ c ∈ second, test c = true := by
      intro c present
      exact List.dropWhile_eq_nil_iff.mp (List.isEmpty_iff.mp empty) c
        (List.mem_reverse.mpr present)
    rw [List.all_eq_true.mpr every] at remains
    cases remains
  · rw [List.reverse_append, List.reverse_reverse]

/-- A final character that would be dropped anyway makes no difference. -/
theorem dropEndWhile_dropFinal
    {test : Char → Bool}
    {final : Char}
    (passes : test final = true)
    (text : Text) :
    dropEndWhile test (dropFinal final text) = dropEndWhile test text := by
  rcases List.eq_nil_or_concat text with rfl | ⟨rest, last, rfl⟩
  · rfl
  · rw [List.concat_eq_append]
    by_cases equal : last = final
    · subst equal
      rw [dropFinal_concat, dropEndWhile_concat passes]
    · rw [dropFinal_concat_of_ne equal]

/-- A text is put together from what is left without its last characters of a kind and
these. -/
theorem exists_eq_dropEndWhile_append (test : Char → Bool) (text : Text) :
    ∃ dropped, text = dropEndWhile test text ++ dropped ∧ dropped.all test = true := by
  refine ⟨(text.reverse.takeWhile test).reverse, ?_, ?_⟩
  · rw [dropEndWhile, ← List.reverse_append, List.takeWhile_append_dropWhile,
      List.reverse_reverse]
  · rw [List.all_reverse, List.all_eq_true]
    exact fun _ present => List.mem_takeWhile_imp present

/-- Characters that would be dropped anyway make no difference. -/
theorem dropEndWhile_append_of_all
    {test : Char → Bool}
    {second : Text}
    (every : second.all test = true)
    (first : Text) :
    dropEndWhile test (first ++ second) = dropEndWhile test first := by
  rw [dropEndWhile, List.reverse_append, List.dropWhile_append_of_pos]
  · rfl
  · exact fun c present => List.all_eq_true.mp every c (List.mem_reverse.mp present)

/-! ## Trimming -/

theorem trimEnd_concat_of_blank
    {c : Char}
    (blank : isBlank c = true)
    (text : Text) :
    trimEnd (text ++ [c]) = trimEnd text :=
  dropEndWhile_concat blank text

/-- Trimming ignores a blank character at the end. -/
theorem trim_concat_of_blank
    {c : Char}
    (blank : isBlank c = true)
    (text : Text) :
    trim (text ++ [c]) = trim text := by
  rw [trim, trim, List.dropWhile_append]
  split
  · rename_i empty
    rw [List.isEmpty_iff.mp empty, List.dropWhile_cons_of_pos blank]
    rfl
  · exact trimEnd_concat_of_blank blank _

/-- Trimming ignores blank characters at the end. -/
theorem trim_append_of_blank
    {second : Text}
    (blank : blank second = true)
    (first : Text) :
    trim (first ++ second) = trim first := by
  induction second using List.reverseRecOn with
  | nil => rw [List.append_nil]
  | append_singleton rest last inductionHypothesis =>
      rw [Text.blank, List.all_append, Bool.and_eq_true, List.all_cons, Bool.and_eq_true] at blank
      rw [← List.append_assoc, trim_concat_of_blank blank.2.1, inductionHypothesis blank.1]

/-- Trimming ignores a blank final character. -/
theorem trim_dropFinal
    {final : Char}
    (blank : isBlank final = true)
    (text : Text) :
    trim (dropFinal final text) = trim text := by
  rcases List.eq_nil_or_concat text with rfl | ⟨rest, last, rfl⟩
  · rfl
  · rw [List.concat_eq_append]
    by_cases equal : last = final
    · subst equal
      rw [dropFinal_concat, trim_concat_of_blank blank]
    · rw [dropFinal_concat_of_ne equal]

/-- A visible character at the beginning stays where it is. -/
theorem trim_cons_of_visible
    {c : Char}
    (visible : isBlank c = false)
    (text : Text) :
    trim (c :: text) = trimEnd (c :: text) := by
  rw [trim, List.dropWhile_cons_of_neg (by simp [visible])]

/-- The end of a text that is not blank is trimmed without regard to what precedes
it. -/
theorem trimEnd_append_of_not_blank
    (first : Text)
    {second : Text}
    (visible : blank second = false) :
    trimEnd (first ++ second) = first ++ trimEnd second :=
  dropEndWhile_append first visible

theorem mem_of_mem_trimEnd
    {c : Char}
    {text : Text}
    (present : c ∈ trimEnd text) :
    c ∈ text := by
  have kept := (List.dropWhile_sublist isBlank).subset (List.mem_reverse.mp present)
  exact List.mem_reverse.mp kept

/-- Trimming adds no characters. -/
theorem mem_of_mem_trim
    {c : Char}
    {text : Text}
    (present : c ∈ trim text) :
    c ∈ text :=
  (List.dropWhile_sublist isBlank).subset (mem_of_mem_trimEnd present)

/-- Trimming keeps every character that is not blank. -/
theorem mem_trim_of_visible
    {c : Char}
    {text : Text}
    (visible : isBlank c = false)
    (present : c ∈ text) :
    c ∈ trim text := by
  have keeps : ∀ list : Text, c ∈ list → c ∈ list.dropWhile isBlank := by
    intro list present
    rw [← List.takeWhile_append_dropWhile (p := isBlank) (l := list), List.mem_append] at present
    rcases present with dropped | kept
    · rw [List.mem_takeWhile_imp dropped] at visible
      cases visible
    · exact kept
  exact List.mem_reverse.mpr (keeps _ (List.mem_reverse.mpr (keeps text present)))

/-- Only a blank text has nothing visible when it is trimmed. -/
theorem blank_trim_of_not_blank
    {text : Text}
    (visible : blank text = false) :
    blank (trim text) = false := by
  obtain ⟨c, present, notBlank⟩ := List.all_eq_false.mp visible
  rw [blank, List.all_eq_false]
  exact ⟨c, mem_trim_of_visible (by simpa using notBlank) present, notBlank⟩

/-- A text that is trimmed and not empty ends in a visible character. -/
theorem exists_concat_of_trimmed
    {text : Text}
    (trimmed : trim text = text)
    (nonempty : text ≠ []) :
    ∃ rest c, text = rest ++ [c] ∧ isBlank c = false := by
  obtain ⟨rest, c, rfl⟩ := List.eq_nil_or_concat text |>.resolve_left nonempty
  rw [List.concat_eq_append] at trimmed ⊢
  refine ⟨rest, c, rfl, ?_⟩
  cases blank : isBlank c with
  | false => rfl
  | true =>
      -- A blank at the end would be missing after trimming.
      rw [trim_concat_of_blank blank] at trimmed
      have shorter := congrArg List.length trimmed
      have bounded : (trim rest).length ≤ rest.length :=
        ((List.rdropWhile_prefix isBlank _).sublist.trans (List.dropWhile_sublist _)).length_le
      rw [List.length_append, List.length_singleton] at shorter
      omega

/-! ## The first character of a trimmed text -/

theorem beginsWith_iff_exists
    {beginning text : Text} :
    beginsWith beginning text = true ↔ ∃ rest, after? beginning text = some rest := by
  simp only [beginsWith, after?_eq_some_iff, List.isPrefixOf_iff_prefix, List.IsPrefix]

theorem trimEnd_trimEnd (text : Text) : trimEnd (trimEnd text) = trimEnd text :=
  List.rdropWhile_idempotent isBlank text

/-- What remains without the blanks at the beginning begins with a visible character. -/
theorem visible_of_dropWhile_eq_cons
    {c : Char}
    {text rest : Text}
    (dropped : text.dropWhile isBlank = c :: rest) :
    isBlank c = false := by
  have first := List.dropWhile_get_zero_not isBlank text (by rw [dropped]; simp)
  simpa [dropped] using first

/-- A trimmed text is empty or begins with a visible character. -/
theorem visible_of_trim_eq_cons
    {c : Char}
    {text rest : Text}
    (trimmed : trim text = c :: rest) :
    isBlank c = false := by
  have kept : c :: rest <+: text.dropWhile isBlank := by
    rw [← trimmed]
    exact List.rdropWhile_prefix isBlank _
  obtain ⟨tail, whole⟩ := kept
  exact visible_of_dropWhile_eq_cons whole.symm

/-- Trimming twice is trimming once. -/
@[simp] theorem trim_trim (text : Text) : trim (trim text) = trim text := by
  cases trimmed : trim text with
  | nil => rfl
  | cons c rest =>
      rw [trim_cons_of_visible (visible_of_trim_eq_cons trimmed), ← trimmed, trim,
        trimEnd_trimEnd]

theorem blank_trim (text : Text) : blank (trim text) = blank text := by
  cases visible : blank text with
  | false => exact blank_trim_of_not_blank visible
  | true =>
      rw [blank, List.all_eq_true] at visible ⊢
      exact fun c present => visible c (mem_of_mem_trim present)

/-- Only a blank text is empty when it is trimmed. -/
theorem isEmpty_trim (text : Text) : (trim text).isEmpty = blank text := by
  rw [← blank_trim]
  cases trimmed : trim text with
  | nil => rfl
  | cons c rest => simp [blank, visible_of_trim_eq_cons trimmed]

end Text
end Turnwise
