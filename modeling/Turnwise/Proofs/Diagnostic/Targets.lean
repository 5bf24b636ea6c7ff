import Turnwise.Diagnostic
import Turnwise.Proofs.Text.Blank

/-!
# Identifiers that diagnostics name

The parser accepts many odd identifiers, but none that is blank and none with a
newline, so a discard of an identifier from a diagnostic is always one line.
-/

namespace Turnwise
namespace Diagnostic

/-- An identifier whose discard is a line that names it. -/
structure Discardable (identifier : Text) : Prop where
  /-- There is something to be named. -/
  visible : Text.blank identifier = false
  /-- The name does not leave its line. -/
  newlineFree : '\n' ∉ identifier

/-- The message of a diagnostic stands on one line. -/
theorem newline_not_mem_of_message?
    {rest message : Text}
    (read : message? rest = some message) :
    '\n' ∉ message := by
  simp only [message?, Option.ite_none_left_eq_some, Bool.or_eq_true, not_or,
    Option.some.injEq] at read
  obtain ⟨⟨_, newlineFree⟩, equal⟩ := read
  intro present
  rw [← equal] at present
  exact newlineFree (List.contains_iff_mem.mpr present)

section Parsed

variable {line : Text}
variable {diagnostic : Diagnostic}

/-- A diagnostic that was read has a message that was read, and the class of this message. -/
theorem exists_rest_of_parse?
    (parsed : parse? line = some diagnostic) :
    ∃ rest,
      message? rest = some diagnostic.message ∧
      diagnostic.kind = Kind.ofMessage diagnostic.message := by
  simp only [parse?, Option.bind_eq_bind, Option.bind_eq_some_iff,
    Option.ite_none_left_eq_some] at parsed
  obtain ⟨_, _, _, _, _, _, _, _, _, _, read, equal⟩ := parsed
  cases equal
  exact ⟨_, read, rfl⟩

theorem newline_not_mem_message
    (parsed : parse? line = some diagnostic) :
    '\n' ∉ diagnostic.message := by
  obtain ⟨rest, read, _⟩ := exists_rest_of_parse? parsed
  exact newline_not_mem_of_message? read

theorem kind_eq_ofMessage
    (parsed : parse? line = some diagnostic) :
    diagnostic.kind = Kind.ofMessage diagnostic.message := by
  obtain ⟨_, _, kind⟩ := exists_rest_of_parse? parsed
  exact kind

end Parsed

/-- What a message on one line names can be discarded. -/
theorem Kind.discardable_of_target?
    {message identifier : Text}
    (newlineFree : '\n' ∉ message)
    (named : (ofMessage message).target? = some identifier) :
    Discardable identifier := by
  unfold ofMessage at named
  split at named
  · rename_i rest marked
    split at named
    · cases named
    · rename_i visible
      cases named
      have split : unusedMarker ++ rest = message :=
        Text.after?_eq_some_iff.mp marked
      constructor
      · exact Text.blank_trim_of_not_blank (by simpa using visible)
      · intro present
        apply newlineFree
        rw [← split]
        exact List.mem_append_right unusedMarker (Text.mem_of_mem_trim present)
  · cases named

/-- What a message names has no blanks at its ends. -/
theorem Kind.trim_of_target?
    {message identifier : Text}
    (named : (ofMessage message).target? = some identifier) :
    identifier.trim = identifier := by
  unfold ofMessage at named
  split at named
  · split at named
    · cases named
    · cases named
      exact Text.trim_trim _
  · cases named

section Targets

variable {output identifier : Text}

/-- An identifier that the diagnostics of an output name stands in a message on one line. -/
theorem exists_message_of_mem_targets
    (present : identifier ∈ targets (parseAll output)) :
    ∃ message, '\n' ∉ message ∧ (Kind.ofMessage message).target? = some identifier := by
  obtain ⟨diagnostic, collected, named⟩ := List.mem_filterMap.mp present
  obtain ⟨line, _, parsed⟩ := List.mem_filterMap.mp collected
  rw [target?, kind_eq_ofMessage parsed] at named
  exact ⟨diagnostic.message, newline_not_mem_message parsed, named⟩

/-- Every identifier that the diagnostics of an output name can be discarded. -/
theorem discardable_of_mem_targets
    (present : identifier ∈ targets (parseAll output)) :
    Discardable identifier := by
  obtain ⟨message, newlineFree, named⟩ := exists_message_of_mem_targets present
  exact Kind.discardable_of_target? newlineFree named

/-- An identifier that fills its part of a line: nothing of it is blank at an end, and
nothing of it is on another line. -/
structure FitsLine (identifier : Text) : Prop where
  /-- There is an identifier. -/
  nonempty : identifier ≠ []
  /-- It begins with a visible character. -/
  first : ∀ c ∈ identifier.head?, Text.isBlank c = false
  /-- It ends in a visible character. -/
  last : ∀ c ∈ identifier.getLast?, Text.isBlank c = false
  /-- It stands on one line. -/
  newlineFree : '\n' ∉ identifier

/-- Every identifier that the diagnostics of an output name fills its part of a line. -/
theorem fitsLine_of_mem_targets
    (present : identifier ∈ targets (parseAll output)) :
    FitsLine identifier := by
  obtain ⟨message, newlineFree, named⟩ := exists_message_of_mem_targets present
  have trimmed := Kind.trim_of_target? named
  have discardable := Kind.discardable_of_target? newlineFree named
  have nonempty : identifier ≠ [] := by
    rintro rfl
    cases discardable.visible
  refine ⟨nonempty, ?_, ?_, discardable.newlineFree⟩
  · intro c begins
    obtain ⟨rest, rfl⟩ := List.head?_eq_some_iff.mp begins
    exact Text.visible_of_trim_eq_cons trimmed
  · intro c ends
    obtain ⟨rest, last, rfl, visible⟩ := Text.exists_concat_of_trimmed trimmed nonempty
    rw [List.getLast?_concat] at ends
    cases ends
    exact visible

end Targets

end Diagnostic
end Turnwise
