import Turnwise.Proofs.Diagnostic.Rendering
import Turnwise.Proofs.Diagnostic.Targets

/-!
# The grammar of diagnostic lines

A line is a diagnostic when it can be taken apart into a file, two numbers, blank characters
and a message, with a colon after each of the first three.  `Parts` are such parts as they
are spelled, and `Parts.WellFormed` says what may stand in each of them.  A line can be taken
apart in one way at most: the file ends at the first colon, each number with its digits, and
the message begins with the first visible character.  Only when nothing visible is left does
the message take the last of the blank characters.
-/

namespace Turnwise
namespace Diagnostic

/-- A line taken apart, each part as it is spelled. -/
structure Parts where
  /-- The file, up to the first colon. -/
  file : Text
  /-- The digits of the line number. -/
  line : Text
  /-- The digits of the column. -/
  column : Text
  /-- The blank characters before the message. -/
  gap : Text
  /-- The message. -/
  message : Text
  deriving DecidableEq, Repr

/-- What can stand for a file: the mark of files and at least one character more, without
blanks and colons. -/
structure SpellsFile (file : Text) : Prop where
  /-- It begins with the mark of files and goes on. -/
  marked : ∃ name, name ≠ [] ∧ file = fileMarker ++ name
  /-- It has neither blanks nor colons. -/
  plain : ∀ c ∈ file, Text.isBlank c = false ∧ c ≠ ':'

/-- What can stand for a position: at least one decimal digit, with a number in range. -/
structure SpellsPosition (digits : Text) : Prop where
  /-- There is a digit. -/
  nonempty : digits ≠ []
  /-- There are no other characters. -/
  decimal : ∀ c ∈ digits, c.isDigit = true
  /-- The number is in range. -/
  inRange : Nat.ofDigitChars 10 digits 0 < positionBound

/-- What can stand for a message. -/
structure SpellsMessage (message : Text) : Prop where
  /-- It stands on one line. -/
  newlineFree : '\n' ∉ message
  /-- It begins with a visible character, or is a single blank character. -/
  opened : (∃ c rest, message = c :: rest ∧ Text.isBlank c = false) ∨
    ∃ c, message = [c] ∧ Text.isBlank c = true

namespace Parts

/-- The line that the parts make up. -/
def text (parts : Parts) : Text :=
  parts.file ++ ':' :: (parts.line ++ ':' :: (parts.column ++ ':' ::
    (parts.gap ++ parts.message)))

/-- The diagnostic that the parts spell. -/
def diagnostic (parts : Parts) : Diagnostic where
  file := parts.file
  line := Nat.ofDigitChars 10 parts.line 0
  column := Nat.ofDigitChars 10 parts.column 0
  message := parts.message
  kind := .ofMessage parts.message

/-- Each part holds what may stand there. -/
structure WellFormed (parts : Parts) : Prop where
  /-- The file is one. -/
  file : SpellsFile parts.file
  /-- The line number is one. -/
  line : SpellsPosition parts.line
  /-- The column is one. -/
  column : SpellsPosition parts.column
  /-- Nothing visible stands before the message. -/
  gap : Text.blank parts.gap = true
  /-- The message is one. -/
  message : SpellsMessage parts.message

end Parts

/-! ## Files -/

theorem isNameChar_iff (c : Char) :
    isNameChar c = true ↔ Text.isBlank c = false ∧ c ≠ ':' := by
  simp [isNameChar]

/-- A file is the mark of files with a name behind it. -/
theorem spellsFile_iff (file : Text) :
    SpellsFile file ↔
      ∃ name, name ≠ [] ∧ (∀ c ∈ name, isNameChar c = true) ∧ file = fileMarker ++ name := by
  constructor
  · intro spells
    obtain ⟨name, nonempty, rfl⟩ := spells.marked
    refine ⟨name, nonempty, ?_, rfl⟩
    intro c present
    exact (isNameChar_iff c).mpr (spells.plain c (List.mem_append_right fileMarker present))
  · rintro ⟨name, nonempty, plain, rfl⟩
    refine ⟨⟨name, nonempty, rfl⟩, ?_⟩
    intro c present
    rw [← isNameChar_iff]
    rcases List.mem_append.mp present with marker | named
    · exact List.all_eq_true.mp (by decide) c marker
    · exact plain c named

/-! ## Positions -/

/-- A number is read as a position just when its digits spell one. -/
theorem digitsBelow?_eq_some_iff
    (digits : Text)
    (number : Nat) :
    Text.digitsBelow? positionBound digits = some number ↔
      SpellsPosition digits ∧ number = Nat.ofDigitChars 10 digits 0 := by
  simp only [Text.digitsBelow?, Text.digits?, Option.filter_eq_some_iff,
    Option.ite_none_right_eq_some, Bool.and_eq_true, Bool.not_eq_true', List.isEmpty_eq_false_iff,
    List.all_eq_true, Option.some.injEq, decide_eq_true_eq]
  constructor
  · rintro ⟨⟨⟨nonempty, decimal⟩, rfl⟩, inRange⟩
    exact ⟨⟨nonempty, decimal, inRange⟩, rfl⟩
  · rintro ⟨spells, rfl⟩
    exact ⟨⟨⟨spells.nonempty, spells.decimal⟩, rfl⟩, spells.inRange⟩

/-- A position is read up to the colon after its digits. -/
theorem position?_eq_some_iff
    (text rest : Text)
    (number : Nat) :
    position? text = some (number, rest) ↔
      ∃ digits, SpellsPosition digits ∧ number = Nat.ofDigitChars 10 digits 0 ∧
        text = digits ++ ':' :: rest := by
  simp only [position?, Option.bind_eq_bind, Option.bind_eq_some_iff, Option.some.injEq,
    Prod.mk.injEq, Option.pure_def]
  constructor
  · rintro ⟨_, read, _, colon, rfl, rfl⟩
    obtain ⟨spells, value⟩ := (digitsBelow?_eq_some_iff _ _).mp read
    exact ⟨_, spells, value, Text.eq_append_of_after?_dropWhile colon⟩
  · rintro ⟨digits, spells, rfl, rfl⟩
    have taken : (digits ++ ':' :: rest).takeWhile Char.isDigit = digits :=
      Text.takeWhile_append_cons spells.decimal rfl rest
    have dropped : (digits ++ ':' :: rest).dropWhile Char.isDigit = ':' :: rest :=
      Text.dropWhile_append_cons spells.decimal rfl rest
    rw [taken, dropped]
    exact ⟨_, (digitsBelow?_eq_some_iff _ _).mpr ⟨spells, rfl⟩, _, rfl, rfl, rfl⟩

/-! ## Messages -/

/-- What is visible behind blank characters is the message, if it stands on one line. -/
theorem message?_of_dropWhile_eq_cons
    {rest tail : Text}
    {c : Char}
    (body : rest.dropWhile Text.isBlank = c :: tail) :
    message? rest = if '\n' ∈ c :: tail then none else some (c :: tail) := by
  simp only [message?, body, List.isEmpty_cons, Bool.false_eq_true, if_false, Bool.false_or,
    List.contains_iff_mem]

/-- Of blank characters, the last one is the message, if it is no newline. -/
theorem message?_concat_of_blank
    {gap : Text}
    {c : Char}
    (blank : Text.blank (gap ++ [c]) = true) :
    message? (gap ++ [c]) = if c = '\n' then none else some [c] := by
  have body : (gap ++ [c]).dropWhile Text.isBlank = [] :=
    List.dropWhile_eq_nil_iff.mpr (List.all_eq_true.mp blank)
  simp [message?, body, eq_comm]

/-- A message is read behind blank characters. -/
theorem message?_eq_some_iff
    (rest message : Text) :
    message? rest = some message ↔
      ∃ gap, Text.blank gap = true ∧ SpellsMessage message ∧ rest = gap ++ message := by
  constructor
  · intro read
    have newlineFree := newline_not_mem_of_message? read
    cases body : rest.dropWhile Text.isBlank with
    | nil =>
        have blank : Text.blank rest = true :=
          List.all_eq_true.mpr (List.dropWhile_eq_nil_iff.mp body)
        rcases List.eq_nil_or_concat rest with rfl | ⟨gap, c, rfl⟩
        · cases read
        · rw [List.concat_eq_append] at read blank ⊢
          rw [message?_concat_of_blank blank, Option.ite_none_left_eq_some] at read
          obtain ⟨_, equal⟩ := read
          cases equal
          rw [Text.blank, List.all_append, Bool.and_eq_true] at blank
          refine ⟨gap, blank.1, ⟨newlineFree, .inr ⟨c, rfl, ?_⟩⟩, rfl⟩
          exact List.all_eq_true.mp blank.2 c List.mem_cons_self
    | cons c tail =>
        rw [message?_of_dropWhile_eq_cons body, Option.ite_none_left_eq_some] at read
        obtain ⟨_, equal⟩ := read
        cases equal
        refine ⟨rest.takeWhile Text.isBlank, List.all_takeWhile, ⟨newlineFree, .inl ?_⟩, ?_⟩
        · exact ⟨c, tail, rfl, Text.visible_of_dropWhile_eq_cons body⟩
        · rw [← body, List.takeWhile_append_dropWhile]
  · rintro ⟨gap, blank, spells, rfl⟩
    rcases spells.opened with ⟨c, tail, rfl, visible⟩ | ⟨c, rfl, single⟩
    · have body := Text.dropWhile_append_cons (List.all_eq_true.mp blank) visible tail
      rw [message?_of_dropWhile_eq_cons body, if_neg spells.newlineFree]
    · have every : Text.blank (gap ++ [c]) = true := by
        rw [Text.blank, List.all_append, ← Text.blank, blank, List.all_cons, single]
        rfl
      rw [message?_concat_of_blank every, if_neg]
      rintro rfl
      exact spells.newlineFree List.mem_cons_self

/-! ## Lines -/

/-- A line is read as a diagnostic just when it can be taken apart, carriage returns at its
end left out. -/
theorem exists_parts_of_parse?
    {line : Text}
    {diagnostic : Diagnostic}
    (parsed : parse? line = some diagnostic) :
    ∃ parts : Parts, parts.WellFormed ∧ parts.text = unreturned line ∧
      diagnostic = parts.diagnostic := by
  simp only [parse?, Option.bind_eq_bind, Option.bind_eq_some_iff, Option.ite_none_left_eq_some,
    Option.pure_def, Option.some.injEq, Prod.exists] at parsed
  obtain ⟨named, marked, nonempty, numbered, colon, lineNumber, afterLine, lineRead,
    column, afterColumn, columnRead, message, messageRead, rfl⟩ := parsed
  obtain ⟨lineDigits, lineSpells, rfl, rfl⟩ := (position?_eq_some_iff _ _ _).mp lineRead
  obtain ⟨columnDigits, columnSpells, rfl, rfl⟩ := (position?_eq_some_iff _ _ _).mp columnRead
  obtain ⟨gap, blank, messageSpells, rfl⟩ := (message?_eq_some_iff _ _).mp messageRead
  have file : SpellsFile (fileMarker ++ named.takeWhile isNameChar) :=
    (spellsFile_iff _).mpr ⟨_, by simpa using nonempty, fun _ => List.mem_takeWhile_imp, rfl⟩
  refine ⟨⟨_, lineDigits, columnDigits, gap, message⟩,
    ⟨file, lineSpells, columnSpells, blank, messageSpells⟩, ?_, rfl⟩
  have whole := Text.eq_append_of_after?_dropWhile colon
  rw [unreturned, ← Text.after?_eq_some_iff.mp marked, Parts.text, List.append_assoc]
  exact congrArg (fileMarker ++ ·) whole.symm

theorem parse?_of_parts
    {line : Text}
    {parts : Parts}
    (wellFormed : parts.WellFormed)
    (text : parts.text = unreturned line) :
    parse? line = some parts.diagnostic := by
  obtain ⟨name, nonempty, plain, file⟩ := (spellsFile_iff _).mp wellFormed.file
  have lineRead (rest : Text) := (position?_eq_some_iff (parts.line ++ ':' :: rest) rest _).mpr
    ⟨parts.line, wellFormed.line, rfl, rfl⟩
  have columnRead (rest : Text) := (position?_eq_some_iff (parts.column ++ ':' :: rest) rest _).mpr
    ⟨parts.column, wellFormed.column, rfl, rfl⟩
  have messageRead := (message?_eq_some_iff (parts.gap ++ parts.message) parts.message).mpr
    ⟨parts.gap, wellFormed.gap, wellFormed.message, rfl⟩
  have whole := text.symm
  rw [Parts.text, file, List.append_assoc] at whole
  rw [parse?_of_file plain whole, if_neg nonempty, Parts.diagnostic, file]
  simp only [Option.bind_eq_bind, Option.bind_some, lineRead, columnRead, messageRead,
    Option.pure_def]

theorem SpellsFile.ne_colon
    {file : Text}
    (spells : SpellsFile file) :
    ∀ c ∈ file, (c != ':') = true := fun c present =>
  bne_iff_ne.mpr (spells.plain c present).2

/-- A line can be taken apart in one way at most. -/
theorem Parts.WellFormed.eq_of_text_eq
    {first second : Parts}
    (wellFormed : first.WellFormed)
    (other : second.WellFormed)
    (same : first.text = second.text) :
    first = second := by
  obtain ⟨file, afterFile⟩ :=
    Text.append_cons_inj wellFormed.file.ne_colon other.file.ne_colon rfl same
  obtain ⟨line, afterLine⟩ :=
    Text.append_cons_inj wellFormed.line.decimal other.line.decimal rfl afterFile
  obtain ⟨column, afterColumn⟩ :=
    Text.append_cons_inj wellFormed.column.decimal other.column.decimal rfl afterLine
  -- The message is what the reader makes of the rest, however the rest is taken apart.
  have read := (message?_eq_some_iff _ _).mpr ⟨_, wellFormed.gap, wellFormed.message, rfl⟩
  have readOther := (message?_eq_some_iff _ _).mpr ⟨_, other.gap, other.message, rfl⟩
  rw [afterColumn, readOther] at read
  have message : second.message = first.message := Option.some.inj read
  rw [message] at afterColumn
  have gap := List.append_cancel_right afterColumn
  cases first
  cases second
  simp_all

/-- A message is that of an unused binding when a visible identifier follows the marker. -/
theorem Kind.ofMessage_eq_recoverable_iff
    (message identifier : Text) :
    Kind.ofMessage message = .recoverable identifier ↔
      ∃ rest, message = unusedMarker ++ rest ∧ Text.blank rest = false ∧
        identifier = Text.trim rest := by
  constructor
  · intro recoverable
    unfold ofMessage at recoverable
    split at recoverable
    · rename_i rest marked
      split at recoverable
      · cases recoverable
      · rename_i visible
        cases recoverable
        exact ⟨rest, (Text.after?_eq_some_iff.mp marked).symm, by simpa using visible, rfl⟩
    · cases recoverable
  · rintro ⟨rest, rfl, visible, rfl⟩
    have marked : Text.after? unusedMarker (unusedMarker ++ rest) = some rest :=
      Text.after?_eq_some_iff.mpr rfl
    rw [ofMessage, marked]
    simp [visible]

/-- A line, whatever it holds, is read as a diagnostic just when it can be taken apart, with
the carriage returns at its end left out, into a file, two numbers in range, blank characters
and a message.  It can be taken apart in one way at most, and the diagnostic has just these
parts.  It can be repaired just when its message begins with the marker of unused bindings and
something visible follows, which is trimmed to be the identifier. -/
theorem parse?_eq_some_iff_parts
    (line : Text)
    (diagnostic : Diagnostic) :
    (parse? line = some diagnostic ↔
      ∃ parts : Parts, parts.WellFormed ∧ parts.text = unreturned line ∧
        diagnostic = parts.diagnostic) ∧
    (∀ first second : Parts, first.WellFormed → second.WellFormed →
      first.text = unreturned line → second.text = unreturned line → first = second) ∧
    ∀ (parts : Parts) (identifier : Text),
      parts.diagnostic.kind = .recoverable identifier ↔
        ∃ rest, parts.message = unusedMarker ++ rest ∧ Text.blank rest = false ∧
          identifier = Text.trim rest := by
  refine ⟨⟨exists_parts_of_parse?, ?_⟩, ?_, ?_⟩
  · rintro ⟨parts, wellFormed, text, rfl⟩
    exact parse?_of_parts wellFormed text
  · intro first second wellFormed other text otherText
    exact wellFormed.eq_of_text_eq other (text.trans otherText.symm)
  · intro parts
    exact Kind.ofMessage_eq_recoverable_iff parts.message

/-- Of a line that ends in blank characters, a newline among them, the last one before the
carriage returns is the message. -/
theorem parse?_eq_some_iff_parts_blank :
    let line := "./a.go:7:1:\n \r\r".toList
    let parts : Parts := ⟨"./a.go".toList, "7".toList, "1".toList, "\n".toList, " ".toList⟩
    parts.WellFormed ∧
      parts.text = unreturned line ∧
      parse? line = some ⟨"./a.go".toList, 7, 1, " ".toList, .unrecoverable⟩ ∧
      ∀ other : Parts, other.WellFormed → other.text = unreturned line → other = parts := by
  intro line parts
  have wellFormed : parts.WellFormed :=
    { file :=
        (spellsFile_iff _).mpr ⟨"a.go".toList, by decide, List.all_eq_true.mp (by decide), rfl⟩
      line := ⟨by decide, List.all_eq_true.mp (by decide), by decide⟩
      column := ⟨by decide, List.all_eq_true.mp (by decide), by decide⟩
      gap := by decide
      message := ⟨by decide, .inr ⟨' ', rfl, by decide⟩⟩ }
  have text : parts.text = unreturned line := by decide
  obtain ⟨read, unique, _⟩ := parse?_eq_some_iff_parts line
    ⟨"./a.go".toList, 7, 1, " ".toList, .unrecoverable⟩
  refine ⟨wellFormed, text, read.mpr ⟨parts, wellFormed, text, by decide⟩, ?_⟩
  intro other otherFormed otherText
  exact unique other parts otherFormed wellFormed otherText text

end Diagnostic
end Turnwise
