import Turnwise.Proofs.Document.Forms

/-!
# Reading stored values back

What is stored of a value in range is read as this value, also from a form of it that is
looser.  Whatever is read is in range, so that storing it again settles its form.
-/

namespace Turnwise
namespace Stored

variable {α : Type} [Stored α] {InRange : α → Prop}

/-- Values in range and their documents stand for each other. -/
structure RoundTrips (InRange : α → Prop) : Prop where
  /-- A value in range is read from its document. -/
  reads : ∀ value, InRange value → decode? (encode value) = some value
  /-- It is read from every other form of its document. -/
  readsForms : ∀ value form,
    InRange value → form.Restates (encode value) → decode? form = some value
  /-- A value that is read is in range. -/
  inRange : ∀ document (value : α), decode? document = some value → InRange value
  /-- A value that is read is read again from its own document. -/
  settles : ∀ document (value : α),
    decode? document = some value → decode? (encode value) = some value
  /-- What is read there has the same document. -/
  rewrites : ∀ document (value again : α),
    decode? document = some value →
      decode? (encode value) = some again → encode again = encode value

/-- It is enough to read the forms of values in range, and to read no others. -/
theorem roundTrips_of_forms
    (reads : ∀ value form,
      InRange value → form.Restates (encode value) → decode? form = some value)
    (inRange : ∀ document (value : α), decode? document = some value → InRange value) :
    RoundTrips InRange := by
  have back : ∀ value, InRange value → decode? (encode value) = some value :=
    fun value bounded => reads value _ bounded (.same _)
  refine ⟨back, reads, inRange, fun document value read => back value (inRange _ _ read), ?_⟩
  intro document value again read reread
  rw [back value (inRange _ _ read)] at reread
  cases reread
  rfl

/-- A type is stored as names when each name is read as the value that it stands for. -/
theorem roundTrips_of_constants
    {constants : List (String × α)}
    {name : α → Text}
    (encodes : ∀ value, encode value = .text (name value))
    (decodes : ∀ document : Document, decode? document = document.constant? constants)
    (reads : ∀ value : α, decode? (encode value) = some value) :
    RoundTrips (fun _ : α => True) := by
  refine roundTrips_of_forms ?_ (fun _ _ _ => trivial)
  intro value form _ restates
  rw [encodes] at restates
  rw [← reads value, decodes, decodes, Document.constant?, Document.constant?, encodes,
    Document.name?_of_restates restates]
  rfl

/-- A type is stored as records when a value in range is read from the values of its
fields, and no others are. -/
theorem roundTrips_of_fields
    {fields : α → List (String × Document)}
    {keys optionalKeys : List String}
    {ofValues? : List Document → Option α}
    (encodes : ∀ value, encode value = .recordOf (fields value))
    (decodes : ∀ document : Document,
      decode? document = (document.fields? keys optionalKeys).bind ofValues?)
    (keyed : ∀ value, (fields value).map (·.1) = keys)
    (distinct : keys.Nodup)
    (optional : ∀ value, ∀ field ∈ fields value, field.2 = .null → field.1 ∈ optionalKeys)
    (reads : ∀ value, InRange value → ofValues? ((fields value).map (·.2)) = some value)
    (inRange : ∀ values value, ofValues? values = some value → InRange value) :
    RoundTrips InRange := by
  refine roundTrips_of_forms ?_ ?_
  · intro value form bounded restates
    rw [encodes] at restates
    have read := Document.fields?_of_restates (keyed value ▸ distinct) (optional value) restates
    rw [keyed] at read
    rw [decodes, read, Option.bind_some, reads value bounded]
  · intro document value read
    rw [decodes] at read
    obtain ⟨values, _, read⟩ := Option.bind_eq_some_iff.mp read
    exact inRange values value read

end Stored

open Document (lt_of_natural? natural?_natural)
open Stored (RoundTrips roundTrips_of_constants roundTrips_of_fields roundTrips_of_forms)

/-! ## Names -/

theorem Run.Class.roundTrips : RoundTrips (fun _ : Run.Class => True) :=
  roundTrips_of_constants (fun _ => rfl) (fun _ => rfl) (fun value => by cases value <;> rfl)

theorem Placement.roundTrips : RoundTrips (fun _ : Placement => True) :=
  roundTrips_of_constants (fun _ => rfl) (fun _ => rfl) (fun value => by cases value <;> rfl)

/-! ## Diagnostics -/

namespace Diagnostic

/-- A record is read as a diagnostic that can be repaired by its two keys. -/
theorem Kind.decode?_recoverable
    {fields : List (Text × Document)}
    {identifier : Text}
    (tag : Document.lookup? kindKey.toList fields = some (.word "recoverable"))
    (named : Document.lookup? "identifier".toList fields = some (.text identifier)) :
    decode? (Document.record fields) = some (Kind.recoverable identifier) := by
  have other : "identifier".toList ≠ kindKey.toList := by decide
  -- The fields are read from what is left without the tag.
  have kept := (Document.lookup?_filter_of_ne other fields).trans named
  simp only [decode?, tag]
  simp only [Document.word, Document.text?, Option.bind_eq_bind, Option.bind_some, if_true,
    Document.fields?, List.mapM_cons, List.mapM_nil, kept]
  rfl

/-- A record is read as any other diagnostic by its tag alone. -/
theorem Kind.decode?_unrecoverable
    {fields : List (Text × Document)}
    (tag : Document.lookup? kindKey.toList fields = some (.word "unrecoverable")) :
    decode? (Document.record fields) = some Kind.unrecoverable := by
  simp only [decode?, tag]
  rfl

/-- The tag stands among the fields, or first in the list of their values. -/
theorem Kind.roundTrips : RoundTrips (fun _ : Kind => True) := by
  refine roundTrips_of_forms ?_ (fun _ _ _ => trivial)
  intro kind form _ restates
  cases kind with
  | recoverable identifier =>
      have distinct : [kindKey, "identifier"].Nodup := by decide
      rcases restates.record_or_list distinct with ⟨others, rfl, found⟩ | rfl
      · have tag := (found _ List.mem_cons_self).resolve_right nofun
        have named := (found _ (List.mem_cons_of_mem _ List.mem_cons_self)).resolve_right nofun
        exact decode?_recoverable tag named
      · rfl
  | unrecoverable =>
      rcases restates.record_or_list (List.nodup_singleton kindKey) with
        ⟨others, rfl, found⟩ | rfl
      · exact decode?_unrecoverable ((found _ List.mem_cons_self).resolve_right nofun)
      · rfl

/-- The position is a pair of numbers of 32 bits. -/
structure InRange (diagnostic : Diagnostic) : Prop where
  /-- The line is a number of 32 bits. -/
  line : diagnostic.line < positionBound
  /-- The column is a number of 32 bits. -/
  column : diagnostic.column < positionBound

theorem roundTrips : RoundTrips InRange := by
  refine roundTrips_of_fields (fun _ => rfl) (fun _ => rfl) (fun _ => rfl) (by decide)
    ?optional ?reads ?inRange
  case optional =>
    intro diagnostic
    have kind : encode diagnostic.kind ≠ .null := by cases diagnostic.kind <;> nofun
    simp [Document.natural, kind]
  case reads =>
    intro diagnostic bounded
    simp [Document.text?, natural?_natural bounded.line, natural?_natural bounded.column,
      Kind.roundTrips.reads]
  case inRange =>
    intro values diagnostic read
    split at read
    · simp only [Option.bind_eq_bind, Option.bind_eq_some_iff] at read
      obtain ⟨_, _, line, lineRead, column, columnRead, _, _, _, _, same⟩ := read
      cases same
      exact ⟨lt_of_natural? lineRead, lt_of_natural? columnRead⟩
    · cases read

/-- A list in a list. -/
example :
    decode? (.list [.word "./main.go", .natural 4, .natural 2, .word "undefined: y",
      .list [.word "unrecoverable"]]) =
      some (⟨"./main.go".toList, 4, 2, "undefined: y".toList, .unrecoverable⟩ : Diagnostic) :=
  rfl

/-- The counts are numbers of 64 bits. -/
structure Summary.InRange (summary : Summary) : Prop where
  /-- The number of all diagnostics is. -/
  total : summary.total < Document.countBound
  /-- The number of those that can be repaired is. -/
  recoverable : summary.recoverable < Document.countBound
  /-- The number of the others is. -/
  unrecoverable : summary.unrecoverable < Document.countBound

theorem Summary.roundTrips : RoundTrips Summary.InRange := by
  refine roundTrips_of_fields (fun _ => rfl) (fun _ => rfl) (fun _ => rfl) (by decide)
    ?optional ?reads ?inRange
  case optional =>
    intro summary
    simp [Document.natural]
  case reads =>
    intro summary bounded
    simp [natural?_natural bounded.total, natural?_natural bounded.recoverable,
      natural?_natural bounded.unrecoverable]
  case inRange =>
    intro values summary read
    split at read
    · simp only [Option.bind_eq_bind, Option.bind_eq_some_iff] at read
      obtain ⟨total, totalRead, recoverable, recoverableRead, unrecoverable,
        unrecoverableRead, same⟩ := read
      cases same
      exact ⟨lt_of_natural? totalRead, lt_of_natural? recoverableRead,
        lt_of_natural? unrecoverableRead⟩
    · cases read

end Diagnostic

/-! ## Runs and turns -/

theorem Run.roundTrips : RoundTrips (fun _ : Run => True) := by
  refine roundTrips_of_fields (fun _ => rfl) (fun _ => rfl) (fun _ => rfl) (by decide)
    ?optional ?reads (fun _ _ _ => trivial)
  case optional =>
    intro run
    simp
  case reads =>
    intro run _
    simp [Document.text?, Document.boolean?]

/-- The number of passes is a number of 64 bits. -/
def RepairSettings.InRange (settings : RepairSettings) : Prop :=
  settings.maxPasses < Document.countBound

theorem RepairSettings.roundTrips : RoundTrips RepairSettings.InRange := by
  refine roundTrips_of_fields (fun _ => rfl) (fun _ => rfl) (fun _ => rfl) (by decide)
    ?optional ?reads ?inRange
  case optional =>
    intro settings
    have placement : encode settings.placement ≠ .null := nofun
    simp [Document.natural, placement]
  case reads =>
    intro settings bounded
    simp [natural?_natural bounded, Placement.roundTrips.reads]
  case inRange =>
    intro values settings read
    split at read
    · simp only [Option.bind_eq_bind, Option.bind_eq_some_iff] at read
      obtain ⟨maxPasses, passesRead, _, _, same⟩ := read
      cases same
      exact lt_of_natural? passesRead
    · cases read

namespace Turn

/-- The number of the attempt and its duration are numbers of 64 bits. -/
structure Record.InRange (record : Record) : Prop where
  /-- The number of the attempt is. -/
  attempt : record.attempt < Document.countBound
  /-- The duration is. -/
  milliseconds : record.milliseconds < Document.countBound

theorem Record.roundTrips : RoundTrips Record.InRange := by
  refine roundTrips_of_fields (fun _ => rfl) (fun _ => rfl) (fun _ => rfl) (by decide)
    ?optional ?reads ?inRange
  case optional =>
    intro record
    have outcome : encode record.outcome ≠ .null := nofun
    simp [Document.natural, Document.texts, outcome]
  case reads =>
    intro record bounded
    simp [natural?_natural bounded.attempt, natural?_natural bounded.milliseconds,
      Run.Class.roundTrips.reads]
  case inRange =>
    intro values record read
    split at read
    · simp only [Option.bind_eq_bind, Option.bind_eq_some_iff] at read
      obtain ⟨attempt, attemptRead, _, _, _, _, milliseconds, durationRead, same⟩ := read
      cases same
      exact ⟨lt_of_natural? attemptRead, lt_of_natural? durationRead⟩
    · cases read

/-- The counts of a report and of its records are numbers of 64 bits. -/
structure Report.InRange (report : Report) : Prop where
  /-- The number of attempts is. -/
  attempts : report.attempts < Document.countBound
  /-- The numbers of each record are. -/
  records : ∀ record ∈ report.records, record.InRange
  /-- The duration is. -/
  milliseconds : report.milliseconds < Document.countBound

theorem Report.roundTrips : RoundTrips Report.InRange := by
  refine roundTrips_of_fields (fun _ => rfl) (fun _ => rfl) (fun _ => rfl) (by decide)
    ?optional ?reads ?inRange
  case optional =>
    intro report
    simp [Document.natural, Document.texts]
  case reads =>
    intro report bounded
    have records := Document.listOf?_list fun record present =>
      Record.roundTrips.reads record (bounded.records record present)
    simp [Document.text?, natural?_natural bounded.attempts, records,
      natural?_natural bounded.milliseconds]
  case inRange =>
    intro values report read
    split at read
    · simp only [Option.bind_eq_bind, Option.bind_eq_some_iff] at read
      obtain ⟨_, _, attempts, attemptsRead, _, _, records, recordsRead, milliseconds,
        durationRead, same⟩ := read
      cases same
      refine ⟨lt_of_natural? attemptsRead, ?_, lt_of_natural? durationRead⟩
      intro record present
      obtain ⟨item, itemRead⟩ := Document.exists_of_mem_listOf? recordsRead present
      exact Record.roundTrips.inRange item record itemRead
    · cases read

end Turn

/-! ## Sessions and settings -/

/-- The number of lines is a number of 64 bits. -/
def Session.InRange (session : Session) : Prop :=
  session.shownLines < Document.countBound

theorem Session.roundTrips : RoundTrips Session.InRange := by
  refine roundTrips_of_fields (fun _ => rfl) (fun _ => rfl) (fun _ => rfl) (by decide)
    ?optional ?reads ?inRange
  case optional =>
    intro session
    simp [Document.natural, Document.texts]
  case reads =>
    intro session bounded
    simp [Document.text?, natural?_natural bounded]
  case inRange =>
    intro values session read
    split at read
    · simp only [Option.bind_eq_bind, Option.bind_eq_some_iff] at read
      obtain ⟨_, _, _, _, _, _, _, _, shownLines, linesRead, same⟩ := read
      cases same
      exact lt_of_natural? linesRead
    · cases read

/-- Both durations are numbers of 64 bits. -/
structure ToolSettings.InRange (tools : ToolSettings) : Prop where
  /-- The time for a run is. -/
  runSeconds : tools.runSeconds < Document.countBound
  /-- The time for the formatter is. -/
  formatSeconds : tools.formatSeconds < Document.countBound

theorem ToolSettings.roundTrips : RoundTrips ToolSettings.InRange := by
  refine roundTrips_of_fields (fun _ => rfl) (fun _ => rfl) (fun _ => rfl) (by decide)
    ?optional ?reads ?inRange
  case optional =>
    intro tools
    simp [Document.natural]
  case reads =>
    intro tools bounded
    simp [Document.text?, natural?_natural bounded.runSeconds,
      natural?_natural bounded.formatSeconds]
  case inRange =>
    intro values tools read
    split at read
    · simp only [Option.bind_eq_bind, Option.bind_eq_some_iff] at read
      obtain ⟨_, _, _, _, runSeconds, runRead, formatSeconds, formatRead, same⟩ := read
      cases same
      exact ⟨lt_of_natural? runRead, lt_of_natural? formatRead⟩
    · cases read

/-- The settings of the tools and of repairs are in range. -/
structure Settings.InRange (settings : Settings) : Prop where
  /-- Those of the tools are. -/
  tools : settings.tools.InRange
  /-- Those of repairs are. -/
  repair : settings.repair.InRange

/-- The path of the history is the one value that may be missing. -/
theorem Settings.roundTrips : RoundTrips Settings.InRange := by
  refine roundTrips_of_fields (fun _ => rfl) (fun _ => rfl) (fun _ => rfl) (by decide)
    ?optional ?reads ?inRange
  case optional =>
    intro settings
    have tools : encode settings.tools ≠ .null := nofun
    have repair : encode settings.repair ≠ .null := nofun
    simp [tools, repair]
  case reads =>
    intro settings bounded
    simp [ToolSettings.roundTrips.reads _ bounded.tools,
      RepairSettings.roundTrips.reads _ bounded.repair]
  case inRange =>
    intro values settings read
    split at read
    · simp only [Option.bind_eq_bind, Option.bind_eq_some_iff] at read
      obtain ⟨tools, toolsRead, repair, repairRead, _, _, same⟩ := read
      cases same
      exact ⟨ToolSettings.roundTrips.inRange _ _ toolsRead,
        RepairSettings.roundTrips.inRange _ _ repairRead⟩
    · cases read

/-! ## All stored types -/

/-- Values of every stored type are read back, as far as their numbers are in range.  A
document of any form that is read is settled by storing its value. -/
theorem Stored.roundTrips_every_type :
    RoundTrips (fun _ : Diagnostic.Kind => True) ∧
    RoundTrips Diagnostic.InRange ∧
    RoundTrips Diagnostic.Summary.InRange ∧
    RoundTrips (fun _ : Run.Class => True) ∧
    RoundTrips (fun _ : Run => True) ∧
    RoundTrips (fun _ : Placement => True) ∧
    RoundTrips RepairSettings.InRange ∧
    RoundTrips Turn.Record.InRange ∧
    RoundTrips Turn.Report.InRange ∧
    RoundTrips Session.InRange ∧
    RoundTrips ToolSettings.InRange ∧
    RoundTrips Settings.InRange :=
  ⟨Diagnostic.Kind.roundTrips, Diagnostic.roundTrips, Diagnostic.Summary.roundTrips,
    Run.Class.roundTrips, Run.roundTrips, Placement.roundTrips, RepairSettings.roundTrips,
    Turn.Record.roundTrips, Turn.Report.roundTrips, Session.roundTrips,
    ToolSettings.roundTrips, Settings.roundTrips⟩

end Turnwise
