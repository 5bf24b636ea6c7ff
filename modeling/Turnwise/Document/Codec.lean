import Turnwise.Document
import Turnwise.Settings

/-!
# Stored forms

Each type that is stored has a form as a document.  `encode` gives the form of a
value; `decode?` reads it back, and also reads the looser forms that records,
lists and names allow.
-/

namespace Turnwise

/-- A stored form of a type. -/
class Stored (α : Type) where
  /-- The document of a value. -/
  encode : α → Document
  /-- The value that a document stands for. -/
  decode? : Document → Option α

export Stored (encode decode?)

namespace Document

/-- Counts and durations are numbers of 64 bits. -/
def countBound : Nat := 0x10000000000000000

/-- The value that the name of a constant stands for. -/
def constant? (constants : List (String × α)) (document : Document) : Option α := do
  let name ← document.name?
  let (_, value) ← constants.find? (·.1.toList == name)
  return value

end Document

/-- The key that tells the class of a diagnostic. -/
def kindKey : String := "kind"

instance : Stored Diagnostic.Kind where
  encode
    | .recoverable identifier =>
        .recordOf [(kindKey, .word "recoverable"), ("identifier", .text identifier)]
    | .unrecoverable => .recordOf [(kindKey, .word "unrecoverable")]
  decode? document := do
    let (tag, rest) ←
      match document with
      | .record fields => do
          let tag ← Document.lookup? kindKey.toList fields
          some (tag, Document.record (fields.filter (·.1 != kindKey.toList)))
      | .list (tag :: items) => some (tag, .list items)
      | _ => none
    let name ← tag.text?
    if name = "recoverable".toList then
      match ← rest.fields? ["identifier"] [] with
      | [identifier] => return .recoverable (← identifier.text?)
      | _ => none
    else if name = "unrecoverable".toList then
      match rest with
      | .record _ => some .unrecoverable
      | .list [] => some .unrecoverable
      | _ => none
    else none

instance : Stored Diagnostic where
  encode diagnostic :=
    .recordOf [("file_marker", .text diagnostic.file), ("line", .natural diagnostic.line),
      ("column", .natural diagnostic.column), ("message", .text diagnostic.message),
      ("kind", encode diagnostic.kind)]
  decode? document := do
    match ← document.fields? ["file_marker", "line", "column", "message", "kind"] [] with
    | [file, line, column, message, kind] =>
        return ⟨← file.text?, ← line.natural? Diagnostic.positionBound,
          ← column.natural? Diagnostic.positionBound, ← message.text?, ← decode? kind⟩
    | _ => none

instance : Stored Diagnostic.Summary where
  encode summary :=
    .recordOf [("total", .natural summary.total), ("recoverable", .natural summary.recoverable),
      ("unrecoverable", .natural summary.unrecoverable)]
  decode? document := do
    match ← document.fields? ["total", "recoverable", "unrecoverable"] [] with
    | [total, recoverable, unrecoverable] =>
        return ⟨← total.natural? Document.countBound,
          ← recoverable.natural? Document.countBound,
          ← unrecoverable.natural? Document.countBound⟩
    | _ => none

instance : Stored Run.Class where
  encode outcome := .text outcome.name
  decode? := Document.constant?
    [("success", .success), ("compile_failure", .compileFailure),
      ("runtime_failure", .runtimeFailure)]

instance : Stored Run where
  encode run :=
    .recordOf [("output", .text run.output), ("success", .boolean run.success),
      ("last_non_empty_line", .text run.lastLine)]
  decode? document := do
    match ← document.fields? ["output", "success", "last_non_empty_line"] [] with
    | [output, success, lastLine] =>
        return ⟨← output.text?, ← success.boolean?, ← lastLine.text?⟩
    | _ => none

instance : Stored Placement where
  encode placement := .text placement.longName
  decode? := Document.constant? [("before_candidate", .before), ("after_candidate", .after)]

instance : Stored RepairSettings where
  encode settings :=
    .recordOf [("max_fix_passes", .natural settings.maxPasses),
      ("placement", encode settings.placement)]
  decode? document := do
    match ← document.fields? ["max_fix_passes", "placement"] [] with
    | [maxPasses, placement] =>
        return ⟨← maxPasses.natural? Document.countBound, ← decode? placement⟩
    | _ => none

instance : Stored Turn.Record where
  encode record :=
    .recordOf [("attempt", .natural record.attempt), ("class", encode record.outcome),
      ("found", .texts record.found), ("duration_ms", .natural record.milliseconds)]
  decode? document := do
    match ← document.fields? ["attempt", "class", "found", "duration_ms"] [] with
    | [attempt, outcome, found, milliseconds] =>
        return ⟨← attempt.natural? Document.countBound, ← decode? outcome, ← found.texts?,
          ← milliseconds.natural? Document.countBound⟩
    | _ => none

instance : Stored Turn.Report where
  encode report :=
    .recordOf [("output", .text report.output), ("attempts", .natural report.attempts),
      ("discarded", .texts report.discarded), ("records", .list (report.records.map encode)),
      ("duration_ms", .natural report.milliseconds)]
  decode? document := do
    match ← document.fields? ["output", "attempts", "discarded", "records", "duration_ms"] [] with
    | [output, attempts, discarded, records, milliseconds] =>
        return ⟨← output.text?, ← attempts.natural? Document.countBound, ← discarded.texts?,
          ← records.listOf? decode?, ← milliseconds.natural? Document.countBound⟩
    | _ => none

instance : Stored Session where
  encode session :=
    .recordOf [("working_dir", .text session.directory), ("file_path", .text session.file),
      ("preamble", .text session.preamble), ("statements", .texts session.statements),
      ("output_offset", .natural session.shownLines)]
  decode? document := do
    match ← document.fields?
      ["working_dir", "file_path", "preamble", "statements", "output_offset"] [] with
    | [directory, file, preamble, statements, shownLines] =>
        return ⟨← directory.text?, ← file.text?, ← preamble.text?, ← statements.texts?,
          ← shownLines.natural? Document.countBound⟩
    | _ => none

instance : Stored ToolSettings where
  encode tools :=
    .recordOf [("go_bin", .text tools.go), ("goimports_bin", .text tools.goimports),
      ("run_timeout_secs", .natural tools.runSeconds),
      ("format_timeout_secs", .natural tools.formatSeconds)]
  decode? document := do
    match ← document.fields?
      ["go_bin", "goimports_bin", "run_timeout_secs", "format_timeout_secs"] [] with
    | [go, goimports, runSeconds, formatSeconds] =>
        return ⟨← go.text?, ← goimports.text?, ← runSeconds.natural? Document.countBound,
          ← formatSeconds.natural? Document.countBound⟩
    | _ => none

instance : Stored Settings where
  encode settings :=
    .recordOf [("toolchain", encode settings.tools), ("fix", encode settings.repair),
      ("history_path", .optional .text settings.history)]
  decode? document := do
    match ← document.fields? ["toolchain", "fix", "history_path"] ["history_path"] with
    | [tools, repair, history] =>
        return ⟨← decode? tools, ← decode? repair, ← history.optional? Document.text?⟩
    | _ => none

end Turnwise
