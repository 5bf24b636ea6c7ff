import Turnwise.Toolchain.Store

/-!
# Scripted toolchains

A scripted toolchain answers from two lists fixed in advance, one for the formatter
and one for the runner.  When a list is used up, the formatter leaves its source
unchanged and the runner reports a success without output.
-/

namespace Turnwise
namespace Scripted

/-- The answers still to be given. -/
structure Replies where
  /-- What the formatter answers; `none` leaves the source unchanged. -/
  formats : List (Except ToolError (Option Text))
  /-- What the runner answers. -/
  runs : List (Except ToolError Run)

/-- The answer of the formatter to a source text. -/
def Replies.format (replies : Replies) (source : Text) : Except ToolError Text × Replies :=
  match replies.formats with
  | [] => (.ok source, replies)
  | answer :: rest => (answer.map (·.getD source), { replies with formats := rest })

/-- The answer of the runner. -/
def Replies.run (replies : Replies) : Except ToolError Run × Replies :=
  match replies.runs with
  | [] => (.ok (.ofOutput [] true), replies)
  | answer :: rest => (answer, { replies with runs := rest })

/-- The bench that answers from lists and writes to a store. -/
def bench (store : Store State) : Bench (State × Replies) where
  organize source _ state :=
    let (answer, rest) := state.2.format source
    (answer, state.1, rest)
  write file content state :=
    let (answer, next) := store.writeText file content state.1
    (answer, next, state.2)
  run _ _ state :=
    let (answer, rest) := state.2.run
    (answer, state.1, rest)

end Scripted
end Turnwise
