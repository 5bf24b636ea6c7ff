import Turnwise.Command
import Turnwise.Turn.Loop

/-!
# The prompt

The prompt reads lines and groups them into statements: as long as the formatter
finds that a statement is not complete, the next line is added to it.  Lines that
leave the session and lines that run commands are never part of a statement.
-/

namespace Turnwise

/-- A session with the lines of a statement that is not complete. -/
structure Prompt where
  /-- The session. -/
  session : Session
  /-- The lines read so far, without blanks at their ends. -/
  pending : List Text
  deriving DecidableEq, Repr

namespace Prompt

/-- What one line led to. -/
inductive Outcome where
  /-- The user leaves. -/
  | quit
  /-- The line is blank and nothing is pending. -/
  | blank
  /-- The statement is not complete. -/
  | awaitMore
  /-- A turn succeeded and added this output, which may be empty. -/
  | output (text : Text)
  /-- A turn failed with this message. -/
  | turnFailed (message : Text)
  /-- A command ran. -/
  | command (outcome : Command.Outcome)
  /-- A command line was malformed. -/
  | badCommand (message : Text)
  deriving DecidableEq, Repr

/-- What one line did: its outcome, or the failure that ends the session; the
prompt; and the state of the services. -/
structure Step (State : Type) where
  /-- The outcome of the line. -/
  result : Except TurnError Outcome
  /-- The prompt after the line. -/
  prompt : Prompt
  /-- The state of the services after the line. -/
  state : State

/-- A prompt at which nothing was entered. -/
def fresh (session : Session) : Prompt :=
  ⟨session, []⟩

/-- The mark before the first line of a statement. -/
def mark : Text := "> ".toList

/-- The mark before every further line. -/
def continuationMark : Text := ". ".toList

/-- The mark that invites the next line. -/
def invitation (prompt : Prompt) : Text :=
  if prompt.pending.isEmpty then mark else continuationMark

/-- Forget the lines of a statement that is not complete. -/
def cancel (prompt : Prompt) : Prompt :=
  { prompt with pending := [] }

/-- Whether a line, without blanks at its ends, leaves the session. -/
def leaves (line : Text) : Bool :=
  line == ".quit".toList || line == ".exit".toList

/-- What a session that ends by a failure reports in the first place. -/
def abortMessage : Text := "session aborted".toList

/-- The full report of a failure that ends a session. -/
def abortReport (error : TurnError) : Text :=
  Text.joinWith ": ".toList [abortMessage, error.fullMessage]

/-- Run the words of a command line. -/
def runCommand
    (shell : Shell State)
    (directory : Path)
    (words : Except Command.Malformed (List Text))
    (state : State) : Outcome × State :=
  match words with
  | .error malformed => (.badCommand malformed.message, state)
  | .ok words =>
      match shell words directory state with
      | (.ok outcome, state) => (.command outcome, state)
      | (.error failure, state) => (.command (.failed failure.message), state)

/-- Run the turn that all pending lines make up. -/
def runPending
    (bench : Bench State)
    (settings : RepairSettings)
    (prompt : Prompt)
    (state : State) : Step State :=
  let turn := prompt.session.turn bench settings
    (Text.joinWith ['\n'] prompt.pending) state
  match turn.result with
  | .ok report => ⟨.ok (.output report.output), ⟨turn.session, []⟩, turn.state⟩
  | .error error =>
      if error.isIncomplete then
        ⟨.ok .awaitMore, ⟨turn.session, prompt.pending⟩, turn.state⟩
      else if error.isFatal then ⟨.error error, ⟨turn.session, []⟩, turn.state⟩
      else ⟨.ok (.turnFailed error.fullMessage), ⟨turn.session, []⟩, turn.state⟩

/-- Take one line. -/
def enter
    (bench : Bench State)
    (shell : Shell State)
    (settings : RepairSettings)
    (prompt : Prompt)
    (line : Text)
    (state : State) : Step State :=
  let line := line.trim
  if leaves line then ⟨.ok .quit, prompt, state⟩
  else
    match Command.parse? line with
    | some words =>
        let (outcome, state) := runCommand shell prompt.session.directory words state
        ⟨.ok outcome, prompt.cancel, state⟩
    | none =>
        if prompt.pending.isEmpty && line.isEmpty then ⟨.ok .blank, prompt, state⟩
        else
          runPending bench settings
            { prompt with pending := prompt.pending ++ [line] } state

end Prompt
end Turnwise
