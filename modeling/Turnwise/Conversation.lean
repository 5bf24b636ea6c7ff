import Turnwise.Prompt
import Turnwise.Text.Utf8

/-!
# Conversations

A conversation feeds the lines of an input to a prompt, one after the other, and
collects what the user gets to see.  It ends when the user leaves, when the input ends,
or when a failure ends the session.
-/

namespace Turnwise

/-- What the user got to see. -/
structure Transcript where
  /-- The standard output. -/
  output : Text
  /-- The standard error. -/
  errors : Text
  deriving DecidableEq, Repr

namespace Transcript

/-- Nothing was shown. -/
def empty : Transcript := ⟨[], []⟩

/-- Show something as output. -/
def print (transcript : Transcript) (text : Text) : Transcript :=
  { transcript with output := transcript.output ++ text }

/-- Show a line as output unless there is nothing on it. -/
def printLine (transcript : Transcript) (line : Text) : Transcript :=
  if line.isEmpty then transcript else transcript.print (line ++ ['\n'])

/-- Show a line as an error. -/
def complain (transcript : Transcript) (line : Text) : Transcript :=
  { transcript with errors := transcript.errors ++ line ++ ['\n'] }

/-- Show what a line at the prompt led to. -/
def report (transcript : Transcript) : Prompt.Outcome → Transcript
  | .quit => transcript
  | .blank => transcript
  | .awaitMore => transcript
  | .output text => transcript.printLine text
  | .turnFailed message => transcript.complain message
  | .command (.succeeded text) => transcript.printLine (text.dropEndWhile (· == '\n'))
  | .command (.failed message) => transcript.complain ("command failed: ".toList ++ message)
  | .badCommand message => transcript.complain ("bad command: ".toList ++ message)

end Transcript

/-- A conversation as it stands, with the state of the services. -/
structure Conversation (State : Type) where
  /-- The prompt. -/
  prompt : Prompt
  /-- The state of the services. -/
  state : State
  /-- What the user has seen. -/
  transcript : Transcript

namespace Conversation

/-- How a conversation is held. -/
structure Manner (State : Type) where
  /-- The services for turns. -/
  bench : Bench State
  /-- What runs commands. -/
  shell : Shell State
  /-- How turns are repaired. -/
  repair : RepairSettings
  /-- Whether the mark of the prompt is shown before every line. -/
  showsMark : Bool

/-- What is reported when the input is no text. -/
def unreadable : Text :=
  Text.joinWith ": ".toList
    ["failed to read input".toList, "stream did not contain valid UTF-8".toList,
      "stream did not contain valid UTF-8".toList]

/-- Invite the next line. -/
def invite (manner : Manner State) (conversation : Conversation State) :
    Conversation State :=
  if manner.showsMark then
    { conversation with
      transcript := conversation.transcript.print conversation.prompt.invitation }
  else conversation

/-- Take one line.  The answer tells whether the conversation goes on; an error is the
report of the failure that ends the session. -/
def take
    (manner : Manner State)
    (line : Text)
    (conversation : Conversation State) : Except Text Bool × Conversation State :=
  let step := conversation.prompt.enter manner.bench manner.shell manner.repair line
    conversation.state
  match step.result with
  | .error failure =>
      (.error (Prompt.abortReport failure), ⟨step.prompt, step.state, conversation.transcript⟩)
  | .ok outcome =>
      (.ok (outcome != .quit),
        ⟨step.prompt, step.state, conversation.transcript.report outcome⟩)

/-- Hold a conversation over the lines of an input; a line is `none` when it is no
text. -/
def hold
    (manner : Manner State) :
    List (Option Text) → Conversation State → Except Text Unit × Conversation State
  | [], conversation => (.ok (), conversation.invite manner)
  | none :: _, conversation => (.error unreadable, conversation.invite manner)
  | some line :: rest, conversation =>
      match (conversation.invite manner).take manner line with
      | (.error report, conversation) => (.error report, conversation)
      | (.ok false, conversation) => (.ok (), conversation)
      | (.ok true, conversation) => hold manner rest conversation

end Conversation
end Turnwise
