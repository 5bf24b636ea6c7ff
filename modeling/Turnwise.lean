import Turnwise.Arguments
import Turnwise.Command
import Turnwise.CommandLine
import Turnwise.Composition
import Turnwise.Conversation
import Turnwise.Diagnostic
import Turnwise.Document
import Turnwise.Document.Codec
import Turnwise.Document.Json
import Turnwise.Host.Condition
import Turnwise.Host.Disk
import Turnwise.Host.Format
import Turnwise.Host.Glob
import Turnwise.Host.Image
import Turnwise.Host.Installed
import Turnwise.Host.Kernel
import Turnwise.Host.Machine
import Turnwise.Host.Mode
import Turnwise.Host.Octets
import Turnwise.Host.Printing
import Turnwise.Host.Quantity
import Turnwise.Host.Regex
import Turnwise.Host.Script.Grammar
import Turnwise.Host.Script.Reader
import Turnwise.Host.Script.Syntax
import Turnwise.Host.Script.Word
import Turnwise.Host.Shell.Arithmetic
import Turnwise.Host.Shell.Braces
import Turnwise.Host.Shell.Builtin.Jobs
import Turnwise.Host.Shell.Builtin.Options
import Turnwise.Host.Shell.Builtin.Settings
import Turnwise.Host.Shell.Builtin.System
import Turnwise.Host.Shell.Builtin.Variables
import Turnwise.Host.Shell.Control
import Turnwise.Host.Shell.Evaluation
import Turnwise.Host.Shell.Execution
import Turnwise.Host.Shell.Expansion
import Turnwise.Host.Shell.Fields
import Turnwise.Host.Shell.Fork
import Turnwise.Host.Shell.Naming
import Turnwise.Host.Shell.Redirection
import Turnwise.Host.Shell.Start
import Turnwise.Host.Shell.State
import Turnwise.Host.Signal
import Turnwise.Host.Task
import Turnwise.Host.Utility.Arguments
import Turnwise.Host.Utility.Awk
import Turnwise.Host.Utility.Awk.Bench
import Turnwise.Host.Utility.Awk.Language
import Turnwise.Host.Utility.Awk.Reader
import Turnwise.Host.Utility.Awk.Value
import Turnwise.Host.Utility.Columns
import Turnwise.Host.Utility.Copying
import Turnwise.Host.Utility.Difference
import Turnwise.Host.Utility.Dump
import Turnwise.Host.Utility.Files
import Turnwise.Host.Utility.Find
import Turnwise.Host.Utility.Grep
import Turnwise.Host.Utility.Listing
import Turnwise.Host.Utility.Numbering
import Turnwise.Host.Utility.Processes
import Turnwise.Host.Utility.Reading
import Turnwise.Host.Utility.Repeats
import Turnwise.Host.Utility.Sed
import Turnwise.Host.Utility.Sed.Script
import Turnwise.Host.Utility.Sorting
import Turnwise.Host.Utility.Tool
import Turnwise.Host.Utility.Values
import Turnwise.Host.Version
import Turnwise.Main
import Turnwise.Output
import Turnwise.Path
import Turnwise.Prompt
import Turnwise.Proofs.Composition.Lines
import Turnwise.Proofs.Composition.Rows
import Turnwise.Proofs.Diagnostic.Endings
import Turnwise.Proofs.Diagnostic.Grammar
import Turnwise.Proofs.Diagnostic.Rendering
import Turnwise.Proofs.Diagnostic.Rereading
import Turnwise.Proofs.Diagnostic.Targets
import Turnwise.Proofs.Document.Forms
import Turnwise.Proofs.Document.RoundTrip
import Turnwise.Proofs.Host.Disk
import Turnwise.Proofs.Host.Machine
import Turnwise.Proofs.Host.Octets
import Turnwise.Proofs.Host.Walks
import Turnwise.Proofs.Miniature.Declarations
import Turnwise.Proofs.Miniature.Discarding
import Turnwise.Proofs.Miniature.Formatting
import Turnwise.Proofs.Miniature.Meaning
import Turnwise.Proofs.Miniature.Printing
import Turnwise.Proofs.Miniature.Reordering
import Turnwise.Proofs.Miniature.Repairing
import Turnwise.Proofs.Miniature.Reports
import Turnwise.Proofs.Miniature.Sessions
import Turnwise.Proofs.Miniature.Settling
import Turnwise.Proofs.Output.Bytes
import Turnwise.Proofs.Output.Rows
import Turnwise.Proofs.Output.Slicing
import Turnwise.Proofs.Output.Status
import Turnwise.Proofs.Path.Components
import Turnwise.Proofs.Path.Directories
import Turnwise.Proofs.Prompt.Dialogue
import Turnwise.Proofs.Prompt.Grouping
import Turnwise.Proofs.Prompt.Isolation
import Turnwise.Proofs.Settings.History
import Turnwise.Proofs.Text.Blank
import Turnwise.Proofs.Text.Decimal
import Turnwise.Proofs.Text.Lines
import Turnwise.Proofs.Text.Utf8
import Turnwise.Proofs.Text.Visible
import Turnwise.Proofs.Turn.Accounts
import Turnwise.Proofs.Turn.Course
import Turnwise.Proofs.Turn.Failures
import Turnwise.Proofs.Turn.Growth
import Turnwise.Proofs.Turn.History
import Turnwise.Proofs.Turn.Insertion
import Turnwise.Proofs.Turn.Limits
import Turnwise.Proofs.Turn.Places
import Turnwise.Proofs.Turn.ProgramFile
import Turnwise.Proofs.Turn.Repairs
import Turnwise.Proofs.Turn.Replay
import Turnwise.Proofs.Turn.Stalls
import Turnwise.Proofs.Workspace.Restoration
import Turnwise.Proofs.Workspace.Targets
import Turnwise.Run
import Turnwise.Session
import Turnwise.Settings
import Turnwise.SystemError
import Turnwise.Text.Blank
import Turnwise.Text.Decimal
import Turnwise.Text.Lines
import Turnwise.Text.Utf8
import Turnwise.Toolchain
import Turnwise.Toolchain.Hosted
import Turnwise.Toolchain.Miniature
import Turnwise.Toolchain.Scripted
import Turnwise.Toolchain.Store
import Turnwise.Turn.Error
import Turnwise.Turn.Loop
import Turnwise.Words
import Turnwise.Workspace
