import Turnwise.Text.Decimal

/-!
# Errors of the operating system

Reading and writing files and starting processes can fail.  A failure has a kind,
which programs look at, and a wording, which users see.
-/

namespace Turnwise

/-- The kind of a failure. -/
inductive SystemError.Kind where
  | notFound
  | permissionDenied
  | brokenPipe
  | isADirectory
  | notADirectory
  | invalidInput
  | invalidFilename
  | filesystemLoop
  | alreadyExists
  | directoryNotEmpty
  | storageFull
  | notSeekable
  | argumentListTooLong
  | interrupted
  | other
  | uncategorized
  deriving DecidableEq, Repr

/-- The failures the system itself reports, each with a number. -/
inductive SystemError.Code where
  /-- The operation is not allowed. -/
  | notPermitted
  /-- There is no such file. -/
  | noEntry
  /-- There is no such process. -/
  | noProcess
  /-- A signal came first. -/
  | interrupted
  /-- There is no such device. -/
  | noDevice
  /-- The words for a program are too many or too long. -/
  | tooManyArguments
  /-- The file has no format that can be executed. -/
  | badFormat
  /-- Nothing is open under the number of a descriptor. -/
  | badDescriptor
  /-- There is no child to wait for. -/
  | noChild
  /-- The file may not be used so. -/
  | accessDenied
  /-- The object is in use. -/
  | busy
  /-- Something stands there already. -/
  | exists
  /-- A file stands where a directory should. -/
  | notDirectory
  /-- A directory stands where a file should. -/
  | isDirectory
  /-- The request makes no sense. -/
  | invalid
  /-- The file is no terminal. -/
  | noTerminal
  /-- There is no room left. -/
  | noSpace
  /-- There are no positions in a stream. -/
  | noSeek
  /-- Nobody reads what is written. -/
  | brokenPipe
  /-- A name or a path is too long. -/
  | nameTooLong
  /-- A directory is not empty. -/
  | notEmpty
  /-- Too many symbolic links follow each other. -/
  | tooManyLinks
  deriving DecidableEq, Repr

/-- A failure of the operating system. -/
inductive SystemError where
  /-- Reported by the system under a number. -/
  | coded (code : SystemError.Code)
  /-- Known by its kind alone. -/
  | bare (kind : SystemError.Kind)
  /-- Described by whoever noticed it. -/
  | described (kind : SystemError.Kind) (description : Text)
  deriving DecidableEq, Repr

namespace SystemError

/-- The kind of a failure that the system reports. -/
def Code.kind : Code → Kind
  | .notPermitted => .permissionDenied
  | .noEntry => .notFound
  | .noProcess => .uncategorized
  | .interrupted => .interrupted
  | .noDevice => .uncategorized
  | .tooManyArguments => .argumentListTooLong
  | .badFormat => .uncategorized
  | .badDescriptor => .uncategorized
  | .noChild => .uncategorized
  | .accessDenied => .permissionDenied
  | .busy => .uncategorized
  | .exists => .alreadyExists
  | .notDirectory => .notADirectory
  | .isDirectory => .isADirectory
  | .invalid => .invalidInput
  | .noTerminal => .uncategorized
  | .noSpace => .storageFull
  | .noSeek => .notSeekable
  | .brokenPipe => .brokenPipe
  | .nameTooLong => .invalidFilename
  | .notEmpty => .directoryNotEmpty
  | .tooManyLinks => .filesystemLoop

/-- What the system calls a failure. -/
def Code.title : Code → Text
  | .notPermitted => "Operation not permitted".toList
  | .noEntry => "No such file or directory".toList
  | .noProcess => "No such process".toList
  | .interrupted => "Interrupted system call".toList
  | .noDevice => "No such device or address".toList
  | .tooManyArguments => "Argument list too long".toList
  | .badFormat => "Exec format error".toList
  | .badDescriptor => "Bad file descriptor".toList
  | .noChild => "No child processes".toList
  | .accessDenied => "Permission denied".toList
  | .busy => "Device or resource busy".toList
  | .exists => "File exists".toList
  | .notDirectory => "Not a directory".toList
  | .isDirectory => "Is a directory".toList
  | .invalid => "Invalid argument".toList
  | .noTerminal => "Inappropriate ioctl for device".toList
  | .noSpace => "No space left on device".toList
  | .noSeek => "Illegal seek".toList
  | .brokenPipe => "Broken pipe".toList
  | .nameTooLong => "File name too long".toList
  | .notEmpty => "Directory not empty".toList
  | .tooManyLinks => "Too many levels of symbolic links".toList

/-- The number of a failure. -/
def Code.number : Code → Nat
  | .notPermitted => 1
  | .noEntry => 2
  | .noProcess => 3
  | .interrupted => 4
  | .noDevice => 6
  | .tooManyArguments => 7
  | .badFormat => 8
  | .badDescriptor => 9
  | .noChild => 10
  | .accessDenied => 13
  | .busy => 16
  | .exists => 17
  | .notDirectory => 20
  | .isDirectory => 21
  | .invalid => 22
  | .noTerminal => 25
  | .noSpace => 28
  | .noSeek => 29
  | .brokenPipe => 32
  | .nameTooLong => 36
  | .notEmpty => 39
  | .tooManyLinks => 40

/-- The wording of a kind that comes with no description. -/
def Kind.title : Kind → Text
  | .notFound => "entity not found".toList
  | .permissionDenied => "permission denied".toList
  | .brokenPipe => "broken pipe".toList
  | .isADirectory => "is a directory".toList
  | .notADirectory => "not a directory".toList
  | .invalidInput => "invalid input parameter".toList
  | .invalidFilename => "invalid filename".toList
  | .filesystemLoop => "filesystem loop or indirection limit (e.g. symlink loop)".toList
  | .alreadyExists => "entity already exists".toList
  | .directoryNotEmpty => "directory not empty".toList
  | .storageFull => "no storage space".toList
  | .notSeekable => "seek on unseekable file".toList
  | .argumentListTooLong => "argument list too long".toList
  | .interrupted => "operation interrupted".toList
  | .other => "other error".toList
  | .uncategorized => "uncategorized error".toList

/-- The kind of a failure. -/
def kind : SystemError → Kind
  | .coded code => code.kind
  | .bare kind => kind
  | .described kind _ => kind

/-- The wording of a failure. -/
def message : SystemError → Text
  | .coded code =>
      code.title ++ " (os error ".toList ++ Text.ofNat code.number ++ ")".toList
  | .bare kind => kind.title
  | .described _ description => description

end SystemError
end Turnwise
