import StatusCodes.Errno.Mapping
import StatusCodes.Errno.Sentence
import StatusCodes.Fault

/-!
# Errors of host operations

An input or output operation of the host fails with an error number, with a kind of failure, or
with a kind and a text supplied by whoever raised it. A number stands for a kind too. Classifying
such an error asks the table of error numbers first; an error without a number, or with one the
table does not know, is classified by its kind, and kinds without a counterpart are I/O errors. No
number outside the table stands for a kind with a counterpart, so such numbers are I/O errors as
well.
-/

namespace StatusCodes

/-- The kinds of failure that host operations tell apart. -/
inductive HostError.Kind
  | notFound
  | permissionDenied
  | connectionRefused
  | connectionReset
  | connectionAborted
  | notConnected
  | addressInUse
  | addressNotAvailable
  | brokenPipe
  | alreadyExists
  | wouldBlock
  | notADirectory
  | isADirectory
  | directoryNotEmpty
  | readOnlyFilesystem
  | filesystemLoop
  | staleNetworkFileHandle
  | invalidInput
  | invalidData
  | timedOut
  | writeZero
  | storageFull
  | notSeekable
  | quotaExceeded
  | fileTooLarge
  | resourceBusy
  | executableFileBusy
  | deadlock
  | crossesDevices
  | tooManyLinks
  | invalidFilename
  | argumentListTooLong
  | hostUnreachable
  | networkUnreachable
  | networkDown
  | unsupported
  | unexpectedEnd
  | outOfMemory
  | inProgress
  | interrupted
  | other
  | uncategorized
  deriving DecidableEq, Repr

/-- How a host operation failed. -/
inductive HostError
  /-- With an error number. -/
  | numbered (errno : Int32)
  /-- With a kind of failure and nothing else. -/
  | bare (kind : HostError.Kind)
  /-- With a kind of failure and a text. -/
  | told (kind : HostError.Kind) (text : String)
  deriving DecidableEq, Repr

namespace HostError

/-- What a kind of failure is called. -/
def Kind.description : Kind → String
  | .notFound => "entity not found"
  | .permissionDenied => "permission denied"
  | .connectionRefused => "connection refused"
  | .connectionReset => "connection reset"
  | .connectionAborted => "connection aborted"
  | .notConnected => "not connected"
  | .addressInUse => "address in use"
  | .addressNotAvailable => "address not available"
  | .brokenPipe => "broken pipe"
  | .alreadyExists => "entity already exists"
  | .wouldBlock => "operation would block"
  | .notADirectory => "not a directory"
  | .isADirectory => "is a directory"
  | .directoryNotEmpty => "directory not empty"
  | .readOnlyFilesystem => "read-only filesystem or storage medium"
  | .filesystemLoop => "filesystem loop or indirection limit (e.g. symlink loop)"
  | .staleNetworkFileHandle => "stale network file handle"
  | .invalidInput => "invalid input parameter"
  | .invalidData => "invalid data"
  | .timedOut => "timed out"
  | .writeZero => "write zero"
  | .storageFull => "no storage space"
  | .notSeekable => "seek on unseekable file"
  | .quotaExceeded => "quota exceeded"
  | .fileTooLarge => "file too large"
  | .resourceBusy => "resource busy"
  | .executableFileBusy => "executable file busy"
  | .deadlock => "deadlock"
  | .crossesDevices => "cross-device link or rename"
  | .tooManyLinks => "too many links"
  | .invalidFilename => "invalid filename"
  | .argumentListTooLong => "argument list too long"
  | .hostUnreachable => "host unreachable"
  | .networkUnreachable => "network unreachable"
  | .networkDown => "network down"
  | .unsupported => "unsupported"
  | .unexpectedEnd => "unexpected end of file"
  | .outOfMemory => "out of memory"
  | .inProgress => "in progress"
  | .interrupted => "operation interrupted"
  | .other => "other error"
  | .uncategorized => "uncategorized error"

/-- The kinds that error numbers stand for, by number. -/
def Kind.numbers : List (Int × Kind) :=
  [ (1, .permissionDenied),
    (2, .notFound),
    (4, .interrupted),
    (7, .argumentListTooLong),
    (11, .wouldBlock),
    (12, .outOfMemory),
    (13, .permissionDenied),
    (16, .resourceBusy),
    (17, .alreadyExists),
    (18, .crossesDevices),
    (20, .notADirectory),
    (21, .isADirectory),
    (22, .invalidInput),
    (26, .executableFileBusy),
    (27, .fileTooLarge),
    (28, .storageFull),
    (29, .notSeekable),
    (30, .readOnlyFilesystem),
    (31, .tooManyLinks),
    (32, .brokenPipe),
    (35, .deadlock),
    (36, .invalidFilename),
    (38, .unsupported),
    (39, .directoryNotEmpty),
    (40, .filesystemLoop),
    (95, .unsupported),
    (98, .addressInUse),
    (99, .addressNotAvailable),
    (100, .networkDown),
    (101, .networkUnreachable),
    (103, .connectionAborted),
    (104, .connectionReset),
    (107, .notConnected),
    (110, .timedOut),
    (111, .connectionRefused),
    (113, .hostUnreachable),
    (115, .inProgress),
    (116, .staleNetworkFileHandle),
    (122, .quotaExceeded) ]

/-- The kind that an error number stands for. -/
def Kind.ofNumber (n : Int32) : Kind :=
  (numbers.lookup n.toInt).getD .uncategorized

/-- The code of a kind of failure. -/
def Kind.code : Kind → Code
  | .notFound => .fsNoEntry
  | .permissionDenied => .fsAccess
  | .alreadyExists => .fsExists
  | .wouldBlock => .ipcAgain
  | .brokenPipe => .ipcPipe
  | .interrupted => .sysInterrupted
  | .timedOut => .genTimeout
  | .invalidInput => .genInvalidParam
  | .unsupported => .sysNotSupported
  | .outOfMemory => .memOutOfMemory
  | _ => .fsIo

/-- The message of a host error. -/
def message : HostError → String
  | .numbered n => s!"{Errno.describe n} (os error {n.toInt})"
  | .bare kind => kind.description
  | .told _ text => text

/-- The error number of a host error, if it has one. -/
def number? : HostError → Option Int32
  | .numbered n => some n
  | .bare _ => none
  | .told _ _ => none

/-- The kind of a host error. -/
def kind : HostError → Kind
  | .numbered n => .ofNumber n
  | .bare kind => kind
  | .told kind _ => kind

/-- The code of a host error: that of its number if the table knows it, or else that of its
kind. -/
def code (e : HostError) : Code :=
  (e.number?.bind Errno.lookup).getD e.kind.code

/-- The host error as a fault that keeps its message. -/
def fault (e : HostError) : Fault :=
  .composed e.code e.message

/-- The outcome of a host operation with its error as a fault. -/
def status (r : Except HostError α) : Except Fault α :=
  r.mapError fault

@[simp] theorem code_fault (e : HostError) : e.fault.code = e.code := rfl

end HostError

end StatusCodes
