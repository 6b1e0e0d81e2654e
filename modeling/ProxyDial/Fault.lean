import ProxyDial.Text.Record

set_option autoImplicit false

/-! Faults of streams and sockets: what kind of thing went wrong, and how it is told. -/

namespace ProxyDial

/-- What went wrong, as far as a program can tell faults apart. -/
inductive FaultKind
  | addressInUse | addressNotAvailable | alreadyExists | argumentListTooLong | brokenPipe
  | connectionAborted | connectionRefused | connectionReset | crossesDevices | deadlock
  | directoryNotEmpty | executableFileBusy | fileTooLarge | hostUnreachable | interrupted
  | invalidData | invalidFilename | invalidInput | isADirectory | networkDown
  | networkUnreachable | notADirectory | notConnected | notFound | notSeekable | other
  | outOfMemory | permissionDenied | quotaExceeded | readOnlyFilesystem | resourceBusy
  | staleNetworkFileHandle | storageFull | timedOut | tooManyLinks | unexpectedEnd | unsupported
  | wouldBlock | writeZero
  deriving DecidableEq, Repr

namespace FaultKind

def all : List FaultKind :=
  [addressInUse, addressNotAvailable, alreadyExists, argumentListTooLong, brokenPipe,
    connectionAborted, connectionRefused, connectionReset, crossesDevices, deadlock,
    directoryNotEmpty, executableFileBusy, fileTooLarge, hostUnreachable, interrupted, invalidData,
    invalidFilename, invalidInput, isADirectory, networkDown, networkUnreachable, notADirectory,
    notConnected, notFound, notSeekable, other, outOfMemory, permissionDenied, quotaExceeded,
    readOnlyFilesystem, resourceBusy, staleNetworkFileHandle, storageFull, timedOut, tooManyLinks,
    unexpectedEnd, unsupported, wouldBlock, writeZero]

/-- The name of a kind in diagnostics. -/
def name : FaultKind → String
  | addressInUse => "AddrInUse"
  | addressNotAvailable => "AddrNotAvailable"
  | alreadyExists => "AlreadyExists"
  | argumentListTooLong => "ArgumentListTooLong"
  | brokenPipe => "BrokenPipe"
  | connectionAborted => "ConnectionAborted"
  | connectionRefused => "ConnectionRefused"
  | connectionReset => "ConnectionReset"
  | crossesDevices => "CrossesDevices"
  | deadlock => "Deadlock"
  | directoryNotEmpty => "DirectoryNotEmpty"
  | executableFileBusy => "ExecutableFileBusy"
  | fileTooLarge => "FileTooLarge"
  | hostUnreachable => "HostUnreachable"
  | interrupted => "Interrupted"
  | invalidData => "InvalidData"
  | invalidFilename => "InvalidFilename"
  | invalidInput => "InvalidInput"
  | isADirectory => "IsADirectory"
  | networkDown => "NetworkDown"
  | networkUnreachable => "NetworkUnreachable"
  | notADirectory => "NotADirectory"
  | notConnected => "NotConnected"
  | notFound => "NotFound"
  | notSeekable => "NotSeekable"
  | other => "Other"
  | outOfMemory => "OutOfMemory"
  | permissionDenied => "PermissionDenied"
  | quotaExceeded => "QuotaExceeded"
  | readOnlyFilesystem => "ReadOnlyFilesystem"
  | resourceBusy => "ResourceBusy"
  | staleNetworkFileHandle => "StaleNetworkFileHandle"
  | storageFull => "StorageFull"
  | timedOut => "TimedOut"
  | tooManyLinks => "TooManyLinks"
  | unexpectedEnd => "UnexpectedEof"
  | unsupported => "Unsupported"
  | wouldBlock => "WouldBlock"
  | writeZero => "WriteZero"

def ofName? (text : String) : Option FaultKind := all.find? (·.name = text)

/-- The words for a kind when nothing more is known. -/
def description : FaultKind → String
  | addressInUse => "address in use"
  | addressNotAvailable => "address not available"
  | alreadyExists => "entity already exists"
  | argumentListTooLong => "argument list too long"
  | brokenPipe => "broken pipe"
  | connectionAborted => "connection aborted"
  | connectionRefused => "connection refused"
  | connectionReset => "connection reset"
  | crossesDevices => "cross-device link or rename"
  | deadlock => "deadlock"
  | directoryNotEmpty => "directory not empty"
  | executableFileBusy => "executable file busy"
  | fileTooLarge => "file too large"
  | hostUnreachable => "host unreachable"
  | interrupted => "operation interrupted"
  | invalidData => "invalid data"
  | invalidFilename => "invalid filename"
  | invalidInput => "invalid input parameter"
  | isADirectory => "is a directory"
  | networkDown => "network down"
  | networkUnreachable => "network unreachable"
  | notADirectory => "not a directory"
  | notConnected => "not connected"
  | notFound => "entity not found"
  | notSeekable => "seek on unseekable file"
  | other => "other error"
  | outOfMemory => "out of memory"
  | permissionDenied => "permission denied"
  | quotaExceeded => "quota exceeded"
  | readOnlyFilesystem => "read-only filesystem or storage medium"
  | resourceBusy => "resource busy"
  | staleNetworkFileHandle => "stale network file handle"
  | storageFull => "no storage space"
  | timedOut => "timed out"
  | tooManyLinks => "too many links"
  | unexpectedEnd => "unexpected end of file"
  | unsupported => "unsupported"
  | wouldBlock => "operation would block"
  | writeZero => "write zero"

end FaultKind

/-- A fault, with what is told about it. -/
inductive Fault
  /-- Only the kind is known. -/
  | plain (kind : FaultKind)
  /-- The one who found the fault says what happened. -/
  | told (kind : FaultKind) (text : String)
  /-- The system failed a call with an error number. -/
  | system (kind : FaultKind) (number : Nat) (text : String)
  deriving DecidableEq, Repr

namespace Fault
open Text

def kind : Fault → FaultKind
  | plain kind | told kind _ | system kind _ _ => kind

def message : Fault → String
  | plain kind => kind.description
  | told _ text => text
  | system _ number text => text ++ " (os error " ++ toString number ++ ")"

/-- The fault in diagnostics. -/
def shown : Fault → String
  | plain kind => tagged "Kind" [kind.name]
  | told kind text => record "Custom" [("kind", kind.name), ("error", quoted text)]
  | system kind number text =>
      record "Os" [("code", toString number), ("kind", kind.name), ("message", quoted text)]

/-- A read or a write that did not finish in time. -/
def notReady : Fault := .system .wouldBlock 11 "Resource temporarily unavailable"

def refused : Fault := .system .connectionRefused 111 "Connection refused"

def unreachable : Fault := .system .networkUnreachable 101 "Network is unreachable"

/-- A connection attempt that did not finish in time. -/
def connectTimedOut : Fault := .told .timedOut "connection timed out"

def unexpectedEnd : Fault := .plain .unexpectedEnd

/-- Whether the fault says that time ran out. -/
def isTimeout (fault : Fault) : Bool := fault.kind = .timedOut || fault.kind = .wouldBlock

end Fault

end ProxyDial
