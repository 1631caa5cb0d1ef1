/-
# Faults of transports

Why a transport could not connect, send or bring back a reply.
-/
import Instrument.Number.Digits

namespace Instrument

/-- The kinds of input and output faults that a device or a system reports. -/
inductive IoKind
  | notFound
  | permissionDenied
  | connectionRefused
  | connectionReset
  | connectionAborted
  | hostUnreachable
  | networkUnreachable
  | notConnected
  | addressInUse
  | addressNotAvailable
  | brokenPipe
  | alreadyExists
  | wouldBlock
  | invalidInput
  | invalidData
  | timedOut
  | writeZero
  | interrupted
  | unsupported
  | unexpectedEnd
  | outOfMemory
  | other
  deriving DecidableEq, Repr

namespace IoKind

/-- Every kind. -/
def all : List IoKind :=
  [.notFound, .permissionDenied, .connectionRefused, .connectionReset, .connectionAborted,
   .hostUnreachable, .networkUnreachable, .notConnected, .addressInUse, .addressNotAvailable,
   .brokenPipe, .alreadyExists, .wouldBlock, .invalidInput, .invalidData, .timedOut, .writeZero,
   .interrupted, .unsupported, .unexpectedEnd, .outOfMemory, .other]

/-- The name of a kind. -/
def name : IoKind → String
  | .notFound => "NotFound"
  | .permissionDenied => "PermissionDenied"
  | .connectionRefused => "ConnectionRefused"
  | .connectionReset => "ConnectionReset"
  | .connectionAborted => "ConnectionAborted"
  | .hostUnreachable => "HostUnreachable"
  | .networkUnreachable => "NetworkUnreachable"
  | .notConnected => "NotConnected"
  | .addressInUse => "AddrInUse"
  | .addressNotAvailable => "AddrNotAvailable"
  | .brokenPipe => "BrokenPipe"
  | .alreadyExists => "AlreadyExists"
  | .wouldBlock => "WouldBlock"
  | .invalidInput => "InvalidInput"
  | .invalidData => "InvalidData"
  | .timedOut => "TimedOut"
  | .writeZero => "WriteZero"
  | .interrupted => "Interrupted"
  | .unsupported => "Unsupported"
  | .unexpectedEnd => "UnexpectedEof"
  | .outOfMemory => "OutOfMemory"
  | .other => "Other"

/-- The kind of a name. -/
def ofName? (s : String) : Option IoKind := all.find? fun k => k.name = s

theorem ofName?_name (k : IoKind) : ofName? k.name = some k := by cases k <;> decide +kernel

end IoKind

/-- A fault of a kind, in the words of the system that reports it. -/
structure IoFault where
  kind : IoKind
  text : String
  deriving DecidableEq, Repr

/-- A file that does not exist. -/
def IoFault.noSuchFile : IoFault := ⟨.notFound, "No such file or directory (os error 2)"⟩

/-- A path that is a folder's where one of a file is needed. -/
def IoFault.folder : IoFault := ⟨.other, "Is a directory (os error 21)"⟩

/-- A path that leads through a file. -/
def IoFault.notFolder : IoFault := ⟨.other, "Not a directory (os error 20)"⟩

/-- A port that does not exist. -/
def IoFault.noPort : IoFault := ⟨.notFound, "No such file or directory"⟩

/-- A host that no network leads to. -/
def IoFault.noNetwork : IoFault := ⟨.networkUnreachable, "Network is unreachable (os error 101)"⟩

/-- Why a transport failed; times are in milliseconds. -/
inductive TransportFault
  | notConnected
  | io (fault : IoFault)
  | timeout (milliseconds : Nat)
  | nothingRead (endpoint : String) (milliseconds : Nat)
  | closed (endpoint : String)
  | unknownMethod (word : String)
  | rpc (message : String)
  | listenerRunning
  | configuration (message : String)
  deriving DecidableEq, Repr

/-- The wording of a transport fault. -/
def TransportFault.message : TransportFault → String
  | .notConnected => "Transport is not connected"
  | .io f => "I/O error: " ++ f.text
  | .timeout n => "Operation timed out after " ++ toString n ++ "ms"
  | .nothingRead e n => "Nothing was read from " ++ e ++ " for " ++ toString n ++ " milliseconds"
  | .closed e => "Connection closed by " ++ e
  | .unknownMethod w => "Command <" ++ w ++ "> is not a valid remote method"
  | .rpc m => "RPC error: " ++ m
  | .listenerRunning => "Callback listener is already running"
  | .configuration m => "Configuration error: " ++ m

end Instrument
