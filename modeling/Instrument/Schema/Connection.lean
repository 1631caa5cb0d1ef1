/-
# Connections

How an instrument is reached: over a stream or datagram socket, over a serial line, or by remote
calls.  Each has its settings; `Connection.canonical?` names the type that a tag stands for.
-/
import Instrument.Text.Case
import Instrument.Text.Blank

namespace Instrument

/-- Settings of a stream socket.  Times are in milliseconds, lengths in bytes. -/
structure StreamSettings where
  host : String
  port : UInt16
  timeout : UInt64
  commandTerminator : String
  responseTerminator : Option String
  responseLength : Option UInt64
  deriving DecidableEq, Inhabited, Repr

/-- Settings of a datagram socket. -/
structure DatagramSettings where
  host : String
  port : UInt16
  timeout : UInt64
  commandTerminator : String
  /-- The greatest length of a packet that is taken as a reply. -/
  maxBuffer : UInt64
  deriving DecidableEq, Inhabited, Repr

/-- The parity of a serial line. -/
inductive Parity
  | none
  | odd
  | even
  deriving DecidableEq, Inhabited, Repr

/-- The name of a parity. -/
def Parity.name : Parity → String
  | .none => "none"
  | .odd => "odd"
  | .even => "even"

/-- A text in the form in which parities and tags are compared. -/
def parityKey (s : String) : String := String.ofList (Text.lowerAscii (Text.trim s.toList))

/-- The parity of a name or number; blanks around it and its case do not count. -/
def Parity.ofText? (s : String) : Option Parity :=
  match parityKey s with
  | "none" | "0" => some .none
  | "odd" | "1" => some .odd
  | "even" | "2" => some .even
  | _ => Option.none

/-- Settings of a serial line. -/
structure SerialSettings where
  port : String
  baudRate : UInt32
  dataBits : UInt8
  stopBits : UInt8
  parity : Parity
  timeout : UInt64
  commandTerminator : String
  responseTerminator : Option String
  responseLength : Option UInt64
  deriving DecidableEq, Inhabited, Repr

/-- A remote method: its name, if that is not the word of the command, and the number of its
arguments, if that is checked. -/
structure RpcMethod where
  remote : Option String
  arity : Option UInt64
  deriving DecidableEq, Inhabited, Repr

/-- Settings of the listener for notifications. -/
structure CallbackSettings where
  registerMethod : String
  identity : Option String
  deriving DecidableEq, Inhabited, Repr

/-- Settings of remote calls; the methods are in ascending order of their words. -/
structure RpcSettings where
  host : String
  port : UInt16
  timeout : UInt64
  proxy : Option String
  methods : List (String × RpcMethod)
  callback : Option CallbackSettings
  deriving DecidableEq, Inhabited, Repr

/-- How an instrument is reached. -/
inductive Connection
  | stream (s : StreamSettings)
  | datagram (s : DatagramSettings)
  | serial (s : SerialSettings)
  | rpc (s : RpcSettings)
  deriving DecidableEq, Inhabited, Repr

/-- A type of connection. -/
inductive ConnectionType
  | stream
  | datagram
  | serial
  | rpc
  deriving DecidableEq, Repr

/-- The name of a type of connection. -/
def ConnectionType.name : ConnectionType → String
  | .stream => "stream"
  | .datagram => "datagram"
  | .serial => "serial"
  | .rpc => "rpc"

/-- The type that a tag stands for, in any case of its letters. -/
def ConnectionType.ofTag? (tag : String) : Option ConnectionType :=
  match String.ofList (Text.lowerAscii tag.toList) with
  | "stream" | "tcp" => some .stream
  | "datagram" | "udp" => some .datagram
  | "serial" => some .serial
  | "rpc" | "ice" => some .rpc
  | _ => none

theorem ConnectionType.ofTag?_name (t : ConnectionType) : ofTag? t.name = some t := by
  cases t <;> decide +kernel

/-- The type of a connection. -/
def Connection.type : Connection → ConnectionType
  | .stream _ => .stream
  | .datagram _ => .datagram
  | .serial _ => .serial
  | .rpc _ => .rpc

/-- The time after which a reply is given up where no other is given. -/
def standardTimeout : UInt64 := 1000

/-- Settings of a stream socket with nothing but an address. -/
def StreamSettings.plain (host : String) (port : UInt16) : StreamSettings :=
  ⟨host, port, standardTimeout, "", none, none⟩

/-- The greatest packet where no other length is given. -/
def standardBuffer : UInt64 := 4096

/-- Settings of a datagram socket with nothing but an address. -/
def DatagramSettings.plain (host : String) (port : UInt16) : DatagramSettings :=
  ⟨host, port, standardTimeout, "", standardBuffer⟩

/-- Settings of remote calls with nothing but an address. -/
def RpcSettings.plain (host : String) (port : UInt16) : RpcSettings :=
  ⟨host, port, standardTimeout, none, [], none⟩

/-- The method that registers a listener where no other is given. -/
def standardRegisterMethod : String := "addCallbackClient"

/-- Settings of a listener with the standard method and an identity made up for each connection. -/
def CallbackSettings.plain : CallbackSettings := ⟨standardRegisterMethod, none⟩

/-- Puts a method in its place; one of the same word is replaced. -/
def placeMethod (word : String) (m : RpcMethod) :
    List (String × RpcMethod) → List (String × RpcMethod)
  | [] => [(word, m)]
  | (w, n) :: rest =>
    if word = w then (word, m) :: rest
    else if word < w then (word, m) :: (w, n) :: rest
    else (w, n) :: placeMethod word m rest

/-- Remote calls with a method more. -/
def RpcSettings.withMethod (s : RpcSettings) (word : String) (m : RpcMethod) : RpcSettings :=
  { s with methods := placeMethod word m s.methods }

/-- Remote calls with a listener. -/
def RpcSettings.withCallback (s : RpcSettings) (c : CallbackSettings) : RpcSettings :=
  { s with callback := some c }

end Instrument
