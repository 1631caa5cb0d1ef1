/-
# Reading schemas

The records of a schema by their fields.  Fields have a current name and some an older one; numbers
in the settings of a connection may be given as texts.
-/
import Instrument.Json.Reader
import Instrument.Schema.Basic
import Instrument.Schema.Shape

namespace Instrument

open Shape

namespace Fields

/-- A field that must be a text. -/
def textField (name : String) : Shape.Field String := ⟨name, none, text⟩

/-- A field that is a text or null. -/
def optionField (name : String) (older : Option String) : Shape.Field (Option String) :=
  ⟨name, older, nullable text⟩

/-- A field with a word of 16 bits. -/
def portField : Shape.Field UInt16 :=
  ⟨"port", none, fun v => (lenientWord .w16 v).map UInt16.ofNat⟩

/-- A field with a word of 64 bits. -/
def timeoutField : Shape.Field UInt64 :=
  ⟨"timeout", none, fun v => (lenientWord .w64 v).map UInt64.ofNat⟩

/-- A field with a word of 8 bits. -/
def byte (name older : String) : Shape.Field UInt8 :=
  ⟨name, some older, fun v => (lenientWord .w8 v).map UInt8.ofNat⟩

/-- A field with a size that may be left out. -/
def optionSize (name : String) : Shape.Field (Option UInt64) :=
  ⟨name, none, fun v => (lenientOption .size v).map fun n => n.map UInt64.ofNat⟩

/-- The rate of a serial line. -/
def baudRateField : Shape.Field UInt32 :=
  ⟨"baudRate", some "baudrate", fun v => (lenientWord .w32 v).map UInt32.ofNat⟩

/-- The greatest length of a packet. -/
def maxBufferField : Shape.Field UInt64 :=
  ⟨"maxBuffer", none, fun v => (lenientWord .size v).map UInt64.ofNat⟩

/-- The parity that a text names. -/
def readParityText (s : String) : Except ShapeFault Parity :=
  match Parity.ofText? s with
  | some p => .ok p
  | none => .error (.parity (parityKey s))

/-- The parity of a serial line, by name or number. -/
def readParity : Reader Parity
  | .text s => readParityText s
  | .integer n => readParityText (Json.integer n).compact
  | .real x => readParityText (Json.real x).compact
  | v => .error (.notParity v)

end Fields

open Fields

/-- Reads a parameter's entry. -/
def ParameterEntry.ofJson (j : Json) : Except ShapeFault ParameterEntry := do
  let name := optionField "name" none
  let kind := textField "type"
  let range := optionField "range" none
  let wireFormat := optionField "wireFormat" (some "paramFormat")
  let description := optionField "description" none
  let r ← openRecord "ParameterSpec"
    [name.slot, kind.slot, range.slot, wireFormat.slot, description.slot] j
  return ⟨← r.get? name, ← r.get kind, ← r.get? range, ← r.get? wireFormat, ← r.get? description⟩

/-- Reads a command's entry. -/
def CommandEntry.ofJson (j : Json) : Except ShapeFault CommandEntry := do
  let name := optionField "name" none
  let template : Shape.Field String := ⟨"commandTemplate", some "command", text⟩
  let response := optionField "responseTemplate" (some "responseFormat")
  let failure := optionField "failurePattern" (some "sadRegex")
  let description := optionField "description" none
  let r ← openRecord "CommandSpec"
    [name.slot, template.slot, response.slot, failure.slot, description.slot] j
  return ⟨← r.get? name, ← r.get template, ← r.get? response, ← r.get? failure,
    ← r.get? description⟩

/-- Reads a remote method. -/
def RpcMethod.ofJson (j : Json) : Except ShapeFault RpcMethod := do
  let remote := optionField "remote" none
  let arity := optionSize "arity"
  let r ← openRecord "RpcMethod" [remote.slot, arity.slot] j
  return ⟨← r.get? remote, ← r.get? arity⟩

/-- Reads the settings of a listener. -/
def CallbackSettings.ofJson (j : Json) : Except ShapeFault CallbackSettings := do
  let registerMethod := textField "registerMethod"
  let identity := optionField "identity" none
  let r ← openRecord "CallbackSettings" [registerMethod.slot, identity.slot] j
  return ⟨← r.getD registerMethod standardRegisterMethod, ← r.get? identity⟩

/-- Reads the settings of a stream socket. -/
def StreamSettings.ofJson (j : Json) : Except ShapeFault StreamSettings := do
  let host := textField "host"
  let commandTerminator := textField "commandTerminator"
  let responseTerminator := optionField "responseTerminator" none
  let responseLength := optionSize "responseLength"
  let r ← openRecord "StreamSettings"
    [host.slot, portField.slot, timeoutField.slot, commandTerminator.slot, responseTerminator.slot,
     responseLength.slot] j
  return ⟨← r.get host, ← r.get portField, ← r.getD timeoutField standardTimeout,
    ← r.getD commandTerminator "", ← r.get? responseTerminator, ← r.get? responseLength⟩

/-- Reads the settings of a datagram socket. -/
def DatagramSettings.ofJson (j : Json) : Except ShapeFault DatagramSettings := do
  let host := textField "host"
  let commandTerminator := textField "commandTerminator"
  let r ← openRecord "DatagramSettings"
    [host.slot, portField.slot, timeoutField.slot, commandTerminator.slot, maxBufferField.slot] j
  return ⟨← r.get host, ← r.get portField, ← r.getD timeoutField standardTimeout,
    ← r.getD commandTerminator "", ← r.getD maxBufferField standardBuffer⟩

/-- Reads the settings of a serial line. -/
def SerialSettings.ofJson (j : Json) : Except ShapeFault SerialSettings := do
  let port := textField "port"
  let dataBits := byte "dataBits" "databit"
  let stopBits := byte "stopBits" "stopbit"
  let parity : Shape.Field Parity := ⟨"parity", none, readParity⟩
  let commandTerminator := textField "commandTerminator"
  let responseTerminator := optionField "responseTerminator" none
  let responseLength := optionSize "responseLength"
  let r ← openRecord "SerialSettings"
    [port.slot, baudRateField.slot, dataBits.slot, stopBits.slot, parity.slot, timeoutField.slot,
     commandTerminator.slot, responseTerminator.slot, responseLength.slot] j
  return ⟨← r.get port, ← r.getD baudRateField 9600, ← r.getD dataBits 8, ← r.getD stopBits 1,
    ← r.getD parity .none, ← r.getD timeoutField standardTimeout, ← r.getD commandTerminator "",
    ← r.get? responseTerminator, ← r.get? responseLength⟩

/-- Reads the settings of remote calls. -/
def RpcSettings.ofJson (j : Json) : Except ShapeFault RpcSettings := do
  let host := textField "host"
  let proxy := optionField "proxy" (some "proxyName")
  let methods : Shape.Field (List (String × RpcMethod)) := ⟨"methods", none, table RpcMethod.ofJson⟩
  let callback : Shape.Field (Option CallbackSettings) :=
    ⟨"callback", none, nullable CallbackSettings.ofJson⟩
  let r ← openRecord "RpcSettings"
    [host.slot, portField.slot, timeoutField.slot, proxy.slot, methods.slot, callback.slot] j
  return ⟨← r.get host, ← r.get portField, ← r.getD timeoutField standardTimeout, ← r.get? proxy,
    ← r.getD methods [], ← r.get? callback⟩

/-- Reads the settings of a type of connection. -/
def Connection.ofSettings (type : ConnectionType) (j : Json) : Except ShapeFault Connection :=
  match type with
  | .stream => (StreamSettings.ofJson j).map .stream
  | .datagram => (DatagramSettings.ofJson j).map .datagram
  | .serial => (SerialSettings.ofJson j).map .serial
  | .rpc => (RpcSettings.ofJson j).map .rpc

/-- Reads a connection: its type, then the settings of that type. -/
def Connection.ofJson (j : Json) : Except ShapeFault Connection :=
  match j with
  | .object ms =>
    match ms.lookup "type" with
    | none => .error (.missing "type")
    | some (.text tag) =>
      match ConnectionType.ofTag? tag with
      | some type => ofSettings type j
      | none => .error (.connectionType tag)
    | some v => .error (.connectionTag v)
  | v => .error (.type v "a map")

/-- Reads a schema. -/
def Schema.ofJson (j : Json) : Except ShapeFault Schema := do
  let name := textField "name"
  let description := optionField "description" none
  let connection : Shape.Field Connection := ⟨"connectionProperties", none, Connection.ofJson⟩
  let failure := optionField "deviceFailurePattern" (some "deviceSadRegex")
  let marker := optionField "failureMarker" (some "errorNotifier")
  let parameters : Shape.Field (List (String × ParameterEntry)) :=
    ⟨"parameters", some "paramDefMap", table ParameterEntry.ofJson⟩
  let commands : Shape.Field (List (String × CommandEntry)) :=
    ⟨"commands", some "commandMap", table CommandEntry.ofJson⟩
  let r ← openRecord "CommanderSchema"
    [name.slot, description.slot, connection.slot, failure.slot, marker.slot, parameters.slot,
     commands.slot] j
  return ⟨← r.get name, ← r.get? description, ← r.get connection, ← r.get? failure,
    ← r.get? marker, ← r.getD parameters [], ← r.getD commands []⟩

/-- Why a text is no schema. -/
inductive SchemaFault
  | notJson (fault : Json.SyntaxFault)
  | connectionType (tag : String)
  | shape (fault : ShapeFault)
  deriving Repr

/-- The text at `connectionProperties` and `type` of a document. -/
def connectionTag? (j : Json) : Option String :=
  ((j.get? "connectionProperties").bind (·.get? "type")).bind (·.asText?)

/-- Reads a schema from a document.  A type of connection that is not known is a fault of its own and
comes before all others. -/
def Schema.ofDocument (j : Json) : Except SchemaFault Schema :=
  match (connectionTag? j).filter fun tag => (ConnectionType.ofTag? tag).isNone with
  | some tag => .error (.connectionType tag)
  | none => (Schema.ofJson j).mapError .shape

/-- Reads a schema from the text of a document. -/
def Schema.read (s : String) : Except SchemaFault Schema :=
  match Json.read s with
  | .error e => .error (.notJson e)
  | .ok j => Schema.ofDocument j

end Instrument
