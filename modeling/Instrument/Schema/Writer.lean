/-
# Writing schemas

Schemas as JSON, under the current names of all fields, in the order of the types.  What is not given
is left out.
-/
import Instrument.Json.Writer
import Instrument.Schema.Basic

namespace Instrument

open Json (present)

/-- A text that may be left out. -/
def optionText (s : Option String) : Option Json := s.map .text

/-- A word that may be left out. -/
def optionWord (n : Option UInt64) : Option Json := n.map fun n => .integer n.toNat

/-- A parameter's entry. -/
def ParameterEntry.toJson (e : ParameterEntry) : Json :=
  .object (present
    [("name", optionText e.name), ("type", some (.text e.kind)), ("range", optionText e.range),
     ("wireFormat", optionText e.wireFormat), ("description", optionText e.description)])

/-- A command's entry. -/
def CommandEntry.toJson (e : CommandEntry) : Json :=
  .object (present
    [("name", optionText e.name), ("commandTemplate", some (.text e.template)),
     ("responseTemplate", optionText e.response), ("failurePattern", optionText e.failure),
     ("description", optionText e.description)])

/-- A remote method. -/
def RpcMethod.toJson (m : RpcMethod) : Json :=
  .object (present [("remote", optionText m.remote), ("arity", optionWord m.arity)])

/-- The settings of a listener. -/
def CallbackSettings.toJson (c : CallbackSettings) : Json :=
  .object (present
    [("registerMethod", some (.text c.registerMethod)), ("identity", optionText c.identity)])

/-- The settings of a connection, without its type. -/
def Connection.settings : Connection → List (String × Option Json)
  | .stream s =>
    [("host", some (.text s.host)), ("port", some (.integer s.port.toNat)),
     ("timeout", some (.integer s.timeout.toNat)),
     ("commandTerminator", some (.text s.commandTerminator)),
     ("responseTerminator", optionText s.responseTerminator),
     ("responseLength", optionWord s.responseLength)]
  | .datagram s =>
    [("host", some (.text s.host)), ("port", some (.integer s.port.toNat)),
     ("timeout", some (.integer s.timeout.toNat)),
     ("commandTerminator", some (.text s.commandTerminator)),
     ("maxBuffer", some (.integer s.maxBuffer.toNat))]
  | .serial s =>
    [("port", some (.text s.port)), ("baudRate", some (.integer s.baudRate.toNat)),
     ("dataBits", some (.integer s.dataBits.toNat)), ("stopBits", some (.integer s.stopBits.toNat)),
     ("parity", some (.text s.parity.name)), ("timeout", some (.integer s.timeout.toNat)),
     ("commandTerminator", some (.text s.commandTerminator)),
     ("responseTerminator", optionText s.responseTerminator),
     ("responseLength", optionWord s.responseLength)]
  | .rpc s =>
    [("host", some (.text s.host)), ("port", some (.integer s.port.toNat)),
     ("timeout", some (.integer s.timeout.toNat)), ("proxy", optionText s.proxy),
     ("methods", some (.object (s.methods.map fun (w, m) => (w, m.toJson)))),
     ("callback", s.callback.map CallbackSettings.toJson)]

/-- A connection: its type, then its settings. -/
def Connection.toJson (c : Connection) : Json :=
  .object (("type", .text c.type.name) :: present c.settings)

/-- A schema. -/
def Schema.toJson (s : Schema) : Json :=
  .object (present
    [("name", some (.text s.name)), ("description", optionText s.description),
     ("connectionProperties", some s.connection.toJson),
     ("deviceFailurePattern", optionText s.failure), ("failureMarker", optionText s.marker),
     ("parameters", some (.object (s.parameters.map fun (n, e) => (n, e.toJson)))),
     ("commands", some (.object (s.commands.map fun (n, e) => (n, e.toJson))))])

/-- The document of a schema. -/
def Schema.write (s : Schema) : String := s.toJson.pretty

end Instrument
