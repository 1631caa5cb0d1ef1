/-
# Loading instruments

From the text of a schema to a session that is not connected.  The connection is looked at before
the parameters and the commands.
-/
import Instrument.Schema.Reader
import Instrument.Session

namespace Instrument

/-- The wording for a schema that describes no instrument. -/
def misconfigured (what : String) : String := "Invalid configuration: " ++ what

/-- A session of a schema, whose templates may also name the parameters of a registry. -/
def Session.ofSchemaWith (registry : Registry) (s : Schema) (around : Surroundings ρ) :
    Except ConfigurationFault (Session (TransportOver ρ)) := do
  let transport ← (s.connection.transport around).mapError .serial
  let profile ← Profile.ofSchema s registry
  return .start profile transport

/-- A session of a schema, with the parameters of the standard registry. -/
def Session.ofSchema (s : Schema) (around : Surroundings ρ) :
    Except ConfigurationFault (Session (TransportOver ρ)) :=
  ofSchemaWith .standard s around

/-- Why no instrument could be loaded. -/
inductive LoadFault
  | file (fault : IoFault)
  | notJson (fault : Json.SyntaxFault)
  | shape (fault : ShapeFault)
  | configuration (fault : ConfigurationFault)
  deriving Repr

namespace LoadFault

/-- The fault of a document. -/
def ofSchema : SchemaFault → LoadFault
  | .notJson e => .notJson e
  | .connectionType tag => .configuration (.connectionType tag)
  | .shape e => .shape e

/-- What lies behind a fault, in the words of what reported it. -/
def cause? : LoadFault → Option String
  | file f => some f.text
  | notJson f => some f.message
  | shape f => some f.message
  | configuration _ => none

/-- The wording of a load fault. -/
def message : LoadFault → String
  | file f => (TransportFault.io f).message
  | notJson f => "Schema error: " ++ f.message
  | shape f => "Schema error: " ++ f.message
  | configuration f => misconfigured f.message

end LoadFault

/-- Loads an instrument from what reading the file of its schema came to. -/
def Session.load (file : Except IoFault String) (around : Surroundings ρ) :
    Except LoadFault (Session (TransportOver ρ)) := do
  let text ← file.mapError .file
  let schema ← (Schema.read text).mapError .ofSchema
  (Session.ofSchema schema around).mapError .configuration

end Instrument
