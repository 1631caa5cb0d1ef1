/-
# Schemas

A schema describes an instrument: how it is reached, its parameters and its commands.  Tables are in
ascending order of their keys.
-/
import Instrument.Schema.Connection
import Instrument.Schema.Entry

namespace Instrument

/-- The description of an instrument. -/
structure Schema where
  name : String
  description : Option String
  connection : Connection
  /-- The pattern of a bad reply to any command. -/
  failure : Option String
  /-- The text before the rows of a bad reply. -/
  marker : Option String
  parameters : List (String × ParameterEntry)
  commands : List (String × CommandEntry)
  deriving DecidableEq, Inhabited, Repr

end Instrument
