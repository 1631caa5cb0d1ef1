/-
# Entries of a schema

What a schema writes down about one parameter and about one command, before anything in it has been
read or checked.  The key of an entry is kept outside of it.
-/

namespace Instrument

/-- A parameter as a schema declares it. -/
structure ParameterEntry where
  name : Option String
  kind : String
  range : Option String
  wireFormat : Option String
  description : Option String
  deriving DecidableEq, Inhabited, Repr

/-- A command as a schema declares it: the template of the command, the template of a good reply and
the pattern of a bad one. -/
structure CommandEntry where
  name : Option String
  template : String
  response : Option String
  failure : Option String
  description : Option String
  deriving DecidableEq, Inhabited, Repr

end Instrument
