/-
# Profiles of instruments

A profile is what a schema comes to once everything in it has been read and checked: the parameters
and the commands of an instrument.  The first fault is reported, parameters before the pattern of bad
replies and that before commands, each in ascending order of names.
-/
import Instrument.Command.Reply
import Instrument.Command.Wire
import Instrument.Schema.Basic
import Instrument.Schema.Shape
import Instrument.Transport.Any

namespace Instrument

/-- What is wrong with a schema. -/
inductive ConfigurationFault
  | connectionType (tag : String)
  | serial (fault : SerialFault)
  | parameter (fault : EntryFault)
  | failurePattern
  | command (fault : CommandFault)
  deriving DecidableEq, Repr

/-- The wording of a configuration fault. -/
def ConfigurationFault.message : ConfigurationFault → String
  | .connectionType t => unknownConnectionType t
  | .serial f => f.message
  | .parameter f => f.message
  | .failurePattern => "device failure pattern does not compile"
  | .command f => f.message

/-- The text before the rows of bad replies where a schema gives none. -/
def standardMarker : String := "ERROR"

/-- The profile of an instrument. -/
structure Profile where
  name : String
  description : Option String
  connection : Connection
  failure : Option String
  givenMarker : Option String
  /-- The parameters that are known without being declared. -/
  registry : Registry
  /-- The parameters that the schema declares, in ascending order of names. -/
  parameters : List Parameter
  /-- The commands, in ascending order of names. -/
  commands : List Command

namespace Profile

/-- Reads the parameters of a schema. -/
def readParameters : List (String × ParameterEntry) → Except ConfigurationFault (List Parameter)
  | [] => .ok []
  | (name, e) :: rest => do
    let p ← (Parameter.ofEntry name e).mapError .parameter
    let more ← readParameters rest
    return p :: more

/-- Checks the pattern of bad replies. -/
def checkFailure (pattern : Option String) : Except ConfigurationFault Unit :=
  match Command.given? pattern with
  | none => .ok ()
  | some p => if (Expression.ofText? p).isSome then .ok () else .error .failurePattern

/-- Reads the command under a key. -/
def readCommand (registry : Registry) (failure : Option String) (name : String) (e : CommandEntry) :
    Except CommandFault Command := do
  if let some inner := e.name then
    if inner ≠ name then throw (.key inner name)
  Command.ofEntry registry failure name e

/-- Reads the commands of a schema. -/
def readCommands (registry : Registry) (failure : Option String) :
    List (String × CommandEntry) → Except ConfigurationFault (List Command)
  | [] => .ok []
  | (name, e) :: rest => do
    let c ← (readCommand registry failure name e).mapError .command
    let more ← readCommands registry failure rest
    return c :: more

/-- The parameters that a template may name: those declared come before those in the registry. -/
def known (registry : Registry) (declared : List Parameter) : Registry :=
  declared.foldl Registry.insert registry

/-- Reads a schema. -/
def ofSchema (s : Schema) (registry : Registry) : Except ConfigurationFault Profile := do
  let parameters ← readParameters s.parameters
  checkFailure s.failure
  let commands ← readCommands (known registry parameters) s.failure s.commands
  return { name := s.name, description := s.description, connection := s.connection,
           failure := s.failure, givenMarker := s.marker, registry, parameters, commands }

/-- The text before the rows of bad replies. -/
def marker (p : Profile) : String := p.givenMarker.getD standardMarker

/-- The command of a name. -/
def command? (p : Profile) (name : String) : Option Command :=
  p.commands.find? fun c => c.name = name

/-- The parameter of a name, declared or in the registry. -/
def parameter? (p : Profile) (name : String) : Option Parameter :=
  (p.parameters.find? fun q => q.name = name).or (p.registry.get? name)

/-- The parameter of a name, or the fault. -/
def parameter (p : Profile) (name : String) : Except ParameterFault Parameter :=
  match p.parameter? name with
  | some q => .ok q
  | none => .error (.unknown name)

/-- The schema of a profile. -/
def schema (p : Profile) : Schema where
  name := p.name
  description := p.description
  connection := p.connection
  failure := p.failure
  marker := p.givenMarker
  parameters := p.parameters.map fun q => (q.name, q.entry)
  commands := p.commands.map fun c => (c.name, c.entry)

end Profile

end Instrument
