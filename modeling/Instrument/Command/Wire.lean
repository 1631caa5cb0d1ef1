/-
# Commands on the wire

The arguments of a command, as values or as texts, and the text that is sent.
-/
import Instrument.Command.Basic

namespace Instrument.Command

/-- Checks the number of arguments. -/
def checkArity (c : Command) (actual : Nat) : Except ParameterFault Unit :=
  if actual = c.parameters.length then .ok ()
  else .error (.arity c.name c.parameters.length actual)

/-- Takes each item to the wire by the parameter in its place; the first fault ends it. -/
def overPairs (f : Parameter → α → Except ParameterFault Argument) :
    List Parameter → List α → Except ParameterFault (List Argument)
  | p :: ps, a :: rest => do
    let first ← f p a
    let more ← overPairs f ps rest
    return first :: more
  | _, _ => .ok []

/-- Takes values to the wire. -/
def encode (c : Command) (values : List Value) : Except ParameterFault (List Argument) := do
  c.checkArity values.length
  overPairs Parameter.encode c.parameters values

/-- Takes texts to the wire. -/
def decode (c : Command) (texts : List String) : Except ParameterFault (List Argument) := do
  c.checkArity texts.length
  overPairs Parameter.decode c.parameters texts

/-- The text that is sent. -/
def render (c : Command) (args : List Argument) : Except ParameterFault String := do
  c.checkArity args.length
  return c.template.fill (args.map (·.wire))

/-- The arguments on a line, between commas; blanks at the start of each do not count. -/
def splitArguments (line : String) : List String :=
  let cs := Text.trim line.toList
  if cs.isEmpty then []
  else (Text.splitOn ',' cs).map fun piece => String.ofList (Text.trimStart piece)

end Instrument.Command
