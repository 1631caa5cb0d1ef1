/-
# Replies to commands

A reply is searched for good replies first; each is a row of the values in it.  If there is none, it is
searched for bad ones; each is a row of the marker of failures and the texts of the groups.
-/
import Instrument.Command.Basic
import Instrument.Response

namespace Instrument

/-- Why a reply has no rows. -/
inductive ReplyFault
  | notExpected (command : String)
  | parameter (fault : ParameterFault)
  | noMatch (command reply : String)
  deriving DecidableEq, Repr

namespace Command

/-- The values of a good reply by the texts of its groups. -/
def decodeGroups : List Parameter → List (List Char) → Except ParameterFault (List Value)
  | p :: ps, text :: rest => do
    let a ← p.decode (String.ofList text)
    let more ← decodeGroups ps rest
    return a.value :: more
  | _, _ => .ok []

/-- The values of each of a list of matches; the first fault ends it. -/
def decodeMatches (f : ReplyForm) :
    List Pattern.Found → Except ParameterFault (List (List Value))
  | [] => .ok []
  | m :: rest => do
    let row ← decodeGroups f.parameters (m.groupTexts f.parameters.length)
    let more ← decodeMatches f rest
    return row :: more

/-- The rows of good replies. -/
def goodRows (c : Command) (reply : String) : Except ParameterFault (List (List Value)) :=
  match c.reply with
  | none => .ok []
  | some f => decodeMatches f (f.expression.findAll reply)

/-- The rows of bad replies. -/
def badRows (c : Command) (reply marker : String) : List (List Value) :=
  match c.failure with
  | none => []
  | some e =>
    (e.findAll reply).map fun m =>
      .text marker :: (m.groupTexts e.pattern.groupCount).map fun text =>
        .text (String.ofList text)

/-- The response that a reply means. -/
def readReply (c : Command) (reply marker : String) : Except ReplyFault Response :=
  if !c.expectsReply then .error (.notExpected c.name)
  else
    match c.goodRows reply with
    | .error e => .error (.parameter e)
    | .ok [] =>
      match c.badRows reply marker with
      | [] => .error (.noMatch c.name reply)
      | rows => .ok (.ofRows rows)
    | .ok rows => .ok (.ofRows rows)

end Command

end Instrument
