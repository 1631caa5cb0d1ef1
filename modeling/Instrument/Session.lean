/-
# Sessions

A session is a profile over a transport.  A command is sent only while the session is connected, and
only once its arguments have been found to be those of the command; what comes back is read as the
command says.
-/
import Instrument.Profile

namespace Instrument

/-- Why an operation of a session failed. -/
inductive SessionFault
  | notConnected (name : String)
  | unknownCommand (name : String)
  | parameter (fault : ParameterFault)
  | noMatch (command reply : String)
  | notExpected (command : String)
  | transport (fault : TransportFault)
  deriving DecidableEq, Repr

/-- The wording of a session fault. -/
def SessionFault.message : SessionFault → String
  | .notConnected n => "Not connected to " ++ n
  | .unknownCommand n => "Command \"" ++ n ++ "\" was not found in configuration"
  | .parameter f => "Invalid parameter: " ++ f.message
  | .noMatch c r => "Could not parse response as configured for " ++ c ++ ": " ++ Text.quoted r
  | .notExpected c => "Command \"" ++ c ++ "\" does not have any response configured"
  | .transport f => f.message

/-- The fault of a reply. -/
def SessionFault.ofReply : ReplyFault → SessionFault
  | .notExpected c => .notExpected c
  | .parameter f => .parameter f
  | .noMatch c r => .noMatch c r

/-- The command of a name, or the fault. -/
def Profile.command (p : Profile) (name : String) : Except SessionFault Command :=
  match p.command? name with
  | some c => .ok c
  | none => .error (.unknownCommand name)

/-- The response that a reply to a command means. -/
def Profile.readReply (p : Profile) (command reply : String) : Except SessionFault Response := do
  let c ← p.command command
  (c.readReply reply p.marker).mapError .ofReply

/-- What is sent for a command: the command, its arguments and the rendered text. -/
structure Submission where
  command : Command
  args : List Argument
  text : String

/-- Makes ready what is sent for a command. -/
def Profile.prepare (p : Profile) (name : String)
    (args : Command → Except ParameterFault (List Argument)) : Except SessionFault Submission := do
  let c ← p.command name
  let args ← (args c).mapError .parameter
  let text ← (c.render args).mapError .parameter
  return ⟨c, args, text⟩

/-- A profile over a transport. -/
structure Session (σ : Type) where
  profile : Profile
  transport : σ
  connected : Bool

namespace Session

variable {σ : Type} [Transport σ]

/-- A session that is not connected. -/
def start (profile : Profile) (transport : σ) : Session σ := ⟨profile, transport, false⟩

/-- Connects; nothing if the session is connected. -/
def connect (s : Session σ) : Except SessionFault Unit × Session σ :=
  if s.connected then (.ok (), s)
  else
    match Transport.connect s.transport with
    | (.ok (), t) => (.ok (), { s with transport := t, connected := true })
    | (.error e, t) => (.error (.transport e), { s with transport := t })

/-- Disconnects; nothing if the session is not connected. -/
def disconnect (s : Session σ) : Except SessionFault Unit × Session σ :=
  if !s.connected then (.ok (), s)
  else
    match Transport.disconnect s.transport with
    | (.ok (), t) => (.ok (), { s with transport := t, connected := false })
    | (.error e, t) => (.error (.transport e), { s with transport := t })

/-- The response that a raw reply means. -/
def responseOf (p : Profile) (c : Command) : RawReply → Except SessionFault Response
  | .text reply => (c.readReply reply p.marker).mapError .ofReply
  | .value j => .ok (.value (.raw j))

/-- Sends what was made ready and reads the reply, if one is expected. -/
def transmit (s : Session σ) (m : Submission) : Except SessionFault Response × Session σ :=
  if m.command.expectsReply then
    match Transport.request m.text m.args s.transport with
    | (.ok reply, t) => (responseOf s.profile m.command reply, { s with transport := t })
    | (.error e, t) => (.error (.transport e), { s with transport := t })
  else
    match Transport.send m.text m.args s.transport with
    | (.ok (), t) => (.ok .none, { s with transport := t })
    | (.error e, t) => (.error (.transport e), { s with transport := t })

/-- Submits a command. -/
def execute (s : Session σ) (name : String)
    (args : Command → Except ParameterFault (List Argument)) :
    Except SessionFault Response × Session σ :=
  if !s.connected then (.error (.notConnected s.profile.name), s)
  else
    match s.profile.prepare name args with
    | .error e => (.error e, s)
    | .ok m => s.transmit m

/-- Submits a command with values. -/
def submit (s : Session σ) (name : String) (values : List Value) :
    Except SessionFault Response × Session σ :=
  s.execute name (·.encode values)

/-- Submits a command with texts. -/
def submitTexts (s : Session σ) (name : String) (texts : List String) :
    Except SessionFault Response × Session σ :=
  s.execute name (·.decode texts)

/-- Submits a command with the arguments on a line. -/
def submitLine (s : Session σ) (name line : String) : Except SessionFault Response × Session σ :=
  s.submitTexts name (Command.splitArguments line)

/-- A session on one line: what it is for, where, and whether it is connected. -/
def describe (s : Session σ) : String :=
  "Commander \x7b name: " ++ Text.quoted s.profile.name ++
    ", transport: " ++ Text.quoted (Transport.kind s.transport) ++
    ", endpoint: " ++ Text.quoted (Transport.endpoint s.transport) ++
    ", parameters: " ++ Text.quotedList (s.profile.parameters.map (·.name)) ++
    ", commands: " ++ Text.quotedList (s.profile.commands.map (·.name)) ++
    ", connected: " ++ (if s.connected then "true" else "false") ++ " \x7d"

end Session

end Instrument
