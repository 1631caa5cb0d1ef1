/-
# Scripted transports

Transports and remote objects whose outcomes are written down beforehand, and that keep a record of
what was asked of them.
-/
import Instrument.Transport.Rpc

namespace Instrument

/-- The next outcome of a script and the rest of it; success once it is used up. -/
def nextOutcome : List (Option TransportFault) → Except TransportFault Unit × List (Option TransportFault)
  | [] => (.ok (), [])
  | none :: rest => (.ok (), rest)
  | some e :: rest => (.error e, rest)

/-- A command that was sent, and whether a reply was asked for. -/
structure Sending where
  wantsReply : Bool
  text : String
  args : List Argument
  deriving Repr

/-- A transport by script: the outcomes of connecting, of disconnecting and of sending. -/
structure ScriptedTransport where
  connects : List (Option TransportFault)
  disconnects : List (Option TransportFault)
  replies : List (Except TransportFault RawReply)
  connected : Bool
  sendings : List Sending

namespace ScriptedTransport

/-- The name of the place of a scripted transport. -/
def place : String := "memory"

/-- What a request without a scripted reply comes to. -/
def noReply : TransportFault := .nothingRead place 250

/-- Opens the connection. -/
def connect (t : ScriptedTransport) : Except TransportFault Unit × ScriptedTransport :=
  let (outcome, connects) := nextOutcome t.connects
  (outcome, { t with connects, connected := t.connected || outcome.isOk })

/-- Closes the connection. -/
def disconnect (t : ScriptedTransport) : Except TransportFault Unit × ScriptedTransport :=
  let (outcome, disconnects) := nextOutcome t.disconnects
  (outcome, { t with disconnects, connected := t.connected && !outcome.isOk })

/-- Sends a command and takes the next reply. -/
def take (t : ScriptedTransport) (s : Sending) :
    Option (Except TransportFault RawReply) × ScriptedTransport :=
  (t.replies.head?, { t with replies := t.replies.tail, sendings := t.sendings ++ [s] })

/-- Sends a command that has no reply. -/
def send (t : ScriptedTransport) (text : String) (args : List Argument) :
    Except TransportFault Unit × ScriptedTransport :=
  let (reply, t) := t.take ⟨false, text, args⟩
  ((reply.getD (.ok (.text ""))).map fun _ => (), t)

/-- Sends a command and brings its reply back. -/
def request (t : ScriptedTransport) (text : String) (args : List Argument) :
    Except TransportFault RawReply × ScriptedTransport :=
  let (reply, t) := t.take ⟨true, text, args⟩
  (reply.getD (.error noReply), t)

instance : Transport ScriptedTransport where
  kind _ := place
  endpoint _ := place
  isConnected t := t.connected
  hasNotifications _ := false
  connect := connect
  disconnect := disconnect
  send text args t := t.send text args
  request text args t := t.request text args

end ScriptedTransport

/-- What was asked of a remote object. -/
inductive RemoteRequest
  | call (method : String) (args : List Json)
  | listen (identity : Option String) (method : String)
  deriving Repr

/-- A remote object by script: the outcomes of reaching it and of calls, the notifications that a
listener receives at once, and whether it goes on after them. -/
structure ScriptedRemote where
  connects : List (Option TransportFault)
  calls : List (Except TransportFault Json)
  messages : List Json
  goesOn : Bool
  /-- Has the listener not received its notifications yet? -/
  waiting : Bool
  requests : List RemoteRequest

namespace ScriptedRemote

/-- Reaches the object. -/
def connect (r : ScriptedRemote) : Except TransportFault Unit × ScriptedRemote :=
  let (outcome, connects) := nextOutcome r.connects
  (outcome, { r with connects })

/-- Calls a method. -/
def call (r : ScriptedRemote) (method : String) (args : List Json) :
    Except TransportFault Json × ScriptedRemote :=
  (r.calls.head?.getD (.ok .null),
    { r with calls := r.calls.tail, requests := r.requests ++ [.call method args] })

/-- Begins to listen. -/
def listen (r : ScriptedRemote) (identity : Option String) (method : String) : ScriptedRemote :=
  { r with waiting := true, requests := r.requests ++ [.listen identity method] }

/-- Takes in the notifications. -/
def poll (r : ScriptedRemote) : (List Json × Bool) × ScriptedRemote :=
  ((if r.waiting then r.messages else [], r.goesOn), { r with waiting := false })

instance : Remote ScriptedRemote where
  connect _ r := r.connect
  call method args r := r.call method args
  listen identity method r := r.listen identity method
  poll := poll

end ScriptedRemote

end Instrument
