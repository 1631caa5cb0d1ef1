/-
# Remote calls

The first word of a command selects a method of a remote object, and its arguments become those of the
call.  With settings for callbacks, connecting also starts a listener for notifications, once for each
connection; it may end at any time, and disconnecting stops it.
-/
import Instrument.Schema.Connection
import Instrument.Transport.Basic
import Instrument.Transport.Channel
import Instrument.Transport.Notifications

namespace Instrument

/-- What a remote object and the way to it are made of. -/
class Remote (ρ : Type) where
  /-- Reaches the object. -/
  connect : RpcSettings → ρ → Except TransportFault Unit × ρ
  /-- Calls a method with arguments in order. -/
  call : String → List Json → ρ → Except TransportFault Json × ρ
  /-- Begins to listen under an identity, or under one that is made up. -/
  listen : Option String → String → ρ → ρ
  /-- The notifications since the last time, and whether the listener goes on. -/
  poll : ρ → (List Json × Bool) × ρ

/-- The transport of remote calls. -/
structure Rpc (ρ : Type) where
  settings : RpcSettings
  remote : ρ
  connected : Bool
  /-- The listener of this connection, if it was started and not stopped: does it go on? -/
  listener : Option Bool
  /-- Was a listener started in this connection? -/
  listenerStarted : Bool
  notifications : Notifications

namespace Rpc

variable {ρ : Type}

/-- The transport before any connection. -/
def ofSettings (s : RpcSettings) (remote : ρ) : Rpc ρ := ⟨s, remote, false, none, false, .none⟩

/-- Where the instrument is: the name of the object, if there is one, and the address. -/
def endpoint (r : Rpc ρ) : String :=
  let address := Channel.address r.settings.host r.settings.port
  match r.settings.proxy with
  | some object => object ++ "@" ++ address
  | none => address

/-- Is a listener going on? -/
def isListening (r : Rpc ρ) : Bool := r.listener = some true

variable [Remote ρ]

/-- Takes in what the listener has received. -/
def settle (r : Rpc ρ) : Rpc ρ :=
  if r.isListening then
    let ((messages, running), remote) := Remote.poll r.remote
    { r with remote, listener := some running, notifications := r.notifications.publishAll messages }
  else r

/-- Starts the listener, which is done once for each connection. -/
def startListener (r : Rpc ρ) : Except TransportFault Unit × Rpc ρ :=
  if !r.connected then (.error .notConnected, r)
  else if r.listenerStarted then (.error .listenerRunning, r)
  else
    let callback := r.settings.callback.getD .plain
    let remote := Remote.listen callback.identity callback.registerMethod r.remote
    (.ok (), { r with remote, listener := some true, listenerStarted := true })

/-- Reaches the remote object and starts the listener, if there are settings for one. -/
def connect (r : Rpc ρ) : Except TransportFault Unit × Rpc ρ :=
  if r.connected then (.ok (), r)
  else
    match Remote.connect r.settings r.remote with
    | (.error e, remote) => (.error e, { r with remote })
    | (.ok (), remote) =>
      let r := { r with remote, connected := true, listenerStarted := false }
      if r.settings.callback.isSome then r.startListener else (.ok (), r)

/-- Stops the listener and leaves the remote object. -/
def disconnect (r : Rpc ρ) : Except TransportFault Unit × Rpc ρ :=
  if r.connected then (.ok (), { r with connected := false, listener := none }) else (.ok (), r)

/-- The first word of a command. -/
def commandWord (command : String) : String := String.ofList (Text.firstWord command.toList)

/-- The remote method and the arguments of a command. -/
def resolve (r : Rpc ρ) (command : String) (args : List Argument) :
    Except TransportFault (String × List Json) :=
  let word := commandWord command
  match r.settings.methods.lookup word with
  | none => .error (.unknownMethod word)
  | some m =>
    if m.arity.all (·.toNat = args.length) then
      .ok (m.remote.getD word, args.map (·.value.toArgument))
    else
      .error (.rpc (word ++ " takes " ++ toString (m.arity.getD 0).toNat ++ " arguments, " ++
        toString args.length ++ " given"))

/-- Calls the method of a command. -/
def invoke (r : Rpc ρ) (command : String) (args : List Argument) :
    Except TransportFault Json × Rpc ρ :=
  if !r.connected then (.error .notConnected, r)
  else
    match r.resolve command args with
    | .error e => (.error e, r)
    | .ok (method, values) =>
      let (result, remote) := Remote.call method values r.remote
      (result, { r with remote })

/-- Calls a method whose result does not count. -/
def send (r : Rpc ρ) (command : String) (args : List Argument) :
    Except TransportFault Unit × Rpc ρ :=
  let (result, r) := r.invoke command args
  (result.map fun _ => (), r)

/-- A result as a reply: a text is one to be read, all else is passed on. -/
def replyOf : Json → RawReply
  | .text s => .text s
  | j => .value j

/-- Calls a method. -/
def request (r : Rpc ρ) (command : String) (args : List Argument) :
    Except TransportFault RawReply × Rpc ρ :=
  let (result, r) := r.invoke command args
  (result.map replyOf, r)

instance : Transport (Rpc ρ) where
  kind _ := ConnectionType.rpc.name
  endpoint := endpoint
  isConnected r := r.connected
  hasNotifications _ := true
  connect := connect
  disconnect := disconnect
  send command args r := r.send command args
  request command args r := r.request command args

end Rpc

end Instrument
