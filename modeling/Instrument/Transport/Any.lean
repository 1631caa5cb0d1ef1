/-
# The transport of a connection

One transport of each type of connection, and the transport that a schema asks for.
-/
import Instrument.Transport.Datagram
import Instrument.Transport.JsonRpc

namespace Instrument

/-- A transport of any type; remote calls go to objects of type `ρ`. -/
inductive TransportOver (ρ : Type)
  | channel (c : Channel)
  | datagram (d : Datagram)
  | rpc (r : Rpc ρ)

/-- A transport of any type whose remote calls are JSON-RPC. -/
abbrev AnyTransport := TransportOver JsonRpc

/-- What there is around the program: the links and sockets that connecting yields, in order, or why it
fails; why the network and the ports cannot be opened once these are used up; and the remote object
that settings lead to. -/
structure Surroundings (ρ : Type) where
  links : List (Except TransportFault Link)
  sockets : List (Except TransportFault Socket)
  network : TransportFault
  ports : TransportFault
  remote : RpcSettings → ρ

/-- No network and no ports. -/
def Surroundings.none : Surroundings JsonRpc where
  links := []
  sockets := []
  network := .io .noNetwork
  ports := .io .noPort
  remote settings := .ofSettings settings [] (.io .noNetwork) ""

/-- The transport that a connection asks for.  Only the settings of a serial line can be at fault. -/
def Connection.transport (c : Connection) (s : Surroundings ρ) :
    Except SerialFault (TransportOver ρ) :=
  match c with
  | .stream settings => .ok (.channel (.ofStream settings s.links s.network))
  | .datagram settings => .ok (.datagram (.ofSettings settings s.sockets s.network))
  | .serial settings => settings.check.map fun _ => .channel (.ofSerial settings s.links s.ports)
  | .rpc settings => .ok (.rpc (.ofSettings settings (s.remote settings)))

namespace TransportOver

/-- What an operation on one of the transports comes to. -/
def lift (wrap : σ → TransportOver ρ) (r : Except TransportFault α × σ) :
    Except TransportFault α × TransportOver ρ :=
  (r.1, wrap r.2)

instance [Remote ρ] : Transport (TransportOver ρ) where
  kind
    | .channel c => Transport.kind c
    | .datagram d => Transport.kind d
    | .rpc r => Transport.kind r
  endpoint
    | .channel c => Transport.endpoint c
    | .datagram d => Transport.endpoint d
    | .rpc r => Transport.endpoint r
  isConnected
    | .channel c => Transport.isConnected c
    | .datagram d => Transport.isConnected d
    | .rpc r => Transport.isConnected r
  hasNotifications
    | .channel c => Transport.hasNotifications c
    | .datagram d => Transport.hasNotifications d
    | .rpc r => Transport.hasNotifications r
  connect
    | .channel c => lift .channel (Transport.connect c)
    | .datagram d => lift .datagram (Transport.connect d)
    | .rpc r => lift .rpc (Transport.connect r)
  disconnect
    | .channel c => lift .channel (Transport.disconnect c)
    | .datagram d => lift .datagram (Transport.disconnect d)
    | .rpc r => lift .rpc (Transport.disconnect r)
  send command args
    | .channel c => lift .channel (Transport.send command args c)
    | .datagram d => lift .datagram (Transport.send command args d)
    | .rpc r => lift .rpc (Transport.send command args r)
  request command args
    | .channel c => lift .channel (Transport.request command args c)
    | .datagram d => lift .datagram (Transport.request command args d)
    | .rpc r => lift .rpc (Transport.request command args r)

end TransportOver

end Instrument
