/-
# Datagram sockets

One packet goes out, one comes back.  A packet longer than the buffer is cut.
-/
import Instrument.Transport.Channel

namespace Instrument

/-- An open socket: the packets that come, one a data event, those that come after each packet that
goes out, why the next packets cannot go out if they cannot, and what went out. -/
structure Socket where
  packets : Line
  answers : List (List LineEvent)
  failing : List (Option IoFault)
  sent : List (List UInt8)
  deriving Repr

namespace Socket

/-- The socket after a packet has gone out. -/
def answer (s : Socket) (packet : List UInt8) : Socket :=
  match s.answers with
  | [] => { s with sent := s.sent ++ [packet] }
  | events :: rest =>
    { s with packets := s.packets ++ events, answers := rest, sent := s.sent ++ [packet] }

/-- Sends a packet. -/
def send (s : Socket) (packet : List UInt8) : Except TransportFault Unit × Socket :=
  match s.failing with
  | [] => (.ok (), s.answer packet)
  | none :: rest => (.ok (), answer { s with failing := rest } packet)
  | some f :: rest => (.error (.io f), { s with failing := rest })

end Socket

/-- The next packet within a time, if one comes. -/
def receivePacket (left : Nat) : Line → Except TransportFault (Option (List UInt8)) × Line
  | [] => (.ok none, [])
  | .wait d :: rest =>
    if d ≤ left then receivePacket (left - d) rest else (.ok none, .wait (d - left) :: rest)
  | .close :: rest => receivePacket left rest
  | .fail f :: rest => (.error (.io f), rest)
  | .data packet :: rest => (.ok (some packet), rest)

/-- The transport of a datagram socket. -/
structure Datagram where
  settings : DatagramSettings
  socket : Option Socket
  openings : List (Except TransportFault Socket)
  refusal : TransportFault

namespace Datagram

/-- Where the instrument is. -/
def endpoint (d : Datagram) : String := Channel.address d.settings.host d.settings.port

/-- Opens the next socket. -/
def connect (d : Datagram) : Except TransportFault Unit × Datagram :=
  match d.socket with
  | some _ => (.ok (), d)
  | none =>
    match d.openings with
    | [] => (.error d.refusal, d)
    | .error e :: rest => (.error e, { d with openings := rest })
    | .ok s :: rest => (.ok (), { d with openings := rest, socket := some s })

/-- Sends a command in a packet. -/
def transmit (d : Datagram) (command : String) : Except TransportFault Socket × Datagram :=
  match d.socket with
  | none => (.error .notConnected, d)
  | some s =>
    match s.send (Text.encode (frame command d.settings.commandTerminator).toList) with
    | (.ok (), s) => (.ok s, { d with socket := some s })
    | (.error e, s) => (.error e, { d with socket := some s })

/-- Sends a command that has no reply. -/
def send (d : Datagram) (command : String) : Except TransportFault Unit × Datagram :=
  let (r, d) := d.transmit command
  (r.map fun _ => (), d)

/-- Sends a command and waits for one packet. -/
def request (d : Datagram) (command : String) : Except TransportFault RawReply × Datagram :=
  match d.transmit command with
  | (.error e, d) => (.error e, d)
  | (.ok s, d) =>
    let timeout := d.settings.timeout.toNat
    let (packet, packets) := receivePacket (ticks timeout) s.packets
    let reply := match packet with
      | .error e => .error e
      | .ok none => .error (.nothingRead d.endpoint timeout)
      | .ok (some octets) =>
        .ok (.text (Reader.textOf (octets.take (max d.settings.maxBuffer.toNat 1))))
    (reply, { d with socket := some { s with packets } })

instance : Transport Datagram where
  kind _ := ConnectionType.datagram.name
  endpoint := endpoint
  isConnected d := d.socket.isSome
  hasNotifications _ := false
  connect := connect
  disconnect d := (.ok (), { d with socket := none })
  send command _ d := d.send command
  request command _ d := d.request command

/-- A datagram socket. -/
def ofSettings (s : DatagramSettings) (openings : List (Except TransportFault Socket))
    (refusal : TransportFault) : Datagram :=
  ⟨s, none, openings, refusal⟩

end Datagram

end Instrument
