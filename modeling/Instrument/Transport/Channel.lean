/-
# Channels of octets

Serial lines and stream sockets: commands go out with a terminator, replies are read by a strategy.
What was read past the end of a reply is forgotten whenever a link is put in place or taken away.
-/
import Instrument.Schema.Connection
import Instrument.Transport.Basic
import Instrument.Transport.Reader

namespace Instrument

/-- A write that fails: why, and whether the frame went out all the same. -/
structure WriteFault where
  fault : IoFault
  wentOut : Bool
  deriving DecidableEq, Repr

/-- An open link to a device: what is to happen on the line, what the device puts on it after each
frame, which writes fail and how, how many there were, and what went out. -/
structure Link where
  line : Line
  answers : List (List LineEvent)
  failing : List (Nat × WriteFault)
  writes : Nat
  sent : List UInt8
  deriving Repr

namespace Link

/-- A link to a device, which first puts `hello` on the line, and over which some writes fail as over a
broken pipe. -/
def ofDevice (hello : List LineEvent) (answers : List (List LineEvent)) (failing : List Nat) : Link :=
  ⟨Line.feed [] hello, answers, failing.map fun i => (i, ⟨⟨.brokenPipe, "broken pipe"⟩, false⟩), 0, []⟩

/-- The link after the device has answered a frame. -/
def answer (l : Link) : Link :=
  match l.answers with
  | [] => l
  | events :: rest => { l with line := l.line.feed events, answers := rest }

/-- Writes a frame.  A frame without octets is answered, but needs no write. -/
def write (l : Link) (octets : List UInt8) : Except TransportFault Unit × Link :=
  if octets.isEmpty then (.ok (), l.answer)
  else
    let out := answer { l with writes := l.writes + 1, sent := l.sent ++ octets }
    match l.failing.lookup l.writes with
    | some f => (.error (.io f.fault), if f.wentOut then out else { l with writes := l.writes + 1 })
    | none => (.ok (), out)

end Link

/-- The transport of a serial line or a stream socket.  `openings` are the links that connecting
yields, in order, or why it fails; once they are used up it fails with `refusal`. -/
structure Channel where
  kind : ConnectionType
  endpoint : String
  terminator : String
  reader : Reader
  link : Option Link
  openings : List (Except TransportFault Link)
  refusal : TransportFault

namespace Channel

/-- Puts a link in place. -/
def attach (c : Channel) (l : Link) : Channel := { c with reader := c.reader.clear, link := some l }

/-- Opens the next link. -/
def connect (c : Channel) : Except TransportFault Unit × Channel :=
  match c.link with
  | some _ => (.ok (), c)
  | none =>
    match c.openings with
    | [] => (.error c.refusal, c)
    | .error e :: rest => (.error e, { c with openings := rest })
    | .ok l :: rest => (.ok (), attach { c with openings := rest } l)

/-- Takes the link away. -/
def disconnect (c : Channel) : Except TransportFault Unit × Channel :=
  match c.link with
  | none => (.ok (), c)
  | some _ => (.ok (), { c with reader := c.reader.clear, link := none })

/-- Writes a command. -/
def write (c : Channel) (command : String) : Except TransportFault Link × Channel :=
  match c.link with
  | none => (.error .notConnected, c)
  | some l =>
    match l.write (Text.encode (frame command c.terminator).toList) with
    | (.ok (), l) => (.ok l, { c with link := some l })
    | (.error e, l) => (.error e, { c with link := some l })

/-- Writes a command that has no reply. -/
def send (c : Channel) (command : String) : Except TransportFault Unit × Channel :=
  let (r, c) := c.write command
  (r.map fun _ => (), c)

/-- Writes a command and reads its reply. -/
def request (c : Channel) (command : String) : Except TransportFault RawReply × Channel :=
  match c.write command with
  | (.error e, c) => (.error e, c)
  | (.ok l, c) =>
    let (reply, reader, line) := c.reader.read c.endpoint l.line
    (reply.map .text, { c with reader, link := some { l with line } })

instance : Transport Channel where
  kind c := c.kind.name
  endpoint c := c.endpoint
  isConnected c := c.link.isSome
  hasNotifications _ := false
  connect := connect
  disconnect := disconnect
  send command _ c := c.send command
  request command _ c := c.request command

/-- The address of a socket. -/
def address (host : String) (port : UInt16) : String := host ++ ":" ++ toString port.toNat

/-- A stream socket. -/
def ofStream (s : StreamSettings) (openings : List (Except TransportFault Link))
    (refusal : TransportFault) : Channel where
  kind := .stream
  endpoint := address s.host s.port
  terminator := s.commandTerminator
  reader := .fresh (.ofSettings s.responseTerminator (s.responseLength.map (·.toNat)))
    s.timeout.toNat
  link := none
  openings := openings
  refusal := refusal

/-- A serial line. -/
def ofSerial (s : SerialSettings) (openings : List (Except TransportFault Link))
    (refusal : TransportFault) : Channel where
  kind := .serial
  endpoint := s.port
  terminator := s.commandTerminator
  reader := .fresh (.ofSettings s.responseTerminator (s.responseLength.map (·.toNat)))
    s.timeout.toNat
  link := none
  openings := openings
  refusal := refusal

end Channel

/-- What is wrong with the settings of a serial line. -/
inductive SerialFault
  | dataBits (bits : Nat) (port : String)
  | stopBits (bits : Nat) (port : String)
  deriving DecidableEq, Repr

/-- The wording of a serial fault. -/
def SerialFault.message : SerialFault → String
  | .dataBits n p => "unsupported data bits " ++ toString n ++ " for " ++ p
  | .stopBits n p => "unsupported stop bits " ++ toString n ++ " for " ++ p

/-- Checks the settings of a serial line: five to eight data bits, one or two stop bits. -/
def SerialSettings.check (s : SerialSettings) : Except SerialFault Unit :=
  if !(5 ≤ s.dataBits.toNat && s.dataBits.toNat ≤ 8) then .error (.dataBits s.dataBits.toNat s.port)
  else if !(1 ≤ s.stopBits.toNat && s.stopBits.toNat ≤ 2) then
    .error (.stopBits s.stopBits.toNat s.port)
  else .ok ()

end Instrument
