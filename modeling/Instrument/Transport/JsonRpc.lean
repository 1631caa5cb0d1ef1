/-
# Remote objects over JSON-RPC

Requests and responses are lines of JSON.  Each request has a number of its own; a response is taken
by the request of its number, and whatever comes in between is passed over.  The listener has a
connection to itself.
-/
import Instrument.Json.Reader
import Instrument.Json.Writer
import Instrument.Transport.Rpc

namespace Instrument

/-- One end of a connection: the link, and the octets that were read past the end of a line. -/
structure Peer where
  link : Link
  pending : List UInt8
  deriving Repr

/-- Why there is no next line: the time is up, the stream has ended, or reading failed. -/
inductive LineStop
  | late
  | ended
  | failed (fault : IoFault)
  deriving DecidableEq, Repr

/-- The octet that ends a line. -/
def lineFeed : UInt8 := 10

/-- The outcome of reading a line: its octets or why there is none, the octets past its end, what is
still to happen, and what is left of the time. -/
structure LineOutcome where
  octets : Except LineStop (List UInt8)
  pending : List UInt8
  line : Line
  left : Nat

/-- Reads on while there is no whole line.  At the end of the stream the rest is a line. -/
def awaitLine (octets : List UInt8) (left : Nat) : Line → LineOutcome
  | [] => ⟨.error .late, [], [], 0⟩
  | .wait d :: rest =>
    if d ≤ left then awaitLine octets (left - d) rest
    else ⟨.error .late, [], .wait (d - left) :: rest, 0⟩
  | .close :: rest =>
    ⟨if octets.isEmpty then .error .ended else .ok octets, [], .close :: rest, left⟩
  | .fail f :: rest => ⟨.error (.failed f), [], rest, left⟩
  | .data more :: rest =>
    match Reader.splitAt? [lineFeed] (octets ++ more) with
    | some (found, pending) => ⟨.ok found, pending, rest, left⟩
    | none => awaitLine (octets ++ more) left rest

/-- Reads a line. -/
def Peer.readLine (p : Peer) (left : Nat) : LineOutcome :=
  match Reader.splitAt? [lineFeed] p.pending with
  | some (found, pending) => ⟨.ok found, pending, p.link.line, left⟩
  | none => awaitLine p.pending left p.link.line

/-- The octets on a line. -/
def octetCount (l : Line) : Nat :=
  (l.map fun | .data octets => octets.length | _ => 0).foldr (· + ·) 0

/-- Octets that are no text. -/
def IoFault.notText : IoFault := ⟨.invalidData, "stream did not contain valid UTF-8"⟩

/-- The text of a line, without blanks at the ends. -/
def lineText (octets : List UInt8) : Except TransportFault (List Char) :=
  let cs := Text.decode octets
  if Text.encode cs = octets then .ok (Text.trim cs) else .error (.io .notText)

/-- The message of a line; none if it is blank. -/
def lineMessage (octets : List UInt8) : Except TransportFault (Option Json) :=
  match lineText octets with
  | .error e => .error e
  | .ok [] => .ok none
  | .ok cs =>
    match Json.read (String.ofList cs) with
    | .ok j => .ok (some j)
    | .error _ => .error (.rpc "malformed message")

/-- The text of an error: its message, if it has one. -/
def errorText (error : Json) : String :=
  ((error.get? "message").bind (·.asText?)).getD error.compact

/-- What a message says to the request of a number; nothing if it is not for it. -/
def answerTo (id : Nat) (message : Json) : Option (Except TransportFault Json) :=
  if (message.get? "id").bind (·.asNat?) = some id then
    match message.get? "error" with
    | some e => some (.error (.rpc (errorText e)))
    | none => some (.ok ((message.get? "result").getD .null))
  else none

/-- Waits for the answer to the request of a number.  Every line takes an octet at least or ends the
wait, so `fuel` is the number of octets and one. -/
def awaitAnswer (endpoint : String) (timeout id : Nat) :
    (fuel : Nat) → (left : Nat) → Peer → Except TransportFault Json × Peer
  | 0, _, p => (.error (.timeout timeout), p)
  | fuel + 1, left, p =>
    let o := p.readLine left
    let p : Peer := ⟨{ p.link with line := o.line }, o.pending⟩
    match o.octets with
    | .error .late => (.error (.timeout timeout), p)
    | .error .ended => (.error (.closed endpoint), p)
    | .error (.failed f) => (.error (.io f), p)
    | .ok octets =>
      match lineMessage octets with
      | .error e => (.error e, p)
      | .ok none => awaitAnswer endpoint timeout id fuel o.left p
      | .ok (some message) =>
        match answerTo id message with
        | some result => (result, p)
        | none => awaitAnswer endpoint timeout id fuel o.left p

/-- A request: its number, the method and the arguments. -/
structure Request where
  id : Nat
  method : String
  args : List Json

namespace Request

/-- The message of a request. -/
def message (q : Request) : Json :=
  .object [("id", .integer q.id), ("jsonrpc", .text "2.0"), ("method", .text q.method),
    ("params", .array q.args)]

/-- The octets that are written for a request: its message on a line. -/
def octets (q : Request) : List UInt8 := Text.encode (q.message.compact ++ "\n").toList

end Request

/-- Sends a request and waits for its answer. -/
def Peer.ask (p : Peer) (endpoint : String) (timeout : Nat) (q : Request) :
    Except TransportFault Json × Peer :=
  match p.link.write q.octets with
  | (.error e, link) => (.error e, { p with link })
  | (.ok (), link) =>
    awaitAnswer endpoint timeout q.id (octetCount link.line + p.pending.length + 1) (ticks timeout)
      { p with link }

/-- The notifications that need no wait, and whether more may come; `fuel` as for answers. -/
def collect : (fuel : Nat) → Peer → List Json × Bool × Peer
  | 0, p => ([], true, p)
  | fuel + 1, p =>
    let o := p.readLine 0
    let q : Peer := ⟨{ p.link with line := o.line }, o.pending⟩
    match o.octets with
    | .error .late => ([], true, q)
    | .error _ => ([], false, q)
    | .ok octets =>
      match lineMessage octets with
      | .error _ => ([], false, q)
      | .ok none => collect fuel q
      | .ok (some message) =>
        let (more, running, q) := collect fuel q
        (if (message.get? "method").isSome then message :: more else more, running, q)

/-- A remote object over JSON-RPC: where it is and what it is called, the number of the next request,
which goes round at 64 bits, the connection for calls and that of the listener, the connections that
are still to be opened, and the identity that is made up for a listener. -/
structure JsonRpc where
  endpoint : String
  object : Option String
  timeout : Nat
  nextId : UInt64
  calls : Option Peer
  listener : Option Peer
  openings : List (Except TransportFault Link)
  refusal : TransportFault
  identity : String

namespace JsonRpc

/-- A remote object that is not reached yet. -/
def ofSettings (s : RpcSettings) (openings : List (Except TransportFault Link))
    (refusal : TransportFault) (identity : String) : JsonRpc where
  endpoint := Channel.address s.host s.port
  object := s.proxy
  timeout := max s.timeout.toNat 1
  nextId := 1
  calls := none
  listener := none
  openings := openings
  refusal := refusal
  identity := identity

/-- The name of a method of the object. -/
def qualified (r : JsonRpc) (method : String) : String :=
  match r.object with
  | some object => object ++ "." ++ method
  | none => method

/-- Opens the next connection. -/
def openPeer (r : JsonRpc) : Except TransportFault Peer × JsonRpc :=
  match r.openings with
  | [] => (.error r.refusal, r)
  | .error e :: rest => (.error e, { r with openings := rest })
  | .ok l :: rest => (.ok ⟨l, []⟩, { r with openings := rest })

/-- Reaches the object; requests are numbered from one again. -/
def connect (r : JsonRpc) : Except TransportFault Unit × JsonRpc :=
  match r.openPeer with
  | (.error e, r) => (.error e, r)
  | (.ok p, r) => (.ok (), { r with calls := some p, nextId := 1 })

/-- The next request. -/
def request (r : JsonRpc) (method : String) (args : List Json) : Request × JsonRpc :=
  (⟨r.nextId.toNat, r.qualified method, args⟩, { r with nextId := r.nextId + 1 })

/-- Calls a method. -/
def call (r : JsonRpc) (method : String) (args : List Json) : Except TransportFault Json × JsonRpc :=
  match r.calls with
  | none => (.error .notConnected, r)
  | some p =>
    let (q, r) := r.request method args
    let (result, p) := p.ask r.endpoint r.timeout q
    (result, { r with calls := some p })

/-- Opens a connection and registers a listener over it: the answer and the connection, if one was
opened. -/
def register (r : JsonRpc) (identity : Option String) (method : String) :
    Option (Except TransportFault Json × Peer) × JsonRpc :=
  match r.openPeer with
  | (.error _, r) => (none, r)
  | (.ok p, r) =>
    let (q, r) := r.request method [.text (identity.getD r.identity)]
    (some (p.ask r.endpoint r.timeout q), r)

/-- Listens over a connection of its own, if the listener can be registered. -/
def listen (r : JsonRpc) (identity : Option String) (method : String) : JsonRpc :=
  match r.register identity method with
  | (some (.ok _, p), r) => { r with listener := some p }
  | (some (.error _, _), r) => { r with listener := none }
  | (none, r) => { r with listener := none }

/-- Takes in what the listener has received. -/
def poll (r : JsonRpc) : (List Json × Bool) × JsonRpc :=
  match r.listener with
  | none => (([], false), r)
  | some p =>
    let (messages, running, p) := collect (octetCount p.link.line + p.pending.length + 1) p
    ((messages, running), { r with listener := if running then some p else none })

instance : Remote JsonRpc where
  connect _ r := r.connect
  call method args r := r.call method args
  listen identity method r := r.listen identity method
  poll := poll

end JsonRpc

end Instrument
