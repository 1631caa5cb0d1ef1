/-
# Transports

A transport takes rendered commands to an instrument and brings replies back.  Its operations act on a
state of some type and say what came of them; the state goes on whether they succeed or not.
-/
import Instrument.Transport.Fault
import Instrument.Value

namespace Instrument

/-- A reply: a text, or the result of a remote call that is none. -/
inductive RawReply
  | text (s : String)
  | value (j : Json)
  deriving Repr

/-- What a transport is made of. -/
class Transport (σ : Type) where
  /-- The name of the type of transport. -/
  kind : σ → String
  /-- Where the instrument is. -/
  endpoint : σ → String
  isConnected : σ → Bool
  /-- Does the instrument send messages of its own accord? -/
  hasNotifications : σ → Bool
  /-- Opens the connection; nothing if it is open. -/
  connect : σ → Except TransportFault Unit × σ
  /-- Closes the connection; nothing if it is closed. -/
  disconnect : σ → Except TransportFault Unit × σ
  /-- Sends a command that has no reply. -/
  send : String → List Argument → σ → Except TransportFault Unit × σ
  /-- Sends a command and brings its reply back. -/
  request : String → List Argument → σ → Except TransportFault RawReply × σ

/-- A command as it goes out, with the terminator of commands. -/
def frame (command terminator : String) : String := command ++ terminator

end Instrument
