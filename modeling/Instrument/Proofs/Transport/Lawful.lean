/-
# Lawful transports

What a session relies on in its transport (`LawfulTransport`): after a connect the transport is
connected exactly if the connect succeeded, a disconnect succeeds and leaves it not connected, to
transmit changes nothing about it, and without a connection nothing is transmitted.

Every transport that a schema can ask for is lawful, whatever links, sockets and remote objects do.
The one in which a connect has a second half is that of remote calls: it holds its object before it
starts the listener, and would be left connected by a connect that failed there.  It never does
(`Rpc.connect_of_reached`).
-/
import Instrument.Proofs.Transport.Channel
import Instrument.Proofs.Transport.Listener
import Instrument.Transport.Any

namespace Instrument

/-- A transport whose connection is as its operations say. -/
class LawfulTransport (σ : Type) [Transport σ] : Prop where
  isConnected_connect (t : σ) :
    Transport.isConnected (Transport.connect t).2 = (Transport.connect t).1.isOk
  disconnect_ok (t : σ) : (Transport.disconnect t).1 = .ok ()
  isConnected_disconnect (t : σ) : Transport.isConnected (Transport.disconnect t).2 = false
  isConnected_send (text : String) (args : List Argument) (t : σ) :
    Transport.isConnected (Transport.send text args t).2 = Transport.isConnected t
  isConnected_request (text : String) (args : List Argument) (t : σ) :
    Transport.isConnected (Transport.request text args t).2 = Transport.isConnected t
  send_guarded (text : String) (args : List Argument) {t : σ} :
    Transport.isConnected t = false → Transport.send text args t = (.error .notConnected, t)
  request_guarded (text : String) (args : List Argument) {t : σ} :
    Transport.isConnected t = false → Transport.request text args t = (.error .notConnected, t)

/-! ## Channels -/

namespace Channel

theorem link_eq_none {c : Channel} (h : Transport.isConnected c = false) : c.link = none :=
  Option.isNone_iff_eq_none.1 (Option.isSome_eq_false_iff.1 h)

instance : LawfulTransport Channel where
  isConnected_connect c := by
    show c.connect.2.link.isSome = c.connect.1.isOk
    rcases c.connect_cases with ⟨hlink, hconnect⟩ | ⟨hlink, e, hconnect⟩ | ⟨hlink, l, hconnect⟩
    · rw [hconnect, hlink]
      rfl
    · rw [hconnect]
      exact congrArg Option.isSome hlink
    · rw [hconnect]
      rfl
  disconnect_ok c := by
    show c.disconnect.1 = _
    cases h : c.link with
    | none => rw [disconnect_of_no_link h]
    | some l => rw [disconnect_of_link h]
  isConnected_disconnect c := by
    show c.disconnect.2.link.isSome = _
    cases h : c.link with
    | none => rw [disconnect_of_no_link h, h]; rfl
    | some l => rw [disconnect_of_link h]; rfl
  isConnected_send command _ c := by
    obtain ⟨link, hwrite, hlink⟩ := c.exists_write command
    show (c.send command).2.link.isSome = _
    rw [send_eq, hwrite]
    exact hlink
  isConnected_request command _ c := c.isSome_link_request command
  send_guarded command _ c h := by
    show c.send command = _
    rw [send_eq, write_of_no_link (link_eq_none h)]
    rfl
  request_guarded command _ c h := request_of_no_link (link_eq_none h) command

end Channel

/-! ## Datagram sockets -/

namespace Datagram

theorem transmit_of_no_socket {d : Datagram} (h : d.socket = none) (command : String) :
    d.transmit command = (.error .notConnected, d) := by
  simp [transmit, h]

/-- To send a packet changes nothing but the socket. -/
theorem isSome_socket_transmit (d : Datagram) (command : String) :
    (d.transmit command).2.socket.isSome = d.socket.isSome := by
  unfold transmit
  cases h : d.socket with
  | none => exact congrArg Option.isSome h
  | some s =>
    dsimp only
    split <;> rfl

theorem isSome_socket_request (d : Datagram) (command : String) :
    (d.request command).2.socket.isSome = d.socket.isSome := by
  have htransmit := d.isSome_socket_transmit command
  unfold request
  split
  · rename_i hr
    rwa [hr] at htransmit
  · rename_i s d' hr
    -- A packet that went out went out over a socket.
    cases h : d.socket with
    | none =>
      rw [transmit_of_no_socket h] at hr
      cases hr
    | some s₀ => rfl

theorem socket_eq_none {d : Datagram} (h : Transport.isConnected d = false) : d.socket = none :=
  Option.isNone_iff_eq_none.1 (Option.isSome_eq_false_iff.1 h)

instance : LawfulTransport Datagram where
  isConnected_connect d := by
    show d.connect.2.socket.isSome = d.connect.1.isOk
    unfold connect
    split
    · rename_i h
      rw [h]
      rfl
    · rename_i h
      split
      · rw [h]
        rfl
      · exact congrArg Option.isSome h
      · rfl
  disconnect_ok _ := rfl
  isConnected_disconnect _ := rfl
  isConnected_send command _ d := d.isSome_socket_transmit command
  isConnected_request command _ d := d.isSome_socket_request command
  send_guarded command _ d h := by
    show d.send command = _
    rw [send, transmit_of_no_socket (socket_eq_none h)]
    rfl
  request_guarded command _ d h := by
    show d.request command = _
    rw [request, transmit_of_no_socket (socket_eq_none h)]

end Datagram

/-! ## Remote calls -/

namespace Rpc

variable {ρ : Type} [Remote ρ]

/-- A call leaves the connection alone. -/
theorem connected_invoke (r : Rpc ρ) (command : String) (args : List Argument) :
    (r.invoke command args).2.connected = r.connected := by
  cases h : r.connected with
  | false => rw [invoke_of_not_connected h, h]
  | true =>
    cases hresolve : r.resolve command args with
    | error e => rw [invoke_of_unresolved h hresolve, h]
    | ok call =>
      rw [invoke_of_resolved h hresolve]
      exact h

instance : LawfulTransport (Rpc ρ) where
  isConnected_connect r := by
    show r.connect.2.connected = r.connect.1.isOk
    cases h : r.connected with
    | true => rw [connect_of_connected h, h]; rfl
    | false =>
      rcases hr : Remote.connect r.settings r.remote with ⟨e | ⟨⟩, remote⟩
      · rw [connect_of_refused h hr]
        exact h
      · rw [connect_of_reached h hr]
        cases r.settings.callback <;> rfl
  disconnect_ok r := r.disconnect_succeeds.1
  isConnected_disconnect r := r.disconnect_succeeds.2
  isConnected_send command args r := r.connected_invoke command args
  isConnected_request command args r := r.connected_invoke command args
  send_guarded command args r h := by
    show r.send command args = _
    rw [send, invoke_of_not_connected h]
    rfl
  request_guarded command args r h := by
    show r.request command args = _
    rw [request, invoke_of_not_connected h]
    rfl

end Rpc

/-! ## The transports of schemas -/

namespace TransportOver

variable {ρ : Type} [Remote ρ]

instance : LawfulTransport (TransportOver ρ) where
  isConnected_connect
    | .channel c => LawfulTransport.isConnected_connect c
    | .datagram d => LawfulTransport.isConnected_connect d
    | .rpc r => LawfulTransport.isConnected_connect r
  disconnect_ok
    | .channel c => LawfulTransport.disconnect_ok c
    | .datagram d => LawfulTransport.disconnect_ok d
    | .rpc r => LawfulTransport.disconnect_ok r
  isConnected_disconnect
    | .channel c => LawfulTransport.isConnected_disconnect c
    | .datagram d => LawfulTransport.isConnected_disconnect d
    | .rpc r => LawfulTransport.isConnected_disconnect r
  isConnected_send text args
    | .channel c => LawfulTransport.isConnected_send text args c
    | .datagram d => LawfulTransport.isConnected_send text args d
    | .rpc r => LawfulTransport.isConnected_send text args r
  isConnected_request text args
    | .channel c => LawfulTransport.isConnected_request text args c
    | .datagram d => LawfulTransport.isConnected_request text args d
    | .rpc r => LawfulTransport.isConnected_request text args r
  send_guarded text args t h := by
    cases t with
    | channel c => exact congrArg (lift .channel) (LawfulTransport.send_guarded text args h)
    | datagram d => exact congrArg (lift .datagram) (LawfulTransport.send_guarded text args h)
    | rpc r => exact congrArg (lift .rpc) (LawfulTransport.send_guarded text args h)
  request_guarded text args t h := by
    cases t with
    | channel c => exact congrArg (lift .channel) (LawfulTransport.request_guarded text args h)
    | datagram d => exact congrArg (lift .datagram) (LawfulTransport.request_guarded text args h)
    | rpc r => exact congrArg (lift .rpc) (LawfulTransport.request_guarded text args h)

end TransportOver

end Instrument
