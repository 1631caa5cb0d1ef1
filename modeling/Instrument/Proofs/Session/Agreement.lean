/-
# Sessions and transports agree

A session remembers whether it is connected, and so does its transport.  Over the transports that
schemas ask for the two never differ, whatever can be opened, whatever devices and remote objects do
and whenever a listener ends by itself (`session_agrees`).

`connection_alternates` holds over any transport and says nothing about what the transport takes
itself to be; here the transport is a lawful one.  A session connects where it is not connected and
then takes over the outcome, and the laws say that the transport's own state is that outcome
(`Agrees.perform`).  To transmit is up to the session alone: it asks only while it is connected, and
so never meets the guard of a transport that is not.
-/
import Instrument.Loading
import Instrument.Proofs.Outcome
import Instrument.Proofs.Session.Submission
import Instrument.Proofs.Transport.Lawful
import Instrument.Transport.Script

namespace Instrument

/-! ## Sessions over lawful transports -/

namespace Session

section Lawful

variable {σ : Type} [Transport σ] {s : Session σ}

/-- The session is connected exactly if its transport is. -/
def Agrees (s : Session σ) : Prop := s.connected = Transport.isConnected s.transport

/-- A submission that asks for anything is one of a session that is connected. -/
theorem connected_of_contacts {name : String} {given : Given}
    (h : s.contacts [.submit name given] ≠ []) : s.connected = true := by
  rcases s.refuses_or_accepts name given with ⟨e, hrefuses⟩ | ⟨c, args, text, haccepts⟩
  · exact absurd (contacts_of_refuses hrefuses) h
  · exact haccepts.connected

variable [LawfulTransport σ]

theorem Agrees.connect (h : s.Agrees) : s.connect.2.Agrees := by
  cases hs : s.connected with
  | true => rwa [connect_of_connected hs]
  | false =>
    rw [connect_of_not_connected hs]
    exact (LawfulTransport.isConnected_connect s.transport).symm

theorem Agrees.disconnect (h : s.Agrees) : s.disconnect.2.Agrees := by
  cases hs : s.connected with
  | true =>
    rw [disconnect_of_connected hs, LawfulTransport.disconnect_ok]
    exact (LawfulTransport.isConnected_disconnect s.transport).symm
  | false => rwa [disconnect_of_not_connected hs]

theorem Agrees.transmit (h : s.Agrees) (m : Submission) : (s.transmit m).2.Agrees := by
  cases hm : m.command.expectsReply with
  | true =>
    rw [transmit_of_expectsReply hm]
    exact h.trans (LawfulTransport.isConnected_request m.text m.args s.transport).symm
  | false =>
    rw [transmit_of_not_expectsReply hm]
    exact h.trans (LawfulTransport.isConnected_send m.text m.args s.transport).symm

/-- **An operation keeps session and transport in agreement.** -/
theorem Agrees.perform (h : s.Agrees) (op : Operation) : (s.perform op).2.Agrees := by
  cases op with
  | connect => exact h.connect
  | disconnect => exact h.disconnect
  | submit name given =>
    rw [Session.perform]
    rcases s.refuses_or_accepts name given with ⟨e, hrefuses⟩ | ⟨c, args, text, haccepts⟩
    · rwa [give_of_refuses hrefuses]
    · rw [give_of_accepts haccepts]
      exact h.transmit _

end Lawful

end Session

/-! ## The transports of schemas -/

variable {ρ : Type} [Remote ρ]

/-- The transport after its listener, if it has one, has got on by itself. -/
def TransportOver.settle : TransportOver ρ → TransportOver ρ
  | .channel c => .channel c
  | .datagram d => .datagram d
  | .rpc r => .rpc r.settle

theorem TransportOver.isConnected_settle (t : TransportOver ρ) :
    Transport.isConnected t.settle = Transport.isConnected t := by
  cases t with
  | channel c => rfl
  | datagram d => rfl
  | rpc r =>
    show r.settle.connected = r.connected
    cases h : r.isListening with
    | false => rw [Rpc.settle_of_not_listening h]
    | true => rw [Rpc.settle_of_listening h]

/-- The transport that a connection asks for is not connected yet. -/
theorem Connection.isConnected_transport {c : Connection} {around : Surroundings ρ}
    {t : TransportOver ρ} (h : c.transport around = .ok t) : Transport.isConnected t = false := by
  cases c with
  | stream settings => cases h; rfl
  | datagram settings => cases h; rfl
  | rpc settings => cases h; rfl
  | serial settings =>
    obtain ⟨-, -, rfl⟩ := map_eq_ok_iff.1 h
    rfl

namespace Session

/-- What happens to a session over a transport of a schema: an operation, or, at any time between two
of them, the listener getting on by itself. -/
inductive Turn
  | operation (op : Operation)
  | background

/-- The session after a turn. -/
def turn (s : Session (TransportOver ρ)) : Turn → Session (TransportOver ρ)
  | .operation op => (s.perform op).2
  | .background => { s with transport := s.transport.settle }

/-- The session after turns. -/
def after (s : Session (TransportOver ρ)) (turns : List Turn) : Session (TransportOver ρ) :=
  turns.foldl turn s

theorem Agrees.turn {s : Session (TransportOver ρ)} (h : s.Agrees) (turn : Turn) :
    (s.turn turn).Agrees := by
  cases turn with
  | operation op => exact h.perform op
  | background => exact h.trans s.transport.isConnected_settle.symm

/-- **Turns keep session and transport in agreement.** -/
theorem Agrees.after {s : Session (TransportOver ρ)} (h : s.Agrees) (turns : List Turn) :
    (s.after turns).Agrees := by
  induction turns generalizing s with
  | nil => exact h
  | cons turn turns ih => exact ih (h.turn turn)

omit [Remote ρ] in
/-- A session of a schema starts over the transport that the schema asks for. -/
theorem exists_of_ofSchemaWith {registry : Registry} {schema : Schema} {around : Surroundings ρ}
    {s : Session (TransportOver ρ)} (h : ofSchemaWith registry schema around = .ok s) :
    ∃ profile t, schema.connection.transport around = .ok t ∧ s = start profile t := by
  obtain ⟨t, ht, h⟩ := bind_eq_ok_iff.1 h
  obtain ⟨profile, -, h⟩ := bind_eq_ok_iff.1 h
  exact ⟨profile, t, mapError_eq_ok_iff.1 ht, (Except.ok.inj h).symm⟩

theorem agrees_of_ofSchemaWith {registry : Registry} {schema : Schema} {around : Surroundings ρ}
    {s : Session (TransportOver ρ)} (h : ofSchemaWith registry schema around = .ok s) :
    s.Agrees := by
  obtain ⟨profile, t, ht, rfl⟩ := exists_of_ofSchemaWith h
  exact (Connection.isConnected_transport ht).symm

end Session

open Session

/-- **Session and transport agree** on whether they are connected, after every turn of a session that
was made of a schema.  The transport can always disconnect.  It has a guard, which answers for it
where it is not connected; but a submission that asks it for anything finds it connected. -/
theorem session_agrees {registry : Registry} {schema : Schema} {around : Surroundings ρ}
    {s₀ : Session (TransportOver ρ)} (h : ofSchemaWith registry schema around = .ok s₀)
    (turns : List Turn) :
    let s := s₀.after turns
    s.connected = Transport.isConnected s.transport ∧
    (Transport.disconnect s.transport).1 = .ok () ∧
    (Transport.isConnected s.transport = false → ∀ text args,
      Transport.send text args s.transport = (.error .notConnected, s.transport) ∧
      Transport.request text args s.transport = (.error .notConnected, s.transport)) ∧
    ∀ name given, s.contacts [.submit name given] ≠ [] →
      Transport.isConnected s.transport = true := by
  intro s
  have hs : s.Agrees := (agrees_of_ofSchemaWith h).after turns
  refine ⟨hs, LawfulTransport.disconnect_ok s.transport, fun hnot text args => ⟨?_, ?_⟩,
    fun name given hcontacts => hs.symm.trans (connected_of_contacts hcontacts)⟩
  · exact LawfulTransport.send_guarded text args hnot
  · exact LawfulTransport.request_guarded text args hnot

namespace Lamp

/-- Switches the lamp on; there is no reply. -/
def on : Command := ⟨"on", none, .ofText "ON", [], none, none, none⟩

/-- A lamp behind remote calls, which has a listener. -/
def schema : Schema where
  name := "lamp"
  description := none
  connection := .rpc ((RpcSettings.plain "localhost" 7700).withCallback .plain)
  failure := none
  marker := none
  parameters := []
  commands := [("on", on.entry)]

/-- The lamp cannot be reached at first, and then its listener ends at once. -/
def surroundings : Surroundings ScriptedRemote where
  links := []
  sockets := []
  network := .io .noNetwork
  ports := .io .noPort
  remote _ := ⟨[some (.timeout 250)], [], [], false, false, []⟩

/-- The session of the lamp. -/
def session : Session (TransportOver ScriptedRemote) :=
  start ⟨"lamp", none, schema.connection, none, none, .empty, [], [on]⟩
    (.rpc (.ofSettings ((RpcSettings.plain "localhost" 7700).withCallback .plain)
      (surroundings.remote default)))

end Lamp

/-- A connect that fails, one that succeeds, and a listener that ends by itself. -/
theorem session_agrees_lamp :
    let s := Lamp.session.after [.operation .connect]
    let s' := Lamp.session.after [.operation .connect, .operation .connect, .background]
    ofSchemaWith .empty Lamp.schema Lamp.surroundings = .ok Lamp.session ∧
    (s.connected = false ∧ Transport.isConnected s.transport = false ∧
      (Transport.send "ON" [] s.transport).1 = .error .notConnected) ∧
    (s'.connected = true ∧ Transport.isConnected s'.transport = true ∧
      (Transport.disconnect s'.transport).1 = .ok ()) ∧
    (s'.contacts [.submit "on" (.values [])] ≠ [] ∧ Transport.isConnected s'.transport = true) := by
  intro s s'
  have hschema : ofSchemaWith .empty Lamp.schema Lamp.surroundings = .ok Lamp.session := rfl
  have hcontacts : s'.contacts [.submit "on" (.values [])] ≠ [] := List.cons_ne_nil _ _
  obtain ⟨hagrees, -, hguard, -⟩ := session_agrees hschema [.operation .connect]
  obtain ⟨hagrees', hdisconnect, -, hsubmit⟩ :=
    session_agrees hschema [.operation .connect, .operation .connect, .background]
  have hnot : Transport.isConnected s.transport = false := hagrees.symm.trans rfl
  exact ⟨hschema, ⟨rfl, hnot, congrArg Prod.fst (hguard hnot "ON" []).1⟩,
    ⟨rfl, hagrees'.symm.trans rfl, hdisconnect⟩, ⟨hcontacts, hsubmit _ _ hcontacts⟩⟩

end Instrument
