/-
# Connections in order

However the transport behaves, a session asks it to connect only when every connection that it
opened has been closed again, and for anything else only when one connection is open (`Orderly`);
and the session counts as connected exactly in the latter case (`connection_alternates`).

The count is taken of calls that succeeded.  One step keeps the order and keeps the count in line
with the session (`InStep`): a connect is only asked for when the counts are equal, and what it
comes to decides both the counts and the session.
-/
import Instrument.Proofs.Session.Observation
import Instrument.Transport.Script

namespace Instrument

/-! ## Opened and closed -/

/-- Did the call open a connection? -/
def Contact.opens (contact : Contact) : Bool :=
  match contact.call with
  | .connect => contact.succeeded
  | _ => false

/-- Did the call close a connection? -/
def Contact.closes (contact : Contact) : Bool :=
  match contact.call with
  | .disconnect => contact.succeeded
  | _ => false

/-- The number of connections that were opened. -/
def opened (contacts : List Contact) : Nat := contacts.countP (·.opens)

/-- The number of connections that were closed. -/
def closed (contacts : List Contact) : Nat := contacts.countP (·.closes)

/-- Each connect comes when as many connections were closed as opened, and every other call when one
more was opened than closed. -/
def Orderly (contacts : List Contact) : Prop :=
  ∀ before contact after, contacts = before ++ contact :: after →
    (contact.call = .connect → opened before = closed before) ∧
    (contact.call ≠ .connect → opened before = closed before + 1)

variable {contacts : List Contact} {contact : Contact}

@[simp] theorem opened_append (contacts : List Contact) (contact : Contact) :
    opened (contacts ++ [contact]) = opened contacts + contact.opens.toNat := by
  cases h : contact.opens <;> simp [opened, List.countP_append, h]

@[simp] theorem closed_append (contacts : List Contact) (contact : Contact) :
    closed (contacts ++ [contact]) = closed contacts + contact.closes.toNat := by
  cases h : contact.closes <;> simp [closed, List.countP_append, h]

/-- To transmit a command opens and closes nothing. -/
theorem Command.call_keeps (c : Command) (args : List Argument) (text : String)
    (succeeded : Bool) : c.call args text ≠ .connect ∧
      Contact.opens ⟨c.call args text, succeeded⟩ = false ∧
      Contact.closes ⟨c.call args text, succeeded⟩ = false := by
  unfold Command.call
  split <;> exact ⟨Call.noConfusion, rfl, rfl⟩

theorem orderly_nil : Orderly [] := by
  intro before contact after h
  exact absurd h (by simp)

theorem Orderly.append (h : Orderly contacts)
    (hconnect : contact.call = .connect → opened contacts = closed contacts)
    (hother : contact.call ≠ .connect → opened contacts = closed contacts + 1) :
    Orderly (contacts ++ [contact]) := by
  intro before c after heq
  rcases List.eq_nil_or_concat after with rfl | ⟨more, last, rfl⟩
  · obtain ⟨rfl, hc⟩ := List.append_inj' heq rfl
    obtain rfl : contact = c := List.head_eq_of_cons_eq hc
    exact ⟨hconnect, hother⟩
  · rw [List.concat_eq_append, ← List.cons_append, ← List.append_assoc] at heq
    obtain ⟨hcontacts, -⟩ := List.append_inj' heq rfl
    exact h before c more hcontacts

/-! ## In step -/

namespace Session

variable {σ : Type}

/-- What was asked of the transport was in order, and the session is connected as it says. -/
structure InStep (s : Session (Observed σ)) : Prop where
  orderly : Orderly s.transport.contacts
  balance : opened s.transport.contacts = closed s.transport.contacts + s.connected.toNat

/-- **A step keeps the order.** -/
theorem InStep.step {s s' : Session (Observed σ)} {op : Operation} (h : s.InStep)
    (hstep : s.Step op s') : s'.InStep := by
  have hbalance := h.balance
  cases hstep with
  | idle => exact h
  | @connect t succeeded hs =>
    rw [hs] at hbalance
    refine ⟨h.orderly.append (fun _ => hbalance) (fun hc => absurd rfl hc), ?_⟩
    cases succeeded <;> simp [Observed.after, Contact.opens, Contact.closes, hbalance]
  | @disconnect t succeeded hs =>
    rw [hs] at hbalance
    refine ⟨h.orderly.append (fun hc => nomatch hc) (fun _ => hbalance), ?_⟩
    cases succeeded <;> simp [Observed.after, Contact.opens, Contact.closes, hbalance]
  | @submit name given c args text t succeeded haccepts =>
    rw [haccepts.connected] at hbalance
    obtain ⟨hcall, hopens, hcloses⟩ := c.call_keeps args text succeeded
    refine ⟨h.orderly.append (fun hc => absurd hc hcall) (fun _ => hbalance), ?_⟩
    simp [Observed.after, hopens, hcloses, hbalance, haccepts.connected]

theorem inStep_observed_start (profile : Profile) (transport : σ) :
    (start profile transport).observed.InStep :=
  ⟨orderly_nil, rfl⟩

variable [Transport σ]

/-- **A run keeps the order.** -/
theorem InStep.run {s : Session (Observed σ)} (h : s.InStep) (ops : List Operation) :
    (s.run ops).2.InStep :=
  run_keeps (fun _ _ _ _ hstep hs => hs.step hstep) h

/-! ## What fails -/

variable {s : Session σ}

theorem not_connected_of_connect {e : SessionFault} (h : s.connect.1 = .error e) :
    s.connect.2.connected = false := by
  cases hs : s.connected with
  | true =>
    rw [connect_of_connected hs] at h
    cases h
  | false =>
    rw [connect_of_not_connected hs] at h ⊢
    cases hr : (Transport.connect s.transport).1 with
    | error e => rfl
    | ok u =>
      rw [hr] at h
      cases h

theorem connected_of_disconnect {e : SessionFault} (h : s.disconnect.1 = .error e) :
    s.disconnect.2.connected = true := by
  cases hs : s.connected with
  | true =>
    rw [disconnect_of_connected hs] at h ⊢
    cases hr : (Transport.disconnect s.transport).1 with
    | error e => rfl
    | ok u =>
      rw [hr] at h
      cases h
  | false =>
    rw [disconnect_of_not_connected hs] at h
    cases h

theorem contacts_connect (hs : s.connected = true) : s.contacts [.connect] = [] := by
  have hobserved : s.observed.connect = (.ok (), s.observed) := connect_of_connected hs
  rw [contacts, run_cons, perform, hobserved]
  rfl

theorem contacts_disconnect (hs : s.connected = false) : s.contacts [.disconnect] = [] := by
  have hobserved : s.observed.disconnect = (.ok (), s.observed) := disconnect_of_not_connected hs
  rw [contacts, run_cons, perform, hobserved]
  rfl

end Session

open Session

/-- **A session connects and disconnects in turns**, whatever the transport answers and whatever is
asked of the session; it is connected exactly while one more connection was opened than closed.
What fails leaves it as it was, and what has been done already is not done again. -/
theorem connection_alternates {σ : Type} [Transport σ] (profile : Profile) (transport : σ)
    (ops : List Operation) :
    let calls := (start profile transport).contacts ops
    let s := ((start profile transport).run ops).2
    Orderly calls ∧
    (s.connected = true ↔ opened calls = closed calls + 1) ∧
    (s.connected = false ↔ opened calls = closed calls) ∧
    (∀ e, s.connect.1 = .error e → s.connect.2.connected = false) ∧
    (∀ e, s.disconnect.1 = .error e → s.disconnect.2.connected = true) ∧
    (s.connected = true → s.connect = (.ok (), s) ∧ s.contacts [.connect] = []) ∧
    (s.connected = false → s.disconnect = (.ok (), s) ∧ s.contacts [.disconnect] = []) := by
  intro calls s
  have hinStep := (inStep_observed_start profile transport).run ops
  have hs : s = ((start profile transport).observed.run ops).2.unobserved :=
    run_eq_unobserved _ ops
  have hbalance : opened calls = closed calls + s.connected.toNat := hs ▸ hinStep.balance
  refine ⟨hinStep.orderly, ?_, ?_, fun e => not_connected_of_connect,
    fun e => connected_of_disconnect, fun h => ⟨connect_of_connected h, contacts_connect h⟩,
    fun h => ⟨disconnect_of_not_connected h, contacts_disconnect h⟩⟩
  · cases hc : s.connected <;> simp [hbalance, hc]
  · cases hc : s.connected <;> simp [hbalance, hc]

/-- The first connect fails, and so does the first disconnect after the second one. -/
theorem connection_alternates_lamp :
    let e : TransportFault := .timeout 250
    let t : ScriptedTransport := ⟨[some e], [some e], [], false, []⟩
    let s := start Lamp.profile t
    let s' := (s.run [.connect, .connect]).2
    Orderly (s.contacts [.connect, .connect]) ∧
    (s.connect.1 = .error (.transport e) ∧ s.connect.2.connected = false) ∧
    (s'.disconnect.1 = .error (.transport e) ∧ s'.disconnect.2.connected = true) ∧
    (s'.connected = true ∧ s'.connect = (.ok (), s') ∧ s'.contacts [.connect] = []) ∧
    (s.connected = false ∧ s.disconnect = (.ok (), s) ∧ s.contacts [.disconnect] = []) := by
  intro e t s s'
  obtain ⟨-, -, -, hconnect, -, -, hclosed⟩ := connection_alternates Lamp.profile t []
  obtain ⟨horderly, -, -, -, hdisconnect, hopen, -⟩ :=
    connection_alternates Lamp.profile t [.connect, .connect]
  exact ⟨horderly, ⟨rfl, hconnect _ rfl⟩, ⟨rfl, hdisconnect _ rfl⟩, ⟨rfl, hopen rfl⟩,
    ⟨rfl, hclosed rfl⟩⟩

end Instrument
