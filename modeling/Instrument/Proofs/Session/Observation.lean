/-
# Sessions under observation

What a session asks of its transport shows only in what the transport does.  `Observed` makes it
visible for any transport: it does what the transport in it does, and writes down every call and
whether it succeeded.  A session does not notice the difference (`unobserved_run`), so the record of
a run over the observed transport is that of the run itself (`Session.contacts`).

`Step` says all that one operation can do to a session under observation, with the guard under which
it does it: nothing, or one call and a change of the connection that goes with its success.  What is
to be proved of runs follows from it by induction.
-/
import Instrument.Proofs.Session.Operation

namespace Instrument

/-- What a transport is asked for. -/
inductive Call
  | connect
  | disconnect
  | send (text : String) (args : List Argument)
  | request (text : String) (args : List Argument)

/-- The call that transmits a command. -/
def Command.call (c : Command) (args : List Argument) (text : String) : Call :=
  if c.expectsReply then .request text args else .send text args

/-- A call and whether it succeeded. -/
structure Contact where
  call : Call
  succeeded : Bool

/-- A transport and what it was asked for so far. -/
structure Observed (σ : Type) where
  transport : σ
  contacts : List Contact

variable {σ : Type}

namespace Observed

/-- The transport in a later state, after another call. -/
def after (o : Observed σ) (t : σ) (contact : Contact) : Observed σ := ⟨t, o.contacts ++ [contact]⟩

/-- Writes down a call and what came of it. -/
def note (o : Observed σ) (call : Call) (r : Except TransportFault α × σ) :
    Except TransportFault α × Observed σ :=
  (r.1, o.after r.2 ⟨call, r.1.isOk⟩)

instance [Transport σ] : Transport (Observed σ) where
  kind o := Transport.kind o.transport
  endpoint o := Transport.endpoint o.transport
  isConnected o := Transport.isConnected o.transport
  hasNotifications o := Transport.hasNotifications o.transport
  connect o := o.note .connect (Transport.connect o.transport)
  disconnect o := o.note .disconnect (Transport.disconnect o.transport)
  send text args o := o.note (.send text args) (Transport.send text args o.transport)
  request text args o := o.note (.request text args) (Transport.request text args o.transport)

end Observed

namespace Session

/-- The session over the observed transport, of which nothing was asked yet. -/
def observed (s : Session σ) : Session (Observed σ) := ⟨s.profile, ⟨s.transport, []⟩, s.connected⟩

/-- The session over the transport itself. -/
def unobserved (s : Session (Observed σ)) : Session σ :=
  ⟨s.profile, s.transport.transport, s.connected⟩

variable [Transport σ]

/-- What a session asks of its transport while operations are performed. -/
def contacts (s : Session σ) (ops : List Operation) : List Contact :=
  (s.observed.run ops).2.transport.contacts

/-! ## Observing changes nothing -/

section Unobserved

variable (s : Session (Observed σ))

theorem unobserved_connect :
    s.unobserved.connect = (s.connect.1, s.connect.2.unobserved) := by
  cases hs : s.connected with
  | true => rw [connect_of_connected hs, connect_of_connected (s := s.unobserved) hs]
  | false =>
    rw [connect_of_not_connected hs, connect_of_not_connected (s := s.unobserved) hs]
    rfl

theorem unobserved_disconnect :
    s.unobserved.disconnect = (s.disconnect.1, s.disconnect.2.unobserved) := by
  cases hs : s.connected with
  | true =>
    rw [disconnect_of_connected hs, disconnect_of_connected (s := s.unobserved) hs]
    rfl
  | false => rw [disconnect_of_not_connected hs, disconnect_of_not_connected (s := s.unobserved) hs]

theorem unobserved_transmit (m : Submission) :
    s.unobserved.transmit m = ((s.transmit m).1, (s.transmit m).2.unobserved) := by
  cases hm : m.command.expectsReply with
  | true =>
    rw [transmit_of_expectsReply hm, transmit_of_expectsReply hm]
    rfl
  | false =>
    rw [transmit_of_not_expectsReply hm, transmit_of_not_expectsReply hm]
    rfl

theorem unobserved_give (name : String) (given : Given) :
    s.unobserved.give name given = ((s.give name given).1, (s.give name given).2.unobserved) := by
  rcases s.refuses_or_accepts name given with ⟨e, h⟩ | ⟨c, args, text, h⟩
  · rw [give_of_refuses h, give_of_refuses (s := s.unobserved) (h.over _)]
  · rw [give_of_accepts h, give_of_accepts (s := s.unobserved) (h.over _), unobserved_transmit]

theorem unobserved_perform (op : Operation) :
    s.unobserved.perform op = ((s.perform op).1, (s.perform op).2.unobserved) := by
  cases op with
  | connect => rw [perform, perform, unobserved_connect]
  | disconnect => rw [perform, perform, unobserved_disconnect]
  | submit name given => exact s.unobserved_give name given

/-- **A run is the same under observation**, in every outcome and in what it leaves behind. -/
theorem unobserved_run (ops : List Operation) :
    s.unobserved.run ops = ((s.run ops).1, (s.run ops).2.unobserved) := by
  induction ops generalizing s with
  | nil => rfl
  | cons op ops ih => rw [run_cons, run_cons, unobserved_perform, ih]

end Unobserved

theorem run_eq_unobserved (s : Session σ) (ops : List Operation) :
    (s.run ops).2 = (s.observed.run ops).2.unobserved :=
  congrArg Prod.snd (s.observed.unobserved_run ops)

/-! ## Steps -/

/-- What an operation does to a session under observation. -/
inductive Step (s : Session (Observed σ)) : Operation → Session (Observed σ) → Prop
  | idle {op : Operation} : s.Step op s
  | connect {t : σ} {succeeded : Bool} : s.connected = false →
      s.Step .connect ⟨s.profile, s.transport.after t ⟨.connect, succeeded⟩, succeeded⟩
  | disconnect {t : σ} {succeeded : Bool} : s.connected = true →
      s.Step .disconnect ⟨s.profile, s.transport.after t ⟨.disconnect, succeeded⟩, !succeeded⟩
  | submit {name : String} {given : Given} {c : Command} {args : List Argument} {text : String}
      {t : σ} {succeeded : Bool} : s.Accepts name given c args text →
      s.Step (.submit name given)
        ⟨s.profile, s.transport.after t ⟨c.call args text, succeeded⟩, s.connected⟩

/-- To transmit is one call. -/
theorem exists_transmit (s : Session (Observed σ)) (m : Submission) :
    ∃ t succeeded, (s.transmit m).2 = ⟨s.profile,
      s.transport.after t ⟨m.command.call m.args m.text, succeeded⟩, s.connected⟩ := by
  cases hm : m.command.expectsReply with
  | true =>
    rw [transmit_of_expectsReply hm, Command.call, if_pos hm]
    exact ⟨_, _, rfl⟩
  | false =>
    rw [transmit_of_not_expectsReply hm, Command.call, hm]
    exact ⟨_, _, rfl⟩

/-- **Every operation makes a step.** -/
theorem step_perform (s : Session (Observed σ)) (op : Operation) : s.Step op (s.perform op).2 := by
  cases op with
  | connect =>
    cases hs : s.connected with
    | true =>
      rw [perform, connect_of_connected hs]
      exact .idle
    | false =>
      rw [perform, connect_of_not_connected hs]
      exact .connect hs
  | disconnect =>
    cases hs : s.connected with
    | true =>
      rw [perform, disconnect_of_connected hs]
      exact .disconnect hs
    | false =>
      rw [perform, disconnect_of_not_connected hs]
      exact .idle
  | submit name given =>
    rw [perform]
    rcases s.refuses_or_accepts name given with ⟨e, h⟩ | ⟨c, args, text, h⟩
    · rw [give_of_refuses h]
      exact .idle
    · obtain ⟨t, succeeded, ht⟩ := s.exists_transmit ⟨c, args, text⟩
      rw [give_of_accepts h, ht]
      exact .submit h

/-- What every step keeps, a run keeps. -/
theorem run_keeps {P : Session (Observed σ) → Prop} {ops : List Operation}
    (hstep : ∀ s s' op, op ∈ ops → s.Step op s' → P s → P s') {s : Session (Observed σ)}
    (h : P s) : P (s.run ops).2 := by
  induction ops generalizing s with
  | nil => exact h
  | cons op ops ih =>
    refine ih (fun s s' o ho => hstep s s' o (List.mem_cons_of_mem op ho)) ?_
    exact hstep _ _ op List.mem_cons_self (s.step_perform op) h

end Session

end Instrument
