/-
# Operations of sessions

What a caller does with a session: connect, disconnect, and submit a command with its arguments in
any form, as often and in any order (`Session.run`).

A submission is refused or accepted.  It is refused for the first of three reasons: the session is
not connected, there is no such command, or the arguments are not those of the command
(`Session.Refuses`); then nothing is sent and the session is as it was (`give_of_refuses`).  If
there is no such reason there is a text to send (`Session.Accepts`), and the session transmits it
(`give_of_accepts`).
-/
import Instrument.Proofs.Command.Arguments
import Instrument.Session

namespace Instrument

/-- An operation on a session. -/
inductive Operation
  | connect
  | disconnect
  | submit (name : String) (given : Given)

namespace Session

variable {σ : Type}

/-! ## Refused or accepted -/

/-- Why a submission is refused. -/
inductive Refuses (s : Session σ) (name : String) (given : Given) : SessionFault → Prop
  | notConnected : s.connected = false → s.Refuses name given (.notConnected s.profile.name)
  | unknownCommand : s.connected = true → s.profile.command? name = none →
      s.Refuses name given (.unknownCommand name)
  | argument {c : Command} {e : ParameterFault} : s.connected = true →
      s.profile.command? name = some c → given.onWire c = .error e → c.Rejects e →
      s.Refuses name given (.parameter e)

/-- The command of a submission that is accepted, its arguments on the wire and the text to send. -/
structure Accepts (s : Session σ) (name : String) (given : Given) (c : Command)
    (args : List Argument) (text : String) : Prop where
  connected : s.connected = true
  found : s.profile.command? name = some c
  onWire : given.onWire c = .ok args
  rendered : c.render args = .ok text

variable {s : Session σ} {name : String} {given : Given}

theorem Accepts.not_refuses {c : Command} {args : List Argument} {text : String}
    (h : s.Accepts name given c args text) (e : SessionFault) : ¬ s.Refuses name given e := by
  rintro (hs | ⟨-, hc⟩ | ⟨-, hc, he, -⟩)
  · rw [h.connected] at hs
    cases hs
  · rw [h.found] at hc
    cases hc
  · rw [h.found] at hc
    cases hc
    rw [h.onWire] at he
    cases he

/-- Whether a submission is refused has nothing to do with the transport. -/
theorem Refuses.over {τ : Type} {e : SessionFault} (h : s.Refuses name given e) (t : τ) :
    Refuses ⟨s.profile, t, s.connected⟩ name given e := by
  cases h with
  | notConnected hs => exact .notConnected hs
  | unknownCommand hs hc => exact .unknownCommand hs hc
  | argument hs hc he hrejects => exact .argument hs hc he hrejects

theorem Accepts.over {τ : Type} {c : Command} {args : List Argument} {text : String}
    (h : s.Accepts name given c args text) (t : τ) :
    Accepts ⟨s.profile, t, s.connected⟩ name given c args text :=
  ⟨h.connected, h.found, h.onWire, h.rendered⟩

/-- **A submission is refused or accepted.** -/
theorem refuses_or_accepts (s : Session σ) (name : String) (given : Given) :
    (∃ e, s.Refuses name given e) ∨ ∃ c args text, s.Accepts name given c args text := by
  cases hs : s.connected with
  | false => exact .inl ⟨_, .notConnected hs⟩
  | true =>
    cases hc : s.profile.command? name with
    | none => exact .inl ⟨_, .unknownCommand hs hc⟩
    | some c =>
      cases hargs : given.onWire c with
      | error e => exact .inl ⟨_, .argument hs hc hargs (Given.rejects_of_onWire hargs)⟩
      | ok args =>
        have htext := Command.render_of_fits (Given.fits_of_onWire hargs)
        exact .inr ⟨c, args, _, hs, hc, hargs, htext⟩

variable [Transport σ]

/-! ## Operations and runs -/

/-- Submits a command with its arguments in any form. -/
def give (s : Session σ) (name : String) : Given → Except SessionFault Response × Session σ
  | .values vs => s.submit name vs
  | .texts ts => s.submitTexts name ts
  | .line l => s.submitLine name l

/-- Performs an operation.  To connect and to disconnect have no response. -/
def perform (s : Session σ) : Operation → Except SessionFault Response × Session σ
  | .connect => (s.connect.1.map fun _ => .none, s.connect.2)
  | .disconnect => (s.disconnect.1.map fun _ => .none, s.disconnect.2)
  | .submit name given => s.give name given

/-- Performs operations in order: the outcome of each, and the session after all. -/
def run (s : Session σ) : List Operation → List (Except SessionFault Response) × Session σ
  | [] => ([], s)
  | op :: ops =>
    let (outcome, s) := s.perform op
    let (outcomes, s) := run s ops
    (outcome :: outcomes, s)

theorem run_cons (s : Session σ) (op : Operation) (ops : List Operation) :
    s.run (op :: ops) =
      ((s.perform op).1 :: ((s.perform op).2.run ops).1, ((s.perform op).2.run ops).2) := rfl

theorem give_eq_execute (s : Session σ) (name : String) (given : Given) :
    s.give name given = s.execute name given.onWire := by
  cases given <;> rfl

/-- A session tells what it is given apart by nothing but what it comes to on the wire. -/
theorem give_congr {given' : Given}
    (h : ∀ c, s.profile.command? name = some c → given.onWire c = given'.onWire c) :
    s.give name given = s.give name given' := by
  rw [give_eq_execute, give_eq_execute]
  cases hc : s.profile.command? name with
  | none => simp only [execute, Profile.prepare, Profile.command, hc, bind, Except.bind]
  | some c =>
    simp only [execute, Profile.prepare, Profile.command, hc, h c hc, bind, Except.bind]

/-! ## What they come to -/

theorem connect_of_connected (hs : s.connected = true) : s.connect = (.ok (), s) := if_pos hs

theorem disconnect_of_not_connected (hs : s.connected = false) : s.disconnect = (.ok (), s) :=
  if_pos (congrArg not hs)

/-- Whether the session is connected then is whether the transport could connect. -/
theorem connect_of_not_connected (hs : s.connected = false) :
    s.connect = ((Transport.connect s.transport).1.mapError .transport,
      ⟨s.profile, (Transport.connect s.transport).2, (Transport.connect s.transport).1.isOk⟩) := by
  rw [connect, hs]
  cases hr : Transport.connect s.transport with
  | mk outcome t => cases outcome <;> rfl

/-- Whether the session is still connected then is whether the transport could not disconnect. -/
theorem disconnect_of_connected (hs : s.connected = true) :
    s.disconnect = ((Transport.disconnect s.transport).1.mapError .transport,
      ⟨s.profile, (Transport.disconnect s.transport).2,
        !(Transport.disconnect s.transport).1.isOk⟩) := by
  rw [disconnect, hs]
  cases hr : Transport.disconnect s.transport with
  | mk outcome t => cases outcome <;> rfl

theorem transmit_of_not_expectsReply {m : Submission} (hm : m.command.expectsReply = false) :
    s.transmit m =
      (((Transport.send m.text m.args s.transport).1.mapError .transport).map fun _ => .none,
        { s with transport := (Transport.send m.text m.args s.transport).2 }) := by
  rw [transmit, hm]
  cases hr : Transport.send m.text m.args s.transport with
  | mk outcome t => cases outcome <;> rfl

theorem transmit_of_expectsReply {m : Submission} (hm : m.command.expectsReply = true) :
    s.transmit m =
      ((Transport.request m.text m.args s.transport).1.mapError .transport >>=
          responseOf s.profile m.command,
        { s with transport := (Transport.request m.text m.args s.transport).2 }) := by
  rw [transmit, hm]
  cases hr : Transport.request m.text m.args s.transport with
  | mk outcome t => cases outcome <;> rfl

theorem give_of_refuses {e : SessionFault} (h : s.Refuses name given e) :
    s.give name given = (.error e, s) := by
  rw [give_eq_execute]
  cases h with
  | notConnected hs => simp only [execute, hs, Bool.not_false, if_true]
  | unknownCommand hs hc =>
    simp only [execute, hs, Profile.prepare, Profile.command, hc, bind, Except.bind]
    rfl
  | argument hs hc he _ =>
    simp only [execute, hs, Profile.prepare, Profile.command, hc, he, bind, Except.bind]
    rfl

theorem give_of_accepts {c : Command} {args : List Argument} {text : String}
    (h : s.Accepts name given c args text) : s.give name given = s.transmit ⟨c, args, text⟩ := by
  rw [give_eq_execute]
  simp only [execute, h.connected, Profile.prepare, Profile.command, h.found, h.onWire,
    h.rendered, Except.mapError, bind, Except.bind]
  rfl

end Session

/-! ## A lamp

A small instrument: one command sets it, and one asks for its mode. -/

namespace Lamp

/-- How bright the lamp is. -/
def level : Parameter := .plain "level" .int none

/-- The colour of its light. -/
def mode : Parameter :=
  { Parameter.plain "mode" .token none with
    range := some ⟨"warm,cold", .list ["warm", "cold"]⟩
    range_suits := rfl }

/-- Sets both; there is no reply. -/
def set : Command := ⟨"set", none, .ofText "SET (level) (mode)", [level, mode], none, none, none⟩

open Pattern in
/-- What it replies: its mode, as the longest word that follows. -/
def reply : ReplyForm where
  template := .ofText "M=(mode)"
  parameters := [mode]
  expression :=
    ⟨"M=((?:\\S+))", seqs [.char (.one 'M'), .char (.one '='),
      .group 1 (.plus (.char (.outside .blank)) true)]⟩

/-- Asks for the mode. -/
def ask : Command := ⟨"ask", none, .ofText "MODE?", [], some reply, none, none⟩

/-- The lamp. -/
def profile : Profile where
  name := "lamp"
  description := none
  connection := .stream ⟨"127.0.0.1", 9, 250, "\n", none, none⟩
  failure := none
  givenMarker := none
  registry := .empty
  parameters := [level, mode]
  commands := [ask, set]

end Lamp

end Instrument
