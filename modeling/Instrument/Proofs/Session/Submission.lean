/-
# What a submission asks of the transport

A submission that is refused asks nothing of the transport and changes nothing.  One that is
accepted asks for one thing: the rendered text with the arguments on the wire, as a request if the
command has a form of good replies or a pattern of bad ones, and otherwise as a command without
reply (`Session.Delivers`).  What it comes to is read off the answer (`submission_contacts`).

Of the three forms in which arguments may be given, texts and lines are the same as the values that
they spell, call by call and in what comes back (`texts_as_values`).
-/
import Instrument.Proofs.Session.Observation
import Instrument.Transport.Script

namespace Instrument

/-! ## Commands with and without replies -/

namespace Command

variable {c : Command}

theorem expectsReply_iff :
    c.expectsReply = true ↔ c.reply.isSome = true ∨ c.failure.isSome = true := Bool.or_eq_true_iff

theorem not_expectsReply_iff :
    c.expectsReply = false ↔ c.reply = none ∧ c.failure = none := by
  simp [expectsReply]

end Command

namespace Session

variable {σ : Type} [Transport σ]

/-- What the transport is asked for an accepted submission, what it comes to, and the transport
afterwards. -/
inductive Delivers (s : Session σ) (name : String) (c : Command) (args : List Argument)
    (text : String) : List Contact → Except SessionFault Response → σ → Prop
  | sent {t : σ} : c.reply = none → c.failure = none →
      Transport.send text args s.transport = (.ok (), t) →
      s.Delivers name c args text [⟨.send text args, true⟩] (.ok .none) t
  | notSent {e : TransportFault} {t : σ} : c.reply = none → c.failure = none →
      Transport.send text args s.transport = (.error e, t) →
      s.Delivers name c args text [⟨.send text args, false⟩] (.error (.transport e)) t
  | answered {reply : String} {t : σ} : c.reply.isSome = true ∨ c.failure.isSome = true →
      Transport.request text args s.transport = (.ok (.text reply), t) →
      s.Delivers name c args text [⟨.request text args, true⟩] (s.profile.readReply name reply) t
  | passed {j : Json} {t : σ} : c.reply.isSome = true ∨ c.failure.isSome = true →
      Transport.request text args s.transport = (.ok (.value j), t) →
      s.Delivers name c args text [⟨.request text args, true⟩] (.ok (.value (.raw j))) t
  | notAnswered {e : TransportFault} {t : σ} : c.reply.isSome = true ∨ c.failure.isSome = true →
      Transport.request text args s.transport = (.error e, t) →
      s.Delivers name c args text [⟨.request text args, false⟩] (.error (.transport e)) t

variable {s : Session σ} {name : String} {given : Given} {c : Command} {args : List Argument}
  {text : String}

/-! ## Contacts of a submission -/

theorem contacts_submit (s : Session σ) (name : String) (given : Given) :
    s.contacts [.submit name given] = (s.observed.give name given).2.transport.contacts := rfl

theorem contacts_of_refuses {e : SessionFault} (h : s.Refuses name given e) :
    s.contacts [.submit name given] = [] := by
  rw [contacts_submit, give_of_refuses (s := s.observed) (h.over _)]
  rfl

theorem contacts_of_send (h : s.Accepts name given c args text) (hc : c.expectsReply = false) :
    s.contacts [.submit name given] =
      [⟨.send text args, (Transport.send text args s.transport).1.isOk⟩] := by
  rw [contacts_submit, give_of_accepts (s := s.observed) (h.over _),
    transmit_of_not_expectsReply hc]
  rfl

theorem contacts_of_request (h : s.Accepts name given c args text) (hc : c.expectsReply = true) :
    s.contacts [.submit name given] =
      [⟨.request text args, (Transport.request text args s.transport).1.isOk⟩] := by
  rw [contacts_submit, give_of_accepts (s := s.observed) (h.over _), transmit_of_expectsReply hc]
  rfl

/-! ## Texts and values -/

theorem contacts_congr {given' : Given}
    (h : ∀ c, s.profile.command? name = some c → given.onWire c = given'.onWire c) :
    s.contacts [.submit name given] = s.contacts [.submit name given'] := by
  rw [contacts_submit, contacts_submit, give_congr (s := s.observed) h]

/-! ## What it comes to -/

/-- A text that comes back is read as a reply to the command. -/
theorem responseOf_text {p : Profile} (hc : p.command? name = some c) (reply : String) :
    responseOf p c (.text reply) = p.readReply name reply := by
  simp only [responseOf, Profile.readReply, Profile.command, hc]
  rfl

/-- **An accepted submission is delivered.** -/
theorem exists_delivers (h : s.Accepts name given c args text) :
    ∃ t, s.Delivers name c args text (s.contacts [.submit name given]) (s.give name given).1 t ∧
      (s.give name given).2 = { s with transport := t } := by
  rw [give_of_accepts h]
  cases hc : c.expectsReply with
  | false =>
    obtain ⟨hreply, hfailure⟩ := Command.not_expectsReply_iff.1 hc
    rw [contacts_of_send h hc, transmit_of_not_expectsReply hc]
    cases hr : Transport.send text args s.transport with
    | mk outcome t =>
      cases outcome with
      | ok u => exact ⟨t, .sent hreply hfailure hr, rfl⟩
      | error e => exact ⟨t, .notSent hreply hfailure hr, rfl⟩
  | true =>
    have hreplies := Command.expectsReply_iff.1 hc
    rw [contacts_of_request h hc, transmit_of_expectsReply hc]
    cases hr : Transport.request text args s.transport with
    | mk outcome t =>
      cases outcome with
      | ok raw =>
        cases raw with
        | text reply =>
          have hdelivers : s.Delivers name c args text [⟨.request text args, true⟩]
              (s.profile.readReply name reply) t := .answered hreplies hr
          rw [← responseOf_text h.found reply] at hdelivers
          exact ⟨t, hdelivers, rfl⟩
        | value j => exact ⟨t, .passed hreplies hr, rfl⟩
      | error e => exact ⟨t, .notAnswered hreplies hr, rfl⟩

/-- The fault of a reply is none of those for which a submission is refused. -/
theorem exists_of_readReply_eq_error {p : Profile} (hc : p.command? name = some c) {reply : String}
    {e : SessionFault} (h : p.readReply name reply = .error e) : ∃ r, e = .ofReply r := by
  rw [← responseOf_text hc reply, responseOf] at h
  cases hr : c.readReply reply p.marker with
  | error r =>
    rw [hr] at h
    cases h
    exact ⟨r, rfl⟩
  | ok response =>
    rw [hr] at h
    cases h

/-- A submission that fails for want of a connection or of the command was refused. -/
theorem refuses_of_give {n : String} (h : (s.give name given).1 = .error (.notConnected n) ∨
    (s.give name given).1 = .error (.unknownCommand n)) : ∃ e, s.Refuses name given e := by
  rcases s.refuses_or_accepts name given with hrefuses | ⟨c, args, text, haccepts⟩
  · exact hrefuses
  · exfalso
    obtain ⟨t, hdelivers, -⟩ := exists_delivers haccepts
    generalize (s.give name given).1 = outcome at h hdelivers
    generalize s.contacts [.submit name given] = contacts at hdelivers
    cases hdelivers with
    | answered =>
      rcases h with h | h
      all_goals
        obtain ⟨r, hr⟩ := exists_of_readReply_eq_error haccepts.found h
        cases r <;> cases hr
    | sent | notSent | passed | notAnswered => rcases h with h | h <;> cases h

end Session

open Session

/-- **A submission asks the transport for nothing or for one thing.**  Refused, for want of a
connection, of the command or of its arguments, it asks for nothing and changes nothing.  Otherwise
it asks once, for the text rendered and the arguments on the wire, and comes to what the answer
says.  Connection and profile stay as they are. -/
theorem submission_contacts {σ : Type} [Transport σ] (s : Session σ) (name : String)
    (given : Given) :
    (∀ e, s.Refuses name given e →
      s.give name given = (.error e, s) ∧ s.contacts [.submit name given] = []) ∧
    ((∀ e, ¬ s.Refuses name given e) → ∃ c args text t, s.Accepts name given c args text ∧
      s.Delivers name c args text (s.contacts [.submit name given]) (s.give name given).1 t ∧
      (s.give name given).2 = { s with transport := t }) ∧
    (∀ n, (s.give name given).1 = .error (.notConnected n) ∨
      (s.give name given).1 = .error (.unknownCommand n) → ∃ e, s.Refuses name given e) ∧
    (s.give name given).2.connected = s.connected ∧
    (s.give name given).2.profile = s.profile := by
  refine ⟨fun e h => ⟨give_of_refuses h, contacts_of_refuses h⟩, fun hnot => ?_,
    fun n => refuses_of_give, ?_⟩
  · rcases s.refuses_or_accepts name given with ⟨e, h⟩ | ⟨c, args, text, h⟩
    · exact absurd h (hnot e)
    · obtain ⟨t, hdelivers, hafter⟩ := exists_delivers h
      exact ⟨c, args, text, t, h, hdelivers, hafter⟩
  · rcases s.refuses_or_accepts name given with ⟨e, h⟩ | ⟨c, args, text, h⟩
    · rw [give_of_refuses h]
      exact ⟨rfl, rfl⟩
    · obtain ⟨t, -, hafter⟩ := exists_delivers h
      rw [hafter]
      exact ⟨rfl, rfl⟩

/-- The lamp has no mode `hot` and no command `dim`, but it can be set to `warm`. -/
theorem submission_contacts_lamp :
    let s : Session ScriptedTransport := ⟨Lamp.profile, ⟨[], [], [], true, []⟩, true⟩
    let hot : Given := .line "7, hot"
    let warm : Given := .texts ["+7", "warm"]
    let e : SessionFault := .parameter (.outOfRange "mode" "hot" "warm,cold")
    (s.Refuses "set" hot e ∧
      s.give "set" hot = (.error e, s) ∧ s.contacts [.submit "set" hot] = []) ∧
    ((∀ e, ¬ s.Refuses "set" warm e) ∧
      ∃ c args text t, s.Accepts "set" warm c args text ∧
        s.Delivers "set" c args text (s.contacts [.submit "set" warm]) (s.give "set" warm).1 t ∧
        (s.give "set" warm).2 = { s with transport := t }) ∧
    (s.give "dim" warm).1 = .error (.unknownCommand "dim") ∧ ∃ e, s.Refuses "dim" warm e := by
  intro s hot warm e
  have hwire : hot.onWire Lamp.set = .error (.outOfRange "mode" "hot" "warm,cold") := rfl
  have hhot : s.Refuses "set" hot e := .argument rfl rfl hwire (Given.rejects_of_onWire hwire)
  have hset : s.Accepts "set" warm Lamp.set [⟨.int 7, "7"⟩, ⟨.text "warm", "warm"⟩] "SET 7 warm" :=
    ⟨rfl, rfl, rfl, rfl⟩
  have hdim : (s.give "dim" warm).1 = .error (.unknownCommand "dim") := rfl
  exact ⟨⟨hhot, (submission_contacts s "set" hot).1 e hhot⟩,
    ⟨hset.not_refuses, (submission_contacts s "set" warm).2.1 hset.not_refuses⟩,
    hdim, (submission_contacts s "dim" warm).2.2.1 "dim" (.inr hdim)⟩

/-- **Texts are submitted as the values that they spell.**  A parameter decodes a text as it encodes
the value that it reads in it, with the same fault if there is one.  So texts that spell values for
the parameters in their places come to what the values come to, in the outcome, in the session
afterwards and in what the transport is asked for; and a line comes to what its pieces come to. -/
theorem texts_as_values :
    (∀ (p : Parameter) (text : String), p.decode text = p.readValue text >>= p.encode) ∧
    ∀ {σ : Type} [Transport σ] (s : Session σ) (name : String),
      (∀ (texts : List String) (values : List Value), texts.length = values.length →
        (∀ c, s.profile.command? name = some c → Command.Spelled c.parameters texts values) →
        s.submitTexts name texts = s.submit name values ∧
        s.contacts [.submit name (.texts texts)] = s.contacts [.submit name (.values values)]) ∧
      ∀ line : String,
        s.submitLine name line = s.submitTexts name (Command.splitArguments line) ∧
        s.contacts [.submit name (.line line)] =
          s.contacts [.submit name (.texts (Command.splitArguments line))] := by
  refine ⟨Parameter.decode_eq_bind_encode, fun s name => ⟨fun texts values hlen hspelled => ?_,
    fun line => ⟨rfl, rfl⟩⟩⟩
  have hwire : ∀ c, s.profile.command? name = some c →
      (Given.texts texts).onWire c = (Given.values values).onWire c :=
    fun c hc => Command.decode_of_spelled hlen (hspelled c hc)
  exact ⟨give_congr hwire, contacts_congr hwire⟩

/-- To set the lamp to `+7` and `warm` is to set it to 7 and to warm. -/
theorem texts_as_values_lamp :
    let s : Session ScriptedTransport := ⟨Lamp.profile, ⟨[], [], [], true, []⟩, true⟩
    let texts := ["+7", "warm"]
    let values : List Value := [.int 7, .text "warm"]
    (texts.length = values.length ∧
      ∀ c, s.profile.command? "set" = some c → Command.Spelled c.parameters texts values) ∧
    s.submitTexts "set" texts = s.submit "set" values ∧
    s.contacts [.submit "set" (.texts texts)] = s.contacts [.submit "set" (.values values)] := by
  intro s texts values
  have hspelled : ∀ c, s.profile.command? "set" = some c →
      Command.Spelled c.parameters texts values := by
    intro c hc
    obtain rfl : Lamp.set = c := Option.some.inj hc
    rintro (_ | _ | i) p text v hp htext hv <;> cases hp
    all_goals
      cases htext
      cases hv
      rfl
  exact ⟨⟨rfl, hspelled⟩, (texts_as_values.2 s "set").1 texts values rfl hspelled⟩

end Instrument
