/-
# Channels, move by move

What each operation does to a channel, by the cases in which it does it, and what any sequence of
them leaves (`Channel.after`).  Nothing else about channels is opened in what follows from here.

A read takes octets from the front of the line (`Reader.exists_takes`): what it returns and what it
keeps for the next reply are cut out of what it held before and what it took.
-/
import Instrument.Proofs.Outcome
import Instrument.Proofs.Reader.Framing
import Instrument.Transport.Channel

namespace Instrument

namespace Reader

/-! ## What a read takes -/

/-- A whole reply and what is past its end are cut out of the octets. -/
theorem infix_of_complete? {s : ReadStrategy} (hs : s.Proper) {octets reply pending : List UInt8}
    (h : complete? s octets = some (reply, pending)) : reply <:+: octets ∧ pending <:+ octets := by
  cases s with
  | terminator t =>
    obtain ⟨count, rfl, -, -⟩ := (complete?_terminator_iff hs).1 h
    exact ⟨⟨copies t count, t ++ pending, by simp only [List.append_assoc]⟩,
      List.suffix_append _ pending⟩
  | length n =>
    obtain ⟨rfl, -⟩ := complete?_length_eq_some h
    exact ⟨List.infix_append [] reply pending, List.suffix_append reply pending⟩
  | untilQuiet => cases h

/-- What the outcome of a read is made of: octets taken from the front of the line, behind those held
before. -/
structure Outcome.Takes (o : Outcome) (held : List UInt8) (l : Line) (taken : List UInt8) : Prop where
  line : l.octets = taken ++ o.line.octets
  pending : o.pending <:+ held ++ taken
  ok : ∀ reply, o.reply = .ok reply → reply <:+: held ++ taken

theorem takes_of_stop {r : Reader} {endpoint : String} {octets : List UInt8}
    {fault : TransportFault} {l l' : Line} {elapsed : Nat} (hl : l.octets = l'.octets) :
    (Outcome.mk (r.stop endpoint octets fault) [] l' elapsed).Takes octets l [] := by
  refine ⟨hl, List.nil_suffix, fun reply h => ?_⟩
  unfold stop at h
  split at h
  · split at h
    · cases h
    · cases h
      exact (List.append_nil octets).symm ▸ List.infix_rfl
  · cases h

theorem exists_await_takes {r : Reader} (hs : r.strategy.Proper) (endpoint : String)
    (octets : List UInt8) (left patient : Nat) (l : Line) :
    ∃ taken, (r.await endpoint octets left patient l).Takes octets l taken := by
  induction l generalizing octets left patient with
  | nil => exact ⟨[], takes_of_stop rfl⟩
  | cons e rest ih =>
    cases e with
    | data more =>
      simp only [await]
      split
      · rename_i reply pending hfound
        obtain ⟨hreply, hpending⟩ := infix_of_complete? hs hfound
        refine ⟨more, rfl, hpending, fun reply' h => ?_⟩
        cases h
        exact hreply
      · obtain ⟨taken, hline, hpending, hok⟩ := ih (octets ++ more) left _
        refine ⟨more ++ taken, ?_, ?_, fun reply h => ?_⟩
        · rw [Line.octets_data, hline, List.append_assoc]
        · rwa [← List.append_assoc]
        · rw [← List.append_assoc]
          exact hok reply h
    | wait d =>
      simp only [await]
      split
      · obtain ⟨taken, hline, hpending, hok⟩ := ih octets (left - d) (patient - d)
        exact ⟨taken, hline, hpending, hok⟩
      · exact ⟨[], takes_of_stop rfl⟩
    | close => exact ⟨[], takes_of_stop rfl⟩
    | fail f => exact ⟨[], rfl, List.nil_suffix, fun reply h => by cases h⟩

/-- **A read takes octets from the front of the line**, and makes its reply of these and those it
held. -/
theorem exists_takes {r : Reader} (hs : r.strategy.Proper) (endpoint : String) (l : Line) :
    ∃ taken, (r.readOctets endpoint l).Takes r.pending l taken := by
  unfold readOctets
  split
  · rename_i reply pending hfound
    obtain ⟨hreply, hpending⟩ := infix_of_complete? hs hfound
    refine ⟨[], rfl, by rwa [List.append_nil], fun reply' h => ?_⟩
    cases h
    rwa [List.append_nil]
  · exact exists_await_takes hs endpoint _ _ _ l

end Reader

namespace Channel

variable {c : Channel} {l : Link}

/-! ## What each operation comes to -/

/-- **What a connect does**: nothing if there is a link, and else it opens one or fails to. -/
theorem connect_cases (c : Channel) :
    (c.link.isSome ∧ c.connect = (.ok (), c)) ∨
    (c.link = none ∧ ∃ e, c.connect = (.error e, { c with openings := c.openings.tail })) ∨
    (c.link = none ∧
      ∃ l, c.connect = (.ok (), attach { c with openings := c.openings.tail } l)) := by
  obtain ⟨kind, endpoint, terminator, reader, link, openings, refusal⟩ := c
  cases link with
  | some l => exact .inl ⟨rfl, rfl⟩
  | none =>
    rcases openings with _ | ⟨e | l, rest⟩
    · exact .inr (.inl ⟨rfl, refusal, rfl⟩)
    · exact .inr (.inl ⟨rfl, e, rfl⟩)
    · exact .inr (.inr ⟨rfl, l, rfl⟩)

theorem disconnect_of_no_link (h : c.link = none) : c.disconnect = (.ok (), c) := by
  simp [disconnect, h]

theorem disconnect_of_link (h : c.link = some l) :
    c.disconnect = (.ok (), { c with reader := c.reader.clear, link := none }) := by
  simp [disconnect, h]

/-- A command in octets, as it goes out. -/
def octetsOf (c : Channel) (command : String) : List UInt8 :=
  Text.encode (frame command c.terminator).toList

theorem write_of_no_link (h : c.link = none) (command : String) :
    c.write command = (.error .notConnected, c) := by
  simp [write, h]

theorem write_of_link (h : c.link = some l) (command : String) :
    c.write command = ((l.write (c.octetsOf command)).1.map fun _ => (l.write (c.octetsOf command)).2,
      { c with link := some (l.write (c.octetsOf command)).2 }) := by
  unfold write octetsOf
  rw [h]
  dsimp only
  rcases l.write (Text.encode (frame command c.terminator).toList) with ⟨e | ⟨⟩, l'⟩ <;> rfl

/-- To write a command changes nothing but what is on the link. -/
theorem exists_write (c : Channel) (command : String) :
    ∃ link, (c.write command).2 = { c with link } ∧ link.isSome = c.link.isSome := by
  cases h : c.link with
  | none =>
    rw [write_of_no_link h]
    exact ⟨c.link, rfl, congrArg Option.isSome h⟩
  | some l =>
    rw [write_of_link h]
    exact ⟨_, rfl, rfl⟩

/-- A command that was written went out over the link that there is now. -/
theorem link_of_written {command : String} (h : (c.write command).1 = .ok l) :
    (c.write command).2.link = some l := by
  cases hlink : c.link with
  | none =>
    rw [write_of_no_link hlink] at h
    cases h
  | some l₀ =>
    rw [write_of_link hlink] at h ⊢
    obtain ⟨-, -, rfl⟩ := map_eq_ok_iff.1 h
    rfl

theorem send_eq (c : Channel) (command : String) :
    c.send command = ((c.write command).1.map fun _ => (), (c.write command).2) := rfl

theorem request_of_unwritten {e : TransportFault} {command : String}
    (h : (c.write command).1 = .error e) : c.request command = (.error e, (c.write command).2) := by
  unfold request
  split
  · rename_i hwrite
    rw [hwrite] at h ⊢
    cases h
    rfl
  · rename_i hwrite
    rw [hwrite] at h
    cases h

theorem request_of_no_link (h : c.link = none) (command : String) :
    c.request command = (.error .notConnected, c) := by
  have hwrite := write_of_no_link h command
  rw [request_of_unwritten (congrArg Prod.fst hwrite), hwrite]

theorem request_of_written {command : String} (h : (c.write command).1 = .ok l) :
    c.request command = (((c.reader.readOctets c.endpoint l.line).reply.map Reader.textOf).map .text,
      { c with
        reader := { c.reader with pending := (c.reader.readOctets c.endpoint l.line).pending }
        link := some { l with line := (c.reader.readOctets c.endpoint l.line).line } }) := by
  cases hlink : c.link with
  | none =>
    rw [write_of_no_link hlink] at h
    cases h
  | some l₀ =>
    have hwrite := write_of_link hlink command
    rcases hl : l₀.write (c.octetsOf command) with ⟨e | ⟨⟩, l'⟩
    · rw [hwrite, hl] at h
      cases h
    · rw [hwrite, hl] at h
      cases h
      rw [request, hwrite, hl]
      rfl

/-- Whether there is a link is not for a request to change. -/
theorem isSome_link_request (c : Channel) (command : String) :
    (c.request command).2.link.isSome = c.link.isSome := by
  obtain ⟨link, hwrite, hlink⟩ := c.exists_write command
  cases hr : (c.write command).1 with
  | error e => rw [request_of_unwritten hr, hwrite, ← hlink]
  | ok l =>
    have hl := link_of_written hr
    rw [hwrite] at hl
    rw [request_of_written hr, ← hlink, show link = some l from hl]
    rfl

/-! ## Moves -/

/-- What is asked of a channel. -/
inductive Move
  | connect
  | attach (l : Link)
  | disconnect
  | send (command : String)
  | request (command : String)

/-- The channel after a move. -/
def perform (c : Channel) : Move → Channel
  | .connect => c.connect.2
  | .attach l => c.attach l
  | .disconnect => c.disconnect.2
  | .send command => (c.send command).2
  | .request command => (c.request command).2

/-- The channel after moves. -/
def after (c : Channel) (moves : List Move) : Channel := moves.foldl perform c

theorem after_append (c : Channel) (moves : List Move) (move : Move) :
    c.after (moves ++ [move]) = (c.after moves).perform move := by
  simp [after]

/-- A channel as settings make it, by the terminator of replies in them. -/
inductive Unused : Option String → Channel → Prop
  | stream (settings : StreamSettings) (openings : List (Except TransportFault Link))
      (refusal : TransportFault) :
      Unused settings.responseTerminator (ofStream settings openings refusal)
  | serial (settings : SerialSettings) (openings : List (Except TransportFault Link))
      (refusal : TransportFault) :
      Unused settings.responseTerminator (ofSerial settings openings refusal)

theorem Unused.link {t : Option String} (h : Unused t c) : c.link = none := by
  cases h <;> rfl

theorem Unused.pending {t : Option String} (h : Unused t c) : c.reader.pending = [] := by
  cases h <;> rfl

theorem Unused.exists_strategy {t : Option String} (h : Unused t c) :
    ∃ length, c.reader.strategy = .ofSettings t length := by
  cases h <;> exact ⟨_, rfl⟩

end Channel

/-- The settings of a serial line to a lamp. -/
def Lamp.line : SerialSettings :=
  ⟨"/dev/ttyS0", 9600, 8, 1, .none, 250, "\n", some "\n", none⟩

namespace Channel

variable {c : Channel} {l : Link}

/-! ## What is on the line -/

/-- The octets that are still to come. -/
def unread (c : Channel) : List UInt8 :=
  match c.link with
  | some l => l.line.octets
  | none => []

theorem unread_of_link (h : c.link = some l) : c.unread = l.line.octets := by
  rw [unread, h]

theorem unread_of_written {command : String} (h : (c.write command).1 = .ok l) :
    (c.write command).2.unread = l.line.octets :=
  unread_of_link (link_of_written h)

end Channel

end Instrument
