/-
# Connections in isolation

Nothing that came over one link becomes part of a reply over another (`connection_isolated`).  What
was read past the end of a reply begins the next one, so it has to be forgotten with the link it came
over: by everything that takes a link away or puts one in place, and after a failure as well.

What came over the link in use is counted from the moment it was put in place: a request takes
octets off its line (`Channel.arrivals`), and what the requests since then have taken is what was
received (`Channel.received`).  The invariant is that what the reader holds is an end of it
(`Isolated`).
-/
import Instrument.Proofs.Transport.Channel

namespace Instrument

namespace Channel

/-! ## What was received -/

/-- The octets that a request takes off the line: those still to come once the command is out, and no
more once the request is over. -/
def arrivals (c : Channel) (command : String) : List UInt8 :=
  let coming := (c.write command).2.unread
  coming.take (coming.length - (c.request command).2.unread.length)

/-- A channel and what was received over its link, after a move. -/
def receive (s : Channel × List UInt8) (move : Move) : Channel × List UInt8 :=
  (s.1.perform move,
    match move with
    | .connect => if s.1.link.isSome then s.2 else []
    | .attach _ => []
    | .disconnect => []
    | .send _ => s.2
    | .request command => s.2 ++ s.1.arrivals command)

/-- What is received, while moves are made, over the link that is in use at their end. -/
def received (c : Channel) (moves : List Move) : List UInt8 := (moves.foldl receive (c, [])).2

variable {c c₀ : Channel} {command : String}

theorem arrivals_eq {taken : List UInt8}
    (h : (c.write command).2.unread = taken ++ (c.request command).2.unread) :
    c.arrivals command = taken := by
  simp [arrivals, h]

/-- What a request is made of: it reads what the reader held and what it takes off the line. -/
structure Draws (c : Channel) (command : String) : Prop where
  unread : (c.write command).2.unread = c.arrivals command ++ (c.request command).2.unread
  rest : ∃ pending link, (c.request command).2 =
    { c with reader := { c.reader with pending }, link } ∧
      pending <:+ c.reader.pending ++ c.arrivals command
  ok : ∀ reply, (c.request command).1 = .ok reply → ∃ octets,
    reply = .text (Reader.textOf octets) ∧ octets <:+: c.reader.pending ++ c.arrivals command

theorem draws (hs : c.reader.strategy.Proper) (command : String) : c.Draws command := by
  cases hwrite : (c.write command).1 with
  | error e =>
    have hrequest := request_of_unwritten hwrite
    have harrivals : c.arrivals command = [] := arrivals_eq (by rw [hrequest, List.nil_append])
    obtain ⟨link, hrest, -⟩ := c.exists_write command
    refine ⟨?_, ⟨c.reader.pending, link, ?_, ?_⟩, fun reply h => ?_⟩
    · rw [hrequest, harrivals, List.nil_append]
    · rw [hrequest, hrest]
    · rw [harrivals, List.append_nil]
    · rw [hrequest] at h
      cases h
  | ok l =>
    have hrequest := request_of_written hwrite
    obtain ⟨taken, hline, hpending, hok⟩ := Reader.exists_takes hs c.endpoint l.line
    have hunread : (c.write command).2.unread = taken ++ (c.request command).2.unread := by
      rw [unread_of_written hwrite, hrequest]
      exact hline
    have harrivals := arrivals_eq hunread
    refine ⟨by rwa [harrivals], ⟨_, _, by rw [hrequest], by rwa [harrivals]⟩, fun reply h => ?_⟩
    rw [hrequest] at h
    obtain ⟨text, htext, rfl⟩ := map_eq_ok_iff.1 h
    obtain ⟨octets, hoctets, rfl⟩ := map_eq_ok_iff.1 htext
    rw [harrivals]
    exact ⟨octets, rfl, hok octets hoctets⟩

/-! ## The invariant -/

/-- What a channel is apart from its link and what came over it. -/
def bare (c : Channel) : Channel :=
  { c with reader := c.reader.clear, link := none, openings := [] }

theorem eq_of_bare_eq (h : c.bare = c₀.bare) (hpending : c.reader.pending = c₀.reader.pending) :
    c = { c₀ with link := c.link, openings := c.openings } := by
  obtain ⟨kind, endpoint, terminator, ⟨strategy, timeout, pending⟩, link, openings, refusal⟩ := c
  obtain ⟨kind₀, endpoint₀, terminator₀, ⟨strategy₀, timeout₀, pending₀⟩, link₀, openings₀,
    refusal₀⟩ := c₀
  obtain rfl : pending = pending₀ := hpending
  cases h
  rfl

/-- Nothing but what came over the link is left of what came over links. -/
structure Isolated (c₀ c : Channel) (received : List UInt8) : Prop where
  bare : c.bare = c₀.bare
  empty : c.link = none → c.reader.pending = []
  held : c.reader.pending <:+ received

variable {received : List UInt8}

theorem Isolated.strategy (h : Isolated c₀ c received) :
    c.reader.strategy = c₀.reader.strategy := by
  have hstrategy := congrArg (·.reader.strategy) h.bare
  exact hstrategy

theorem Isolated.attach (h : Isolated c₀ c received)
    (openings : List (Except TransportFault Link)) (l : Link) :
    Isolated c₀ (attach { c with openings } l) [] :=
  ⟨h.bare, nofun, List.suffix_rfl⟩

theorem Isolated.connect (h : Isolated c₀ c received) :
    Isolated c₀ c.connect.2 (if c.link.isSome then received else []) := by
  rcases c.connect_cases with ⟨hlink, hconnect⟩ | ⟨hlink, e, hconnect⟩ | ⟨hlink, l, hconnect⟩
  · rw [hconnect, if_pos hlink]
    exact h
  · rw [hconnect, hlink]
    exact ⟨h.bare, fun _ => h.empty hlink, h.empty hlink ▸ List.nil_suffix⟩
  · rw [hconnect, hlink]
    exact h.attach _ l

theorem Isolated.disconnect (h : Isolated c₀ c received) : Isolated c₀ c.disconnect.2 [] := by
  cases hlink : c.link with
  | none =>
    rw [disconnect_of_no_link hlink]
    exact ⟨h.bare, h.empty, h.empty hlink ▸ List.suffix_rfl⟩
  | some l =>
    rw [disconnect_of_link hlink]
    exact ⟨h.bare, fun _ => rfl, List.suffix_rfl⟩

theorem Isolated.send (h : Isolated c₀ c received) (command : String) :
    Isolated c₀ (c.send command).2 received := by
  obtain ⟨link, hwrite, hlink⟩ := c.exists_write command
  rw [send_eq, hwrite]
  refine ⟨h.bare, fun hnone => h.empty ?_, h.held⟩
  rw [show link = none from hnone] at hlink
  exact Option.isSome_eq_false_iff.1 hlink.symm |> Option.isNone_iff_eq_none.1

theorem Isolated.request (h : Isolated c₀ c received) (hs : c.reader.strategy.Proper)
    (command : String) :
    Isolated c₀ (c.request command).2 (received ++ c.arrivals command) := by
  cases hlink : c.link with
  | none =>
    rw [request_of_no_link hlink]
    exact ⟨h.bare, h.empty, h.empty hlink ▸ List.nil_suffix⟩
  | some l =>
    obtain ⟨-, ⟨pending, link, hrequest, hpending⟩, -⟩ := draws hs command
    obtain ⟨before, hreceived⟩ := h.held
    have hsome := c.isSome_link_request command
    rw [hrequest, hlink] at hsome
    rw [hrequest]
    refine ⟨h.bare, fun hnone => ?_, hpending.trans ⟨before, ?_⟩⟩
    · rw [show link = none from hnone] at hsome
      cases hsome
    · rw [← hreceived, List.append_assoc]

/-- **A move keeps connections apart.** -/
theorem Isolated.receive {s : Channel × List UInt8} (h : Isolated c₀ s.1 s.2)
    (hs : c₀.reader.strategy.Proper) (move : Move) :
    Isolated c₀ (receive s move).1 (receive s move).2 := by
  cases move with
  | connect => exact h.connect
  | attach l => exact h.attach s.1.openings l
  | disconnect => exact h.disconnect
  | send command => exact h.send command
  | request command => exact h.request (h.strategy.symm ▸ hs) command

theorem fst_foldl_receive (s : Channel × List UInt8) (moves : List Move) :
    (moves.foldl receive s).1 = s.1.after moves := by
  induction moves generalizing s with
  | nil => rfl
  | cons move moves ih => exact ih (receive s move)

/-- **Moves keep connections apart.** -/
theorem Isolated.foldl_receive {s : Channel × List UInt8} (h : Isolated c₀ s.1 s.2)
    (hs : c₀.reader.strategy.Proper) (moves : List Move) :
    Isolated c₀ (moves.foldl Channel.receive s).1 (moves.foldl Channel.receive s).2 := by
  induction moves generalizing s with
  | nil => exact h
  | cons move moves ih => exact ih (h.receive hs move)

theorem isolated_after (hempty : c₀.reader.pending = []) (hs : c₀.reader.strategy.Proper)
    (moves : List Move) : Isolated c₀ (c₀.after moves) (c₀.received moves) := by
  have hfirst : Isolated c₀ c₀ [] := ⟨rfl, fun _ => hempty, hempty ▸ List.suffix_rfl⟩
  have hlast := Isolated.foldl_receive (s := (c₀, [])) hfirst hs moves
  rwa [fst_foldl_receive] at hlast

/-- What a channel attaches a link to is what it was at first. -/
theorem Isolated.attach_eq (h : Isolated c₀ c received) (hempty : c₀.reader.pending = [])
    (openings : List (Except TransportFault Link)) (l : Link) :
    Channel.attach { c with openings } l = { c₀ with link := some l, openings } :=
  eq_of_bare_eq (c := Channel.attach { c with openings } l) h.bare hempty.symm

end Channel

open Channel

/-- **Every connection is by itself**, with any settings, whatever the devices send, whatever fails and
whatever is asked of the channel.  Without a link nothing is held for a reply.  A link that is put in
place is put in the channel as it was at first, but for the links that are used up.  And the octets
of a reply are some of those, in their order, that were received over the link in use: by requests
since it was put in place, and by this one, which took them off its line. -/
theorem connection_isolated {terminator : Option String} {c₀ : Channel}
    (hunused : Unused terminator c₀) (moves : List Move) :
    let c := c₀.after moves
    (c.link = none → c.reader.pending = []) ∧
    (∀ l, c.attach l = { c₀ with link := some l, openings := c.openings } ∧
      (c.attach l).reader.pending = []) ∧
    (c.link = none → ∀ l, c.connect.2.link = some l →
      c.connect.2 = { c₀ with link := some l, openings := c.openings.tail } ∧
      c.connect.2.reader.pending = []) ∧
    ∀ command,
      (c.write command).2.unread = c.arrivals command ++ (c.request command).2.unread ∧
      ∀ reply, (c.request command).1 = .ok reply → ∃ octets,
        reply = .text (Reader.textOf octets) ∧
        octets <:+: c₀.received moves ++ c.arrivals command := by
  intro c
  have hproper : c₀.reader.strategy.Proper := by
    obtain ⟨length, hstrategy⟩ := hunused.exists_strategy
    rw [hstrategy]
    exact ReadStrategy.proper_ofSettings terminator length
  have h : Isolated c₀ c (c₀.received moves) := isolated_after hunused.pending hproper moves
  refine ⟨h.empty, fun l => ⟨h.attach_eq hunused.pending c.openings l, rfl⟩,
    fun hlink l hl => ?_, fun command => ?_⟩
  · rcases c.connect_cases with ⟨hsome, -⟩ | ⟨-, e, hconnect⟩ | ⟨-, l', hconnect⟩
    · rw [hlink] at hsome
      cases hsome
    · rw [hconnect] at hl
      cases hlink.symm.trans hl
    · rw [hconnect] at hl ⊢
      cases hl
      exact ⟨h.attach_eq hunused.pending c.openings.tail l, rfl⟩
  · obtain ⟨hunread, -, hok⟩ := c.draws (h.strategy.symm ▸ hproper) command
    refine ⟨hunread, fun reply hreply => ?_⟩
    obtain ⟨octets, rfl, before, after, hoctets⟩ := hok reply hreply
    obtain ⟨older, hheld⟩ := h.held
    refine ⟨octets, rfl, older ++ before, after, ?_⟩
    rw [← hheld, List.append_assoc older, List.append_assoc older, List.append_assoc older, hoctets]

/-- A channel to a lamp, which says too much over the first link. -/
def Lamp.channel : Channel :=
  ofSerial line [.ok (.ofDevice [] [[.data [0x41, 0x0A, 0x42]]] []),
    .ok (.ofDevice [] [[.data [0x32, 0x0A]]] [])] (.io .noPort)

/-- A reply with something behind it; over the next link the reply begins with what comes there. -/
theorem connection_isolated_leftover :
    let c := Lamp.channel.after [.connect, .request "ask"]
    let moves : List Move := [.connect, .request "ask", .disconnect, .connect]
    Unused (some "\n") Lamp.channel ∧ c.reader.pending = [0x42] ∧
    (c.disconnect.2.link = none ∧ c.disconnect.2.reader.pending = []) ∧
    ((Lamp.channel.after moves).request "ask").1 = .ok (.text "2") ∧
    ∃ octets, RawReply.text "2" = .text (Reader.textOf octets) ∧
      octets <:+: Lamp.channel.received moves ++ (Lamp.channel.after moves).arrivals "ask" := by
  have hunused : Unused (some "\n") Lamp.channel := .serial Lamp.line _ _
  have hreply : ((Lamp.channel.after [.connect, .request "ask", .disconnect, .connect]).request
      "ask").1 = .ok (.text "2") := rfl
  obtain ⟨hempty, -⟩ := connection_isolated hunused [.connect, .request "ask", .disconnect]
  obtain ⟨-, -, -, hrequest⟩ :=
    connection_isolated hunused [.connect, .request "ask", .disconnect, .connect]
  exact ⟨hunused, rfl, ⟨rfl, hempty rfl⟩, hreply, (hrequest "ask").2 _ hreply⟩

end Instrument
