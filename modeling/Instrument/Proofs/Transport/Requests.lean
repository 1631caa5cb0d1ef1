/-
# Requests of a remote object

A remote object that is reached over JSON-RPC makes requests of two kinds: calls, over the connection
that all of them share, and registrations of a listener, each over a connection that is opened for it
and that the listener keeps if it is answered (`JsonRpc.Registers`).  An exchange is a request with
its outcome and the connection before and after it (`JsonRpc.Exchange`).

Whatever comes of it, a request leaves a line with its own number on the connection, or nothing at all
if it cannot be written (`Exchange.Written`).  Numbers are given out one by one (`exchange_cases`), so
two requests have the same number only when the numbers have gone round (`nodup_id_exchangesOf`).
-/
import Instrument.Proofs.Transport.Peer
import Mathlib.Algebra.Group.Nat.Defs
import Mathlib.Data.List.Nodup

namespace Instrument

/-! ## Messages -/

/-- The number in a message. -/
def numberOf (message : Json) : Option Nat := (message.get? "id").bind (·.asNat?)

theorem Request.numberOf_message (q : Request) : numberOf q.message = some q.id := by
  have hget : q.message.get? "id" = some (.integer q.id) := rfl
  rw [numberOf, hget, Option.bind_some, Json.asNat?, if_pos (Int.natCast_nonneg _),
    Int.toNat_natCast]

/-! ## What a request leaves on its connection -/

/-- A wait reads a line, and what the line is decides whether it goes on. -/
theorem awaitAnswer_succ (endpoint : String) (timeout id fuel left : Nat) (p : Peer) :
    awaitAnswer endpoint timeout id (fuel + 1) left p =
      match (p.readLine left).octets with
      | .error .late => (.error (.timeout timeout), p.afterLine left)
      | .error .ended => (.error (.closed endpoint), p.afterLine left)
      | .error (.failed f) => (.error (.io f), p.afterLine left)
      | .ok octets =>
        match lineMessage octets with
        | .error e => (.error e, p.afterLine left)
        | .ok none =>
          awaitAnswer endpoint timeout id fuel (p.readLine left).left (p.afterLine left)
        | .ok (some message) =>
          match answerTo id message with
          | some result => (result, p.afterLine left)
          | none =>
            awaitAnswer endpoint timeout id fuel (p.readLine left).left (p.afterLine left) := rfl

/-- To wait sends nothing. -/
theorem sent_awaitAnswer (endpoint : String) (timeout id fuel left : Nat) (p : Peer) :
    (awaitAnswer endpoint timeout id fuel left p).2.link.sent = p.link.sent := by
  induction fuel generalizing left p with
  | zero => rfl
  | succ fuel ih =>
    rw [awaitAnswer_succ]
    split
    · rfl
    · rfl
    · rfl
    · split
      · rfl
      · exact ih _ _
      · split
        · rfl
        · exact ih _ _

namespace Peer

variable {p : Peer} {q : Request} {link : Link} (endpoint : String) (timeout : Nat)

theorem ask_of_unwritten {e : TransportFault} (h : p.link.write q.octets = (.error e, link)) :
    p.ask endpoint timeout q = (.error e, { p with link }) := by
  unfold ask
  rw [h]

theorem ask_of_written (h : p.link.write q.octets = (.ok (), link)) :
    p.ask endpoint timeout q =
      awaitAnswer endpoint timeout q.id (octetCount link.line + p.pending.length + 1)
        (ticks timeout) { p with link } := by
  unfold ask
  rw [h]

/-- To ask sends the octets of the request or nothing. -/
theorem sent_ask (p : Peer) (q : Request) (endpoint : String) (timeout : Nat) :
    (p.ask endpoint timeout q).2.link.sent = p.link.sent ++ q.octets ∨
      (p.ask endpoint timeout q).2.link.sent = p.link.sent ∧
        ∃ f, (p.ask endpoint timeout q).1 = .error (.io f) := by
  obtain ⟨-, hwrite⟩ := p.link.write_cases q.octets
  cases hlink : p.link.write q.octets with
  | mk written link =>
    rw [hlink] at hwrite
    rcases hwrite with ⟨rfl, hsent⟩ | ⟨⟨f, rfl⟩, hsent⟩
    · rw [ask_of_written endpoint timeout hlink, sent_awaitAnswer]
      exact .inl hsent
    · rw [ask_of_unwritten endpoint timeout hlink]
      rcases hsent with hsent | hsent
      · exact .inl hsent
      · exact .inr ⟨hsent, f, rfl⟩

end Peer

namespace JsonRpc

/-- A request that was made: its outcome, and the connection before and after. -/
structure Exchange where
  request : Request
  outcome : Except TransportFault Json
  before : Peer
  after : Peer

/-- What a request over a connection comes to. -/
def Exchange.ofAsk (endpoint : String) (timeout : Nat) (p : Peer) (q : Request) : Exchange where
  request := q
  outcome := (p.ask endpoint timeout q).1
  before := p
  after := (p.ask endpoint timeout q).2

/-- What a request sends: a line with a message of its number, or nothing if it is not written. -/
structure Exchange.Written (x : Exchange) : Prop where
  number : numberOf x.request.message = some x.request.id
  sent : x.after.link.sent =
      x.before.link.sent ++ Text.encode (x.request.message.compact ++ "\n").toList ∨
    x.after.link.sent = x.before.link.sent ∧ ∃ f, x.outcome = .error (.io f)

/-- **A request sends its own line or nothing.** -/
theorem Exchange.written_ofAsk (endpoint : String) (timeout : Nat) (p : Peer) (q : Request) :
    (ofAsk endpoint timeout p q).Written where
  number := q.numberOf_message
  sent := by
    simpa only [ofAsk, Request.octets] using p.sent_ask q endpoint timeout

/-! ## Moves -/

/-- What is asked of a remote object that is reached: a call, to listen, or what the listener has
received. -/
inductive Move
  | call (method : String) (args : List Json)
  | listen (identity : Option String) (method : String)
  | poll

/-- The object after a move. -/
def perform (r : JsonRpc) : Move → JsonRpc
  | .call method args => (r.call method args).2
  | .listen identity method => r.listen identity method
  | .poll => r.poll.2

/-- The object after moves. -/
def after (r : JsonRpc) (moves : List Move) : JsonRpc := moves.foldl perform r

/-- The exchange of a move: that of a call is over the connection for calls, and that of a
registration over the one that is opened for the listener. -/
def exchange? (r : JsonRpc) : Move → Option Exchange
  | .call method args => do
    let before ← r.calls
    let after ← (r.call method args).2.calls
    return ⟨(r.request method args).1, (r.call method args).1, before, after⟩
  | .listen identity method => do
    let before ← r.openPeer.1.toOption
    let (outcome, after) ← (r.register identity method).1
    return ⟨(r.request method [.text (identity.getD r.identity)]).1, outcome, before, after⟩
  | .poll => none

/-- The call of a move, if it is one. -/
def call? (r : JsonRpc) : Move → Option Exchange
  | .call method args => r.exchange? (.call method args)
  | .listen _ _ => none
  | .poll => none

/-- The exchanges of a run, in order. -/
def exchangesOf (r : JsonRpc) : List Move → List Exchange
  | [] => []
  | move :: moves => (r.exchange? move).toList ++ (r.perform move).exchangesOf moves

/-- The calls of a run, in order. -/
def callsOf (r : JsonRpc) : List Move → List Exchange
  | [] => []
  | move :: moves => (r.call? move).toList ++ (r.perform move).callsOf moves

/-- What the calls of a run came to, in order. -/
def outcomes (r : JsonRpc) : List Move → List (Except TransportFault Json)
  | [] => []
  | .call method args :: moves =>
    (r.call method args).1 :: (r.perform (.call method args)).outcomes moves
  | move :: moves => (r.perform move).outcomes moves

/-- How a listener is registered: over the next connection, if it can be opened.  The connection is
that of the listener from then on if the request ends with an answer. -/
inductive Registers (r : JsonRpc) (identity : Option String) (method : String) : Prop
  | answered {l : Link} {x : Exchange} {said : Json} : r.openings.head? = some (.ok l) →
      r.exchange? (.listen identity method) = some x → x.before = ⟨l, []⟩ → x.outcome = .ok said →
      (r.listen identity method).listener = some x.after → Registers r identity method
  | refused {l : Link} {x : Exchange} {fault : TransportFault} : r.openings.head? = some (.ok l) →
      r.exchange? (.listen identity method) = some x → x.before = ⟨l, []⟩ →
      x.outcome = .error fault → (r.listen identity method).listener = none →
      Registers r identity method
  | unreached : (∀ l, r.openings.head? ≠ some (.ok l)) →
      r.exchange? (.listen identity method) = none → (r.listen identity method).listener = none →
      Registers r identity method

/-! ### One move -/

variable {r : JsonRpc} {p : Peer}

/-- A call over a connection. -/
theorem call_of_calls (h : r.calls = some p) (method : String) (args : List Json) :
    ∃ x, x = Exchange.ofAsk r.endpoint r.timeout p (r.request method args).1 ∧
      r.exchange? (.call method args) = some x ∧
      r.call method args = (x.outcome, { r with calls := some x.after, nextId := r.nextId + 1 }) := by
  have hcall : r.call method args =
      ((p.ask r.endpoint r.timeout (r.request method args).1).1,
        { r with
          calls := some (p.ask r.endpoint r.timeout (r.request method args).1).2,
          nextId := r.nextId + 1 }) := by
    simp only [call, h, request]
  refine ⟨_, rfl, ?_, ?_⟩
  · simp [exchange?, h, hcall, Exchange.ofAsk]
  · simp only [hcall, Exchange.ofAsk]

theorem call_of_none (h : r.calls = none) (method : String) (args : List Json) :
    r.exchange? (.call method args) = none ∧ r.call method args = (.error .notConnected, r) := by
  constructor
  · simp [exchange?, h]
  · rw [call, h]

/-- A connection is opened if the next opening is one. -/
theorem openPeer_cases (r : JsonRpc) :
    (∃ l, r.openings.head? = some (.ok l) ∧
      r.openPeer = (.ok ⟨l, []⟩, { r with openings := r.openings.tail })) ∨
    (∀ l, r.openings.head? ≠ some (.ok l)) ∧
      ∃ e, r.openPeer = (.error e, { r with openings := r.openings.tail }) := by
  obtain ⟨endpoint, object, timeout, nextId, calls, listener, openings, refusal, identity⟩ := r
  cases openings with
  | nil => exact .inr ⟨by simp, refusal, rfl⟩
  | cons opening openings =>
    cases opening with
    | error e => exact .inr ⟨by simp, e, rfl⟩
    | ok l => exact .inl ⟨l, rfl, rfl⟩

/-- **What registering a listener does**: the request is made over the connection that is opened, and
without one there is none. -/
theorem listen_cases (r : JsonRpc) (identity : Option String) (method : String) :
    (∃ l x, r.openings.head? = some (.ok l) ∧
      x = Exchange.ofAsk r.endpoint r.timeout ⟨l, []⟩
        (r.request method [.text (identity.getD r.identity)]).1 ∧
      r.exchange? (.listen identity method) = some x ∧
      r.listen identity method =
        { r with
          openings := r.openings.tail
          nextId := r.nextId + 1
          listener := x.outcome.toOption.map fun _ => x.after }) ∨
    (∀ l, r.openings.head? ≠ some (.ok l)) ∧ r.exchange? (.listen identity method) = none ∧
      r.listen identity method = { r with openings := r.openings.tail, listener := none } := by
  rcases r.openPeer_cases with ⟨l, hhead, hopen⟩ | ⟨hhead, e, hopen⟩
  · have hregister : r.register identity method =
        (some (Peer.ask ⟨l, []⟩ r.endpoint r.timeout
            (r.request method [.text (identity.getD r.identity)]).1),
          { r with openings := r.openings.tail, nextId := r.nextId + 1 }) := by
      unfold register
      rw [hopen]
      rfl
    refine .inl ⟨l, _, hhead, rfl, ?_, ?_⟩
    · simp [exchange?, hopen, hregister, Exchange.ofAsk, Except.toOption]
    · unfold listen
      rw [hregister, Exchange.ofAsk]
      generalize Peer.ask _ _ _ _ = result
      obtain ⟨outcome, after⟩ := result
      cases outcome <;> rfl
  · have hregister : r.register identity method =
        (none, { r with openings := r.openings.tail }) := by
      unfold register
      rw [hopen]
    refine .inr ⟨hhead, ?_, ?_⟩
    · simp [exchange?, hopen, Except.toOption]
    · unfold listen
      rw [hregister]

/-- **A listener is registered over the connection that is opened for it.** -/
theorem registers (r : JsonRpc) (identity : Option String) (method : String) :
    r.Registers identity method := by
  rcases r.listen_cases identity method with ⟨l, x, hhead, rfl, hexchange, hlisten⟩ |
    ⟨hhead, hexchange, hlisten⟩
  · generalize hx : Exchange.ofAsk r.endpoint r.timeout ⟨l, []⟩ _ = x at hexchange hlisten
    have hbefore : x.before = ⟨l, []⟩ := by
      rw [← hx]
      rfl
    cases houtcome : x.outcome with
    | ok said =>
      refine .answered hhead hexchange hbefore houtcome ?_
      rw [hlisten, houtcome]
      rfl
    | error fault =>
      refine .refused hhead hexchange hbefore houtcome ?_
      rw [hlisten, houtcome]
      rfl
  · refine .unreached hhead hexchange ?_
    rw [hlisten]

/-- To listen and to take in what a listener received leave the connection for calls alone. -/
theorem calls_listen (r : JsonRpc) (identity : Option String) (method : String) :
    (r.listen identity method).calls = r.calls := by
  rcases r.listen_cases identity method with ⟨l, x, -, -, -, hlisten⟩ | ⟨-, -, hlisten⟩
  · rw [hlisten]
  · rw [hlisten]

theorem calls_poll (r : JsonRpc) : r.poll.2.calls = r.calls := by
  unfold poll
  split <;> rfl

/-- **What a move asks of others**: nothing, or one request that has the next number. -/
theorem exchange_cases (r : JsonRpc) (move : Move) :
    r.exchange? move = none ∧ (r.perform move).nextId = r.nextId ∨
      ∃ x, r.exchange? move = some x ∧ x.Written ∧ x.request.id = r.nextId.toNat ∧
        (r.perform move).nextId = r.nextId + 1 := by
  cases move with
  | call method args =>
    cases h : r.calls with
    | none =>
      obtain ⟨hexchange, hcall⟩ := call_of_none h method args
      exact .inl ⟨hexchange, by rw [perform, hcall]⟩
    | some p =>
      obtain ⟨x, rfl, hexchange, hcall⟩ := call_of_calls h method args
      exact .inr ⟨_, hexchange, Exchange.written_ofAsk _ _ _ _, rfl, by rw [perform, hcall]⟩
  | listen identity method =>
    rcases r.listen_cases identity method with ⟨l, x, -, rfl, hexchange, hlisten⟩ |
      ⟨-, hexchange, hlisten⟩
    · exact .inr ⟨_, hexchange, Exchange.written_ofAsk _ _ _ _, rfl, by rw [perform, hlisten]⟩
    · exact .inl ⟨hexchange, by rw [perform, hlisten]⟩
  | poll =>
    refine .inl ⟨rfl, ?_⟩
    show r.poll.2.nextId = r.nextId
    unfold poll
    split <;> rfl

/-! ### Runs -/

/-- Every request of a run sends its own line or nothing. -/
theorem written_of_mem_exchangesOf (r : JsonRpc) (moves : List Move) :
    ∀ x ∈ r.exchangesOf moves, x.Written := by
  induction moves generalizing r with
  | nil =>
    intro x hx
    cases hx
  | cons move moves ih =>
    rw [exchangesOf]
    rcases r.exchange_cases move with ⟨hnone, -⟩ | ⟨x, hsome, hwritten, -⟩
    · rw [hnone]
      exact ih _
    · rw [hsome]
      exact List.forall_mem_cons.2 ⟨hwritten, ih _⟩

/-- The requests of a run have the numbers that follow one another from the next one on. -/
theorem map_id_exchangesOf (r : JsonRpc) (moves : List Move) :
    (r.exchangesOf moves).map (·.request.id) =
      (List.range (r.exchangesOf moves).length).map fun k =>
        (r.nextId + UInt64.ofNat k).toNat := by
  induction moves generalizing r with
  | nil => rfl
  | cons move moves ih =>
    unfold exchangesOf
    rcases r.exchange_cases move with ⟨hnone, hnext⟩ | ⟨x, hsome, -, hid, hnext⟩
    · rw [hnone, Option.toList_none, List.nil_append, ih, hnext]
    · simp only [hsome, Option.toList_some, List.singleton_append, List.map_cons, List.length_cons,
        List.range_succ_eq_map, List.map_map]
      rw [ih, hnext, hid]
      refine congrArg₂ List.cons (by simp) (List.map_congr_left ?_)
      intro k _
      refine congrArg UInt64.toNat ?_
      rw [Nat.succ_eq_add_one, UInt64.ofNat_add, UInt64.add_assoc, UInt64.add_comm 1]
      rfl

/-- **No two requests have one number**, unless there are more of them than numbers. -/
theorem nodup_id_exchangesOf (r : JsonRpc) {moves : List Move}
    (h : (r.exchangesOf moves).length ≤ 2 ^ 64) :
    ((r.exchangesOf moves).map (·.request.id)).Nodup := by
  rw [map_id_exchangesOf]
  refine List.Nodup.map_on ?_ List.nodup_range
  intro j hj k hk heq
  have hj : j < UInt64.size := Nat.lt_of_lt_of_le (List.mem_range.1 hj) h
  have hk : k < UInt64.size := Nat.lt_of_lt_of_le (List.mem_range.1 hk) h
  have hoffset := congrArg UInt64.toNat ((UInt64.add_right_inj _).1 (UInt64.toNat_inj.1 heq))
  rwa [UInt64.toNat_ofNat_of_lt' hj, UInt64.toNat_ofNat_of_lt' hk] at hoffset

/-- The calls are among the exchanges, in their order. -/
theorem callsOf_sublist (r : JsonRpc) (moves : List Move) :
    (r.callsOf moves).Sublist (r.exchangesOf moves) := by
  induction moves generalizing r with
  | nil => exact .slnil
  | cons move moves ih =>
    have hcall : (r.call? move).toList.Sublist (r.exchange? move).toList := by
      cases move with
      | call method args => exact .refl _
      | listen identity method => exact List.nil_sublist _
      | poll => exact .refl _
    exact hcall.append (ih _)

end JsonRpc

end Instrument
