/-
# Which message answers which request

A remote object that is reached over JSON-RPC has one connection for all its calls.  Messages come
over it in any order: answers, late answers to calls that gave up, answers given twice, answers to
requests that were never made, notifications, blank lines.  A call takes its outcome from the first
line with the number of its own request, passes over the lines before it, and leaves those behind it
to the calls after it (`calls_answered`).

The record of a run has, of each call, its request, its outcome and the connection before and after
it (`JsonRpc.callsOf`).  A call that waits takes lines off the stream until one of them ends the
wait (`Concludes`, by induction on the fuel of the wait).  Calls follow one another on one stream,
so no line is taken twice.

A wait may end within a line, and then the rest of the line is read as a line of its own.  It cannot
pass for an answer that the line is not, for no tail of a JSON text is an object
(`shows_of_suffix`).
-/
import Instrument.Proofs.Json.Tail
import Instrument.Proofs.Text.Blank
import Instrument.Proofs.Text.Utf8
import Instrument.Proofs.Transport.Requests

namespace Instrument

/-! ## Messages -/

/-- What a message says as an answer: the text of its error, if it has one, or else its result. -/
def saidBy (message : Json) : Except TransportFault Json :=
  match message.get? "error" with
  | some e => .error (.rpc (errorText e))
  | none => .ok ((message.get? "result").getD .null)

theorem answerTo_eq (id : Nat) (message : Json) :
    answerTo id message = if numberOf message = some id then some (saidBy message) else none := by
  unfold answerTo numberOf saidBy
  split
  · cases message.get? "error" <;> rfl
  · rfl

/-- A line that is no answer to a request: it is blank, or its message has another number or none.
-/
def Passes (id : Nat) (line : List UInt8) : Prop :=
  lineMessage line = .ok none ∨
    ∃ message, lineMessage line = .ok (some message) ∧ numberOf message ≠ some id

/-- How a request of a number ends, by the lines that were taken for it. -/
inductive Concludes (id : Nat) : List (List UInt8) → Except TransportFault Json → Prop
  /-- The last line is the answer, and the first line with the number. -/
  | answered {before line message} : (∀ l ∈ before, Passes id l) →
      lineMessage line = .ok (some message) → numberOf message = some id →
      Concludes id (before ++ [line]) (saidBy message)
  /-- The last line cannot be read. -/
  | unreadable {before line fault} : (∀ l ∈ before, Passes id l) →
      lineMessage line = .error fault → Concludes id (before ++ [line]) (.error fault)
  /-- There is no next line, or there was no request. -/
  | stopped {lines fault} : (∀ l ∈ lines, Passes id l) → (∀ text, fault ≠ .rpc text) →
      Concludes id lines (.error fault)

theorem Concludes.cons {id : Nat} {line : List UInt8} {lines : List (List UInt8)}
    {outcome : Except TransportFault Json} (hline : Passes id line)
    (h : Concludes id lines outcome) :
    Concludes id (line :: lines) outcome := by
  cases h with
  | answered hbefore hmessage hid =>
    have h := Concludes.answered (List.forall_mem_cons.2 ⟨hline, hbefore⟩) hmessage hid
    exact h
  | unreadable hbefore hfault =>
    have h := Concludes.unreadable (List.forall_mem_cons.2 ⟨hline, hbefore⟩) hfault
    exact h
  | stopped hlines hfault => exact .stopped (List.forall_mem_cons.2 ⟨hline, hlines⟩) hfault

/-! ## Waiting for an answer -/

/-- What a request of a number takes of the lines ahead: those taken are, in order, the ends of the
first ones ahead. -/
structure Takes (id : Nat) (lines : List (List UInt8)) (p q : Peer)
    (outcome : Except TransportFault Json) (taken used rest : List (List UInt8)) : Prop where
  lines : lines = used ++ rest
  ends : List.Forall₂ (· <:+ ·) taken used
  feeds : ∀ l ∈ taken, lineFeed ∉ l
  ahead : Ahead rest q.stream
  account : ∃ lost, lineFeed ∉ lost ∧ p.stream = lineOctets taken ++ (lost ++ q.stream)
  concludes : Concludes id taken outcome

namespace Takes

variable {id : Nat} {lines taken used rest : List (List UInt8)} {p q r : Peer}
  {outcome : Except TransportFault Json}

/-- There is nothing to take. -/
theorem none (h : Ahead lines q.stream) {lost : List UInt8} (hlost : lineFeed ∉ lost)
    (hstream : p.stream = lost ++ q.stream) {fault : TransportFault}
    (hfault : ∀ text, fault ≠ .rpc text) : Takes id lines p q (.error fault) [] [] lines where
  lines := rfl
  ends := .nil
  feeds := fun _ hl => absurd hl List.not_mem_nil
  ahead := h
  account := ⟨lost, hlost, hstream⟩
  concludes := .stopped (fun _ hl => absurd hl List.not_mem_nil) hfault

/-- A line that ends the wait. -/
theorem last {line octets : List UInt8} (hstream : p.stream = octets ++ lineFeed :: q.stream)
    (hnot : lineFeed ∉ octets) (hend : octets <:+ line) (h : Ahead rest q.stream)
    (hconcludes : Concludes id [octets] outcome) :
    Takes id (line :: rest) p q outcome [octets] [line] rest where
  lines := rfl
  ends := .cons hend .nil
  feeds := List.forall_mem_singleton.2 hnot
  ahead := h
  account := ⟨[], List.not_mem_nil, by simpa [lineOctets] using hstream⟩
  concludes := hconcludes

/-- A line that is passed over. -/
theorem cons {line octets : List UInt8} (hstream : p.stream = octets ++ lineFeed :: q.stream)
    (hnot : lineFeed ∉ octets) (hend : octets <:+ line) (hpasses : Passes id octets)
    (h : Takes id lines q r outcome taken used rest) :
    Takes id (line :: lines) p r outcome (octets :: taken) (line :: used) rest where
  lines := congrArg (line :: ·) h.lines
  ends := .cons hend h.ends
  feeds := List.forall_mem_cons.2 ⟨hnot, h.feeds⟩
  ahead := h.ahead
  account := by
    obtain ⟨lost, hlost, hq⟩ := h.account
    refine ⟨lost, hlost, ?_⟩
    rw [hstream, hq]
    simp [lineOctets]
  concludes := h.concludes.cons hpasses

end Takes

/-- **What a wait takes**, line by line. -/
theorem exists_takes_awaitAnswer (endpoint : String) (timeout id fuel left : Nat) {p : Peer}
    {lines : List (List UInt8)} (h : Ahead lines p.stream) (hlines : ∀ l ∈ lines, lineFeed ∉ l) :
    ∃ taken used rest, Takes id lines p (awaitAnswer endpoint timeout id fuel left p).2
      (awaitAnswer endpoint timeout id fuel left p).1 taken used rest := by
  induction fuel generalizing left p lines with
  | zero =>
    have hnone : lineFeed ∉ ([] : List UInt8) := List.not_mem_nil
    exact ⟨[], [], lines, .none h hnone rfl fun _ => TransportFault.noConfusion⟩
  | succ fuel ih =>
    rw [awaitAnswer_succ]
    have hread := p.reads left
    generalize (p.readLine left).octets = octets at hread ⊢
    cases hread with
    | @stop stop lost hstream hlost =>
      have hahead : Ahead lines (p.afterLine left).stream := (hstream ▸ h).lost hlost
      cases stop with
      | late =>
        exact ⟨[], [], lines, .none hahead hlost hstream fun _ => TransportFault.noConfusion⟩
      | ended =>
        exact ⟨[], [], lines, .none hahead hlost hstream fun _ => TransportFault.noConfusion⟩
      | failed f =>
        exact ⟨[], [], lines, .none hahead hlost hstream fun _ => TransportFault.noConfusion⟩
    | last hstream hafter hne hnot => exact absurd (hstream ▸ h.eq_nil (hstream ▸ hnot)) hne
    | @line octets hstream hnot =>
      obtain ⟨line, rest, rfl, hend, hahead⟩ := (hstream ▸ h).line hlines hnot
      have hnone : ∀ l ∈ ([] : List (List UInt8)), Passes id l :=
        fun l hl => absurd hl List.not_mem_nil
      have hrest : ∀ l ∈ rest, lineFeed ∉ l := fun l hl => hlines l (List.mem_cons_of_mem _ hl)
      obtain ⟨taken, used, rest', htakes⟩ := ih (p.readLine left).left hahead hrest
      cases hmessage : lineMessage octets with
      | error fault =>
        simp only [hmessage]
        exact ⟨_, _, rest, .last hstream hnot hend hahead (.unreadable hnone hmessage)⟩
      | ok message =>
        cases message with
        | none =>
          simp only [hmessage]
          exact ⟨_, _, rest', .cons hstream hnot hend (.inl hmessage) htakes⟩
        | some message =>
          by_cases hid : numberOf message = some id
          · have hsays : answerTo id message = some (saidBy message) := by
              rw [answerTo_eq, if_pos hid]
            simp only [hmessage, hsays]
            exact ⟨_, _, rest, .last hstream hnot hend hahead (.answered hnone hmessage hid)⟩
          · have hsays : answerTo id message = none := by rw [answerTo_eq, if_neg hid]
            simp only [hmessage, hsays]
            exact ⟨_, _, rest', .cons hstream hnot hend (.inr ⟨message, hmessage, hid⟩) htakes⟩

/-! ## Requests -/

/-- **What a request takes.**  For one that is not written it is nothing. -/
theorem Peer.exists_takes_ask {p : Peer} (q : Request) (endpoint : String) (timeout : Nat)
    {lines : List (List UInt8)} (h : Ahead lines p.stream) (hlines : ∀ l ∈ lines, lineFeed ∉ l) :
    ∃ taken used rest,
      Takes q.id lines p (p.ask endpoint timeout q).2 (p.ask endpoint timeout q).1 taken used
        rest ∧
      ((p.ask endpoint timeout q).2.link.sent = p.link.sent ++ q.octets ∨
        taken = [] ∧ ∃ f, (p.ask endpoint timeout q).1 = .error (.io f)) := by
  obtain ⟨hscript, hwrite⟩ := p.link.write_cases q.octets
  cases hlink : p.link.write q.octets with
  | mk written link =>
    rw [hlink] at hscript hwrite
    have hstream : p.stream = Peer.stream { p with link } := by rw [stream, stream, hscript]
    rcases hwrite with ⟨rfl, hsent⟩ | ⟨⟨f, rfl⟩, -⟩
    · rw [ask_of_written endpoint timeout hlink]
      obtain ⟨taken, used, rest, htakes⟩ := exists_takes_awaitAnswer endpoint timeout q.id
        (octetCount link.line + p.pending.length + 1) (ticks timeout) (hstream ▸ h) hlines
      refine ⟨taken, used, rest, { htakes with account := hstream ▸ htakes.account }, .inl ?_⟩
      rw [sent_awaitAnswer]
      exact hsent
    · rw [ask_of_unwritten endpoint timeout hlink]
      have hnone : lineFeed ∉ ([] : List UInt8) := List.not_mem_nil
      exact ⟨[], [], lines, .none (hstream ▸ h) hnone hstream fun _ => TransportFault.noConfusion,
        .inr ⟨rfl, f, rfl⟩⟩

/-! ## Runs -/

namespace JsonRpc

variable {r : JsonRpc} {p : Peer}

/-- What a call came to, by the lines that were taken for it: they are off the stream, with what was
read of a line that did not come to its end; the request was written, or else nothing was taken; and
the lines say how the call ended. -/
structure Exchange.Sound (x : Exchange) (taken : List (List UInt8)) : Prop where
  account : ∃ lost, lineFeed ∉ lost ∧
    x.before.stream = lineOctets taken ++ (lost ++ x.after.stream)
  lines : ∀ l ∈ taken, lineFeed ∉ l
  written : x.after.link.sent = x.before.link.sent ++ x.request.octets ∨
    taken = [] ∧ ∃ f, x.outcome = .error (.io f)
  concludes : Concludes x.request.id taken x.outcome

theorem Exchange.exists_taken (q : Request) (endpoint : String) (timeout : Nat)
    {lines : List (List UInt8)} (h : Ahead lines p.stream) (hlines : ∀ l ∈ lines, lineFeed ∉ l) :
    ∃ taken used rest, (ofAsk endpoint timeout p q).Sound taken ∧ lines = used ++ rest ∧
      List.Forall₂ (· <:+ ·) taken used ∧ Ahead rest (ofAsk endpoint timeout p q).after.stream := by
  obtain ⟨taken, used, rest, htakes, hwritten⟩ :=
    Peer.exists_takes_ask q endpoint timeout h hlines
  unfold ofAsk
  generalize p.ask endpoint timeout q = result at htakes hwritten ⊢
  exact ⟨taken, used, rest, ⟨htakes.account, htakes.feeds, hwritten, htakes.concludes⟩,
    htakes.lines, htakes.ends, htakes.ahead⟩

/-- **The calls of a run follow one another** on the connection for calls: each begins where the one
before it has left off. -/
theorem map_callsOf (hp : r.calls = some p) (moves : List Move) :
    (r.callsOf moves).map (·.outcome) = r.outcomes moves ∧
      ∃ last, (r.after moves).calls = some last ∧
        (r.callsOf moves).map (·.before) ++ [last] = p :: (r.callsOf moves).map (·.after) := by
  induction moves generalizing r p with
  | nil => exact ⟨rfl, p, hp, rfl⟩
  | cons move moves ih =>
    cases move with
    | call method args =>
      obtain ⟨x, hx, hexchange, hcall⟩ := call_of_calls hp method args
      have hnext : (r.perform (.call method args)).calls = some x.after := by
        rw [perform, hcall]
      obtain ⟨houtcomes, last, hlast, hafter⟩ := ih hnext
      have hbefore : x.before = p := by
        rw [hx]
        rfl
      rw [callsOf, call?, hexchange, Option.toList_some, List.singleton_append, outcomes, hcall]
      refine ⟨congrArg (x.outcome :: ·) houtcomes, last, hlast, ?_⟩
      rw [List.map_cons, List.map_cons, List.cons_append, hafter, hbefore]
    | listen identity method => exact ih ((r.calls_listen identity method).trans hp)
    | poll => exact ih (r.calls_poll.trans hp)

/-- **What the calls of a run take**: the ends of the first lines ahead, in order. -/
theorem exists_taken (hp : r.calls = some p) {lines : List (List UInt8)}
    (h : Ahead lines p.stream) (hlines : ∀ l ∈ lines, lineFeed ∉ l) (moves : List Move) :
    ∃ taken used, used <+: lines ∧ List.Forall₂ Exchange.Sound (r.callsOf moves) taken ∧
      List.Forall₂ (· <:+ ·) taken.flatten used := by
  induction moves generalizing r p lines with
  | nil => exact ⟨[], [], List.nil_prefix, .nil, .nil⟩
  | cons move moves ih =>
    cases move with
    | call method args =>
      obtain ⟨x, rfl, hexchange, hcall⟩ := call_of_calls hp method args
      obtain ⟨taken, used, rest, hsound, rfl, hends, hahead⟩ :=
        Exchange.exists_taken (r.request method args).1 r.endpoint r.timeout h hlines
      have hrest : ∀ l ∈ rest, lineFeed ∉ l := fun l hl => hlines l (List.mem_append_right _ hl)
      have hnext := congrArg (fun result => result.2.calls) hcall
      obtain ⟨taken', used', hused', hsound', hends'⟩ := ih hnext hahead hrest
      refine ⟨taken :: taken', used ++ used', (List.prefix_append_right_inj used).2 hused', ?_,
        List.rel_append hends hends'⟩
      rw [callsOf, call?, hexchange, Option.toList_some, List.singleton_append]
      exact .cons hsound hsound'
    | listen identity method => exact ih ((r.calls_listen identity method).trans hp) h hlines
    | poll => exact ih (r.calls_poll.trans hp) h hlines

end JsonRpc

/-! ## Lines that were cut -/

/-- The text of a line that has one. -/
theorem exists_text_of_lineText {octets : List UInt8} {text : List Char}
    (h : lineText octets = .ok text) :
    ∃ cs, Text.encode cs = octets ∧ Text.trim cs = text := by
  unfold lineText at h
  dsimp only at h
  split at h
  · rename_i hencode
    exact ⟨_, hencode, Except.ok.inj h⟩
  · cases h

/-- What a line that can be read is read from. -/
theorem exists_text_of_lineMessage {octets : List UInt8} {said : Option Json}
    (h : lineMessage octets = .ok said) :
    ∃ cs, Text.encode cs = octets ∧
      (said = none ∧ Text.trim cs = [] ∨
        ∃ message, said = some message ∧ Text.trim cs ≠ [] ∧
          Json.read (String.ofList (Text.trim cs)) = .ok message) := by
  unfold lineMessage at h
  split at h
  · cases h
  · rename_i htext
    obtain ⟨cs, hcs, htrim⟩ := exists_text_of_lineText htext
    exact ⟨cs, hcs, .inl ⟨(Except.ok.inj h).symm, htrim⟩⟩
  · rename_i hne htext
    obtain ⟨cs, hcs, rfl⟩ := exists_text_of_lineText htext
    split at h
    · rename_i message hread
      exact ⟨cs, hcs, .inr ⟨message, (Except.ok.inj h).symm, hne, hread⟩⟩
    · cases h

theorem isBlank_of_isSpace {c : Char} (h : Json.isSpace c = true) : Text.isBlank c = true := by
  simp only [Json.isSpace, Bool.or_eq_true, decide_eq_true_eq] at h
  rcases h with ((rfl | rfl) | rfl) | rfl <;> rfl

theorem exists_object_of_numberOf {message : Json} {id : Nat} (h : numberOf message = some id) :
    ∃ members, message = .object members := by
  cases message with
  | object members => exact ⟨members, rfl⟩
  | _ => cases h

/-- What was read as a line is the end of a line that was sent.  If it has a number, the whole line
is the same message, or nothing that can be read. -/
def Shows (taken line : List UInt8) : Prop :=
  taken <:+ line ∧ ∀ message id said, lineMessage taken = .ok (some message) →
    numberOf message = some id → lineMessage line = .ok said → said = some message

theorem shows_of_suffix {taken line : List UInt8} (h : taken <:+ line) : Shows taken line := by
  refine ⟨h, fun message id said htaken hid hline => ?_⟩
  obtain ⟨cut, rfl⟩ := h
  obtain ⟨cs, rfl, ⟨⟨⟩, -⟩ | ⟨_, ⟨⟩, hne, hread⟩⟩ := exists_text_of_lineMessage htaken
  obtain ⟨ds, hds, hsaid⟩ := exists_text_of_lineMessage hline
  obtain ⟨front, rfl, rfl⟩ := Text.exists_append_of_encode hds
  rcases Text.isSolid_or_isBlank front with hfront | hfront
  · -- More than blanks was cut off, so the message would be a tail of another.
    obtain ⟨before, ⟨c, hc, hblank⟩, htrim⟩ :=
      Text.exists_trim_append hfront (Text.isSolid_of_trim_ne_nil hne)
    obtain ⟨members, rfl⟩ := exists_object_of_numberOf hid
    rw [htrim] at hsaid
    rcases hsaid with ⟨-, hnil⟩ | ⟨whole, -, -, hwhole⟩
    · exact absurd (List.append_eq_nil_iff.1 hnil).2 hne
    · have hspace : Json.isSpace c = false :=
        Bool.eq_false_iff.2 fun h => Bool.eq_false_iff.1 hblank (isBlank_of_isSpace h)
      exact absurd hread (Json.not_object_of_tail ⟨c, hc, hspace⟩ hwhole)
  · -- Only blanks were cut off.
    rw [Text.trim_of_isBlank_append hfront] at hsaid
    rcases hsaid with ⟨-, hnil⟩ | ⟨whole, rfl, -, hwhole⟩
    · exact absurd hnil hne
    · rw [Except.ok.inj (hwhole.symm.trans hread)]

/-- **Answers are matched to their calls.**  On one connection, over which a peer sends whole lines
at any time, and whatever they are:

- there is one account for each call, and in it the lines that were taken for the call: it ended
  with the first of them that has the number of its own request, or without an answer
  (`Exchange.Sound`);
- the lines taken by all calls together are the lines sent, one for one and in order, each perhaps
  less what was lost of it before, so that no line is taken by two calls; and what answers is the
  message that was sent (`Shows`);
- calls follow one another on the connection, and nothing else is done on it;
- every request, be it a call or the registration of a listener, sends a line with its own number or
  nothing (`Exchange.Written`), and the numbers are all different, unless there are more requests
  than numbers, so that a late answer to one call is none to another;
- the request that registers a listener is sent over the connection that is opened for it, which is
  the one that the listener has from then on (`Registers`). -/
theorem calls_answered {r : JsonRpc} {p : Peer} (hp : r.calls = some p)
    {lines : List (List UInt8)} (hstream : p.stream = lineOctets lines)
    (hlines : ∀ l ∈ lines, lineFeed ∉ l) (moves : List JsonRpc.Move) :
    (r.callsOf moves).map (·.outcome) = r.outcomes moves ∧
    (∃ taken, List.Forall₂ JsonRpc.Exchange.Sound (r.callsOf moves) taken ∧
      ∃ used, used <+: lines ∧ List.Forall₂ Shows taken.flatten used) ∧
    (∃ last, (r.after moves).calls = some last ∧
      (r.callsOf moves).map (·.before) ++ [last] = p :: (r.callsOf moves).map (·.after)) ∧
    (r.callsOf moves).Sublist (r.exchangesOf moves) ∧
    (∀ x ∈ r.exchangesOf moves, x.Written) ∧
    ((r.exchangesOf moves).length ≤ 2 ^ 64 →
      ((r.exchangesOf moves).map (·.request.id)).Nodup) ∧
    ∀ identity method, (r.after moves).Registers identity method := by
  obtain ⟨taken, used, hused, hsound, hends⟩ :=
    JsonRpc.exists_taken hp (hstream ▸ .whole lines) hlines moves
  obtain ⟨houtcomes, hfollow⟩ := JsonRpc.map_callsOf hp moves
  exact ⟨houtcomes, ⟨taken, hsound, used, hused, hends.imp fun _ _ => shows_of_suffix⟩, hfollow,
    r.callsOf_sublist moves, r.written_of_mem_exchangesOf moves, r.nodup_id_exchangesOf,
    (r.after moves).registers⟩

namespace Late

/-- The answer to the first request, which comes too late. -/
def first : List UInt8 := Text.encode "\x7b\"id\":1\x7d".toList

/-- A notification. -/
def notification : List UInt8 := Text.encode "\x7b\"method\":\"on\"\x7d".toList

/-- The answer to the third request. -/
def third : List UInt8 := Text.encode "\x7b\"id\":3,\"result\":7\x7d".toList

/-- What is sent over the connection. -/
def lines : List (List UInt8) := [first, notification, third, third]

/-- A peer that takes a millisecond and a half for the first request. -/
def peer : Peer :=
  ⟨⟨[], [[.wait 150, .data (lineOctets [first, notification])],
    [.data (lineOctets [third, third])]], [], 0, []⟩, []⟩

/-- The connection of the listener, over which its request is answered. -/
def watch : Link :=
  ⟨[], [[.data (lineOctets [Text.encode "\x7b\"id\":2\x7d".toList])]], [], 0, []⟩

/-- An object behind them that is given a millisecond for each answer. -/
def remote : JsonRpc where
  endpoint := "lamp:7700"
  object := none
  timeout := 1
  nextId := 1
  calls := some peer
  listener := none
  openings := [.ok watch]
  refusal := .io .noNetwork
  identity := ""

/-- Two calls, and the registration of a listener in between. -/
def moves : List JsonRpc.Move := [.call "on" [], .listen none "watch", .call "off" []]

/-- The line that registers the listener. -/
def registration : String :=
  "\x7b\"id\":2,\"jsonrpc\":\"2.0\",\"method\":\"watch\",\"params\":[\"\"]\x7d\n"

end Late

/-- The late answer to the first call and the notification are taken for the second call, which ends
with its own answer; the repetition of that answer is not taken.  The listener is registered in
between, with a number of its own and over its own connection. -/
theorem calls_answered_late :
    Late.remote.calls = some Late.peer ∧ Late.peer.stream = lineOctets Late.lines ∧
    (∀ l ∈ Late.lines, lineFeed ∉ l) ∧
    (Late.remote.outcomes Late.moves).map (fun outcome => outcome.toOption.bind (·.asNat?)) =
      [none, some 7] ∧
    (∃ taken, List.Forall₂ JsonRpc.Exchange.Sound (Late.remote.callsOf Late.moves) taken ∧
      ∃ used, used <+: Late.lines ∧ List.Forall₂ Shows taken.flatten used) ∧
    (∀ x ∈ Late.remote.exchangesOf Late.moves, x.Written) ∧
    (Late.remote.exchangesOf Late.moves).map (·.request.id) = [1, 2, 3] ∧
    ((Late.remote.exchangesOf Late.moves).map (·.request.id)).Nodup ∧
    (Late.remote.after [.call "on" []]).Registers none "watch" ∧
    (Late.remote.after Late.moves).listener.map (·.link.sent) =
      some (Text.encode Late.registration.toList) := by
  have hcalls : Late.remote.calls = some Late.peer := rfl
  have hstream : Late.peer.stream = lineOctets Late.lines := by decide +kernel
  have hlines : ∀ l ∈ Late.lines, lineFeed ∉ l := by decide +kernel
  have hids : (Late.remote.exchangesOf Late.moves).map (·.request.id) = [1, 2, 3] := by
    decide +kernel
  have hlength : (Late.remote.exchangesOf Late.moves).length ≤ 2 ^ 64 := by
    have hthree := congrArg List.length hids
    rw [List.length_map] at hthree
    rw [hthree]
    decide
  obtain ⟨-, htaken, -, -, hwritten, hnodup, -⟩ :=
    calls_answered hcalls hstream hlines Late.moves
  obtain ⟨-, -, -, -, -, -, hregisters⟩ :=
    calls_answered hcalls hstream hlines [.call "on" []]
  exact ⟨hcalls, hstream, hlines, by decide +kernel, htaken, hwritten, hids, hnodup hlength,
    hregisters none "watch", by decide +kernel⟩

end Instrument
