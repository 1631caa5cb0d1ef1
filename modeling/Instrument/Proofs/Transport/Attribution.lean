/-
# Which reply is whose

A reader with a terminator tells where a reply ends, but not which request it answers.  So when a
device answers every request with one frame, and late, a request can be given the answer to an
earlier one that had run out of time (`reply_attributed_late`): what is still on the line is not
thrown away, neither when a read fails nor before the next command goes out.

What is left of earlier frames decides.  Nothing of them, a whole terminator and an end of one that
is blank do no harm: a whole terminator is stripped as one before any content, and blanks are
trimmed (`complete?_of_harmless`).  Then a request that succeeds returns the content of its own frame
and leaves nothing, so that the next one finds no harm either.  Only a request that fails can leave
more (`reply_attributed`).

The invariant of a conversation (`InOrder`) says what is left, now and at each exchange before; each
exchange by itself is judged by what was left when it began (`Exchange.Sound`).
-/
import Instrument.Proofs.Parameter.RoundTrip
import Instrument.Proofs.Text.Utf8
import Instrument.Proofs.Transport.Isolation

namespace Instrument

/-! ## Frames -/

/-- The content of a frame with the terminator `t`: printable, not empty, and without any character
of `t`. -/
structure IsContent (t : String) (content : List Char) : Prop where
  nonempty : content ≠ []
  printable : ∀ c ∈ content, 0x21 ≤ c.toNat ∧ c.toNat ≤ 0x7E
  apart : ∀ c ∈ content, c ∉ t.toList

/-- What may be left of frames with the terminator `t` without harm to the reply behind it: nothing, a
terminator, or an end of one that is blank. -/
def Harmless (t : String) (octets : List UInt8) : Prop :=
  octets = Text.encode t.toList ∨
    ∃ blanks : List Char, octets = Text.encode blanks ∧ (∀ c ∈ blanks, Text.isBlank c = true) ∧
      octets <:+ Text.encode t.toList

theorem isContent_singleton {t : String} {c : Char} (hprintable : 0x21 ≤ c.toNat ∧ c.toNat ≤ 0x7E)
    (hapart : c ∉ t.toList) : IsContent t [c] :=
  ⟨List.cons_ne_nil c [], by simpa using hprintable, by simpa using hapart⟩

theorem harmless_nil (t : String) : Harmless t [] :=
  .inr ⟨[], rfl, nofun, List.nil_suffix⟩

theorem ReadStrategy.ofSettings_terminator {t : String} (ht : t ≠ "") (length : Option Nat) :
    ofSettings (some t) length = .terminator (Text.encode t.toList) := by
  have hfilter : Option.filter (fun s => decide (s ≠ "")) (some t) = some t :=
    Option.filter_some_pos (decide_eq_true ht)
  rw [ofSettings, hfilter]

namespace Text

theorem isBlank_of_printable {c : Char} (h : 0x21 ≤ c.toNat ∧ c.toNat ≤ 0x7E) :
    isBlank c = false := by
  simp [isBlank, blankRanges, inRanges]
  omega

end Text

variable {t : String} {content : List Char}

/-- No octet of the content is one of the terminator. -/
theorem IsContent.not_mem_encode (h : IsContent t content) {b : UInt8}
    (hb : b ∈ Text.encode content) : b ∉ Text.encode t.toList := by
  intro hbt
  obtain ⟨c, hc, hbc⟩ := List.mem_flatMap.1 hb
  have hsmall : c.toNat < 0x80 := by have := (h.printable c hc).2; omega
  rw [Text.utf8EncodeChar_of_ascii hsmall, List.mem_singleton] at hbc
  have hnat : b.toNat = c.toNat := by rw [hbc, Text.toNat_ofNat_octet (by omega)]
  obtain ⟨d, hd, hdb⟩ := Text.exists_of_mem_encode (hnat.symm ▸ hsmall) hbt
  obtain rfl : d = c := Char.toNat_inj.1 (hdb.trans hnat)
  exact h.apart d hc hd

namespace Reader

/-- The first terminator behind octets that have none of its own, and too few others in front to be
part of one, is the one at the end. -/
theorem ends_append {t u x : List UInt8} (hu : u.length < t.length) (hx : x ≠ [])
    (hapart : ∀ b ∈ x, b ∉ t) : Ends t (u ++ x) := by
  rintro i hi ⟨rest, hrest⟩
  have hpos := List.length_pos_of_ne_nil hx
  rw [List.length_append] at hi
  -- An earlier occurrence would have an octet of `x` in it, at place `k`.
  obtain ⟨k, hik, huk, hkt, hkx⟩ : ∃ k, i ≤ k ∧ u.length ≤ k ∧ k - i < t.length ∧
      k - u.length < x.length := ⟨max i u.length, by omega, by omega, by omega, by omega⟩
  have hk : t[k - i]? = x[k - u.length]? := calc
    t[k - i]? = (t ++ rest)[k - i]? := (List.getElem?_append_left hkt).symm
    _ = (u ++ x ++ t)[i + (k - i)]? := by rw [hrest, List.getElem?_drop]
    _ = (u ++ x)[k]? := by
      rw [Nat.add_sub_cancel' hik, List.getElem?_append_left (by rw [List.length_append]; omega)]
    _ = x[k - u.length]? := List.getElem?_append_right huk
  rw [List.getElem?_eq_getElem hkt, List.getElem?_eq_getElem hkx, Option.some.injEq] at hk
  exact hapart _ (List.getElem_mem hkx) (hk ▸ List.getElem_mem hkt)

theorem textOf_encode (h : IsContent t content) (blanks : List Char)
    (hblanks : ∀ c ∈ blanks, Text.isBlank c = true) :
    textOf (Text.encode (blanks ++ content)) = String.ofList content := by
  rw [textOf, Text.decode_encode,
    Text.trim_of_isBlank_append hblanks,
    Text.trim_eq_self fun c hc => Text.isBlank_of_printable (h.printable c hc)]

/-- **What is left without harm** is stripped from the frame behind it or trimmed from its content. -/
theorem complete?_of_harmless (ht : t ≠ "") (h : IsContent t content) {octets : List UInt8}
    (hoctets : Harmless t octets) :
    ∃ reply, complete? (.terminator (Text.encode t.toList))
        (octets ++ Text.encode (content ++ t.toList)) = some (reply, []) ∧
      textOf reply = String.ofList content := by
  have hne : Text.encode t.toList ≠ [] :=
    Text.encode_ne_nil fun hnil => ht (String.toList_eq_nil_iff.1 hnil)
  have hcontent : Text.encode content ≠ [] := Text.encode_ne_nil h.nonempty
  have hapart : ∀ b ∈ Text.encode content, b ∉ Text.encode t.toList := fun _ => h.not_mem_encode
  by_cases hwhole : octets = Text.encode t.toList
  · refine ⟨Text.encode content, (complete?_terminator_iff hne).2 ⟨1, ?_, hcontent, ?_⟩,
      textOf_encode h [] nofun⟩
    · simp [hwhole, copies, Text.encode_append]
    · exact ends_append (u := []) (List.length_pos_of_ne_nil hne) hcontent hapart
  · obtain ⟨blanks, rfl, hblanks, hsuffix⟩ := hoctets.resolve_left hwhole
    have hshort : (Text.encode blanks).length < (Text.encode t.toList).length :=
      Nat.lt_of_le_of_ne hsuffix.length_le fun heq => hwhole (hsuffix.eq_of_length heq)
    refine ⟨Text.encode (blanks ++ content), (complete?_terminator_iff hne).2 ⟨0, ?_, ?_, ?_⟩,
      textOf_encode h blanks hblanks⟩
    · simp [copies, Text.encode_append]
    · exact Text.encode_ne_nil fun hnil => h.nonempty (List.append_eq_nil_iff.1 hnil).2
    · rw [Text.encode_append]
      exact ends_append hshort hcontent hapart

end Reader

/-! ## Conversations -/

/-- A request and its answer: the content of the frame that answers it, what was left of earlier
frames when the request was made, what the request came to, and what was left then. -/
structure Exchange where
  content : List Char
  before : List UInt8
  outcome : Except TransportFault RawReply
  after : List UInt8

namespace Channel

/-- The octets that have come or are still to come and are part of no reply yet. -/
def left (c : Channel) : List UInt8 := c.reader.pending ++ c.unread

/-- From a channel on, any operations over links to a device that answers each request with one frame
with the terminator `t`, behind whatever is still to come, and else sends nothing: the channel after
them, and the exchanges over the link that is in use then.  A command without an answer is one that
has no reply, or one that did not go out. -/
inductive Converses (t : String) (c₀ : Channel) : Channel → List Exchange → Prop
  | start : Converses t c₀ c₀ []
  | connect {c : Channel} {xs : List Exchange} : Converses t c₀ c xs →
      (c.link = none → c.connect.2.unread = []) →
      Converses t c₀ c.connect.2 (if c.link.isSome then xs else [])
  | attach {c : Channel} {xs : List Exchange} {l : Link} : Converses t c₀ c xs →
      l.line.octets = [] → Converses t c₀ (c.attach l) []
  | disconnect {c : Channel} {xs : List Exchange} : Converses t c₀ c xs →
      Converses t c₀ c.disconnect.2 []
  | unanswered {c : Channel} {xs : List Exchange} {command : String} : Converses t c₀ c xs →
      (c.write command).2.unread = c.unread → Converses t c₀ (c.send command).2 xs
  | request {c : Channel} {xs : List Exchange} {command : String} {content : List Char} :
      Converses t c₀ c xs → IsContent t content →
      (c.write command).2.unread = c.unread ++ Text.encode (content ++ t.toList) →
      Converses t c₀ (c.request command).2
        (xs ++ [⟨content, c.left, (c.request command).1, (c.request command).2.left⟩])

end Channel

/-- What is left after exchanges. -/
def leftAfter (xs : List Exchange) : List UInt8 := ((xs.getLast?).map (·.after)).getD []

/-- An exchange before which nothing was left that does harm: if it succeeds it returns the content of
its own frame, and leaves nothing. -/
def Exchange.Sound (t : String) (x : Exchange) : Prop :=
  Harmless t x.before → ∀ reply, x.outcome = .ok reply →
    reply = .text (String.ofList x.content) ∧ x.after = []

namespace Channel

/-! ## One exchange -/

variable {c : Channel} {command : String}

theorem sound_request (ht : t ≠ "")
    (hs : c.reader.strategy = .terminator (Text.encode t.toList)) (hcontent : IsContent t content)
    (hanswer : (c.write command).2.unread = c.unread ++ Text.encode (content ++ t.toList)) :
    Exchange.Sound t ⟨content, c.left, (c.request command).1, (c.request command).2.left⟩ := by
  intro hharmless reply hreply
  dsimp only at hreply ⊢
  cases hwritten : (c.write command).1 with
  | error e =>
    rw [request_of_unwritten hwritten] at hreply
    cases hreply
  | ok l =>
    rw [unread_of_written hwritten] at hanswer
    rw [request_of_written hwritten] at hreply ⊢
    obtain ⟨text, htext, rfl⟩ := map_eq_ok_iff.1 hreply
    obtain ⟨octets, hoctets, rfl⟩ := map_eq_ok_iff.1 htext
    obtain ⟨taken, htaken, hok, -⟩ :=
      Reader.exists_accounts (r := c.reader) (by simp [hs]) c.endpoint l.line
    have hproper : c.reader.strategy.Proper := by
      rw [hs]
      exact Text.encode_ne_nil fun hnil => ht (String.toList_eq_nil_iff.1 hnil)
    -- What was held and all that comes is what was left and the frame: no more than that is behind.
    have hfound := Reader.complete?_append hproper (hok octets hoctets)
      (c.reader.readOctets c.endpoint l.line).line.octets
    have hall : c.reader.pending ++ taken ++ (c.reader.readOctets c.endpoint l.line).line.octets =
        c.left ++ Text.encode (content ++ t.toList) := by
      rw [List.append_assoc, ← htaken, hanswer, left, List.append_assoc]
    obtain ⟨own, hown, htextOf⟩ := Reader.complete?_of_harmless ht hcontent hharmless
    rw [hall, hs, hown] at hfound
    obtain ⟨rfl, hrest⟩ := Prod.mk.inj (Option.some.inj hfound)
    exact ⟨congrArg RawReply.text htextOf, hrest.symm⟩

/-! ## What is left, operation by operation -/

/-- What was held for a reply goes with its link. -/
abbrev HeldByLink (c : Channel) : Prop := c.link = none → c.reader.pending = []

theorem left_of_no_link (h : c.HeldByLink) (hlink : c.link = none) : c.left = [] := by
  rw [left, h hlink, unread, hlink]
  rfl

theorem left_attach (c : Channel) {l : Link} (hl : l.line.octets = []) : (c.attach l).left = [] := hl

theorem left_connect (h : c.HeldByLink) (hunread : c.link = none → c.connect.2.unread = []) :
    c.connect.2.left = if c.link.isSome then c.left else [] := by
  rcases c.connect_cases with ⟨hlink, hconnect⟩ | ⟨hlink, e, hconnect⟩ | ⟨hlink, l, hconnect⟩
  · rw [hconnect, if_pos hlink]
  · rw [hlink, hconnect]
    exact left_of_no_link (c := { c with openings := c.openings.tail }) h hlink
  · have hl := hunread hlink
    rw [hconnect] at hl
    rw [hlink, hconnect]
    exact left_attach _ hl

theorem left_disconnect (h : c.HeldByLink) : c.disconnect.2.left = [] := by
  cases hlink : c.link with
  | none =>
    rw [disconnect_of_no_link hlink]
    exact left_of_no_link h hlink
  | some l =>
    rw [disconnect_of_link hlink]
    rfl

theorem left_send (h : (c.write command).2.unread = c.unread) :
    (c.send command).2.left = c.left := by
  obtain ⟨link, hwrite, -⟩ := c.exists_write command
  have hpending : (c.write command).2.reader.pending = c.reader.pending := by rw [hwrite]
  rw [send_eq, left, left, h, hpending]

end Channel

open Channel

/-! ## The invariant -/

variable {c c₀ : Channel} {xs : List Exchange}

theorem exists_after_perform (h : ∃ moves, c = c₀.after moves) (move : Move) :
    ∃ moves, c.perform move = c₀.after moves := by
  obtain ⟨moves, rfl⟩ := h
  exact ⟨moves ++ [move], (after_append c₀ moves move).symm⟩

/-- A conversation is made of moves. -/
theorem Channel.Converses.exists_after (h : Converses t c₀ c xs) :
    ∃ moves, c = c₀.after moves := by
  induction h with
  | start => exact ⟨[], rfl⟩
  | connect _ _ ih => exact exists_after_perform ih .connect
  | @attach _ _ l _ _ ih => exact exists_after_perform ih (.attach l)
  | disconnect _ ih => exact exists_after_perform ih .disconnect
  | @unanswered _ _ command _ _ ih => exact exists_after_perform ih (.send command)
  | @request _ _ command _ _ _ _ ih => exact exists_after_perform ih (.request command)

/-- The channel of a conversation reads as its settings say. -/
theorem Channel.Converses.isolated (ht : t ≠ "") (hunused : Unused (some t) c₀)
    (h : Converses t c₀ c xs) :
    c.HeldByLink ∧ c.reader.strategy = .terminator (Text.encode t.toList) := by
  obtain ⟨moves, rfl⟩ := h.exists_after
  obtain ⟨length, hstrategy⟩ := hunused.exists_strategy
  have hproper := ReadStrategy.proper_ofSettings (some t) length
  have hafter := isolated_after hunused.pending (hstrategy ▸ hproper) moves
  refine ⟨hafter.empty, ?_⟩
  rw [hafter.strategy, hstrategy, ReadStrategy.ofSettings_terminator ht]

/-- What is left is what the last exchange has left, and so it was at each exchange; and each of them
is sound. -/
structure InOrder (t : String) (c : Channel) (xs : List Exchange) : Prop where
  left : c.left = leftAfter xs
  chain : ∀ before x after, xs = before ++ x :: after → x.before = leftAfter before
  sound : ∀ x ∈ xs, x.Sound t

theorem inOrder_nil (h : c.left = []) : InOrder t c [] :=
  ⟨h, fun before x after hxs => absurd hxs (by simp), nofun⟩

theorem InOrder.append {x : Exchange} {c' : Channel} (h : InOrder t c xs) (hx : x.Sound t)
    (hbefore : x.before = c.left) (hafter : x.after = c'.left) : InOrder t c' (xs ++ [x]) := by
  refine ⟨by simp [leftAfter, hafter], fun before y after hxs => ?_, fun y hy => ?_⟩
  · rcases List.eq_nil_or_concat after with rfl | ⟨more, last, rfl⟩
    · obtain ⟨rfl, hy⟩ := List.append_inj' hxs rfl
      obtain rfl : x = y := List.head_eq_of_cons_eq hy
      rw [hbefore, h.left]
    · rw [List.concat_eq_append, ← List.cons_append, ← List.append_assoc] at hxs
      obtain ⟨hinit, -⟩ := List.append_inj' hxs rfl
      exact h.chain before y more hinit
  · rcases List.mem_append.1 hy with hy | hy
    · exact h.sound y hy
    · obtain rfl := List.mem_singleton.1 hy
      exact hx

/-- **A conversation is in order.** -/
theorem Channel.Converses.inOrder (ht : t ≠ "") (hunused : Unused (some t) c₀)
    (h : Converses t c₀ c xs) : InOrder t c xs := by
  induction h with
  | start => exact inOrder_nil (left_of_no_link (fun _ => hunused.pending) hunused.link)
  | @connect c xs h hunread ih =>
    have hleft := left_connect (h.isolated ht hunused).1 hunread
    cases hlink : c.link with
    | none =>
      rw [hlink] at hleft
      exact inOrder_nil hleft
    | some l =>
      rw [hlink] at hleft
      exact ⟨hleft.trans ih.left, ih.chain, ih.sound⟩
  | @attach c xs l _ hl _ => exact inOrder_nil (left_attach c hl)
  | disconnect h _ => exact inOrder_nil (left_disconnect (h.isolated ht hunused).1)
  | unanswered _ hunread ih => exact ⟨(left_send hunread).trans ih.left, ih.chain, ih.sound⟩
  | request h hcontent hanswer ih =>
    exact ih.append (sound_request ht (h.isolated ht hunused).2 hcontent hanswer) rfl rfl

/-- While every exchange succeeds or does no harm, no harm is left. -/
theorem InOrder.harmless (h : InOrder t c xs) {before after : List Exchange}
    (hxs : xs = before ++ after)
    (hbefore : ∀ y ∈ before, y.outcome.isOk ∨ Harmless t y.after) :
    Harmless t (leftAfter before) := by
  induction before using List.reverseRecOn generalizing after with
  | nil => exact harmless_nil t
  | append_singleton before y ih =>
    have hy : y ∈ before ++ [y] := List.mem_append_right before List.mem_cons_self
    have hleft : leftAfter (before ++ [y]) = y.after := by simp [leftAfter]
    rw [hleft]
    rw [List.append_assoc] at hxs
    rcases hbefore y hy with hok | hharmless
    · obtain ⟨reply, hreply⟩ : ∃ reply, y.outcome = .ok reply := by
        cases hy : y.outcome with
        | ok reply => exact ⟨reply, rfl⟩
        | error e =>
          rw [hy] at hok
          cases hok
      have hwas := ih hxs fun z hz => hbefore z (List.mem_append_left [y] hz)
      rw [← h.chain before y after hxs] at hwas
      rw [(h.sound y (hxs ▸ by simp) hwas reply hreply).2]
      exact harmless_nil t
    · exact hharmless

/-- **A reply is the content of the frame that answers the request**, also when earlier requests have
failed, if nothing that does harm was left of their frames when the request was made: at most a
terminator, or an end of one that is blank.  This is so if each earlier request over the link
succeeded or, when it failed, left no more than that. -/
theorem reply_attributed (ht : t ≠ "") (hunused : Unused (some t) c₀) (h : Converses t c₀ c xs)
    {before after : List Exchange} {x : Exchange} (hxs : xs = before ++ x :: after)
    {reply : RawReply} (hreply : x.outcome = .ok reply) :
    (Harmless t x.before → reply = .text (String.ofList x.content)) ∧
    ((∀ y ∈ before, y.outcome.isOk ∨ Harmless t y.after) →
      reply = .text (String.ofList x.content)) := by
  have horder := h.inOrder ht hunused
  have hown : Harmless t x.before → reply = .text (String.ofList x.content) := fun hharmless =>
    (horder.sound x (hxs ▸ by simp) hharmless reply hreply).1
  refine ⟨hown, fun hbefore => hown ?_⟩
  rw [horder.chain before x after hxs]
  exact horder.harmless hxs hbefore

namespace Lamp

/-- A lamp whose first answer comes in two parts: the terminator alone comes too late. -/
def slow : Channel :=
  ofSerial line [.ok (.ofDevice []
    [[.data [0x31], .wait 30000, .data [0x0A]], [.data [0x32, 0x0A]]] [])] (.io .noPort)

/-- A lamp whose first answer comes too late. -/
def late : Channel :=
  ofSerial line [.ok (.ofDevice []
    [[.wait 30000, .data [0x31, 0x0A]], [.data [0x32, 0x0A]]] [])] (.io .noPort)

end Lamp

/-- The first request runs out of time before the terminator, the second returns its own content. -/
theorem reply_attributed_slow :
    let first : Exchange := ⟨['1'], [], .error (.timeout 250), [0x0A]⟩
    let second : Exchange := ⟨['2'], [0x0A], .ok (.text "2"), []⟩
    "\n" ≠ "" ∧ Unused (some "\n") Lamp.slow ∧
    Converses "\n" Lamp.slow (Lamp.slow.after [.connect, .request "ask", .request "ask"])
      [first, second] ∧
    (∀ y ∈ [first], y.outcome.isOk ∨ Harmless "\n" y.after) ∧
    RawReply.text "2" = .text (String.ofList second.content) := by
  intro first second
  have hunused : Unused (some "\n") Lamp.slow := .serial Lamp.line _ _
  have hone : IsContent "\n" ['1'] := isContent_singleton (by decide) (by decide)
  have htwo : IsContent "\n" ['2'] := isContent_singleton (by decide) (by decide)
  have hfirst : Converses "\n" Lamp.slow (Lamp.slow.after [.connect, .request "ask"]) [first] :=
    .request (.connect .start fun _ => rfl) hone rfl
  have hsecond : Converses "\n" Lamp.slow
      (Lamp.slow.after [.connect, .request "ask", .request "ask"]) [first, second] :=
    .request hfirst htwo rfl
  have hharmless : ∀ y ∈ [first], y.outcome.isOk ∨ Harmless "\n" y.after := by
    intro y hy
    obtain rfl := List.mem_singleton.1 hy
    exact .inr (.inl rfl)
  have hattributed : RawReply.text "2" = .text (String.ofList second.content) :=
    (reply_attributed (by decide) hunused hsecond
      (show [first, second] = [first] ++ second :: [] from rfl) rfl).2 hharmless
  exact ⟨by decide, hunused, hsecond, hharmless, hattributed⟩

/-- The first request runs out of time before anything comes, and the second returns the content of
the frame that answers the first. -/
theorem reply_attributed_late :
    let first : Exchange := ⟨['1'], [], .error (.timeout 250), [0x31, 0x0A]⟩
    let second : Exchange := ⟨['2'], [0x31, 0x0A], .ok (.text "1"), [0x32, 0x0A]⟩
    "\n" ≠ "" ∧ Unused (some "\n") Lamp.late ∧
    Converses "\n" Lamp.late (Lamp.late.after [.connect, .request "ask", .request "ask"])
      [first, second] ∧
    ¬ ∀ x ∈ [first, second], ∀ reply, x.outcome = .ok reply →
      reply = .text (String.ofList x.content) := by
  intro first second
  have hone : IsContent "\n" ['1'] := isContent_singleton (by decide) (by decide)
  have htwo : IsContent "\n" ['2'] := isContent_singleton (by decide) (by decide)
  have hfirst : Converses "\n" Lamp.late (Lamp.late.after [.connect, .request "ask"]) [first] :=
    .request (.connect .start fun _ => rfl) hone rfl
  have hsecond : Converses "\n" Lamp.late
      (Lamp.late.after [.connect, .request "ask", .request "ask"]) [first, second] :=
    .request hfirst htwo rfl
  refine ⟨by decide, .serial Lamp.line _ _, hsecond, fun hall => ?_⟩
  have htext := hall second (List.mem_cons_of_mem _ List.mem_cons_self) (.text "1") rfl
  exact absurd (RawReply.text.inj htext) (by decide)

end Instrument
