/-
# Lines of a peer

What a peer sends is one stream of octets, of which some have been read and are pending, some are on
the line, and some will be put on it in answer to what is written (`Peer.stream`).  To write does
not change the stream (`Link.write_cases`), and to read a line takes octets off its front, to the
next line feed or up to where the reader stopped short of one (`Peer.reads`).

If the stream is one of whole lines, the lines that are read are the lines that were sent, one for
one and in order, each less what a read that stopped has taken of it before (`Ahead`).
-/
import Instrument.Proofs.Reader.Ending
import Instrument.Transport.JsonRpc

namespace Instrument

/-! ## Line feeds -/

theorem not_mem_of_ends_lineFeed {octets : List UInt8} (h : Reader.Ends [lineFeed] octets) :
    lineFeed ∉ octets := by
  induction octets with
  | nil => exact List.not_mem_nil
  | cons b octets ih =>
    obtain ⟨hfirst, hrest⟩ := Reader.ends_cons_iff.1 h
    rw [List.mem_cons, not_or]
    refine ⟨?_, ih hrest⟩
    rintro rfl
    exact hfirst ⟨_, rfl⟩

theorem lineFeed_of_splitAt? {octets found pending : List UInt8}
    (h : Reader.splitAt? [lineFeed] octets = some (found, pending)) :
    octets = found ++ lineFeed :: pending ∧ lineFeed ∉ found := by
  obtain ⟨hoctets, hends⟩ := Reader.of_splitAt?_eq_some h
  exact ⟨by simpa using hoctets, not_mem_of_ends_lineFeed hends⟩

theorem no_lineFeed_of_splitAt? {octets : List UInt8}
    (h : Reader.splitAt? [lineFeed] octets = none) : lineFeed ∉ octets := by
  intro hmem
  obtain ⟨before, after, rfl⟩ := List.append_of_mem hmem
  exact Reader.not_infix_of_splitAt?_eq_none (List.cons_ne_nil _ _) h ⟨before, after, by simp⟩

/-- The first line feed of a stream is in one place. -/
theorem eq_of_append_lineFeed {a b x y : List UInt8} (ha : lineFeed ∉ a) (hb : lineFeed ∉ b)
    (h : a ++ lineFeed :: x = b ++ lineFeed :: y) : a = b ∧ x = y := by
  induction a generalizing b with
  | nil =>
    cases b with
    | nil => exact ⟨rfl, (List.cons.inj h).2⟩
    | cons c b =>
      obtain ⟨rfl, -⟩ := List.cons.inj h
      exact absurd List.mem_cons_self hb
  | cons c a ih =>
    cases b with
    | nil =>
      obtain ⟨rfl, -⟩ := List.cons.inj h
      exact absurd List.mem_cons_self ha
    | cons d b =>
      obtain ⟨rfl, htail⟩ := List.cons.inj h
      obtain ⟨rfl, rfl⟩ := ih (List.not_mem_of_not_mem_cons ha) (List.not_mem_of_not_mem_cons hb)
        htail
      exact ⟨rfl, rfl⟩

/-! ## Streams -/

/-- The octets that can be read from a line, up to the end of the stream. -/
def Line.readable : Line → List UInt8
  | [] => []
  | .data octets :: rest => octets ++ readable rest
  | .close :: _ => []
  | .wait _ :: rest => readable rest
  | .fail _ :: rest => readable rest

/-- What is still to happen on the line of a link, now and in answer to what is written. -/
def Link.script (l : Link) : Line := l.line.feed l.answers.flatten

/-- All octets that a peer is still to bring. -/
def Peer.stream (p : Peer) : List UInt8 := p.pending ++ p.link.script.readable

namespace Link

theorem script_answer (l : Link) : l.answer.script = l.script := by
  unfold answer
  split
  · rfl
  · rename_i events rest hanswers
    simp [script, Line.feed, hanswers]

theorem sent_answer (l : Link) : l.answer.sent = l.sent := by
  unfold answer
  split <;> rfl

/-- **What a write comes to.**  Whether it fails or not, the other side sends what it would send, and
the frame goes out as a whole or not at all. -/
theorem write_cases (l : Link) (octets : List UInt8) :
    (l.write octets).2.script = l.script ∧
      ((l.write octets).1 = .ok () ∧ (l.write octets).2.sent = l.sent ++ octets ∨
        (∃ f, (l.write octets).1 = .error (.io f)) ∧
          ((l.write octets).2.sent = l.sent ++ octets ∨ (l.write octets).2.sent = l.sent)) := by
  unfold write
  split
  · rename_i hempty
    refine ⟨script_answer l, .inl ⟨rfl, ?_⟩⟩
    rw [List.isEmpty_iff.1 hempty, List.append_nil]
    exact sent_answer l
  · split
    · rename_i f hf
      dsimp only
      cases f.wentOut with
      | true => exact ⟨script_answer _, .inr ⟨⟨f.fault, rfl⟩, .inl (sent_answer _)⟩⟩
      | false => exact ⟨rfl, .inr ⟨⟨f.fault, rfl⟩, .inr rfl⟩⟩
    · exact ⟨script_answer _, .inl ⟨rfl, sent_answer _⟩⟩

end Link

/-! ## Reading a line -/

/-- What reading a line comes to, by the streams before and after: a line up to its line feed, the
rest of a stream that has ended, or no line. -/
inductive LineRead (stream after : List UInt8) : Except LineStop (List UInt8) → Prop
  | line {octets} : stream = octets ++ lineFeed :: after → lineFeed ∉ octets →
      LineRead stream after (.ok octets)
  | last {octets} : stream = octets → after = [] → octets ≠ [] → lineFeed ∉ octets →
      LineRead stream after (.ok octets)
  | stop {stop lost} : stream = lost ++ after → lineFeed ∉ lost →
      LineRead stream after (.error stop)

/-- The peer after reading a line. -/
def Peer.afterLine (p : Peer) (left : Nat) : Peer :=
  ⟨{ p.link with line := (p.readLine left).line }, (p.readLine left).pending⟩

theorem reads_awaitLine {octets : List UInt8} (h : lineFeed ∉ octets) (left : Nat) (l : Line)
    (events : List LineEvent) :
    LineRead (octets ++ (l.feed events).readable)
      ((awaitLine octets left l).pending ++ ((awaitLine octets left l).line.feed events).readable)
      (awaitLine octets left l).octets := by
  induction l generalizing octets left with
  | nil => exact .stop rfl h
  | cons e rest ih =>
    cases e with
    | data more =>
      have hstream : octets ++ (Line.feed (.data more :: rest) events).readable =
          (octets ++ more) ++ (Line.feed rest events).readable := (List.append_assoc ..).symm
      rw [hstream, awaitLine]
      cases hsplit : Reader.splitAt? [lineFeed] (octets ++ more) with
      | some split =>
        obtain ⟨hoctets, hfound⟩ := lineFeed_of_splitAt? hsplit
        refine .line ?_ hfound
        rw [hoctets, List.append_assoc]
        rfl
      | none => exact ih (no_lineFeed_of_splitAt? hsplit) left
    | wait d =>
      rw [awaitLine]
      split
      · exact ih h (left - d)
      · exact .stop rfl h
    | close =>
      have hstream : octets ++ (Line.feed (.close :: rest) events).readable = octets :=
        List.append_nil octets
      rw [hstream, awaitLine]
      cases octets with
      | nil => exact .stop rfl h
      | cons b octets => exact .last rfl rfl (List.cons_ne_nil b octets) h
    | fail f => exact .stop rfl h

/-- **To read a line takes octets off the front of the stream.** -/
theorem Peer.reads (p : Peer) (left : Nat) :
    LineRead p.stream (p.afterLine left).stream (p.readLine left).octets := by
  unfold afterLine readLine
  cases hsplit : Reader.splitAt? [lineFeed] p.pending with
  | some split =>
    obtain ⟨hpending, hfound⟩ := lineFeed_of_splitAt? hsplit
    refine .line ?_ hfound
    rw [stream, hpending, List.append_assoc]
    rfl
  | none => exact reads_awaitLine (no_lineFeed_of_splitAt? hsplit) left p.link.line _

/-! ## Streams of whole lines -/

/-- The octets of lines, a line feed behind each. -/
def lineOctets (lines : List (List UInt8)) : List UInt8 := lines.flatMap (· ++ [lineFeed])

/-- A stream that holds lines to come, the first of them perhaps less what was read of it before. -/
inductive Ahead : List (List UInt8) → List UInt8 → Prop
  | none : Ahead [] []
  | some {line lines rest} : rest <:+ line →
      Ahead (line :: lines) (rest ++ lineFeed :: lineOctets lines)

namespace Ahead

variable {lines : List (List UInt8)} {stream octets : List UInt8}

theorem whole (lines : List (List UInt8)) : Ahead lines (lineOctets lines) := by
  cases lines with
  | nil => exact .none
  | cons line lines =>
    have h : lineOctets (line :: lines) = line ++ lineFeed :: lineOctets lines := by
      simp [lineOctets]
    exact h ▸ .some (List.suffix_refl line)

/-- A line that is read is the end of the first one ahead. -/
theorem line (h : Ahead lines (octets ++ lineFeed :: stream)) (hlines : ∀ l ∈ lines, lineFeed ∉ l)
    (hoctets : lineFeed ∉ octets) :
    ∃ l rest, lines = l :: rest ∧ octets <:+ l ∧ Ahead rest stream := by
  generalize hall : octets ++ lineFeed :: stream = all at h
  cases h with
  | none => exact absurd hall (by simp)
  | @some l rest cut hcut =>
    have hnot : lineFeed ∉ cut := fun h => hlines l List.mem_cons_self (hcut.subset h)
    obtain ⟨rfl, rfl⟩ := eq_of_append_lineFeed hoctets hnot hall
    exact ⟨l, rest, rfl, hcut, whole rest⟩

/-- What is lost short of a line feed is lost of the first line ahead. -/
theorem lost (h : Ahead lines (octets ++ stream)) (hoctets : lineFeed ∉ octets) :
    Ahead lines stream := by
  generalize hall : octets ++ stream = all at h
  cases h with
  | none =>
    obtain ⟨-, rfl⟩ := List.append_eq_nil_iff.1 hall
    exact .none
  | @some l rest cut hcut =>
    rcases List.append_eq_append_iff.1 hall with ⟨more, rfl, rfl⟩ | ⟨more, rfl, hmore⟩
    · exact .some ((List.suffix_append octets more).trans hcut)
    · cases more with
      | nil =>
        rw [List.nil_append] at hmore
        have h : Ahead (l :: rest) ([] ++ lineFeed :: lineOctets rest) := .some List.nil_suffix
        exact hmore ▸ h
      | cons b more =>
        obtain ⟨rfl, -⟩ := List.cons.inj hmore
        exact absurd (List.mem_append_right cut List.mem_cons_self) hoctets

/-- A stream of whole lines does not end within one. -/
theorem eq_nil (h : Ahead lines stream) (hstream : lineFeed ∉ stream) : stream = [] := by
  cases h with
  | none => rfl
  | some => exact absurd (List.mem_append_right _ List.mem_cons_self) hstream

end Ahead

end Instrument
