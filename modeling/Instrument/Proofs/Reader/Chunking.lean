/-
# Reading does not depend on chunks

Two lines are `Rechunked` if one comes from the other by cutting data events in two and joining
neighbours.  Readers that meet rechunked lines give the same replies and faults at the same times,
and what is ahead of them afterwards is rechunked again (`receipts_rechunked`).

The proof goes through a normal form.  `spread` cuts all data into single octets; rechunked lines
have the same one, and a line without empty data is rechunked to its own.  So it is enough that a
read of a line and a read of its spread come to the same, where outcomes are compared after
spreading what is ahead (`Outcome.spread`).  One step carries this: a chunk that is met whole and
the same chunk met octet by octet (`await_data`).  Either the reply is whole at some octet of it,
and then it is whole with the octets behind it pending (`complete?_append`), or it is not, and then
the wait begins anew at its last octet.
-/
import Instrument.Proofs.Reader.Ending
import Mathlib.Logic.Relation

namespace Instrument

/-! ## Lines -/

namespace Line

/-- One data event is cut in two. -/
inductive Cut : Line → Line → Prop
  | intro (before after : Line) {x y : List UInt8} : x ≠ [] → y ≠ [] →
      Cut (before ++ .data (x ++ y) :: after) (before ++ .data x :: .data y :: after)

/-- Lines that differ in how their data is cut alone. -/
def Rechunked : Line → Line → Prop := Relation.EqvGen Cut

/-- Data in single octets. -/
def singles (octets : List UInt8) : Line := octets.map fun b => .data [b]

/-- A line with its data in single octets. -/
def spread (l : Line) : Line :=
  l.flatMap fun
    | .data octets => singles octets
    | e => [e]

/-- No data event of the line is empty. -/
def Dense (l : Line) : Prop := ∀ octets, .data octets ∈ l → octets ≠ []

theorem singles_append (x y : List UInt8) : singles (x ++ y) = singles x ++ singles y :=
  List.map_append

theorem spread_append (l l' : Line) : spread (l ++ l') = spread l ++ spread l' :=
  List.flatMap_append

theorem spread_cons (e : LineEvent) (l : Line) : spread (e :: l) = spread [e] ++ spread l :=
  spread_append [e] l

theorem spread_data (octets : List UInt8) (l : Line) :
    spread (.data octets :: l) = singles octets ++ spread l := rfl

theorem spread_singles (octets : List UInt8) : spread (singles octets) = singles octets := by
  induction octets with
  | nil => rfl
  | cons b rest ih => exact congrArg (.data [b] :: ·) ih

theorem spread_spread (l : Line) : spread (spread l) = spread l := by
  induction l with
  | nil => rfl
  | cons e rest ih =>
    cases e with
    | data octets => rw [spread_data, spread_append, spread_singles, ih]
    | wait d => exact congrArg (LineEvent.wait d :: ·) ih
    | close => exact congrArg (LineEvent.close :: ·) ih
    | fail f => exact congrArg (LineEvent.fail f :: ·) ih

theorem Dense.tail {e : LineEvent} {l : Line} (h : Dense (e :: l)) : Dense l :=
  fun octets ho => h octets (List.mem_cons_of_mem e ho)

/-! ### Rechunked lines -/

theorem spread_eq_of_rechunked {l l' : Line} (h : Rechunked l l') : spread l = spread l' := by
  induction h with
  | rel _ _ h =>
    obtain ⟨before, after, -, -⟩ := h
    simp only [spread_append, spread_data, singles_append, List.append_assoc]
  | refl => rfl
  | symm _ _ _ ih => exact ih.symm
  | trans _ _ _ _ _ ih ih' => exact ih.trans ih'

theorem Rechunked.cons {l l' : Line} (h : Rechunked l l') (e : LineEvent) :
    Rechunked (e :: l) (e :: l') := by
  induction h with
  | rel _ _ h =>
    obtain ⟨before, after, hx, hy⟩ := h
    exact .rel _ _ (.intro (e :: before) after hx hy)
  | refl => exact .refl _
  | symm _ _ _ ih => exact .symm _ _ ih
  | trans _ _ _ _ _ ih ih' => exact .trans _ _ _ ih ih'

/-- A chunk may be met octet by octet. -/
theorem rechunked_singles {octets : List UInt8} (h : octets ≠ []) (l : Line) :
    Rechunked (.data octets :: l) (singles octets ++ l) := by
  induction octets with
  | nil => exact absurd rfl h
  | cons b rest ih =>
    cases rest with
    | nil => exact .refl _
    | cons c rest =>
      have hne : c :: rest ≠ [] := List.cons_ne_nil c rest
      have hcut : Cut (.data (b :: c :: rest) :: l) (.data [b] :: .data (c :: rest) :: l) :=
        .intro (x := [b]) [] l (List.cons_ne_nil b []) hne
      exact .trans _ _ _ (.rel _ _ hcut) ((ih hne).cons _)

theorem rechunked_spread {l : Line} (h : Dense l) : Rechunked l (spread l) := by
  induction l with
  | nil => exact .refl _
  | cons e rest ih =>
    have hrest := (ih h.tail).cons e
    cases e with
    | data octets =>
      exact .trans _ _ _ hrest (rechunked_singles (h octets List.mem_cons_self) _)
    | wait d => exact hrest
    | close => exact hrest
    | fail f => exact hrest

/-- **Lines with one spread are rechunked**, if no data event is empty. -/
theorem rechunked_of_spread_eq {l l' : Line} (hl : Dense l) (hl' : Dense l')
    (h : spread l = spread l') : Rechunked l l' := by
  have h' := rechunked_spread hl
  rw [h] at h'
  exact .trans _ _ _ h' (.symm _ _ (rechunked_spread hl'))

/-! ### Lines that are fed -/

theorem flatten_chunks {fuel : Nat} {octets : List UInt8} (h : octets.length ≤ fuel) :
    (chunks fuel octets).flatten = octets := by
  induction fuel generalizing octets with
  | zero => exact (List.eq_nil_of_length_eq_zero (Nat.le_zero.1 h)).symm
  | succ fuel ih =>
    cases octets with
    | nil => rfl
    | cons b rest =>
      have hrest : ((b :: rest).drop chunkSize).length ≤ fuel := by
        rw [List.length_drop, chunkSize]
        omega
      rw [chunks, List.flatten_cons, ih hrest, List.take_append_drop]

theorem ne_nil_of_mem_chunks {fuel : Nat} {octets x : List UInt8} (h : x ∈ chunks fuel octets) :
    x ≠ [] := by
  induction fuel generalizing octets with
  | zero => cases h
  | succ fuel ih =>
    cases octets with
    | nil => cases h
    | cons b rest =>
      rcases List.mem_cons.1 h with rfl | h
      · exact List.cons_ne_nil b _
      · exact ih h

/-- The chunks of a buffer do not show in the spread. -/
theorem spread_chunked (e : LineEvent) : spread e.chunked = spread [e] := by
  cases e with
  | data octets =>
    have hflat : ∀ pieces : List (List UInt8),
        spread (pieces.map .data) = singles pieces.flatten := by
      intro pieces
      induction pieces with
      | nil => rfl
      | cons x rest ih => rw [List.map_cons, spread_data, ih, List.flatten_cons, singles_append]
    rw [LineEvent.chunked, hflat, flatten_chunks (Nat.le_refl _), spread_data]
    exact (List.append_nil _).symm
  | wait d => rfl
  | close => rfl
  | fail f => rfl

theorem spread_feed (events : List LineEvent) : spread (feed [] events) = spread events := by
  rw [feed, List.nil_append]
  induction events with
  | nil => rfl
  | cons e rest ih =>
    rw [List.flatMap_cons, spread_append, spread_chunked, ih, ← spread_append]
    rfl

theorem dense_feed (events : List LineEvent) : Dense (feed [] events) := by
  intro octets h
  rw [feed, List.nil_append, List.mem_flatMap] at h
  obtain ⟨e, -, h⟩ := h
  cases e with
  | data x =>
    obtain ⟨y, hy, heq⟩ := List.mem_map.1 h
    cases heq
    exact ne_nil_of_mem_chunks hy
  | wait d => simp [LineEvent.chunked] at h
  | close => simp [LineEvent.chunked] at h
  | fail f => simp [LineEvent.chunked] at h

end Line

/-! ## One read -/

namespace Reader

open Line

/-- An outcome with all that is ahead, pending or on the line, in single octets. -/
def Outcome.spread (o : Outcome) : Outcome :=
  { o with pending := [], line := singles o.pending ++ Line.spread o.line }

variable {r : Reader} {endpoint : String}

/-- **A chunk may be met octet by octet.** -/
theorem await_data (hs : r.strategy.Proper) {x : List UInt8} (hx : x ≠ []) (l : Line)
    (octets : List UInt8) (left patient : Nat) :
    (r.await endpoint octets left patient (.data x :: l)).spread =
      (r.await endpoint octets left patient (singles x ++ l)).spread := by
  induction x generalizing octets patient with
  | nil => exact absurd rfl hx
  | cons b rest ih =>
    cases rest with
    | nil => rfl
    | cons c rest =>
      have hwhole : octets ++ b :: c :: rest = octets ++ [b] ++ c :: rest := by simp
      show _ = (r.await endpoint octets left patient
        (.data [b] :: (singles (c :: rest) ++ l))).spread
      simp only [await]
      cases hb : complete? r.strategy (octets ++ [b]) with
      | some found =>
        -- The reply ends at this octet: the others are pending, or still on the line.
        obtain ⟨reply, pending⟩ := found
        rw [hwhole, complete?_append hs hb]
        simp only [Outcome.spread, singles_append, spread_append, spread_singles,
          List.append_assoc]
      | none =>
        have hmore := ih (List.cons_ne_nil c rest) (octets ++ [b])
          (r.patience (octets ++ [b]) left)
        rw [← hmore, hwhole]
        rfl

theorem Outcome.spread_after (o : Outcome) (d : Nat) : (o.after d).spread = o.spread.after d := rfl

theorem Outcome.spread_mk {reply : Except TransportFault (List UInt8)} {pending : List UInt8}
    {l l' : Line} {elapsed : Nat} (h : Line.spread l = Line.spread l') :
    (Outcome.mk reply pending l elapsed).spread = (Outcome.mk reply pending l' elapsed).spread := by
  simp only [Outcome.spread, h]

/-- **A line may be met octet by octet.** -/
theorem await_spread (hs : r.strategy.Proper) {l : Line} (hl : Dense l) (octets : List UInt8)
    (left patient : Nat) :
    (r.await endpoint octets left patient l).spread =
      (r.await endpoint octets left patient (Line.spread l)).spread := by
  induction l generalizing octets left patient with
  | nil => rfl
  | cons e rest ih =>
    have hrest := ih hl.tail
    have hspread : ∀ e, Line.spread (e :: rest) = Line.spread (e :: Line.spread rest) := by
      intro e
      rw [spread_cons, spread_cons e (Line.spread rest), spread_spread]
    cases e with
    | data x =>
      rw [spread_data, ← await_data hs (hl x List.mem_cons_self)]
      simp only [await]
      split
      · exact Outcome.spread_mk (spread_spread rest).symm
      · exact hrest _ _ _
    | wait d =>
      show _ = (r.await endpoint octets left patient (.wait d :: Line.spread rest)).spread
      simp only [await]
      split
      · rw [Outcome.spread_after, Outcome.spread_after, hrest]
      · exact Outcome.spread_mk (hspread _)
    | close => exact Outcome.spread_mk (hspread .close)
    | fail f => exact Outcome.spread_mk (spread_spread rest).symm

/-- What is ahead of a reader: the octets it holds, and then the line. -/
def ahead (r : Reader) (l : Line) : Line := if r.pending = [] then l else .data r.pending :: l

theorem spread_ahead (r : Reader) (l : Line) :
    Line.spread (r.ahead l) = singles r.pending ++ Line.spread l := by
  unfold ahead
  split
  · rename_i h
    rw [h]
    rfl
  · rfl

theorem dense_ahead (r : Reader) {l : Line} (hl : Dense l) : Dense (r.ahead l) := by
  unfold ahead
  split
  · exact hl
  · rename_i h
    intro octets ho
    rcases List.mem_cons.1 ho with heq | ho
    · cases heq
      exact h
    · exact hl octets ho

/-- Waiting does not look at the octets that a reader held. -/
theorem await_clear (octets : List UInt8) (left patient : Nat) (l : Line) :
    r.clear.await endpoint octets left patient l = r.await endpoint octets left patient l := by
  induction l generalizing octets left patient with
  | nil => rfl
  | cons e rest ih =>
    cases e with
    | data x =>
      simp only [await, ih]
      rfl
    | wait d =>
      simp only [await, ih]
      rfl
    | close => rfl
    | fail f => rfl

/-- **Octets that a reader holds are read as if they came first on the line.** -/
theorem readOctets_spread (hs : r.strategy.Proper) {l : Line} (hl : Dense l) :
    (r.readOctets endpoint l).spread =
      (r.clear.readOctets endpoint (Line.spread (r.ahead l))).spread := by
  have hnil : complete? r.strategy [] = none := complete?_nil hs
  have hclear : r.clear.readOctets endpoint (Line.spread (r.ahead l)) =
      r.await endpoint [] (ticks r.timeout) (r.patience [] (ticks r.timeout))
        (Line.spread (r.ahead l)) := by
    rw [← await_clear]
    simp only [readOctets, clear, hnil]
    rfl
  rw [hclear, ← await_spread hs (dense_ahead r hl)]
  by_cases hp : r.pending = []
  · simp only [readOctets, ahead, hp, hnil, if_true]
  · simp only [readOctets, ahead, if_neg hp, await, List.nil_append]

/-- Reading leaves no empty data event on a line that had none. -/
theorem dense_await {l : Line} (hl : Dense l) (octets : List UInt8) (left patient : Nat) :
    Dense (r.await endpoint octets left patient l).line := by
  induction l generalizing octets left patient with
  | nil => exact hl
  | cons e rest ih =>
    cases e with
    | data x =>
      simp only [await]
      split
      · exact hl.tail
      · exact ih hl.tail _ _ _
    | wait d =>
      simp only [await]
      split
      · exact ih hl.tail _ _ _
      · intro x hx
        rcases List.mem_cons.1 hx with heq | hx
        · cases heq
        · exact hl.tail x hx
    | close => exact hl
    | fail f => exact hl.tail

theorem dense_readOctets (r : Reader) (endpoint : String) {l : Line} (hl : Dense l) :
    Dense (r.readOctets endpoint l).line := by
  unfold readOctets
  split
  · exact hl
  · exact dense_await hl _ _ _

end Reader

/-! ## Read after read -/

/-- What comes of a read: the reply, the time since the first read began, and what is ahead. -/
structure Receipt where
  reply : Except TransportFault String
  time : Nat
  ahead : Line

/-- Receipts that differ in how the data ahead is cut alone. -/
structure Receipt.Alike (a b : Receipt) : Prop where
  reply_eq : a.reply = b.reply
  time_eq : a.time = b.time
  ahead : Line.Rechunked a.ahead b.ahead

namespace Reader

open Line

/-- What comes of a number of reads, one after the other, from a time on. -/
def receipts (endpoint : String) : (count : Nat) → Reader → Line → (time : Nat) → List Receipt
  | 0, _, _, _ => []
  | count + 1, r, l, time =>
    let later := time + (r.readOctets endpoint l).elapsed
    let (reply, r, l) := r.read endpoint l
    ⟨reply, later, r.ahead l⟩ :: receipts endpoint count r l later

/-- **One read**: readers of one strategy and timeout with the same octets ahead get the same reply
at the same time, and have the same octets ahead afterwards. -/
theorem readOctets_alike {r r' : Reader} (hr : r.clear = r'.clear) (hs : r.strategy.Proper)
    (endpoint : String) {l l' : Line} (hl : Dense l) (hl' : Dense l')
    (h : Line.spread (r.ahead l) = Line.spread (r'.ahead l')) :
    (r.readOctets endpoint l).spread = (r'.readOctets endpoint l').spread := by
  have hstrategy : r.clear.strategy = r'.clear.strategy := by rw [hr]
  have hs' : r'.strategy.Proper := by
    rwa [show r'.strategy = r.strategy from hstrategy.symm]
  rw [readOctets_spread hs hl, readOctets_spread hs' hl', hr, h]

/-- **Read after read.** -/
theorem receipts_alike {r r' : Reader} (hr : r.clear = r'.clear) (hs : r.strategy.Proper)
    {endpoint : String} {l l' : Line} (hl : Dense l) (hl' : Dense l')
    (h : Line.spread (r.ahead l) = Line.spread (r'.ahead l')) (count time : Nat) :
    List.Forall₂ Receipt.Alike (receipts endpoint count r l time)
      (receipts endpoint count r' l' time) := by
  induction count generalizing r r' l l' time with
  | zero => exact .nil
  | succ count ih =>
    have hstep := readOctets_alike hr hs endpoint hl hl' h
    have hreply : (r.readOctets endpoint l).spread.reply =
        (r'.readOctets endpoint l').spread.reply := by rw [hstep]
    have helapsed : (r.readOctets endpoint l).spread.elapsed =
        (r'.readOctets endpoint l').spread.elapsed := by rw [hstep]
    have hline : (r.readOctets endpoint l).spread.line =
        (r'.readOctets endpoint l').spread.line := by rw [hstep]
    have hdense := dense_readOctets r endpoint hl
    have hdense' := dense_readOctets r' endpoint hl'
    have hahead : Line.spread ((r.read endpoint l).2.1.ahead (r.read endpoint l).2.2) =
        Line.spread ((r'.read endpoint l').2.1.ahead (r'.read endpoint l').2.2) := by
      rw [spread_ahead, spread_ahead]
      exact hline
    refine .cons ⟨?_, ?_, ?_⟩ ?_
    · exact congrArg (·.map textOf) hreply
    · exact congrArg (time + ·) helapsed
    · exact rechunked_of_spread_eq (dense_ahead _ hdense) (dense_ahead _ hdense') hahead
    · have hlater : time + (r.readOctets endpoint l).elapsed =
          time + (r'.readOctets endpoint l').elapsed := congrArg (time + ·) helapsed
      rw [← hlater]
      have hnext : (r.read endpoint l).2.1.clear = (r'.read endpoint l').2.1.clear := hr
      exact ih hnext hs hdense hdense' hahead _

end Reader

/-- **Reading does not depend on how data is chunked.**  Whatever the settings, however many reads
are made of two scripts that are rechunked, and from whatever time on: read by read the reply or the
fault and the time are the same, and what is ahead is rechunked. -/
theorem receipts_rechunked (terminator : Option String) (length : Option Nat) (timeout : Nat)
    (endpoint : String) {script script' : List LineEvent} (h : Line.Rechunked script script')
    (count time : Nat) :
    List.Forall₂ Receipt.Alike
      (Reader.receipts endpoint count (.fresh (.ofSettings terminator length) timeout)
        (Line.feed [] script) time)
      (Reader.receipts endpoint count (.fresh (.ofSettings terminator length) timeout)
        (Line.feed [] script') time) := by
  refine Reader.receipts_alike rfl (ReadStrategy.proper_ofSettings terminator length)
    (Line.dense_feed script) (Line.dense_feed script') ?_ count time
  rw [Reader.spread_ahead, Reader.spread_ahead, Line.spread_feed, Line.spread_feed,
    Line.spread_eq_of_rechunked h]

/-- A script whose terminators and whose two-octet letter are cut by chunks, and the same script
joined. -/
theorem receipts_rechunked_crlf :
    let script : List LineEvent := [.data [0x0D, 0x0A, 0xC3, 0xA9, 0x0D], .data [0x0A, 0x42],
      .wait 300, .data [0x0D, 0x0A], .close]
    let script' : List LineEvent := [.data [0x0D, 0x0A, 0xC3], .data [0xA9, 0x0D, 0x0A, 0x42],
      .wait 300, .data [0x0D, 0x0A], .close]
    Line.Rechunked script script' ∧
      List.Forall₂ Receipt.Alike
        (Reader.receipts "loop" 3 (.fresh (.ofSettings (some "\r\n") none) 250)
          (Line.feed [] script) 0)
        (Reader.receipts "loop" 3 (.fresh (.ofSettings (some "\r\n") none) 250)
          (Line.feed [] script') 0) := by
  intro script script'
  let joined : List LineEvent := [.data [0x0D, 0x0A, 0xC3, 0xA9, 0x0D, 0x0A, 0x42],
    .wait 300, .data [0x0D, 0x0A], .close]
  have hcut : Line.Cut joined script :=
    .intro (x := [0x0D, 0x0A, 0xC3, 0xA9, 0x0D]) (y := [0x0A, 0x42]) []
      [.wait 300, .data [0x0D, 0x0A], .close] (List.cons_ne_nil _ _) (List.cons_ne_nil _ _)
  have hcut' : Line.Cut joined script' :=
    .intro (x := [0x0D, 0x0A, 0xC3]) (y := [0xA9, 0x0D, 0x0A, 0x42]) []
      [.wait 300, .data [0x0D, 0x0A], .close] (List.cons_ne_nil _ _) (List.cons_ne_nil _ _)
  have h : Line.Rechunked script script' :=
    .trans _ _ _ (.symm _ _ (.rel _ _ hcut)) (.rel _ _ hcut')
  exact ⟨h, receipts_rechunked (some "\r\n") none 250 "loop" h 3 0⟩

end Instrument
