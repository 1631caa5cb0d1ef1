/-
# Reading until the line falls silent

Without a terminator and without a length, a reply is what comes before the line falls silent.  This
file says by the clock alone what that is.

Put the events of a line (any that scripts and reads bring about, `Line.Reached`) on a clock
(`Line.timeline`): pauses are gone, and every other event has the time at which it can be met.  The
first burst are chunks, each of which comes within the `limit` that the one before it sets: the
silence that ends a reply, or the end of the time if that is earlier; the first chunk may take all
of the time (`FirstBurst`).  Then either nothing comes within the last limit but perhaps the end of
the stream (`Silent`), or a failure does.

A read returns the first burst, or the failure, and leaves what is later on the line, at its own time
(`burst_read`).  The reader itself keeps no clock: it counts down what is left of its time and of its
patience.  Both are the distance from now to a time on the clock, the deadline and the limit, and
that is the invariant of `await_burst`.
-/
import Instrument.Proofs.Reader.Chunking

namespace Instrument

/-! ## Lines on a clock -/

/-- The events of a line that are no pauses, with the times at which they can be met by a reader that
waits from a time on. -/
def Line.timeline (now : Nat) : Line → List (Nat × LineEvent)
  | [] => []
  | .wait d :: rest => timeline (now + d) rest
  | e :: rest => (now, e) :: timeline now rest

/-- What is met is on the line, and is not met before the waiting began. -/
theorem Line.of_mem_timeline {l : Line} {now a : Nat} {e : LineEvent} (h : (a, e) ∈ l.timeline now) :
    now ≤ a ∧ e ∈ l := by
  induction l generalizing now with
  | nil => cases h
  | cons first rest ih =>
    cases first with
    | wait d =>
      obtain ⟨hle, hmem⟩ := ih h
      exact ⟨Nat.le_of_add_right_le hle, List.mem_cons_of_mem _ hmem⟩
    | data | close | fail =>
      rcases List.mem_cons.1 h with heq | h
      · cases heq
        exact ⟨Nat.le_refl _, List.mem_cons_self⟩
      · exact ⟨(ih h).1, List.mem_cons_of_mem _ (ih h).2⟩

/-- No pause is met on a timeline. -/
theorem Line.wait_not_mem_timeline (l : Line) {a d : Nat} (now : Nat) :
    (a, .wait d) ∉ l.timeline now := by
  induction l generalizing now with
  | nil => exact List.not_mem_nil
  | cons first rest ih =>
    cases first with
    | wait e => exact ih (now + e)
    | data | close | fail => simpa [Line.timeline] using ih now

/-- The lines that a reader can meet: scripts are put on them, and reads leave them. -/
inductive Line.Reached : Line → Prop
  | nil : Reached []
  | feed {l : Line} (events : List LineEvent) : Reached l → Reached (l.feed events)
  | read {l : Line} (r : Reader) (endpoint : String) : Reached l →
      Reached (r.readOctets endpoint l).line

theorem Line.Dense.feed {l : Line} (hl : l.Dense) (events : List LineEvent) :
    (l.feed events).Dense := by
  intro octets h
  rcases List.mem_append.1 h with h | h
  · exact hl octets h
  · exact dense_feed events octets (by simpa [Line.feed] using h)

theorem Line.Reached.dense {l : Line} (h : l.Reached) : l.Dense := by
  induction h with
  | nil => exact nofun
  | feed events _ ih => exact ih.feed events
  | read r endpoint _ ih => exact r.dense_readOctets endpoint ih

namespace Reader

/-! ## Bursts -/

/-- When a read began, and the milliseconds after which it gives up. -/
structure Vigil where
  start : Nat
  timeout : Nat

/-- When the read gives up. -/
def Vigil.deadline (v : Vigil) : Nat := v.start + ticks v.timeout

/-- Until when the next octets must come, if the last ones came at a time, or if none came yet. -/
def Vigil.limit (v : Vigil) : Option Nat → Nat
  | none => v.deadline
  | some a => min v.deadline (a + quiet v.timeout)

/-- What comes in time sets a limit that is not past already. -/
theorem Vigil.le_limit_some {v : Vigil} {last : Option Nat} {now : Nat} (h : now ≤ v.limit last) :
    now ≤ v.limit (some now) := by
  have hdeadline : now ≤ v.deadline := by
    cases last with
    | none => exact h
    | some a => exact h.trans (Nat.min_le_left _ _)
  exact Nat.le_min.2 ⟨hdeadline, Nat.le_add_right _ _⟩

/-- A chunk and when it came. -/
structure Chunk where
  time : Nat
  octets : List UInt8

/-- When the last of some chunks came. -/
def lastTime (burst : List Chunk) : Option Nat := burst.getLast?.map (·.time)

/-- The octets of chunks. -/
def burstOctets (burst : List Chunk) : List UInt8 := burst.flatMap (·.octets)

/-- The first burst among events, and the events behind it: chunks, each of which comes within the
limit that the one before sets, until there is none.  `last` is when the chunk before them came. -/
inductive FirstBurst (v : Vigil) :
    (last : Option Nat) → List (Nat × LineEvent) → List Chunk → List (Nat × LineEvent) → Prop
  | chunk {last : Option Nat} {a : Nat} {x : List UInt8} {events rest : List (Nat × LineEvent)}
      {burst : List Chunk} : a ≤ v.limit last → FirstBurst v (some a) events burst rest →
      FirstBurst v last ((a, .data x) :: events) (⟨a, x⟩ :: burst) rest
  | ended {last : Option Nat} {events : List (Nat × LineEvent)} :
      (∀ a x more, events = (a, .data x) :: more → v.limit last < a) →
      FirstBurst v last events [] events

/-- Nothing more comes within a limit, unless it is the end of the stream. -/
inductive Silent (limit : Nat) : List (Nat × LineEvent) → Prop
  | never : Silent limit []
  | closed {a : Nat} {more : List (Nat × LineEvent)} : Silent limit ((a, .close) :: more)
  | late {a : Nat} {e : LineEvent} {more : List (Nat × LineEvent)} : limit < a →
      Silent limit ((a, e) :: more)

theorem Silent.of_late {limit : Nat} {events : List (Nat × LineEvent)}
    (h : ∀ a e, (a, e) ∈ events → limit < a) : Silent limit events := by
  cases events with
  | nil => exact .never
  | cons first more => exact .late (h _ _ List.mem_cons_self)

variable {v : Vigil} {last : Option Nat} {events rest : List (Nat × LineEvent)}
  {burst : List Chunk}

/-- Every timeline has a first burst. -/
theorem exists_firstBurst (v : Vigil) (last : Option Nat) (events : List (Nat × LineEvent)) :
    ∃ burst rest, FirstBurst v last events burst rest := by
  induction events generalizing last with
  | nil => exact ⟨[], [], .ended nofun⟩
  | cons first events ih =>
    obtain ⟨a, e⟩ := first
    cases e with
    | data x =>
      by_cases ha : a ≤ v.limit last
      · obtain ⟨burst, rest, h⟩ := ih (some a)
        exact ⟨_, rest, .chunk ha h⟩
      · refine ⟨[], _, .ended fun b y more heq => ?_⟩
        cases heq
        exact Nat.not_le.1 ha
    | wait | close | fail => exact ⟨[], _, .ended nofun⟩

/-- Events that are all past the limit are behind the burst. -/
theorem FirstBurst.of_late (h : FirstBurst v last events burst rest)
    (hlate : ∀ a e, (a, e) ∈ events → v.limit last < a) : burst = [] ∧ rest = events := by
  cases h with
  | chunk ha _ => exact absurd (hlate _ _ List.mem_cons_self) (Nat.not_lt.2 ha)
  | ended => exact ⟨rfl, rfl⟩

/-- Events that begin with no data are behind the burst. -/
theorem FirstBurst.of_head {a : Nat} {e : LineEvent} (he : ∀ x, e ≠ .data x)
    (h : FirstBurst v last ((a, e) :: events) burst rest) :
    burst = [] ∧ rest = (a, e) :: events := by
  cases h with
  | chunk => exact absurd rfl (he _)
  | ended => exact ⟨rfl, rfl⟩

/-- Data that comes in time begins the burst. -/
theorem FirstBurst.of_data {a : Nat} {x : List UInt8} (ha : a ≤ v.limit last)
    (h : FirstBurst v last ((a, .data x) :: events) burst rest) :
    ∃ more, burst = ⟨a, x⟩ :: more ∧ FirstBurst v (some a) events more rest := by
  cases h with
  | chunk _ hmore => exact ⟨_, rfl, hmore⟩
  | ended hlate => exact absurd (hlate a x events rfl) (Nat.not_lt.2 ha)

/-- A timeline has one first burst. -/
theorem FirstBurst.unique {burst' : List Chunk} {rest' : List (Nat × LineEvent)}
    (h : FirstBurst v last events burst rest) (h' : FirstBurst v last events burst' rest') :
    burst = burst' ∧ rest = rest' := by
  induction h generalizing burst' rest' with
  | chunk ha _ ih =>
    obtain ⟨more, rfl, hmore⟩ := h'.of_data ha
    obtain ⟨rfl, rfl⟩ := ih hmore
    exact ⟨rfl, rfl⟩
  | ended hlate =>
    cases h' with
    | chunk ha _ => exact absurd (hlate _ _ _ rfl) (Nat.not_lt.2 ha)
    | ended => exact ⟨rfl, rfl⟩

/-- A chunk as the event that it is. -/
def Chunk.event (c : Chunk) : Nat × LineEvent := (c.time, .data c.octets)

/-- The burst and the events behind it are all that there is. -/
theorem FirstBurst.events_eq (h : FirstBurst v last events burst rest) :
    events = burst.map Chunk.event ++ rest := by
  induction h with
  | chunk _ _ ih =>
    rw [List.map_cons, List.cons_append, ← ih]
    rfl
  | ended => rfl

theorem lastTime_cons (c : Chunk) (burst : List Chunk) :
    (lastTime (c :: burst)).or last = (lastTime burst).or (some c.time) := by
  rw [lastTime, lastTime, List.getLast?_cons]
  cases burst.getLast? <;> rfl

/-- Data behind the burst is past the limit. -/
theorem FirstBurst.lt_of_rest (h : FirstBurst v last events burst rest) {a : Nat} {x : List UInt8}
    {later : List (Nat × LineEvent)} (hrest : rest = (a, .data x) :: later) :
    v.limit ((lastTime burst).or last) < a := by
  induction h with
  | chunk _ _ ih =>
    rw [lastTime_cons]
    exact ih hrest
  | ended hlate => exact hlate a x later hrest

/-- Behind the burst the line is silent, or there is a failure. -/
theorem FirstBurst.silent_or_failed {l : Line} {now : Nat}
    (h : FirstBurst v last (l.timeline now) burst rest) :
    Silent (v.limit ((lastTime burst).or last)) rest ∨
      ∃ a f later, rest = (a, .fail f) :: later ∧ a ≤ v.limit ((lastTime burst).or last) := by
  match hrest : rest with
  | [] => exact .inl .never
  | (a, .close) :: later => exact .inl .closed
  | (a, .data x) :: later => exact .inl (.late (h.lt_of_rest rfl))
  | (a, .wait d) :: later =>
    have hmem : (a, .wait d) ∈ l.timeline now := by simp [h.events_eq]
    exact absurd hmem (Line.wait_not_mem_timeline l now)
  | (a, .fail f) :: later =>
    by_cases ha : a ≤ v.limit ((lastTime burst).or last)
    · exact .inr ⟨a, f, later, rfl, ha⟩
    · exact .inl (.late (Nat.not_le.1 ha))

/-- A burst of chunks has octets. -/
theorem burstOctets_ne_nil {l : Line} (hl : l.Dense) {now : Nat}
    (h : FirstBurst v last (l.timeline now) burst rest) (hne : burst ≠ []) :
    burstOctets burst ≠ [] := by
  obtain ⟨c, hc⟩ := List.exists_mem_of_ne_nil burst hne
  have hmem : c.event ∈ l.timeline now := by
    rw [h.events_eq]
    exact List.mem_append_left _ (List.mem_map_of_mem hc)
  intro hnil
  exact hl c.octets (Line.of_mem_timeline hmem).2 (List.flatMap_eq_nil_iff.1 hnil c hc)

/-! ## One read -/

variable {r : Reader} {endpoint : String}

theorem complete?_untilQuiet (octets : List UInt8) : complete? .untilQuiet octets = none := rfl

/-- How long the reader waits once octets have come is how far the limit is away. -/
theorem patience_eq (hs : r.strategy = .untilQuiet) (ht : v.timeout = r.timeout)
    {octets : List UInt8} (hne : octets ≠ []) (now : Nat) :
    r.patience octets (v.deadline - now) = v.limit (some now) - now := by
  have hfull : octets.isEmpty = false := by simpa using hne
  simp only [patience, hs, hfull, Bool.not_false, Bool.and_true, decide_true, if_true, Vigil.limit, ht]
  omega

theorem append_burstOctets_nil (held : List UInt8) : held ++ burstOctets [] = held :=
  List.append_nil held

theorem append_burstOctets_cons (held : List UInt8) (c : Chunk) (burst : List Chunk) :
    held ++ burstOctets (c :: burst) = held ++ c.octets ++ burstOctets burst := by
  rw [burstOctets, List.flatMap_cons, List.append_assoc]
  rfl

/-- What a read comes to that has got the octets `held`, when the rest of the burst and what follows
it are known. -/
structure Outcome.Cuts (o : Outcome) (r : Reader) (endpoint : String) (now limit : Nat)
    (octets : List UInt8) (rest : List (Nat × LineEvent)) : Prop where
  silent : Silent limit rest →
    (octets = [] → o.reply = .error (.nothingRead endpoint r.timeout)) ∧
    (octets ≠ [] → o.reply = .ok octets) ∧ o.line.timeline (now + o.elapsed) = rest
  failed : ∀ a f more, rest = (a, .fail f) :: more → a ≤ limit →
    o.reply = .error (.io f) ∧ o.line.timeline (now + o.elapsed) = more
  pending : o.pending = []

/-- A read that stops in silence has the octets so far. -/
theorem cuts_of_stop (hs : r.strategy = .untilQuiet) {o : Outcome} {now limit : Nat}
    {held : List UInt8} {fault : TransportFault} (hreply : o.reply = r.stop endpoint held fault)
    (hpending : o.pending = []) (hline : o.line.timeline (now + o.elapsed) = rest)
    (hsilent : Silent limit rest) : o.Cuts r endpoint now limit held rest := by
  refine ⟨fun _ => ⟨fun hnil => ?_, fun hne => ?_, hline⟩, fun a f more hrest ha => ?_, hpending⟩
  · simp [hreply, stop, hs, hnil]
  · simp [hreply, stop, hs, hne]
  · rw [hrest] at hsilent
    cases hsilent with
    | late hlate => exact absurd ha (Nat.not_le.2 hlate)

theorem Outcome.Cuts.after {o : Outcome} {now limit d : Nat} {octets : List UInt8}
    (h : o.Cuts r endpoint (now + d) limit octets rest) :
    (o.after d).Cuts r endpoint now limit octets rest := by
  have htime : now + (o.after d).elapsed = now + d + o.elapsed := by
    simp only [Outcome.after]
    omega
  refine ⟨?_, ?_, h.pending⟩
  · rw [htime]
    exact h.silent
  · rw [htime]
    exact h.failed

/-- **A read that waits gets the rest of the burst.** -/
theorem await_burst (hs : r.strategy = .untilQuiet) (ht : v.timeout = r.timeout) {l : Line}
    (hl : l.Dense) {held : List UInt8} {now : Nat} (hnow : now ≤ v.limit last)
    (h : FirstBurst v last (l.timeline now) burst rest) :
    (r.await endpoint held (v.deadline - now) (v.limit last - now) l).Cuts r endpoint now
      (v.limit ((lastTime burst).or last)) (held ++ burstOctets burst) rest := by
  -- The reader counts down: `left` is the way to the deadline, `patient` that to the limit.
  induction l generalizing held last now burst with
  | nil =>
    obtain ⟨rfl, rfl⟩ := h.of_late fun _ _ ha => absurd ha List.not_mem_nil
    rw [append_burstOctets_nil]
    exact cuts_of_stop hs rfl rfl rfl .never
  | cons e l ih =>
    cases e with
    | wait d =>
      have hrest : Line.timeline now (.wait d :: l) = Line.timeline (now + d) l := rfl
      rw [hrest] at h
      simp only [await]
      split
      · rename_i hd
        have hleft : v.deadline - now - d = v.deadline - (now + d) := Nat.sub_sub _ _ _
        have hpatient : v.limit last - now - d = v.limit last - (now + d) := Nat.sub_sub _ _ _
        rw [hleft, hpatient]
        exact (ih hl.tail (by omega) h).after
      · rename_i hd
        have hlate : ∀ a e, (a, e) ∈ Line.timeline (now + d) l → v.limit last < a := by
          intro a e ha
          have hlow := (Line.of_mem_timeline ha).1
          omega
        obtain ⟨rfl, rfl⟩ := h.of_late hlate
        rw [append_burstOctets_nil]
        refine cuts_of_stop hs rfl rfl ?_ (.of_late hlate)
        have htime : now + (v.limit last - now) + (d - (v.limit last - now)) = now + d := by omega
        simp only [Line.timeline, htime]
    | close =>
      obtain ⟨rfl, rfl⟩ := FirstBurst.of_head (by simp) h
      rw [append_burstOctets_nil]
      exact cuts_of_stop hs rfl rfl rfl .closed
    | fail f =>
      obtain ⟨rfl, rfl⟩ := FirstBurst.of_head (by simp) h
      refine ⟨fun hsilent => ?_, fun a f' more heq _ => ?_, rfl⟩
      · cases hsilent with
        | late hlate => exact absurd hlate (Nat.not_lt.2 hnow)
      · cases heq
        exact ⟨rfl, rfl⟩
    | data x =>
      obtain ⟨more, rfl, hmore⟩ := h.of_data hnow
      have hne : held ++ x ≠ [] := by
        have hx := hl x List.mem_cons_self
        simp [hx]
      simp only [await, hs, complete?_untilQuiet]
      rw [append_burstOctets_cons, lastTime_cons, patience_eq hs ht hne]
      exact ih hl.tail (Vigil.le_limit_some hnow) hmore

/-- A fresh reader waits until the deadline, from when on it waits. -/
theorem readOctets_fresh (timeout start : Nat) (endpoint : String) (l : Line) :
    (fresh .untilQuiet timeout).readOctets endpoint l =
      (fresh .untilQuiet timeout).await endpoint [] ((Vigil.mk start timeout).deadline - start)
        ((Vigil.mk start timeout).limit none - start) l := by
  have hleft : (Vigil.mk start timeout).deadline - start = ticks timeout := Nat.add_sub_cancel_left ..
  have hpatient : (Vigil.mk start timeout).limit none - start = ticks timeout := hleft
  rw [hleft, hpatient]
  rfl

end Reader

open Reader

/-- **A read until the line falls silent returns the first burst.**  Whatever line a fresh reader
meets, it has a first burst, and only one.  If nothing comes within the limit behind the burst, or
the stream ends, the read returns the text of the burst, or a fault if that is empty; otherwise a
failure comes within the limit, and the read fails with it and the burst is lost.  What comes later
stays on the line and keeps its time, and the reader holds nothing afterwards. -/
theorem burst_read (timeout start : Nat) (endpoint : String) {l : Line} (hl : l.Reached) :
    let r := Reader.fresh .untilQuiet timeout
    let v : Vigil := ⟨start, timeout⟩
    let o := r.readOctets endpoint l
    (r.read endpoint l).2 = (r, o.line) ∧
    ∃ burst rest, (∀ burst' rest', FirstBurst v none (l.timeline start) burst' rest' ↔
        burst' = burst ∧ rest' = rest) ∧
      (Silent (v.limit (lastTime burst)) rest ∧
        (burst = [] → (r.read endpoint l).1 = .error (.nothingRead endpoint timeout)) ∧
        (burst ≠ [] → (r.read endpoint l).1 = .ok (textOf (burstOctets burst))) ∧
        o.line.timeline (start + o.elapsed) = rest ∨
      ∃ a f later, rest = (a, .fail f) :: later ∧ a ≤ v.limit (lastTime burst) ∧
        (r.read endpoint l).1 = .error (.io f) ∧
        o.line.timeline (start + o.elapsed) = later) := by
  intro r v o
  obtain ⟨burst, rest, h⟩ := exists_firstBurst v none (l.timeline start)
  have hcuts : o.Cuts r endpoint start (v.limit (lastTime burst)) (burstOctets burst) rest := by
    have hread : (r.await endpoint [] (v.deadline - start) (v.limit none - start) l).Cuts r endpoint
        start (v.limit ((lastTime burst).or none)) ([] ++ burstOctets burst) rest :=
      await_burst rfl rfl hl.dense (Nat.le_add_right _ _) h
    rwa [← readOctets_fresh, Option.or_none, List.nil_append] at hread
  have hfirst : (r.read endpoint l).1 = o.reply.map textOf := rfl
  have hreader : (r.read endpoint l).2 = (r, o.line) := by
    show (Reader.mk r.strategy r.timeout o.pending, o.line) = _
    rw [hcuts.pending]
    rfl
  refine ⟨hreader, burst, rest, fun burst' rest' => ⟨fun h' => h'.unique h, ?_⟩, ?_⟩
  · rintro ⟨rfl, rfl⟩
    exact h
  · rcases Option.or_none ▸ h.silent_or_failed with hsilent | ⟨a, f, later, hrest, ha⟩
    · obtain ⟨hnone, hsome, hline⟩ := hcuts.silent hsilent
      refine .inl ⟨hsilent, fun hnil => ?_, fun hne => ?_, hline⟩
      · rw [hfirst, hnone (by rw [hnil]; rfl)]
        rfl
      · rw [hfirst, hsome (burstOctets_ne_nil hl.dense h hne)]
        rfl
    · obtain ⟨hreply, hline⟩ := hcuts.failed a f later hrest ha
      refine .inr ⟨a, f, later, hrest, ha, ?_, hline⟩
      rw [hfirst, hreply]
      rfl

/-- A gap as long as the silence that ends a reply belongs to the burst, a longer one ends it. -/
theorem burst_read_gap :
    let script : List LineEvent :=
      [.wait 10, .data [0x41], .wait 2000, .data [0x42], .wait 2001, .data [0x43]]
    let l := Line.feed [] script
    let r := Reader.fresh .untilQuiet 100
    let o := r.readOctets "loop" l
    l.Reached ∧ FirstBurst ⟨0, 100⟩ none (l.timeline 0) [⟨10, [0x41]⟩, ⟨2010, [0x42]⟩]
        [(4011, .data [0x43])] ∧
      (r.read "loop" l).1 = .ok "AB" ∧ o.line.timeline (0 + o.elapsed) = [(4011, .data [0x43])] := by
  intro script l r o
  have hl : l.Reached := .feed script .nil
  have hfirst : FirstBurst ⟨0, 100⟩ none (l.timeline 0) [⟨10, [0x41]⟩, ⟨2010, [0x42]⟩]
      [(4011, .data [0x43])] := by
    refine .chunk (by decide) (.chunk (by decide) (.ended fun a x later h => ?_))
    cases h
    decide
  obtain ⟨-, burst, rest, honly, hread⟩ := burst_read 100 0 "loop" hl
  obtain ⟨rfl, rfl⟩ := (honly _ _).1 hfirst
  rcases hread with ⟨-, -, htext, hline⟩ | ⟨a, f, later, hrest, -⟩
  · refine ⟨hl, hfirst, ?_, hline⟩
    rw [htext (List.cons_ne_nil _ _)]
    decide
  · cases hrest

end Instrument
