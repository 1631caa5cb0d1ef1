/-
# Reading in time

A read is a loop in a loop.  While the octets that it holds begin with a terminator, that one is
dropped; if what is left is no whole reply, the read goes on with what happens next on the line
(`Advances`), until there is a whole reply or nothing more to wait for (`Finishes`).

It does not go on for ever, whatever the settings are and however the data comes (`read_in_time`):

* every step takes away octets that are held or an event of the line (`Stage.size`), as a terminator
  of settings is not empty; with an empty one the inner loop would turn on the spot
  (`advances_self`);
* no step changes what the read will come to (`Advances.outcome_eq`), which is what
  `Reader.readOctets` says;
* the time spent and the time left make up the timeout at every step (`InTime`), and no wait is
  longer than what is left, so no data puts the end off.

A read that fails holds nothing afterwards, and so is a fresh reader again.
-/
import Instrument.Proofs.Reader.Framing
import Mathlib.Logic.Relation

namespace Instrument

namespace Reader

/-! ## Steps of a read -/

/-- Where a read stands: the octets that it holds, what is still to happen on the line, what is left
of its time, how long it waits for the next octets, and how long it took so far. -/
structure Stage where
  held : List UInt8
  line : Line
  left : Nat
  patient : Nat
  elapsed : Nat

/-- Where a read begins. -/
def outset (r : Reader) (l : Line) : Stage where
  held := r.pending
  line := l
  left := ticks r.timeout
  patient := r.patience r.pending (ticks r.timeout)
  elapsed := 0

/-- One step of a read: a terminator at the start is dropped, a pause is waited for, or data is taken
in. -/
inductive Advances (r : Reader) : Stage → Stage → Prop
  | strip {t rest : List UInt8} {l : Line} {left patient elapsed : Nat} :
      r.strategy = .terminator t →
      r.Advances ⟨t ++ rest, l, left, patient, elapsed⟩ ⟨rest, l, left, patient, elapsed⟩
  | pause {held : List UInt8} {l : Line} {d left patient elapsed : Nat} :
      complete? r.strategy held = none → d ≤ patient →
      r.Advances ⟨held, .wait d :: l, left, patient, elapsed⟩
        ⟨held, l, left - d, patient - d, elapsed + d⟩
  | take {held x : List UInt8} {l : Line} {left patient elapsed : Nat} :
      complete? r.strategy held = none →
      r.Advances ⟨held, .data x :: l, left, patient, elapsed⟩
        ⟨held ++ x, l, left, r.patience (held ++ x) left, elapsed⟩

/-- The end of a read: there is a whole reply, the wait is over, or the stream ends or fails. -/
inductive Finishes (r : Reader) (endpoint : String) : Stage → Outcome → Prop
  | whole {held reply pending : List UInt8} {l : Line} {left patient elapsed : Nat} :
      complete? r.strategy held = some (reply, pending) →
      r.Finishes endpoint ⟨held, l, left, patient, elapsed⟩ ⟨.ok reply, pending, l, elapsed⟩
  | silent {held : List UInt8} {left patient elapsed : Nat} :
      complete? r.strategy held = none →
      r.Finishes endpoint ⟨held, [], left, patient, elapsed⟩
        ⟨r.stop endpoint held (.timeout r.timeout), [], [], elapsed + patient⟩
  | late {held : List UInt8} {l : Line} {d left patient elapsed : Nat} :
      complete? r.strategy held = none → patient < d →
      r.Finishes endpoint ⟨held, .wait d :: l, left, patient, elapsed⟩
        ⟨r.stop endpoint held (.timeout r.timeout), [], .wait (d - patient) :: l,
          elapsed + patient⟩
  | closed {held : List UInt8} {l : Line} {left patient elapsed : Nat} :
      complete? r.strategy held = none →
      r.Finishes endpoint ⟨held, .close :: l, left, patient, elapsed⟩
        ⟨r.stop endpoint held (.closed endpoint), [], .close :: l, elapsed⟩
  | failed {held : List UInt8} {f : IoFault} {l : Line} {left patient elapsed : Nat} :
      complete? r.strategy held = none →
      r.Finishes endpoint ⟨held, .fail f :: l, left, patient, elapsed⟩
        ⟨.error (.io f), [], l, elapsed⟩

variable {r : Reader} {endpoint : String} {s s' : Stage}

/-! ## Every run of steps is finite -/

/-- The octets that are held and those still to come, and the events of the line. -/
def Stage.size (s : Stage) : Nat := s.held.length + s.line.octets.length + s.line.length

theorem Advances.size_lt (hr : r.strategy.Proper) (h : r.Advances s s') : s'.size < s.size := by
  cases h with
  | @strip t rest l left patient elapsed ht =>
    have hne : t ≠ [] := by simpa [ReadStrategy.Proper, ht] using hr
    have hpos := List.length_pos_of_ne_nil hne
    simp only [Stage.size, List.length_append]
    omega
  | @pause held l d left patient elapsed _ _ =>
    have hoctets : Line.octets (.wait d :: l) = Line.octets l := rfl
    simp only [Stage.size, hoctets, List.length_cons]
    omega
  | @take held x l left patient elapsed _ =>
    simp only [Stage.size, Line.octets_data, List.length_append, List.length_cons]
    omega

/-- **A read does not go on for ever.** -/
theorem wellFounded_advances (hr : r.strategy.Proper) :
    WellFounded fun after before => r.Advances before after :=
  Subrelation.wf (Advances.size_lt hr) (measure Stage.size).wf

/-- With an empty terminator there is always a step that changes nothing. -/
theorem advances_self (hr : r.strategy = .terminator []) (s : Stage) : r.Advances s s :=
  .strip (t := []) hr

/-! ## Steps do not change what a read comes to -/

/-- What a read comes to from where it stands. -/
def Stage.outcome (r : Reader) (endpoint : String) (s : Stage) : Outcome :=
  match complete? r.strategy s.held with
  | some (reply, pending) => ⟨.ok reply, pending, s.line, s.elapsed⟩
  | none => (r.await endpoint s.held s.left s.patient s.line).after s.elapsed

theorem Stage.outcome_outset (r : Reader) (endpoint : String) (l : Line) :
    (r.outset l).outcome r endpoint = r.readOctets endpoint l := by
  simp only [Stage.outcome, readOctets, outset]
  cases complete? r.strategy r.pending <;> rfl

theorem Stage.outcome_of_some {reply pending : List UInt8}
    (h : complete? r.strategy s.held = some (reply, pending)) :
    s.outcome r endpoint = ⟨.ok reply, pending, s.line, s.elapsed⟩ := by
  simp only [Stage.outcome, h]

theorem Stage.outcome_of_none (h : complete? r.strategy s.held = none) :
    s.outcome r endpoint = (r.await endpoint s.held s.left s.patient s.line).after s.elapsed := by
  simp only [Stage.outcome, h]

theorem Outcome.after_after (o : Outcome) (d e : Nat) : (o.after d).after e = o.after (e + d) := by
  have helapsed : o.elapsed + d + e = o.elapsed + (e + d) := by omega
  simp only [Outcome.after, helapsed]

/-- A terminator at the start is no part of a reply. -/
theorem complete?_strip {t : List UInt8} (ht : t ≠ []) (rest : List UInt8) :
    complete? (.terminator t) (t ++ rest) = complete? (.terminator t) rest := by
  obtain ⟨count, hrest, hnot⟩ := exists_strip ht (Nat.le_refl rest.length)
  have hone : t ++ rest = copies t (count + 1) ++ strip t rest.length rest := by
    rw [copies_succ, List.append_assoc, ← hrest]
  have hstrip : strip t (t ++ rest).length (t ++ rest) = strip t rest.length rest := by
    have hcopies := strip_copies ht hnot
      (Nat.le_refl (copies t (count + 1) ++ strip t rest.length rest).length)
    rwa [← hone] at hcopies
  simp only [complete?, hstrip]

theorem patience_of_ne (hr : r.strategy ≠ .untilQuiet) (octets : List UInt8) (left : Nat) :
    r.patience octets left = left := by
  simp [patience, hr]

theorem patience_le (octets : List UInt8) (left : Nat) : r.patience octets left ≤ left := by
  unfold patience
  split
  · exact Nat.min_le_left _ _
  · exact Nat.le_refl left

/-- A read that waits does not look at a terminator at the start. -/
theorem await_strip {t : List UInt8} (ht : t ≠ []) (hr : r.strategy = .terminator t)
    (held : List UInt8) (left patient : Nat) (l : Line) :
    r.await endpoint (t ++ held) left patient l = r.await endpoint held left patient l := by
  have hs : r.strategy ≠ .untilQuiet := by simp [hr]
  induction l generalizing held left patient with
  | nil => simp only [await, stop_eq_error hs]
  | cons e rest ih =>
    cases e with
    | data x =>
      have hstrip : complete? r.strategy (t ++ held ++ x) = complete? r.strategy (held ++ x) := by
        rw [hr, List.append_assoc, complete?_strip ht]
      simp only [await, hstrip, patience_of_ne hs]
      split
      · rfl
      · rw [List.append_assoc, ih]
    | wait d => simp only [await, ih, stop_eq_error hs]
    | close => simp only [await, stop_eq_error hs]
    | fail f => rfl

/-- **A step does not change what the read comes to.** -/
theorem Advances.outcome_eq (hr : r.strategy.Proper) (h : r.Advances s s') :
    s.outcome r endpoint = s'.outcome r endpoint := by
  cases h with
  | @strip t rest l left patient elapsed ht =>
    have hne : t ≠ [] := by simpa [ReadStrategy.Proper, ht] using hr
    simp only [Stage.outcome, ht, complete?_strip hne, await_strip hne ht]
  | @pause held l d left patient elapsed hnone hd =>
    rw [Stage.outcome_of_none hnone, Stage.outcome_of_none hnone]
    simp only [await, if_pos hd, Outcome.after_after]
  | @take held x l left patient elapsed hnone =>
    rw [Stage.outcome_of_none hnone]
    simp only [await, Stage.outcome]
    cases complete? r.strategy (held ++ x) with
    | none => rfl
    | some found => simp only [Outcome.after, Nat.zero_add]

theorem Finishes.eq_outcome {o : Outcome} (h : r.Finishes endpoint s o) : s.outcome r endpoint = o := by
  cases h with
  | whole hsome => exact Stage.outcome_of_some hsome
  | silent hnone =>
    rw [Stage.outcome_of_none hnone]
    simp only [await, Outcome.after, Nat.add_comm]
  | late hnone hd =>
    rw [Stage.outcome_of_none hnone]
    simp only [await, if_neg (Nat.not_le.2 hd), Outcome.after, Nat.add_comm]
  | closed hnone =>
    rw [Stage.outcome_of_none hnone]
    simp only [await, Outcome.after, Nat.zero_add]
  | failed hnone =>
    rw [Stage.outcome_of_none hnone]
    simp only [await, Outcome.after, Nat.zero_add]

/-- **A read is over or makes a step.** -/
theorem finishes_or_advances (r : Reader) (endpoint : String) (s : Stage) :
    (∃ o, r.Finishes endpoint s o) ∨ ∃ s', r.Advances s s' := by
  obtain ⟨held, line, left, patient, elapsed⟩ := s
  cases hwhole : complete? r.strategy held with
  | some found => exact .inl ⟨_, .whole hwhole⟩
  | none =>
    cases line with
    | nil => exact .inl ⟨_, .silent hwhole⟩
    | cons e l =>
      cases e with
      | data x => exact .inr ⟨_, .take hwhole⟩
      | wait d =>
        by_cases hd : d ≤ patient
        · exact .inr ⟨_, .pause hwhole hd⟩
        · exact .inl ⟨_, .late hwhole (Nat.not_le.1 hd)⟩
      | close => exact .inl ⟨_, .closed hwhole⟩
      | fail f => exact .inl ⟨_, .failed hwhole⟩

theorem outcome_eq_of_steps (hr : r.strategy.Proper)
    (h : Relation.ReflTransGen r.Advances s s') : s.outcome r endpoint = s'.outcome r endpoint := by
  induction h with
  | refl => rfl
  | tail _ hstep ih => exact ih.trans (hstep.outcome_eq hr)

/-- **Every read comes to its end**, and that is what it comes to. -/
theorem exists_finishes (hr : r.strategy.Proper) (endpoint : String) (s : Stage) :
    ∃ s', Relation.ReflTransGen r.Advances s s' ∧ r.Finishes endpoint s' (s.outcome r endpoint) := by
  induction s using (wellFounded_advances hr).induction with
  | _ s ih =>
    rcases finishes_or_advances r endpoint s with ⟨o, hfinish⟩ | ⟨next, hstep⟩
    · exact ⟨s, .refl, hfinish.eq_outcome ▸ hfinish⟩
    · obtain ⟨last, hsteps, hfinish⟩ := ih next hstep
      exact ⟨last, .head hstep hsteps, hstep.outcome_eq hr ▸ hfinish⟩

/-! ## The deadline -/

/-- The time spent and the time left make up the timeout, and the next wait ends within it; a reader
that does not wait for silence waits for all of it. -/
structure InTime (r : Reader) (s : Stage) : Prop where
  spent : s.elapsed + s.left = ticks r.timeout
  patient_le : s.patient ≤ s.left
  patient_eq : r.strategy ≠ .untilQuiet → s.patient = s.left

theorem inTime_outset (r : Reader) (l : Line) : r.InTime (r.outset l) where
  spent := Nat.zero_add _
  patient_le := patience_le _ _
  patient_eq := fun hs => patience_of_ne hs _ _

/-- **A step keeps to the deadline.** -/
theorem InTime.step (h : r.InTime s) (hstep : r.Advances s s') : r.InTime s' := by
  obtain ⟨hspent, hle, heq⟩ := h
  cases hstep with
  | strip => exact ⟨hspent, hle, heq⟩
  | pause _ hd =>
    simp only at hspent hle heq
    refine ⟨?_, ?_, fun hs => ?_⟩
    · simp only
      omega
    · simp only
      omega
    · simp only [heq hs]
  | take => exact ⟨hspent, patience_le _ _, fun hs => patience_of_ne hs _ _⟩

theorem InTime.steps (h : r.InTime s) (hsteps : Relation.ReflTransGen r.Advances s s') :
    r.InTime s' := by
  induction hsteps with
  | refl => exact h
  | tail _ hstep ih => exact ih.step hstep

/-- The reader that waits for silence never reports that the time is over. -/
theorem of_stop_eq_timeout {held : List UInt8} {fault : TransportFault} {n : Nat}
    (h : r.stop endpoint held fault = .error (.timeout n)) :
    r.strategy ≠ .untilQuiet ∧ fault = .timeout n := by
  by_cases hs : r.strategy = .untilQuiet
  · simp only [stop, hs] at h
    split at h
    · cases h
    · cases h
  · rw [stop_eq_error hs] at h
    exact ⟨hs, Except.error.inj h⟩

/-- What the deadline means for the end of a read. -/
structure Outcome.Timely (o : Outcome) (r : Reader) : Prop where
  elapsed_le : o.elapsed ≤ ticks r.timeout
  timeout : ∀ n, o.reply = .error (.timeout n) → n = r.timeout ∧ o.elapsed = ticks r.timeout
  pending : ∀ e, o.reply = .error e → o.pending = []

theorem Finishes.timely {o : Outcome} (h : r.Finishes endpoint s o) (hs : r.InTime s) : o.Timely r := by
  obtain ⟨hspent, hle, heq⟩ := hs
  -- The wait that is over was the last one: its end is within the time, and at its end if the
  -- reader reports a timeout.
  have hlast : ∀ {held : List UInt8} {left patient elapsed : Nat} {l : Line},
      elapsed + left = ticks r.timeout → patient ≤ left →
      (r.strategy ≠ .untilQuiet → patient = left) →
      (Outcome.mk (r.stop endpoint held (.timeout r.timeout)) [] l (elapsed + patient)).Timely r := by
    intro held left patient elapsed l hspent hle heq
    refine ⟨?_, fun n hn => ?_, fun e _ => rfl⟩
    · show elapsed + patient ≤ ticks r.timeout
      omega
    · obtain ⟨hs, hfault⟩ := of_stop_eq_timeout hn
      cases hfault
      refine ⟨rfl, ?_⟩
      show elapsed + patient = ticks r.timeout
      rw [heq hs, hspent]
  cases h with
  | whole => exact ⟨Nat.le.intro hspent, nofun, nofun⟩
  | silent => exact hlast hspent hle heq
  | late => exact hlast hspent hle heq
  | closed =>
    refine ⟨Nat.le.intro hspent, fun n hn => ?_, fun e _ => rfl⟩
    cases (of_stop_eq_timeout hn).2
  | failed => exact ⟨Nat.le.intro hspent, nofun, fun e _ => rfl⟩

/-- **Every read is in time.** -/
theorem timely_readOctets (hr : r.strategy.Proper) (endpoint : String) (l : Line) :
    (r.readOctets endpoint l).Timely r := by
  obtain ⟨last, hsteps, hfinish⟩ := exists_finishes hr endpoint (r.outset l)
  rw [Stage.outcome_outset] at hfinish
  exact hfinish.timely ((inTime_outset r l).steps hsteps)

end Reader

open Reader

/-- **Every read ends, and in time.**  For any settings, any octets left over from before and
anything that happens on the line: there is no endless run of steps, and wherever a run stands it
makes another step or has come to what the read returns.  The read takes no longer than the timeout,
and exactly as long if that is what it reports; and after a fault the reader is a fresh one, so that
it reads on as one that has never read. -/
theorem read_in_time (terminator : Option String) (length : Option Nat) (timeout : Nat)
    (pending : List UInt8) (endpoint : String) (l : Line) :
    let r : Reader := ⟨.ofSettings terminator length, timeout, pending⟩
    let o := r.readOctets endpoint l
    (WellFounded fun after before => r.Advances before after) ∧
    (∀ s, Relation.ReflTransGen r.Advances (r.outset l) s →
      (∃ s', r.Advances s s') ∨ r.Finishes endpoint s o) ∧
    o.elapsed ≤ ticks timeout ∧
    (∀ n, (r.read endpoint l).1 = .error (.timeout n) → n = timeout ∧ o.elapsed = ticks timeout) ∧
    ∀ e, (r.read endpoint l).1 = .error e →
      (r.read endpoint l).2.1 = .fresh (.ofSettings terminator length) timeout := by
  intro r o
  have hr : r.strategy.Proper := ReadStrategy.proper_ofSettings terminator length
  obtain ⟨helapsed, htimeout, hpending⟩ := timely_readOctets hr endpoint l
  refine ⟨wellFounded_advances hr, fun s hsteps => ?_, helapsed, fun n hn => ?_, fun e he => ?_⟩
  · rcases finishes_or_advances r endpoint s with ⟨o', hfinish⟩ | hstep
    · have ho : o' = o := by
        rw [← hfinish.eq_outcome, ← outcome_eq_of_steps hr hsteps, Stage.outcome_outset]
      exact .inr (ho ▸ hfinish)
    · exact .inl hstep
  · exact htimeout n (map_eq_error_iff.1 hn)
  · have hnil := hpending e (map_eq_error_iff.1 he)
    show Reader.mk r.strategy r.timeout o.pending = _
    rw [hnil]
    rfl

/-- Data that trickles in for the whole time, behind a terminator that was left over. -/
theorem read_in_time_trickle :
    let l : Line := [.wait 120, .data [0x31], .wait 120, .data [0x32], .wait 120, .data [0x0A]]
    let r : Reader := ⟨.ofSettings (some "\n") none, 3, [0x0A]⟩
    let s : Stage := ⟨[], l, 300, 300, 0⟩
    (Relation.ReflTransGen r.Advances (r.outset l) s ∧
      ((∃ s', r.Advances s s') ∨ r.Finishes "loop" s (r.readOctets "loop" l))) ∧
    ((r.read "loop" l).1 = .error (.timeout 3) ∧ (r.readOctets "loop" l).elapsed = ticks 3) ∧
    (r.read "loop" l).2.1 = .fresh (.ofSettings (some "\n") none) 3 := by
  intro l r s
  obtain ⟨-, hruns, -, htimeout, hfresh⟩ :=
    read_in_time (some "\n") none 3 [0x0A] "loop" l
  have hstrategy : ReadStrategy.ofSettings (some "\n") none = .terminator [0x0A] := by decide +kernel
  have hstep : r.Advances ⟨[0x0A] ++ [], l, 300, 300, 0⟩ s := .strip hstrategy
  have hsteps : Relation.ReflTransGen r.Advances (r.outset l) s :=
    .single hstep
  have hreply : (r.read "loop" l).1 = .error (.timeout 3) := by
    simp only [r, hstrategy]
    rfl
  exact ⟨⟨hsteps, hruns s hsteps⟩, ⟨hreply, (htimeout 3 hreply).2⟩, hfresh _ hreply⟩

end Instrument
