/-
# Steps, submitted in order

A session that submits steps stops after the first that fails.  What it has done then is a run of
operations, the submissions of the steps up to and including that one (`exists_submitAll`); it is the
same under observation, and it asks the transport for commands and nothing else (`goesOn_run`).
-/
import Instrument.Batch
import Instrument.Proofs.Session.Admission

namespace Instrument

/-! ## Up to the first failure -/

/-- Which of some things to do were done, and what each came to: all up to and including the first
that failed. -/
inductive UpToFailure {α β ε : Type} : List α → (done : List α) → List (Except ε β) → Prop
  | finished : UpToFailure [] [] []
  | succeeded {a : α} {rest done : List α} {b : β} {outcomes : List (Except ε β)} :
      UpToFailure rest done outcomes → UpToFailure (a :: rest) (a :: done) (.ok b :: outcomes)
  | failed {a : α} {rest : List α} {e : ε} : UpToFailure (a :: rest) [a] [.error e]

/-- If nothing failed, everything was done. -/
theorem UpToFailure.length_eq {α β ε : Type} {all done : List α} {outcomes : List (Except ε β)}
    (h : UpToFailure all done outcomes) {bs : List β} (hbs : outcomes = bs.map .ok) :
    bs.length = all.length := by
  induction h generalizing bs with
  | finished => rw [List.map_eq_nil_iff.1 hbs.symm, List.length_nil, List.length_nil]
  | succeeded _ ih =>
    obtain ⟨b, more, rfl, -, hmore⟩ := List.map_eq_cons_iff.1 hbs.symm
    rw [List.length_cons, List.length_cons, ih hmore.symm]
  | failed =>
    obtain ⟨b, more, -, hb, -⟩ := List.map_eq_cons_iff.1 hbs.symm
    cases hb

/-- The operation of a step. -/
def Step.operation (step : Step) : Operation := .submit step.command (.line step.line)

namespace Session

variable {σ : Type} [Transport σ]

theorem run_append (s : Session σ) (ops ops' : List Operation) :
    s.run (ops ++ ops') =
      ((s.run ops).1 ++ ((s.run ops).2.run ops').1, ((s.run ops).2.run ops').2) := by
  induction ops generalizing s with
  | nil => rfl
  | cons op ops ih => rw [List.cons_append, run_cons, run_cons, ih, List.cons_append]

/-- What the outcomes of submissions are, if some responses and an end are known of them. -/
def outcomesOf (responses : List Response) : Except SessionFault Unit →
    List (Except SessionFault Response)
  | .ok () => responses.map .ok
  | .error e => responses.map .ok ++ [.error e]

/-- A fault is an outcome only if it is the end. -/
theorem eq_of_error_mem {responses : List Response} {ending : Except SessionFault Unit}
    {e : SessionFault} (h : .error e ∈ outcomesOf responses ending) : ending = .error e := by
  have hnot : ∀ rs : List Response, .error e ∉ rs.map (Except.ok (ε := SessionFault)) := by
    intro rs hmem
    obtain ⟨r, -, hr⟩ := List.mem_map.1 hmem
    cases hr
  cases ending with
  | ok u => exact absurd h (hnot responses)
  | error e' =>
    rcases List.mem_append.1 h with h | h
    · exact absurd h (hnot responses)
    · cases List.mem_singleton.1 h
      rfl

theorem outcomesOf_eq_map_iff {responses rs : List Response} {ending : Except SessionFault Unit} :
    outcomesOf responses ending = rs.map .ok ↔ ending = .ok () ∧ rs = responses := by
  have hinj : Function.Injective (Except.ok : Response → Except SessionFault Response) :=
    fun _ _ => Except.ok.inj
  cases ending with
  | ok u => simp only [outcomesOf, hinj.list_map.eq_iff, true_and, eq_comm]
  | error e =>
    refine ⟨fun h => ?_, nofun⟩
    have hmem : .error e ∈ outcomesOf rs (.ok ()) := by
      show _ ∈ rs.map _
      rw [← h]
      exact List.mem_append_right _ List.mem_cons_self
    cases eq_of_error_mem hmem

/-- **Steps are submitted in order, up to the first that fails.** -/
theorem exists_submitAll (s : Session σ) (steps : List Instrument.Step) :
    ∃ made outcomes, UpToFailure steps made outcomes ∧
      s.run (made.map (·.operation)) = (outcomes, (s.submitAll steps).2.2) ∧
      outcomes = outcomesOf (s.submitAll steps).1 (s.submitAll steps).2.1 := by
  induction steps generalizing s with
  | nil => exact ⟨[], [], .finished, rfl, rfl⟩
  | cons step rest ih =>
    cases hstep : s.submitLine step.command step.line with
    | mk outcome after =>
      have hperform : s.perform step.operation = (outcome, after) := hstep
      cases outcome with
      | error e =>
        refine ⟨[step], [.error e], .failed, ?_, ?_⟩
        · simp only [List.map_cons, List.map_nil, run_cons, hperform, submitAll, hstep]
          rfl
        · simp only [submitAll, hstep]
          rfl
      | ok r =>
        obtain ⟨made, outcomes, hmade, hrun, houtcomes⟩ := ih after
        refine ⟨step :: made, .ok r :: outcomes, .succeeded hmade, ?_, ?_⟩
        · simp only [List.map_cons, run_cons, hperform, hrun, submitAll, hstep]
        · simp only [submitAll, hstep]
          rw [houtcomes]
          cases (after.submitAll rest).2.1 <;> rfl

/-- If no submission failed, there is a response to each step. -/
theorem length_submitAll {s : Session σ} {steps : List Instrument.Step}
    (h : (s.submitAll steps).2.1 = .ok ()) : (s.submitAll steps).1.length = steps.length := by
  obtain ⟨made, outcomes, hmade, -, houtcomes⟩ := s.exists_submitAll steps
  rw [h] at houtcomes
  exact hmade.length_eq houtcomes

/-- **Submitting steps is the same under observation.** -/
theorem unobserved_submitAll (s : Session (Observed σ)) (steps : List Instrument.Step) :
    s.unobserved.submitAll steps =
      ((s.submitAll steps).1, (s.submitAll steps).2.1, (s.submitAll steps).2.2.unobserved) := by
  induction steps generalizing s with
  | nil => rfl
  | cons step rest ih =>
    have hstep := s.unobserved_give step.command (.line step.line)
    simp only [give] at hstep
    simp only [submitAll, hstep]
    cases hgive : s.submitLine step.command step.line with
    | mk outcome after =>
      cases outcome with
      | error e => rfl
      | ok r => simp only [ih]

end Session

/-! ## What is asked of the transport -/

theorem Command.transmits_call (c : Command) (args : List Argument) (text : String) :
    (c.call args text).Transmits text args := by
  unfold Command.call
  split
  · exact .inr rfl
  · exact .inl rfl

namespace Session

variable {σ : Type}

/-- A session goes on as another in which commands were transmitted, and nothing else was done. -/
structure GoesOn (s s' : Session (Observed σ)) : Prop where
  connected : s'.connected = s.connected
  contacts : ∃ sent, s'.transport.contacts = s.transport.contacts ++ sent ∧
    ∀ contact ∈ sent, ∃ text args, contact.call.Transmits text args

theorem GoesOn.refl (s : Session (Observed σ)) : s.GoesOn s :=
  ⟨rfl, [], (List.append_nil _).symm, nofun⟩

/-- **A submission transmits one command or none.** -/
theorem GoesOn.step {s s' s'' : Session (Observed σ)} {step : Instrument.Step} (h : s.GoesOn s')
    (hstep : s'.Step step.operation s'') : s.GoesOn s'' := by
  obtain ⟨hconnected, sent, hcontacts, hsent⟩ := h
  cases hstep with
  | idle => exact ⟨hconnected, sent, hcontacts, hsent⟩
  | @submit name given c args text t succeeded _ =>
    refine ⟨hconnected, sent ++ [⟨c.call args text, succeeded⟩], ?_, ?_⟩
    · rw [Observed.after, hcontacts, List.append_assoc]
    · intro contact hcontact
      rcases List.mem_append.1 hcontact with hcontact | hcontact
      · exact hsent contact hcontact
      · obtain rfl := List.mem_singleton.1 hcontact
        exact ⟨text, args, c.transmits_call args text⟩

/-- **Submissions transmit commands and nothing else.** -/
theorem goesOn_run [Transport σ] (s : Session (Observed σ)) (made : List Instrument.Step) :
    s.GoesOn (s.run (made.map (·.operation))).2 := by
  refine run_keeps (P := s.GoesOn) (fun s' s'' op hop hstep h => ?_) (.refl s)
  obtain ⟨step, -, rfl⟩ := List.mem_map.1 hop
  exact h.step hstep

/-- A connect that succeeds is one call. -/
theorem exists_connect [Transport σ] {s : Session σ} (hs : s.connected = false)
    (hconnect : s.connect.1 = .ok ()) :
    ∃ o, s.observed.connect = (.ok (), o) ∧ o.connected = true ∧
      o.transport.contacts = [⟨.connect, true⟩] := by
  rw [connect_of_not_connected hs] at hconnect
  have hok : (Transport.connect s.transport).1 = .ok () := mapError_eq_ok_iff.1 hconnect
  have hobserved : Transport.connect s.observed.transport =
      (.ok (), ⟨(Transport.connect s.transport).2, [⟨.connect, true⟩]⟩) := by
    show (_, Observed.after _ _ ⟨.connect, (Transport.connect s.transport).1.isOk⟩) = _
    rw [hok]
    exact congrArg (·, _) hok
  rw [connect_of_not_connected (s := s.observed) hs, hobserved]
  exact ⟨_, rfl, rfl, rfl⟩

/-- A disconnect is one call, whether it succeeds or not. -/
theorem exists_disconnect [Transport σ] {s : Session (Observed σ)} (hs : s.connected = true) :
    ∃ closed, s.disconnect.2.transport.contacts =
      s.transport.contacts ++ [⟨.disconnect, closed⟩] := by
  rw [disconnect_of_connected hs]
  exact ⟨_, rfl⟩

end Session

end Instrument
