/-
# Nothing inadmissible in, nothing inadmissible out

In any run of a session, whatever it is given and whatever comes back: the arguments that reach the
transport fit the parameters of their command, and the values of good replies are values of theirs
(`run_admits`).

For what goes out this is `Given.fits_of_onWire`, as a session transmits only what it accepted.  For
what comes back it goes through the layers of a reply: the groups of a match are decoded each by the
parameter in its place, so a row holds admitted values, so all rows do, and a response is made of
rows or of what no parameter has a say in (`Profile.Yields`).
-/
import Instrument.Proofs.Reply.Form
import Instrument.Proofs.Session.Submission

namespace Instrument

/-! ## Rows -/

namespace Command

/-- The values of a row are admitted by the parameters in their places. -/
theorem admits_of_decodeGroups {ps : List Parameter} {texts : List (List Char)} {row : List Value}
    (hlen : texts.length = ps.length) (h : decodeGroups ps texts = .ok row) :
    List.Forall₂ Parameter.Admits ps row := by
  have hrow : List.Forall₂ (fun (px : Parameter × List Char) v => px.1.Admits v)
      (ps.zip texts) row := by
    refine (rowOf_of_decodeGroups h).imp ?_
    rintro px v ⟨a, ha, rfl⟩
    exact (Parameter.fits_of_decode ha).toAdmits
  rwa [← List.forall₂_map_left_iff (f := Prod.fst) (R := Parameter.Admits),
    List.map_fst_zip hlen.ge] at hrow

theorem admits_of_decodeMatches {f : ReplyForm} {ms : List Pattern.Found}
    {rows : List (List Value)} (h : decodeMatches f ms = .ok rows) :
    ∀ row ∈ rows, List.Forall₂ Parameter.Admits f.parameters row := by
  induction ms generalizing rows with
  | nil =>
    cases h
    intro row hrow
    cases hrow
  | cons m ms ih =>
    obtain ⟨first, more, hfirst, hmore, rfl⟩ := decodeMatches_cons h
    intro row hrow
    rcases List.mem_cons.1 hrow with rfl | hrow
    · exact admits_of_decodeGroups (by simp [Pattern.Found.groupTexts]) hfirst
    · exact ih hmore row hrow

/-- **The rows of good replies hold admitted values.** -/
theorem admits_of_goodRows {c : Command} {reply : String} {rows : List (List Value)}
    (h : c.goodRows reply = .ok rows) :
    ∀ row ∈ rows, List.Forall₂ Parameter.Admits c.results row := by
  cases hc : c.reply with
  | none =>
    simp only [goodRows, hc] at h
    cases h
    intro row hrow
    cases hrow
  | some f =>
    simp only [goodRows, hc] at h
    have hresults : c.results = f.parameters := by simp [results, hc]
    rw [hresults]
    exact admits_of_decodeMatches h

/-- A reply means its good rows or, if there are none, its bad ones. -/
theorem readReply_eq_ok {c : Command} {reply marker : String} {r : Response}
    (h : c.readReply reply marker = .ok r) :
    (∃ rows, c.goodRows reply = .ok rows ∧ rows ≠ [] ∧ r = .ofRows rows) ∨
      c.goodRows reply = .ok [] ∧ r = .ofRows (c.badRows reply marker) := by
  unfold readReply at h
  split at h
  · cases h
  · split at h
    · cases h
    · rename_i hgood
      split at h
      · cases h
      · cases h
        exact .inr ⟨hgood, rfl⟩
    · rename_i rows hne hgood
      cases h
      exact .inl ⟨rows, hgood, hne, rfl⟩

end Command

/-! ## Responses -/

/-- The responses of an instrument: none, a value that no parameter has a say in, rows of admitted
values, or the rows of a bad reply. -/
inductive Profile.Yields (p : Profile) : Response → Prop
  | nothing : p.Yields .none
  | passed (j : Json) : p.Yields (.value (.raw j))
  | good {name reply : String} {c : Command} {rows : List (List Value)} :
      p.command? name = some c → c.goodRows reply = .ok rows → rows ≠ [] →
      (∀ row ∈ rows, List.Forall₂ Parameter.Admits c.results row) → p.Yields (.ofRows rows)
  | bad {name reply : String} {c : Command} :
      p.command? name = some c → c.goodRows reply = .ok [] →
      p.Yields (.ofRows (c.badRows reply p.marker))

theorem Profile.command_eq_ok {p : Profile} {name : String} {c : Command}
    (h : p.command name = .ok c) : p.command? name = some c := by
  unfold Profile.command at h
  split at h
  · cases h
    assumption
  · cases h

theorem Profile.yields_of_readReply {p : Profile} {name reply : String} {r : Response}
    (h : p.readReply name reply = .ok r) : p.Yields r := by
  obtain ⟨c, hc, h⟩ := bind_eq_ok_iff.1 h
  have hname := Profile.command_eq_ok hc
  rcases Command.readReply_eq_ok (mapError_eq_ok_iff.1 h) with
    ⟨rows, hgood, hne, rfl⟩ | ⟨hgood, rfl⟩
  · exact .good hname hgood hne (Command.admits_of_goodRows hgood)
  · exact .bad hname hgood

namespace Session

variable {σ : Type} [Transport σ]

theorem perform_profile (s : Session σ) (op : Operation) :
    (s.perform op).2.profile = s.profile := by
  have hperform := s.observed.unobserved_perform op
  have hstep := s.observed.step_perform op
  rw [show s.perform op = _ from hperform]
  generalize (s.observed.perform op).2 = s' at hstep
  cases hstep <;> rfl

theorem yields_of_perform {s : Session σ} {op : Operation} {r : Response}
    (h : (s.perform op).1 = .ok r) : s.profile.Yields r := by
  cases op with
  | connect | disconnect =>
    obtain ⟨u, -, rfl⟩ := map_eq_ok_iff.1 h
    exact .nothing
  | submit name given =>
    rw [perform] at h
    rcases s.refuses_or_accepts name given with ⟨e, hrefuses⟩ | ⟨c, args, text, haccepts⟩
    · rw [give_of_refuses hrefuses] at h
      cases h
    · obtain ⟨t, hdelivers, -⟩ := exists_delivers haccepts
      generalize (s.give name given).1 = outcome at h hdelivers
      generalize s.contacts [.submit name given] = contacts at hdelivers
      cases hdelivers with
      | sent =>
        cases h
        exact .nothing
      | answered => exact Profile.yields_of_readReply h
      | passed =>
        cases h
        exact .passed _
      | notSent | notAnswered => cases h

/-- **Every response of a run is one of the instrument.** -/
theorem yields_of_run {s : Session σ} {ops : List Operation} {r : Response}
    (h : .ok r ∈ (s.run ops).1) : s.profile.Yields r := by
  induction ops generalizing s with
  | nil => cases h
  | cons op ops ih =>
    rw [run_cons] at h
    rcases List.mem_cons.1 h with hfirst | hmore
    · exact yields_of_perform hfirst.symm
    · exact s.perform_profile op ▸ ih hmore

end Session

/-! ## Arguments -/

/-- Does the call transmit this text with these arguments, with or without a reply? -/
def Call.Transmits (call : Call) (text : String) (args : List Argument) : Prop :=
  call = .send text args ∨ call = .request text args

theorem Command.eq_of_transmits {c : Command} {args args' : List Argument} {text text' : String}
    (h : (c.call args text).Transmits text' args') : text' = text ∧ args' = args := by
  unfold Command.call at h
  split at h
  · rcases h with h | h
    · cases h
    · cases h
      exact ⟨rfl, rfl⟩
  · rcases h with h | h
    · cases h
      exact ⟨rfl, rfl⟩
    · cases h

/-- Is this what one of the operations submits: arguments that fit the parameters of its command,
and the text rendered with them? -/
def Profile.Issues (p : Profile) (ops : List Operation) (text : String) (args : List Argument) :
    Prop :=
  ∃ name given c, .submit name given ∈ ops ∧ p.command? name = some c ∧
    given.onWire c = .ok args ∧ c.render args = .ok text ∧
    List.Forall₂ Parameter.Fits c.parameters args

namespace Session

variable {σ : Type}

/-- All that was transmitted is what operations of a profile submit. -/
structure Issued (s : Session (Observed σ)) (p : Profile) (ops : List Operation) : Prop where
  profile : s.profile = p
  issues : ∀ contact ∈ s.transport.contacts, ∀ text args,
    contact.call.Transmits text args → p.Issues ops text args

variable {s s' : Session (Observed σ)} {p : Profile} {op : Operation} {ops : List Operation}

/-- One more call is to be looked at by itself. -/
theorem Issued.after {t : σ} {call : Call} {succeeded connected : Bool} (h : s.Issued p ops)
    (hnew : ∀ text args, call.Transmits text args → p.Issues ops text args) :
    Issued ⟨s.profile, s.transport.after t ⟨call, succeeded⟩, connected⟩ p ops := by
  refine ⟨h.profile, fun contact hcontact => ?_⟩
  rcases List.mem_append.1 hcontact with hbefore | hlast
  · exact h.issues contact hbefore
  · obtain rfl := List.mem_singleton.1 hlast
    exact hnew

/-- **A step transmits what its operation submits.** -/
theorem Issued.step (h : s.Issued p ops) (hop : op ∈ ops) (hstep : s.Step op s') :
    s'.Issued p ops := by
  cases hstep with
  | idle => exact h
  | connect | disconnect =>
    refine h.after fun text args htransmits => ?_
    rcases htransmits with hcall | hcall <;> cases hcall
  | submit haccepts =>
    refine h.after fun text args htransmits => ?_
    obtain ⟨rfl, rfl⟩ := Command.eq_of_transmits htransmits
    refine ⟨_, _, _, hop, h.profile ▸ haccepts.found, haccepts.onWire, haccepts.rendered, ?_⟩
    exact Given.fits_of_onWire haccepts.onWire

end Session

open Session

/-- **In a run only admitted values go out, and only admitted values come back.**  Each argument
that the transport is handed is one of a submission, of the type of its parameter, in its range, a
word if it is a token, and with the text that the parameter renders for it; and so, but for the
text, is each value of a good reply, whether the reply came in the run or not. -/
theorem run_admits {σ : Type} [Transport σ] (profile : Profile) (transport : σ)
    (ops : List Operation) :
    (∀ contact ∈ (start profile transport).contacts ops, ∀ text args,
      contact.call.Transmits text args → profile.Issues ops text args) ∧
    (∀ r, .ok r ∈ ((start profile transport).run ops).1 → profile.Yields r) ∧
    (∀ name c reply rows, profile.command? name = some c → c.goodRows reply = .ok rows →
      ∀ row ∈ rows, List.Forall₂ Parameter.Admits c.results row) := by
  have hissued : ((start profile transport).observed.run ops).2.Issued profile ops := by
    refine run_keeps (P := (Issued · profile ops)) (fun s s' op hop hstep h => h.step hop hstep) ?_
    exact ⟨rfl, fun contact hcontact => absurd hcontact List.not_mem_nil⟩
  exact ⟨hissued.issues, fun r => yields_of_run (s := start profile transport),
    fun name c reply rows _ hrows => Command.admits_of_goodRows hrows⟩

/-- The lamp is set by a line and answers a question. -/
theorem run_admits_lamp :
    let t : ScriptedTransport := ⟨[], [], [.ok (.text ""), .ok (.text "M=cold")], false, []⟩
    let ops : List Operation :=
      [.connect, .submit "set" (.line "7, warm"), .submit "ask" (.values [])]
    let args : List Argument := [⟨.int 7, "7"⟩, ⟨.text "warm", "warm"⟩]
    let s := start Lamp.profile t
    (⟨.send "SET 7 warm" args, true⟩ ∈ s.contacts ops ∧
      Lamp.profile.Issues ops "SET 7 warm" args) ∧
    (.ok (.value (.text "cold")) ∈ (s.run ops).1 ∧
      Lamp.profile.Yields (.value (.text "cold"))) ∧
    (Lamp.ask.goodRows "M=cold" = .ok [[.text "cold"]] ∧
      List.Forall₂ Parameter.Admits Lamp.ask.results [.text "cold"]) := by
  intro t ops args s
  obtain ⟨hissues, hyields, hadmits⟩ := run_admits Lamp.profile t ops
  have hsent : ⟨.send "SET 7 warm" args, true⟩ ∈ s.contacts ops := .tail _ (.head _)
  have hfound : Lamp.reply.expression.findAll "M=cold" =
      [⟨.start "M=cold".toList, ⟨6, some 'd', [], [(1, "cold".toList)]⟩⟩] := by cbv
  have hrows : Lamp.ask.goodRows "M=cold" = .ok [[.text "cold"]] :=
    congrArg (Command.decodeMatches Lamp.reply) hfound
  have hreply : responseOf Lamp.profile Lamp.ask (.text "M=cold") =
      .ok (.value (.text "cold")) := by
    simp only [responseOf, Command.readReply, hrows]
    rfl
  have hcame : .ok (.value (.text "cold")) ∈ (s.run ops).1 := by
    rw [← hreply]
    exact .tail _ (.tail _ (.head _))
  exact ⟨⟨hsent, hissues _ hsent _ _ (.inl rfl)⟩, ⟨hcame, hyields _ hcame⟩,
    ⟨hrows, hadmits "ask" Lamp.ask "M=cold" _ rfl hrows _ List.mem_cons_self⟩⟩

end Instrument
