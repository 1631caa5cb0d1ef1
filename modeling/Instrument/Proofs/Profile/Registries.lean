/-
# What a registry decides

A schema is read with a registry, which a session keeps.  Of all that is in it, the session uses only
the parameters that some template names and that the schema does not declare itself: a name is looked
up when its template is read, declared parameters come first, and a name that no template has is not
looked up at all.

So registries that agree on the names in question (`Schema.Agree`) are the same to the schema.  It is
refused for the same fault, or it is read to profiles that differ in the registry and in nothing else
(`Profile.ofSchema_congr`).  What a session does it does by the rest of its profile: with another
registry it goes through the same run, operation by operation, and asks the same of its transport
(`Session.run_withRegistry`).  Hence no caller can tell the two apart (`registry_unobserved`).
-/
import Instrument.Proofs.Profile.Validity
import Instrument.Proofs.Session.Observation

namespace Instrument

/-! ## Names in question -/

namespace Schema

/-- A template of the schema, of a command or of its replies, has the name in it. -/
def Mentions (s : Schema) (name : String) : Prop :=
  ∃ key e, (key, e) ∈ s.commands ∧
    (name ∈ (Template.ofText e.template).names ∨
      ∃ text, e.response = some text ∧ name ∈ (Template.ofText text).names)

/-- The schema has a parameter of that name. -/
def Declares (s : Schema) (name : String) : Prop := ∃ e, (name, e) ∈ s.parameters

/-- Two registries have the same to say about the names that the schema mentions without declaring
them: the same parameter, or none. -/
def Agree (s : Schema) (r r' : Registry) : Prop :=
  ∀ name, s.Mentions name → ¬ s.Declares name → r.get? name = r'.get? name

end Schema

/-! ## Reading with either registry -/

section Reading

variable {r r' : Registry}

/-- A declared parameter shadows that of the registry. -/
theorem Profile.get?_known_congr {declared : List Parameter} {name : String}
    (h : (∀ q ∈ declared, q.name ≠ name) → r.get? name = r'.get? name) :
    (known r declared).get? name = (known r' declared).get? name := by
  induction declared generalizing r r' with
  | nil => exact h fun q hq => absurd hq List.not_mem_nil
  | cons q rest ih =>
    show (known (r.insert q) rest).get? name = (known (r'.insert q) rest).get? name
    refine ih fun hrest => ?_
    rw [Registry.get?_insert, Registry.get?_insert]
    by_cases hq : q.name = name
    · rw [if_pos hq, if_pos hq]
    · rw [if_neg hq, if_neg hq]
      exact h (List.forall_mem_cons.2 ⟨hq, hrest⟩)

namespace Command

variable {name : String} {failure : Option String} {e : CommandEntry}

theorem resolve_congr {role : Role} {names : List String}
    (h : ∀ n ∈ names, r.get? n = r'.get? n) :
    resolve r name role names = resolve r' name role names := by
  induction names with
  | nil => rfl
  | cons n rest ih =>
    obtain ⟨hn, hrest⟩ := List.forall_mem_cons.1 h
    simp only [resolve, hn, ih hrest]

theorem ofText_congr {text : String} (h : ∀ n ∈ (Template.ofText text).names, r.get? n = r'.get? n) :
    ReplyForm.ofText r name text = ReplyForm.ofText r' name text := by
  rw [ReplyForm.ofText, ReplyForm.ofText, resolve_congr h]

/-- **An entry is read by the names in its templates.** -/
theorem ofEntry_congr (hcommand : ∀ n ∈ (Template.ofText e.template).names, r.get? n = r'.get? n)
    (hreply : ∀ text ∈ e.response, ∀ n ∈ (Template.ofText text).names, r.get? n = r'.get? n) :
    ofEntry r failure name e = ofEntry r' failure name e := by
  have hform : forOption (ReplyForm.ofText r name) (given? e.response) =
      forOption (ReplyForm.ofText r' name) (given? e.response) := by
    cases ht : given? e.response with
    | none => rfl
    | some text =>
      rw [forOption, forOption, ofText_congr (hreply text (given?_eq_some_iff.1 ht).1)]
  simp only [ofEntry, resolve_congr hcommand, hform]

end Command

namespace Profile

theorem readCommands_congr {failure : Option String} {entries : List (String × CommandEntry)}
    (h : ∀ entry ∈ entries,
      (∀ n ∈ (Template.ofText entry.2.template).names, r.get? n = r'.get? n) ∧
      ∀ text ∈ entry.2.response, ∀ n ∈ (Template.ofText text).names, r.get? n = r'.get? n) :
    readCommands r failure entries = readCommands r' failure entries := by
  induction entries with
  | nil => rfl
  | cons entry rest ih =>
    obtain ⟨hentry, hrest⟩ := List.forall_mem_cons.1 h
    simp only [readCommands, readCommand, Command.ofEntry_congr hentry.1 hentry.2, ih hrest]

/-- The profile with another registry. -/
def withRegistry (p : Profile) (r : Registry) : Profile := { p with registry := r }

/-- **A schema is read alike with registries that agree**: to the same fault, or to profiles that
differ in the registry only. -/
theorem ofSchema_congr {s : Schema} (h : s.Agree r r') :
    ofSchema s r' = (ofSchema s r).map (·.withRegistry r') := by
  unfold ofSchema
  cases hps : readParameters s.parameters with
  | error e => rfl
  | ok ps =>
    cases hfailure : checkFailure s.failure with
    | error e => rfl
    | ok u =>
      -- Names that templates have are looked up behind the declared ones, in either registry.
      have hknown : ∀ name, s.Mentions name →
          (known r ps).get? name = (known r' ps).get? name := by
        intro name hmentions
        refine get?_known_congr fun hundeclared => h name hmentions ?_
        rintro ⟨e, he⟩
        have hname : name ∈ ps.map (·.name) := by
          rw [declared_names hps]
          exact List.mem_map.2 ⟨(name, e), he, rfl⟩
        obtain ⟨q, hq, hqname⟩ := List.mem_map.1 hname
        exact hundeclared q hq hqname
      have hcommands : readCommands (known r ps) s.failure s.commands =
          readCommands (known r' ps) s.failure s.commands := by
        refine readCommands_congr fun entry hentry => ⟨fun n hn => ?_, fun text htext n hn => ?_⟩
        · exact hknown n ⟨entry.1, entry.2, hentry, .inl hn⟩
        · exact hknown n ⟨entry.1, entry.2, hentry, .inr ⟨text, htext, hn⟩⟩
      simp only [bind, Except.bind, hcommands]
      cases readCommands (known r' ps) s.failure s.commands <;> rfl

end Profile

end Reading

/-! ## Running with either registry -/

namespace Session

variable {σ : Type}

/-- The session with another registry. -/
def withRegistry (s : Session σ) (r : Registry) : Session σ :=
  { s with profile := s.profile.withRegistry r }

section Refused

variable {s : Session σ} {name : String} {given : Given}

theorem Refuses.withRegistry {e : SessionFault} (h : s.Refuses name given e) (r : Registry) :
    (s.withRegistry r).Refuses name given e := by
  cases h with
  | notConnected hs => exact .notConnected hs
  | unknownCommand hs hc => exact .unknownCommand hs hc
  | argument hs hc he hrejects => exact .argument hs hc he hrejects

theorem Accepts.withRegistry {c : Command} {args : List Argument} {text : String}
    (h : s.Accepts name given c args text) (r : Registry) :
    (s.withRegistry r).Accepts name given c args text :=
  ⟨h.connected, h.found, h.onWire, h.rendered⟩

end Refused

variable [Transport σ]

section WithRegistry

variable (s : Session σ) (r : Registry)

theorem connect_withRegistry :
    (s.withRegistry r).connect = (s.connect.1, s.connect.2.withRegistry r) := by
  cases hs : s.connected with
  | true => rw [connect_of_connected hs, connect_of_connected (s := s.withRegistry r) hs]
  | false =>
    rw [connect_of_not_connected hs, connect_of_not_connected (s := s.withRegistry r) hs]
    rfl

theorem disconnect_withRegistry :
    (s.withRegistry r).disconnect = (s.disconnect.1, s.disconnect.2.withRegistry r) := by
  cases hs : s.connected with
  | true =>
    rw [disconnect_of_connected hs, disconnect_of_connected (s := s.withRegistry r) hs]
    rfl
  | false =>
    rw [disconnect_of_not_connected hs, disconnect_of_not_connected (s := s.withRegistry r) hs]

theorem transmit_withRegistry (m : Submission) :
    (s.withRegistry r).transmit m = ((s.transmit m).1, (s.transmit m).2.withRegistry r) := by
  cases hm : m.command.expectsReply with
  | true =>
    rw [transmit_of_expectsReply hm, transmit_of_expectsReply hm]
    rfl
  | false =>
    rw [transmit_of_not_expectsReply hm, transmit_of_not_expectsReply hm]
    rfl

theorem give_withRegistry (name : String) (given : Given) :
    (s.withRegistry r).give name given =
      ((s.give name given).1, (s.give name given).2.withRegistry r) := by
  rcases s.refuses_or_accepts name given with ⟨e, h⟩ | ⟨c, args, text, h⟩
  · rw [give_of_refuses h, give_of_refuses (s := s.withRegistry r) (h.withRegistry r)]
  · rw [give_of_accepts h, give_of_accepts (s := s.withRegistry r) (h.withRegistry r),
      transmit_withRegistry]

theorem perform_withRegistry (op : Operation) :
    (s.withRegistry r).perform op = ((s.perform op).1, (s.perform op).2.withRegistry r) := by
  cases op with
  | connect => rw [perform, perform, connect_withRegistry]
  | disconnect => rw [perform, perform, disconnect_withRegistry]
  | submit name given => rw [perform, perform, give_withRegistry]

/-- **A run is the same with another registry**, in every outcome and in what it leaves behind. -/
theorem run_withRegistry (ops : List Operation) :
    (s.withRegistry r).run ops = ((s.run ops).1, (s.run ops).2.withRegistry r) := by
  induction ops generalizing s with
  | nil => rfl
  | cons op ops ih => rw [run_cons, run_cons, perform_withRegistry, ih]

theorem contacts_withRegistry (ops : List Operation) :
    (s.withRegistry r).contacts ops = s.contacts ops := by
  have hobserved : (s.withRegistry r).observed = s.observed.withRegistry r := rfl
  rw [contacts, contacts, hobserved, run_withRegistry]
  rfl

end WithRegistry

/-- **No caller can tell the sessions apart**: whatever operations are performed on them, they come to
the same, ask the same of the transport and leave it alike, and replies mean the same afterwards. -/
structure Alike (s s' : Session σ) : Prop where
  outcomes : ∀ ops, (s.run ops).1 = (s'.run ops).1
  contacts : ∀ ops, s.contacts ops = s'.contacts ops
  transport : ∀ ops, (s.run ops).2.transport = (s'.run ops).2.transport
  connected : ∀ ops, (s.run ops).2.connected = (s'.run ops).2.connected
  replies : ∀ ops name reply,
    (s.run ops).2.profile.readReply name reply = (s'.run ops).2.profile.readReply name reply

theorem alike_withRegistry (s : Session σ) (r : Registry) : s.Alike (s.withRegistry r) where
  outcomes ops := by rw [run_withRegistry]
  contacts ops := (s.contacts_withRegistry r ops).symm
  transport ops := by rw [run_withRegistry]; rfl
  connected ops := by rw [run_withRegistry]; rfl
  replies ops name reply := by rw [run_withRegistry]; rfl

/-- No session in either case and the same fault, or sessions that no caller can tell apart. -/
inductive AlikeOutcomes {ε : Type} : Except ε (Session σ) → Except ε (Session σ) → Prop
  | refused (e : ε) : AlikeOutcomes (.error e) (.error e)
  | made {s s' : Session σ} : s.Alike s' → AlikeOutcomes (.ok s) (.ok s')

theorem alikeOutcomes_map {ε : Type} (outcome : Except ε (Session σ)) (r : Registry) :
    AlikeOutcomes outcome (outcome.map (·.withRegistry r)) := by
  cases outcome with
  | error e => exact .refused e
  | ok s => exact .made (s.alike_withRegistry r)

end Session

/-- **Shadowed and unused parameters of a registry are not observed.**  If two registries agree on the
names that a schema mentions without declaring them, then with either of them the schema is refused
for the same fault or makes sessions that no caller can tell apart, whatever the transport does: both
over the transport that the schema asks for and over one that is given. -/
theorem registry_unobserved {s : Schema} {r r' : Registry} (h : s.Agree r r') :
    (∀ {ρ : Type} [Remote ρ] (around : Surroundings ρ),
      Session.AlikeOutcomes (Session.ofSchemaWith r s around)
        (Session.ofSchemaWith r' s around)) ∧
    ∀ {σ : Type} [Transport σ] (t : σ),
      Session.AlikeOutcomes ((Profile.ofSchema s r).map (Session.start · t))
        ((Profile.ofSchema s r').map (Session.start · t)) := by
  have hread := Profile.ofSchema_congr h
  refine ⟨fun around => ?_, fun t => ?_⟩
  · have hmade : Session.ofSchemaWith r' s around =
        (Session.ofSchemaWith r s around).map (·.withRegistry r') := by
      rw [Session.ofSchemaWith, Session.ofSchemaWith, hread]
      cases s.connection.transport around with
      | error e => rfl
      | ok t => cases Profile.ofSchema s r <;> rfl
    rw [hmade]
    exact Session.alikeOutcomes_map _ r'
  · have hmade : (Profile.ofSchema s r').map (Session.start · t) =
        ((Profile.ofSchema s r).map (Session.start · t)).map (·.withRegistry r') := by
      rw [hread]
      cases Profile.ofSchema s r <;> rfl
    rw [hmade]
    exact Session.alikeOutcomes_map _ r'

/-- The valve declares the text that it names `int`, so an instrument cannot tell the standard registry
from one that has a date of that name. -/
theorem registry_unobserved_valve :
    let other := Registry.standard.insert (.plain "int" .date none)
    (Valve.schema.Agree .standard other ∧ (Registry.standard.get? "int").map (·.kind) = some .int ∧
      (other.get? "int").map (·.kind) = some .date) ∧
    ∃ session session' : Session (TransportOver ScriptedRemote),
      Session.ofSchemaWith .standard Valve.schema Valve.surroundings = .ok session ∧
      Session.ofSchemaWith other Valve.schema Valve.surroundings = .ok session' ∧
      session.Alike session' := by
  intro other
  have hagree : Valve.schema.Agree .standard other := by
    intro name _ hundeclared
    rw [Registry.get?_insert, if_neg]
    rintro rfl
    exact hundeclared ⟨⟨none, " String", some "  ", some "", none⟩, List.mem_cons_self⟩
  have hmade : (Session.ofSchemaWith .standard Valve.schema Valve.surroundings).map
      (fun _ => ()) = .ok () := rfl
  obtain ⟨session, hsession, -⟩ := map_eq_ok_iff.1 hmade
  have halike := (registry_unobserved hagree).1 Valve.surroundings
  refine ⟨⟨hagree, rfl, ?_⟩, ?_⟩
  · rw [Registry.get?_insert]
    rfl
  · rw [hsession] at halike
    cases hother : Session.ofSchemaWith other Valve.schema Valve.surroundings with
    | error e =>
      rw [hother] at halike
      cases halike
    | ok session' =>
      rw [hother] at halike
      cases halike with
      | made halike => exact ⟨session, session', hsession, rfl, halike⟩

end Instrument
