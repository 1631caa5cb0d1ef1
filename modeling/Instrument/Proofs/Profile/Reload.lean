/-
# A profile comes back from its schema

A profile can say its schema again (`Profile.schema`), from the parameters and commands that it
holds and not from the entries that it was read from.  These may have said it otherwise: a type in
capitals and between blanks, a range, a format, a template or a pattern that is empty and counts as
not given.  What is read from the schema of a profile is that very profile
(`Profile.ofSchema_schema`), and so a session of it is one of the same instrument
(`session_reloaded`).

Reading an entry depends on little of it: `Parameter.ofEntry_eq_ok_iff` and
`Command.ofEntry_eq_ok_iff` say on what.  What was read keeps just that, the kind, the texts that
count as given and the description, and its own entry has the same of these, so that it is read to
the same.  Nothing is said about an entry that is refused; the schema of a profile is never one.
-/
import Instrument.Loading
import Instrument.Proofs.Outcome
import Instrument.Transport.Script

namespace Instrument

/-! ## Parameters -/

namespace Parameter

variable {name text : String} {e : ParameterEntry} {p q : Parameter}

theorem withRange_eq_ok (h : p.withRange text = .ok q) :
    ∃ (r : RangeClause) (hr : (some r).all (·.suits p.kind) = true),
      r.text = text ∧ Range.read text = .ok r.range ∧
        q = { p with range := some r, range_suits := hr } := by
  obtain ⟨⟨r, hr⟩, hread, rfl⟩ := map_eq_ok_iff.1 h
  unfold readRange at hread
  split at hread
  · cases hread
  · rename_i range hrange
    dsimp only at hread
    split at hread
    · cases hread
      exact ⟨_, by simpa using hr, rfl, hrange, rfl⟩
    · cases hread

theorem withFormat_eq_ok (h : p.withFormat text = .ok q) :
    ∃ (f : Encoding) (hf : f.suits p.kind = true),
      q = { p with encoding := f, format := some text, encoding_suits := hf } := by
  obtain ⟨⟨f, hf⟩, -, rfl⟩ := map_eq_ok_iff.1 h
  exact ⟨f, hf, rfl⟩

/-- **How an entry is read**: if it is under its own name and its type is known, from the texts in
it that count as given. -/
theorem ofEntry_eq_ok_iff :
    ofEntry name e = .ok p ↔ (∀ inner ∈ e.name, inner = name) ∧
      ∃ kind, Kind.ofName? e.kind = some kind ∧
        ∃ q, withOption withRange (rangeText? e) (plain name kind e.description) = .ok q ∧
          withOption withFormat (formatText? e) q = .ok p := by
  obtain ⟨own, kindText, range, wireFormat, description⟩ := e
  unfold ofEntry
  cases own with
  | none =>
    cases hk : Kind.ofName? kindText with
    | none => simp [throw, throwThe, MonadExceptOf.throw]
    | some kind => simp [bind_eq_ok_iff]
  | some inner =>
    by_cases hi : inner = name
    · cases hk : Kind.ofName? kindText with
      | none => simp [hi, throw, throwThe, MonadExceptOf.throw]
      | some kind => simp [hi, bind_eq_ok_iff]
    · simp [hi, bind, Except.bind, throw, throwThe, MonadExceptOf.throw]

/-- What a parameter keeps of the entry that it was read from. -/
structure Keeps (p : Parameter) (e : ParameterEntry) : Prop where
  kind : Kind.ofName? e.kind = some p.kind
  range : p.range.map (·.text) = rangeText? e
  format : p.format = formatText? e
  description : p.description = e.description

theorem keeps_of_ofEntry (h : ofEntry name e = .ok p) : p.name = name ∧ p.Keeps e := by
  obtain ⟨-, kind, hkind, q, hrange, hformat⟩ := ofEntry_eq_ok_iff.1 h
  have hq : q.name = name ∧ q.kind = kind ∧ q.range.map (·.text) = rangeText? e ∧
      q.format = none ∧ q.description = e.description := by
    cases ht : rangeText? e with
    | none =>
      rw [ht] at hrange
      cases hrange
      exact ⟨rfl, rfl, rfl, rfl, rfl⟩
    | some text =>
      rw [ht] at hrange
      obtain ⟨r, hr, rfl, -, rfl⟩ := withRange_eq_ok hrange
      exact ⟨rfl, rfl, rfl, rfl, rfl⟩
  obtain ⟨hname, rfl, hq⟩ := hq
  cases ht : formatText? e with
  | none =>
    rw [ht] at hformat
    cases hformat
    exact ⟨hname, hkind, hq.1, hq.2.1.trans ht.symm, hq.2.2⟩
  | some text =>
    rw [ht] at hformat
    obtain ⟨f, hf, rfl⟩ := withFormat_eq_ok hformat
    exact ⟨hname, hkind, hq.1, ht.symm, hq.2.2⟩

/-- **A parameter comes back from its entry.** -/
theorem ofEntry_entry (h : ofEntry name e = .ok p) : ofEntry p.name p.entry = .ok p := by
  obtain ⟨-, kind, hkind, q, hrange, hformat⟩ := ofEntry_eq_ok_iff.1 h
  obtain ⟨rfl, hkeeps⟩ := keeps_of_ofEntry h
  obtain rfl : kind = p.kind := Option.some.inj (hkind.symm.trans hkeeps.kind)
  have hrangeText : rangeText? p.entry = rangeText? e := by
    show (p.range.map (·.text)).filter _ = _
    rw [hkeeps.range, rangeText?, Option.filter_filter]
    simp
  have hformatText : formatText? p.entry = formatText? e := by
    show p.format.filter _ = _
    rw [hkeeps.format, formatText?, Option.filter_filter]
    simp
  refine ofEntry_eq_ok_iff.2 ⟨fun inner hinner => (Option.some.inj hinner).symm, p.kind,
    Kind.ofName?_name p.kind, q, ?_, hformatText ▸ hformat⟩
  rw [hrangeText, show p.entry.description = e.description from hkeeps.description]
  exact hrange

end Parameter

/-! ## Commands -/

namespace Command

variable {registry : Registry} {failure : Option String} {name : String} {e : CommandEntry}
  {c : Command}

theorem given?_given? (s : Option String) : given? (given? s) = given? s := by
  rw [given?, given?, Option.filter_filter]
  simp

/-- The form of a reply has the text that it was read from. -/
theorem source_of_forOption {text : Option String} {reply : Option ReplyForm}
    (h : forOption (ReplyForm.ofText registry name) text = .ok reply) :
    reply.map (·.template.source) = text := by
  cases text with
  | none =>
    cases h
    rfl
  | some t =>
    obtain ⟨form, hform, rfl⟩ := map_eq_ok_iff.1 h
    obtain ⟨ps, -, hform⟩ := bind_eq_ok_iff.1 hform
    split at hform
    · cases hform
      rfl
    · cases hform

/-- **How an entry is read**: from its template and the texts in it that count as given. -/
theorem ofEntry_eq_ok_iff :
    ofEntry registry failure name e = .ok c ↔
      ∃ ps reply expression,
        resolve registry name .argument (Template.ofText e.template).names = .ok ps ∧
        forOption (ReplyForm.ofText registry name) (given? e.response) = .ok reply ∧
        forOption (readFailure name) ((given? e.failure).or (given? failure)) = .ok expression ∧
        c = ⟨name, e.description, .ofText e.template, ps, reply, given? e.failure, expression⟩ := by
  unfold ofEntry
  simp only [bind_eq_ok_iff, pure, Except.pure, Except.ok.injEq]
  grind

/-- **A command comes back from its entry.** -/
theorem ofEntry_entry (h : ofEntry registry failure name e = .ok c) :
    c.name = name ∧ ofEntry registry failure name c.entry = .ok c := by
  obtain ⟨ps, reply, expression, hps, hreply, hexpression, rfl⟩ := ofEntry_eq_ok_iff.1 h
  -- The entry has the texts that count as given, and these count as given again.
  have hresponse : given? (reply.map (·.template.source)) = given? e.response := by
    rw [source_of_forOption hreply, given?_given?]
  refine ⟨rfl, ofEntry_eq_ok_iff.2 ⟨ps, reply, expression, hps, ?_, ?_, ?_⟩⟩
  · exact hresponse ▸ hreply
  · exact (given?_given? e.failure).symm ▸ hexpression
  · simp [entry, Template.ofText, given?_given?]

end Command

/-! ## Profiles -/

namespace Profile

variable {registry : Registry} {failure : Option String}

/-- A command comes back from its entry, which gives its name. -/
theorem readCommand_entry {name : String} {e : CommandEntry} {c : Command}
    (h : readCommand registry failure name e = .ok c) :
    readCommand registry failure c.name c.entry = .ok c := by
  have hread : Command.ofEntry registry failure name e = .ok c := by
    unfold readCommand at h
    split at h
    · split at h
      · cases h
      · exact h
    · exact h
  obtain ⟨rfl, hentry⟩ := Command.ofEntry_entry hread
  unfold readCommand
  simpa [Command.entry] using hentry

theorem readParameters_entries {entries : List (String × ParameterEntry)} {ps : List Parameter}
    (h : readParameters entries = .ok ps) :
    readParameters (ps.map fun p => (p.name, p.entry)) = .ok ps := by
  induction entries generalizing ps with
  | nil =>
    cases h
    rfl
  | cons e rest ih =>
    obtain ⟨p, hp, h⟩ := bind_eq_ok_iff.1 h
    obtain ⟨more, hmore, h⟩ := bind_eq_ok_iff.1 h
    cases h
    have hp : Parameter.ofEntry p.name p.entry = .ok p :=
      Parameter.ofEntry_entry (mapError_eq_ok_iff.1 hp)
    exact bind_eq_ok_iff.2
      ⟨p, mapError_eq_ok_iff.2 hp, bind_eq_ok_iff.2 ⟨more, ih hmore, rfl⟩⟩

theorem readCommands_entries {entries : List (String × CommandEntry)} {cs : List Command}
    (h : readCommands registry failure entries = .ok cs) :
    readCommands registry failure (cs.map fun c => (c.name, c.entry)) = .ok cs := by
  induction entries generalizing cs with
  | nil =>
    cases h
    rfl
  | cons e rest ih =>
    obtain ⟨c, hc, h⟩ := bind_eq_ok_iff.1 h
    obtain ⟨more, hmore, h⟩ := bind_eq_ok_iff.1 h
    cases h
    have hc : readCommand registry failure c.name c.entry = .ok c :=
      readCommand_entry (mapError_eq_ok_iff.1 hc)
    exact bind_eq_ok_iff.2
      ⟨c, mapError_eq_ok_iff.2 hc, bind_eq_ok_iff.2 ⟨more, ih hmore, rfl⟩⟩

/-- Reading a schema is reading its parameters, checking its pattern of bad replies, and reading its
commands with what is known then. -/
theorem ofSchema_eq_ok_iff {s : Schema} {p : Profile} :
    ofSchema s registry = .ok p ↔
      ∃ ps cs, readParameters s.parameters = .ok ps ∧ checkFailure s.failure = .ok () ∧
        readCommands (known registry ps) s.failure s.commands = .ok cs ∧
        p = ⟨s.name, s.description, s.connection, s.failure, s.marker, registry, ps, cs⟩ := by
  constructor
  · intro h
    obtain ⟨ps, hps, h⟩ := bind_eq_ok_iff.1 h
    obtain ⟨⟨⟩, hfailure, h⟩ := bind_eq_ok_iff.1 h
    obtain ⟨cs, hcs, h⟩ := bind_eq_ok_iff.1 h
    cases h
    exact ⟨ps, cs, hps, hfailure, hcs, rfl⟩
  · rintro ⟨ps, cs, hps, hfailure, hcs, rfl⟩
    exact bind_eq_ok_iff.2 ⟨ps, hps, bind_eq_ok_iff.2
      ⟨(), hfailure, bind_eq_ok_iff.2 ⟨cs, hcs, rfl⟩⟩⟩

/-- **A profile comes back from its schema.**  The parameters come back first, and with them the
registry that the commands are read with. -/
theorem ofSchema_schema {s : Schema} {p : Profile} (h : ofSchema s registry = .ok p) :
    ofSchema p.schema registry = .ok p := by
  obtain ⟨ps, cs, hps, hfailure, hcs, rfl⟩ := ofSchema_eq_ok_iff.1 h
  exact ofSchema_eq_ok_iff.2
    ⟨ps, cs, readParameters_entries hps, hfailure, readCommands_entries hcs, rfl⟩

end Profile

/-! ## Sessions -/

/-- The surroundings do not decide whether there is a transport for a connection. -/
theorem Connection.exists_transport {ρ : Type} {c : Connection} {around : Surroundings ρ}
    {t : TransportOver ρ} (h : c.transport around = .ok t) (later : Surroundings ρ) :
    ∃ t', c.transport later = .ok t' := by
  cases c with
  | stream settings => exact ⟨_, rfl⟩
  | datagram settings => exact ⟨_, rfl⟩
  | rpc settings => exact ⟨_, rfl⟩
  | serial settings =>
    obtain ⟨u, hu, -⟩ := map_eq_ok_iff.1 h
    exact ⟨_, map_eq_ok_iff.2 ⟨u, hu, rfl⟩⟩

/-- **An instrument survives the dump of its schema.**  If a session was made of a schema, one can
be made of the schema of its profile, with the same registry and whatever the surroundings are by
then, and its profile is the very same: the same texts for the instrument, the same marker and
patterns of bad replies, the same parameters with their ranges and formats, the same commands with
their templates and the forms of their replies.  What a profile does it does by these alone: the two
encode values and decode texts alike, render and read replies alike, fail alike, and the schema of
the second is the one that it was read from. -/
theorem session_reloaded {ρ : Type} {registry : Registry} {schema : Schema}
    {around : Surroundings ρ} {session : Session (TransportOver ρ)}
    (h : Session.ofSchemaWith registry schema around = .ok session) (later : Surroundings ρ) :
    ∃ again, Session.ofSchemaWith registry session.profile.schema later = .ok again ∧
      again.profile = session.profile ∧ again.profile.schema = session.profile.schema := by
  obtain ⟨t, ht, h⟩ := bind_eq_ok_iff.1 h
  obtain ⟨profile, hprofile, h⟩ := bind_eq_ok_iff.1 h
  cases h
  have hconnection : profile.schema.connection = schema.connection := by
    obtain ⟨ps, -, h⟩ := bind_eq_ok_iff.1 hprofile
    obtain ⟨⟨⟩, -, h⟩ := bind_eq_ok_iff.1 h
    obtain ⟨cs, -, h⟩ := bind_eq_ok_iff.1 h
    cases h
    rfl
  obtain ⟨t', ht'⟩ := Connection.exists_transport (mapError_eq_ok_iff.1 ht) later
  refine ⟨.start profile t', bind_eq_ok_iff.2 ⟨t', ?_, bind_eq_ok_iff.2 ⟨profile, ?_, rfl⟩⟩,
    rfl, rfl⟩
  · exact mapError_eq_ok_iff.2 (hconnection.symm ▸ ht')
  · exact Profile.ofSchema_schema hprofile

namespace Oven

/-- An oven as its schema was written: types between blanks and in capitals, and texts that are
empty where nothing is given. -/
def untidy : Schema where
  name := "oven"
  description := none
  connection := .rpc (.plain "localhost" 7700)
  failure := some "E\\d"
  marker := some ""
  parameters :=
    [("heat", ⟨none, "  INT ", some "150, 180,220", some "", none⟩),
     ("mode", ⟨some "mode", "String", some "  ", none, some "what to do"⟩)]
  commands :=
    [("bake", ⟨none, "BAKE (heat) (mode)", some "", some "", none⟩),
     ("read", ⟨some "read", "READ", some "(heat)", some "NO", none⟩)]

/-- The schema that the oven says again. -/
def tidy : Schema :=
  { untidy with
    parameters :=
      [("heat", ⟨some "heat", "int", some "150, 180,220", none, none⟩),
       ("mode", ⟨some "mode", "string", none, none, some "what to do"⟩)]
    commands :=
      [("bake", ⟨some "bake", "BAKE (heat) (mode)", none, none, none⟩),
       ("read", ⟨some "read", "READ", some "(heat)", some "NO", none⟩)] }

/-- Surroundings where the oven cannot be reached. -/
def surroundings : Surroundings ScriptedRemote where
  links := []
  sockets := []
  network := .io .noNetwork
  ports := .io .noPort
  remote _ := ⟨[some (.timeout 250)], [], [], false, false, []⟩

end Oven

/-- The oven, dumped and made again. -/
theorem session_reloaded_oven :
    ∃ session, Session.ofSchemaWith .standard Oven.untidy Oven.surroundings = .ok session ∧
      session.profile.schema = Oven.tidy ∧
      ∃ again, Session.ofSchemaWith .standard Oven.tidy Oven.surroundings = .ok again ∧
        again.profile = session.profile ∧ again.profile.schema = Oven.tidy := by
  have hmade : (Session.ofSchemaWith .standard Oven.untidy Oven.surroundings).map
      (·.profile.schema) = .ok Oven.tidy := rfl
  obtain ⟨session, hsession, hschema⟩ := map_eq_ok_iff.1 hmade
  exact ⟨session, hsession, hschema, hschema ▸ session_reloaded hsession Oven.surroundings⟩

end Instrument
