/-
# Which schemas are accepted

A schema is read part by part, each part by its own reader, and each reader has its own notion of
what may be left out: a blank range, an empty format, an empty template of replies, an empty pattern.
`Schema.Valid` says in one place, without the readers of parameters and commands, what a schema must
be like, and this file proves that just these schemas are accepted (`schema_accepted`).

What is accepted is valid; what is not accepted has the fault that is reported
(`ConfigurationFault.Explains`); and what has a fault is not valid.  The first is soundness, the other
two together are completeness, and the second says besides that no fault is reported that is not
there.

That a pattern compiles (`Pattern.Compiles`) means that it can be read.  The limit on the size of a
compiled pattern is left out, so a schema with a pattern beyond it is accepted here.
-/
import Instrument.Proofs.Profile.CommandEntries
import Instrument.Proofs.Profile.ParameterEntries
import Instrument.Proofs.Schema.Opening

namespace Instrument

open Shape (exists_right_of_forall₂)

/-! ## Valid schemas -/

/-- A name that the templates of a schema may use: declared in the schema or in the registry. -/
def Schema.Knows (s : Schema) (registry : Registry) (name : String) : Prop :=
  name ∈ s.parameters.map (·.1) ∨ registry.Has name

/-- **What a schema must be like**, so that an instrument can be made of it. -/
structure Schema.Valid (registry : Registry) (s : Schema) : Prop where
  connection : ∀ settings, s.connection = .serial settings →
    (5 ≤ settings.dataBits.toNat ∧ settings.dataBits.toNat ≤ 8) ∧
      (settings.stopBits.toNat = 1 ∨ settings.stopBits.toNat = 2)
  parameters : ∀ key e, (key, e) ∈ s.parameters → e.Valid key
  failure : ∀ text ∈ s.failure, text = "" ∨ Pattern.Compiles text
  commands : ∀ key e, (key, e) ∈ s.commands → e.Valid (s.Knows registry) key

/-- A fault that a schema has. -/
inductive ConfigurationFault.Explains (registry : Registry) (s : Schema) :
    ConfigurationFault → Prop
  | dataBits {settings : SerialSettings} : s.connection = .serial settings →
      ¬ (5 ≤ settings.dataBits.toNat ∧ settings.dataBits.toNat ≤ 8) →
      Explains registry s (.serial (.dataBits settings.dataBits.toNat settings.port))
  | stopBits {settings : SerialSettings} : s.connection = .serial settings →
      ¬ (settings.stopBits.toNat = 1 ∨ settings.stopBits.toNat = 2) →
      Explains registry s (.serial (.stopBits settings.stopBits.toNat settings.port))
  | parameter {key : String} {e : ParameterEntry} {fault : EntryFault} : (key, e) ∈ s.parameters →
      fault.Explains key e → Explains registry s (.parameter fault)
  | failurePattern {text : String} : s.failure = some text → text ≠ "" →
      ¬ Pattern.Compiles text → Explains registry s .failurePattern
  | command {key : String} {e : CommandEntry} {fault : CommandFault} : (key, e) ∈ s.commands →
      fault.Explains (s.Knows registry) key e → Explains registry s (.command fault)

/-- A schema with a fault is not valid. -/
theorem ConfigurationFault.Explains.not_valid {registry : Registry} {s : Schema}
    {fault : ConfigurationFault} (h : fault.Explains registry s) : ¬ s.Valid registry := by
  intro hvalid
  cases h with
  | dataBits hserial hbits => exact hbits (hvalid.connection _ hserial).1
  | stopBits hserial hbits => exact hbits (hvalid.connection _ hserial).2
  | parameter hmem hfault => exact hfault.not_valid (hvalid.parameters _ _ hmem)
  | failurePattern htext hne hpattern => exact hpattern ((hvalid.failure _ htext).resolve_left hne)
  | command hmem hfault => exact hfault.not_valid (hvalid.commands _ _ hmem)

namespace Profile

variable {registry : Registry} {failure : Option String}

/-! ### Tables -/

theorem forall₂_of_readParameters {entries : List (String × ParameterEntry)} {ps : List Parameter}
    (h : readParameters entries = .ok ps) :
    List.Forall₂ (fun entry p => Parameter.ofEntry entry.1 entry.2 = .ok p) entries ps := by
  induction entries generalizing ps with
  | nil =>
    cases h
    exact .nil
  | cons entry rest ih =>
    obtain ⟨p, hp, h⟩ := bind_eq_ok_iff.1 h
    obtain ⟨more, hmore, h⟩ := bind_eq_ok_iff.1 h
    cases h
    exact .cons (mapError_eq_ok_iff.1 hp) (ih hmore)

theorem explains_of_readParameters {entries : List (String × ParameterEntry)}
    {fault : ConfigurationFault} (h : readParameters entries = .error fault) :
    ∃ key e f, (key, e) ∈ entries ∧ f.Explains key e ∧ fault = .parameter f := by
  induction entries with
  | nil => cases h
  | cons entry rest ih =>
    obtain ⟨key, e⟩ := entry
    rcases bind_eq_error_iff.1 h with hp | ⟨p, -, h⟩
    · obtain ⟨f, hf, rfl⟩ := mapError_eq_error_iff.1 hp
      exact ⟨key, e, f, List.mem_cons_self, Parameter.explains_of_ofEntry hf, rfl⟩
    · rcases bind_eq_error_iff.1 h with hrest | ⟨more, -, ⟨⟩⟩
      obtain ⟨key, e, f, hmem, hf⟩ := ih hrest
      exact ⟨key, e, f, List.mem_cons_of_mem _ hmem, hf⟩

theorem forall₂_of_readCommands {entries : List (String × CommandEntry)} {cs : List Command}
    (h : readCommands registry failure entries = .ok cs) :
    List.Forall₂ (fun entry c => readCommand registry failure entry.1 entry.2 = .ok c)
      entries cs := by
  induction entries generalizing cs with
  | nil =>
    cases h
    exact .nil
  | cons entry rest ih =>
    obtain ⟨c, hc, h⟩ := bind_eq_ok_iff.1 h
    obtain ⟨more, hmore, h⟩ := bind_eq_ok_iff.1 h
    cases h
    exact .cons (mapError_eq_ok_iff.1 hc) (ih hmore)

theorem explains_of_readCommands {entries : List (String × CommandEntry)}
    {fault : ConfigurationFault}
    (hinstrument : ∀ t, Command.given? failure = some t → Pattern.Compiles t)
    (h : readCommands registry failure entries = .error fault) :
    ∃ key e f, (key, e) ∈ entries ∧ f.Explains registry.Has key e ∧ fault = .command f := by
  induction entries with
  | nil => cases h
  | cons entry rest ih =>
    obtain ⟨key, e⟩ := entry
    rcases bind_eq_error_iff.1 h with hc | ⟨c, -, h⟩
    · obtain ⟨f, hf, rfl⟩ := mapError_eq_error_iff.1 hc
      exact ⟨key, e, f, List.mem_cons_self, explains_of_readCommand hinstrument hf, rfl⟩
    · rcases bind_eq_error_iff.1 h with hrest | ⟨more, -, ⟨⟩⟩
      obtain ⟨key, e, f, hmem, hf⟩ := ih hrest
      exact ⟨key, e, f, List.mem_cons_of_mem _ hmem, hf⟩

/-! ### Names known to a schema -/

/-- **Declared parameters come before those of the registry.** -/
theorem get?_known {ps : List Parameter} {name : String} {p : Parameter}
    (h : (known registry ps).get? name = some p) :
    p ∈ ps ∨ (∀ q ∈ ps, q.name ≠ name) ∧ registry.get? name = some p := by
  induction ps generalizing registry with
  | nil =>
    refine .inr ⟨fun q hq => absurd hq List.not_mem_nil, ?_⟩
    rwa [known, List.foldl_nil] at h
  | cons q rest ih =>
    rw [known, List.foldl_cons] at h
    rcases ih h with hmem | ⟨hrest, hget⟩
    · exact .inl (List.mem_cons_of_mem _ hmem)
    · rw [Registry.get?_insert] at hget
      split at hget
      · cases hget
        exact .inl List.mem_cons_self
      · rename_i hq
        refine .inr ⟨fun d hd => ?_, hget⟩
        rcases List.mem_cons.1 hd with rfl | hd
        · exact hq
        · exact hrest d hd

theorem has_known_iff {ps : List Parameter} {name : String} :
    (known registry ps).Has name ↔ name ∈ ps.map (·.name) ∨ registry.Has name := by
  induction ps generalizing registry with
  | nil => simp [known]
  | cons q rest ih =>
    have hinsert : (registry.insert q).Has name ↔ q.name = name ∨ registry.Has name := by
      unfold Registry.Has
      rw [Registry.get?_insert]
      split <;> simp_all
    have hrest := @ih (registry.insert q)
    rw [show known registry (q :: rest) = known (registry.insert q) rest from rfl, hrest, hinsert]
    simp only [List.map_cons, List.mem_cons, eq_comm]
    tauto

/-! ### Patterns of bad replies -/

theorem compiles_of_checkFailure (h : checkFailure failure = .ok ()) :
    ∀ text, Command.given? failure = some text → Pattern.Compiles text := by
  intro text htext
  unfold checkFailure at h
  rw [htext] at h
  by_cases hpattern : (Expression.ofText? text).isSome = true
  · exact Expression.ofText?_isSome_iff.1 hpattern
  · simp [hpattern] at h

theorem checkFailure_eq_error {fault : ConfigurationFault}
    (h : checkFailure failure = .error fault) :
    ∃ text, Command.given? failure = some text ∧ ¬ Pattern.Compiles text ∧
      fault = .failurePattern := by
  unfold checkFailure at h
  split at h
  · cases h
  · rename_i text htext
    split at h
    · cases h
    · rename_i hpattern
      cases h
      exact ⟨text, htext, fun hcompiles => hpattern (Expression.ofText?_isSome_iff.2 hcompiles), rfl⟩

/-! ### Profiles -/

/-- A parameter of a command is the one that its name means: the declared parameter of that name, or
else the one that the registry has. -/
def Means (p : Profile) (q : Parameter) : Prop :=
  q ∈ p.parameters ∨ (∀ d ∈ p.parameters, d.name ≠ q.name) ∧ p.registry.get? q.name = some q

/-- What an accepted schema becomes.  There is a parameter for each entry, which keeps what the entry
says, and a command for each entry, with a parameter for each name in its templates. -/
structure MadeOf (p : Profile) (registry : Registry) (s : Schema) : Prop where
  registry : p.registry = registry
  parameters : List.Forall₂ (fun entry q => q.name = entry.1 ∧ q.Keeps entry.2)
    s.parameters p.parameters
  commands : List.Forall₂ (fun entry (c : Command) => c.name = entry.1 ∧
      c.parameters.map (·.name) = (Template.ofText entry.2.template).names ∧
      c.results.map (·.name) = (Template.ofText (entry.2.response.getD "")).names ∧
      (∀ q ∈ c.parameters, p.Means q) ∧ ∀ q ∈ c.results, p.Means q)
    s.commands p.commands

/-- The parameters that names were resolved to. -/
theorem names_of_forall₂ {names : List String} {ps : List Parameter}
    (h : List.Forall₂ (fun name q => registry.get? name = some q) names ps) :
    ps.map (·.name) = names ∧ ∀ q ∈ ps, registry.get? q.name = some q := by
  induction h with
  | nil => exact ⟨rfl, fun q hq => absurd hq List.not_mem_nil⟩
  | cons hq _ ih =>
    obtain rfl := Registry.name_of_get? hq
    refine ⟨congrArg _ ih.1, fun q hmem => ?_⟩
    rcases List.mem_cons.1 hmem with rfl | hmem
    · exact hq
    · exact ih.2 q hmem

theorem declared_names {entries : List (String × ParameterEntry)} {ps : List Parameter}
    (h : readParameters entries = .ok ps) : ps.map (·.name) = entries.map (·.1) := by
  have hread := forall₂_of_readParameters h
  clear h
  induction hread with
  | nil => rfl
  | cons hp _ ih =>
    rw [List.map_cons, List.map_cons, ih, (Parameter.keeps_of_ofEntry hp).1]

variable {s : Schema} {p : Profile}

/-- **What an accepted schema becomes.** -/
theorem madeOf_of_ofSchema (h : ofSchema s registry = .ok p) : p.MadeOf registry s := by
  obtain ⟨ps, cs, hps, -, hcs, rfl⟩ := ofSchema_eq_ok_iff.1 h
  refine ⟨rfl, (forall₂_of_readParameters hps).imp fun _ _ hp => Parameter.keeps_of_ofEntry hp,
    (forall₂_of_readCommands hcs).imp fun entry c hc => ?_⟩
  have hfrom := Command.readFrom_of_ofEntry (readCommand_eq_ok hc).2
  obtain ⟨hparameters, hmeant⟩ := names_of_forall₂ hfrom.parameters
  obtain ⟨hresults, hmeant'⟩ := names_of_forall₂ hfrom.results
  exact ⟨hfrom.name, hparameters, hresults, fun q hq => get?_known (hmeant q hq),
    fun q hq => get?_known (hmeant' q hq)⟩

/-- A schema that a profile was read from is valid but for its connection. -/
theorem valid_of_ofSchema (h : ofSchema s registry = .ok p) :
    (∀ key e, (key, e) ∈ s.parameters → e.Valid key) ∧
    (∀ text ∈ s.failure, text = "" ∨ Pattern.Compiles text) ∧
    ∀ key e, (key, e) ∈ s.commands → e.Valid (s.Knows registry) key := by
  obtain ⟨ps, cs, hps, hfailure, hcs, -⟩ := ofSchema_eq_ok_iff.1 h
  refine ⟨fun key e hmem => ?_, fun text htext => ?_, fun key e hmem => ?_⟩
  · obtain ⟨q, -, hq⟩ := exists_right_of_forall₂ (forall₂_of_readParameters hps) hmem
    exact Parameter.valid_of_ofEntry hq
  · by_cases hne : text = ""
    · exact .inl hne
    · exact .inr (compiles_of_checkFailure hfailure text (Command.given?_eq_some_iff.2 ⟨htext, hne⟩))
  · obtain ⟨c, -, hc⟩ := exists_right_of_forall₂ (forall₂_of_readCommands hcs) hmem
    have hknown : (known registry ps).Has = s.Knows registry := by
      funext name
      rw [has_known_iff, declared_names hps, Schema.Knows]
    rw [← hknown]
    exact valid_of_readCommand hc

theorem explains_of_ofSchema {fault : ConfigurationFault} (h : ofSchema s registry = .error fault) :
    fault.Explains registry s := by
  rcases bind_eq_error_iff.1 h with hps | ⟨ps, hps, h⟩
  · obtain ⟨key, e, f, hmem, hf, rfl⟩ := explains_of_readParameters hps
    exact .parameter hmem hf
  rcases bind_eq_error_iff.1 h with hfailure | ⟨⟨⟩, hfailure, h⟩
  · obtain ⟨text, htext, hpattern, rfl⟩ := checkFailure_eq_error hfailure
    obtain ⟨htext, hne⟩ := Command.given?_eq_some_iff.1 htext
    exact .failurePattern htext hne hpattern
  rcases bind_eq_error_iff.1 h with hcs | ⟨cs, -, ⟨⟩⟩
  obtain ⟨key, e, f, hmem, hf, rfl⟩ :=
    explains_of_readCommands (compiles_of_checkFailure hfailure) hcs
  have hknown : (known registry ps).Has = s.Knows registry := by
    funext name
    rw [has_known_iff, declared_names hps, Schema.Knows]
  rw [hknown] at hf
  exact .command hmem hf

end Profile

/-! ## Connections -/

namespace Connection

variable {ρ : Type} {c : Connection} {around : Surroundings ρ}

/-- Settings of a serial line are at fault, or they are not. -/
theorem serial_cases (settings : SerialSettings) :
    settings.check = .ok () ∧ (5 ≤ settings.dataBits.toNat ∧ settings.dataBits.toNat ≤ 8) ∧
        (settings.stopBits.toNat = 1 ∨ settings.stopBits.toNat = 2) ∨
    settings.check = .error (.dataBits settings.dataBits.toNat settings.port) ∧
        ¬ (5 ≤ settings.dataBits.toNat ∧ settings.dataBits.toNat ≤ 8) ∨
    settings.check = .error (.stopBits settings.stopBits.toNat settings.port) ∧
        ¬ (settings.stopBits.toNat = 1 ∨ settings.stopBits.toNat = 2) := by
  unfold SerialSettings.check
  split
  · rename_i hdata
    refine .inr (.inl ⟨rfl, ?_⟩)
    simp only [Bool.not_eq_true', Bool.and_eq_false_iff, decide_eq_false_iff_not] at hdata
    omega
  · rename_i hdata
    split
    · rename_i hstop
      refine .inr (.inr ⟨rfl, ?_⟩)
      simp only [Bool.not_eq_true', Bool.and_eq_false_iff, decide_eq_false_iff_not] at hstop
      omega
    · rename_i hstop
      refine .inl ⟨rfl, by simpa using hdata, ?_⟩
      simp only [Bool.not_eq_true', Bool.not_eq_false, Bool.and_eq_true, decide_eq_true_eq] at hstop
      omega

theorem transport_serial {settings : SerialSettings} (h : c = .serial settings) :
    c.transport around = settings.check.map fun _ =>
      .channel (.ofSerial settings around.links around.ports) := by
  rw [h]
  rfl

/-- There is a transport for a connection, or the fault is one of a serial line. -/
theorem transport_cases (c : Connection) (around : Surroundings ρ) :
    (∃ t, c.transport around = .ok t) ∨
    ∃ settings fault, c = .serial settings ∧ settings.check = .error fault ∧
      c.transport around = .error fault := by
  cases c with
  | stream settings => exact .inl ⟨_, rfl⟩
  | datagram settings => exact .inl ⟨_, rfl⟩
  | rpc settings => exact .inl ⟨_, rfl⟩
  | serial settings =>
    rw [transport_serial rfl]
    cases hcheck : settings.check with
    | ok u => exact .inl ⟨_, rfl⟩
    | error fault => exact .inr ⟨settings, fault, rfl, hcheck, rfl⟩

end Connection

/-! ## Sessions -/

namespace Session

variable {ρ : Type} {registry : Registry} {s : Schema} {around : Surroundings ρ}
  {session : Session (TransportOver ρ)}

theorem valid_of_ofSchemaWith (h : ofSchemaWith registry s around = .ok session) :
    s.Valid registry := by
  obtain ⟨t, ht, h⟩ := bind_eq_ok_iff.1 h
  obtain ⟨profile, hprofile, -⟩ := bind_eq_ok_iff.1 h
  obtain ⟨hparameters, hfailure, hcommands⟩ := Profile.valid_of_ofSchema hprofile
  refine ⟨fun settings hserial => ?_, hparameters, hfailure, hcommands⟩
  have ht := mapError_eq_ok_iff.1 ht
  rw [Connection.transport_serial hserial] at ht
  obtain ⟨u, hcheck, -⟩ := map_eq_ok_iff.1 ht
  rcases Connection.serial_cases settings with ⟨-, hbits⟩ | ⟨herror, -⟩ | ⟨herror, -⟩
  · exact hbits
  · rw [hcheck] at herror
    cases herror
  · rw [hcheck] at herror
    cases herror

theorem explains_of_ofSchemaWith {fault : ConfigurationFault}
    (h : ofSchemaWith registry s around = .error fault) : fault.Explains registry s := by
  rcases bind_eq_error_iff.1 h with ht | ⟨t, -, h⟩
  · obtain ⟨f, hf, rfl⟩ := mapError_eq_error_iff.1 ht
    rcases s.connection.transport_cases around with ⟨t, ht⟩ | ⟨settings, g, hserial, hg, ht⟩
    · rw [ht] at hf
      cases hf
    · rw [ht] at hf
      cases hf
      rcases Connection.serial_cases settings with ⟨hok, -⟩ | ⟨herror, hbits⟩ | ⟨herror, hbits⟩
      · rw [hg] at hok
        cases hok
      · rw [hg] at herror
        cases herror
        exact .dataBits hserial hbits
      · rw [hg] at herror
        cases herror
        exact .stopBits hserial hbits
  · rcases bind_eq_error_iff.1 h with hprofile | ⟨profile, -, ⟨⟩⟩
    exact Profile.explains_of_ofSchema hprofile

end Session

/-- **Validation is exact.**  A schema is accepted if and only if it is valid: a serial line has five
to eight data bits and one or two stop bits, every parameter and every command is under its own name,
kinds, ranges and formats are what they should be, patterns of bad replies are patterns, and every name
in a template is declared or in the registry.  Nothing of it depends on the surroundings.  What is not
accepted is refused for a fault of the configuration that is there.  Of what is accepted, each command
has just the parameters that its templates name, in order, declared ones before those of the
registry. -/
theorem schema_accepted {ρ : Type} (registry : Registry) (s : Schema) (around : Surroundings ρ) :
    ((∃ session, Session.ofSchemaWith registry s around = .ok session) ↔ s.Valid registry) ∧
    (∀ fault, Session.ofSchemaWith registry s around = .error fault →
      fault.Explains registry s) ∧
    ∀ session, Session.ofSchemaWith registry s around = .ok session →
      session.profile.MadeOf registry s := by
  refine ⟨⟨?_, fun hvalid => ?_⟩, fun fault hfault => Session.explains_of_ofSchemaWith hfault,
    fun session hsession => ?_⟩
  · rintro ⟨session, hsession⟩
    exact Session.valid_of_ofSchemaWith hsession
  · cases houtcome : Session.ofSchemaWith registry s around with
    | ok session => exact ⟨session, rfl⟩
    | error fault => exact absurd hvalid (Session.explains_of_ofSchemaWith houtcome).not_valid
  · obtain ⟨t, -, h⟩ := bind_eq_ok_iff.1 hsession
    obtain ⟨profile, hprofile, h⟩ := bind_eq_ok_iff.1 h
    cases h
    exact Profile.madeOf_of_ofSchema hprofile

namespace Valve

/-- A valve whose schema declares a text under the name that the registry has an integer for. -/
def schema : Schema where
  name := "valve"
  description := none
  connection := .serial ⟨"/dev/ttyS0", 9600, 7, 2, .even, 500, "\n", some "\n", none⟩
  failure := some ""
  marker := none
  parameters := [("int", ⟨none, " String", some "  ", some "", none⟩)]
  commands := [("turn", ⟨some "turn", "TURN (int) (byte)", some "(int)=(byte)", none, none⟩)]

/-- The schema with one data bit too few. -/
def narrow : Schema :=
  { schema with
    connection := .serial ⟨"/dev/ttyS0", 9600, 4, 2, .even, 500, "\n", some "\n", none⟩ }

/-- Surroundings where nothing can be reached. -/
def surroundings : Surroundings ScriptedRemote where
  links := []
  sockets := []
  network := .io .noNetwork
  ports := .io .noPort
  remote _ := ⟨[some (.timeout 250)], [], [], false, false, []⟩

end Valve

/-- The valve is accepted and its text shadows the integer of the registry; on the narrow line it is
refused for its data bits. -/
theorem schema_accepted_valve :
    (∃ session, Session.ofSchemaWith .standard Valve.schema Valve.surroundings = .ok session ∧
      Valve.schema.Valid .standard ∧ session.profile.MadeOf .standard Valve.schema ∧
      session.profile.commands.map (fun c => c.parameters.map fun q => (q.name, q.kind)) =
        [[("int", .text), ("byte", .byte)]]) ∧
    Session.ofSchemaWith .standard Valve.narrow Valve.surroundings =
      .error (.serial (.dataBits 4 "/dev/ttyS0")) ∧
    ConfigurationFault.Explains .standard Valve.narrow (.serial (.dataBits 4 "/dev/ttyS0")) := by
  have hmade : (Session.ofSchemaWith .standard Valve.schema Valve.surroundings).map
      (·.profile.commands.map fun c => c.parameters.map fun q => (q.name, q.kind)) =
      .ok [[("int", .text), ("byte", .byte)]] := rfl
  obtain ⟨session, hsession, hkinds⟩ := map_eq_ok_iff.1 hmade
  have hrefused : Session.ofSchemaWith .standard Valve.narrow Valve.surroundings =
      .error (.serial (.dataBits 4 "/dev/ttyS0")) := rfl
  obtain ⟨hvalid, -, hmadeOf⟩ := schema_accepted .standard Valve.schema Valve.surroundings
  obtain ⟨-, hexplains, -⟩ := schema_accepted .standard Valve.narrow Valve.surroundings
  exact ⟨⟨session, hsession, hvalid.1 ⟨session, hsession⟩, hmadeOf session hsession, hkinds⟩,
    hrefused, hexplains _ hrefused⟩

end Instrument
