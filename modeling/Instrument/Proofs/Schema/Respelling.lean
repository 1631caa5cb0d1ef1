/-
# Schemas under every spelling

A schema is read back from every spelling of its document (`schema_respelled`), and in particular
from the document as it is written (`Schema.ofDocument_toJson`).  Every record has its theorem
`ofJson_eq`, which says no more than which law each of its fields obeys; how its members are found
is settled once in `openRecord_bind`, and how values are read in the laws.  A connection is taken
apart twice, for its tag and for its settings, so `Connection.exists_tag` gives both.

Texts come in only at the end: what is asked of a text is that it holds a spelling of the document.
-/
import Instrument.Proofs.Json.Equality
import Instrument.Proofs.Schema.Values

namespace Instrument

open Fields Json Shape Spelling

theorem Spelling.RecordForm.exists_object {older : String → Option String} {form : String → Form}
    {written : List (String × Json)} {j : Json} (h : RecordForm older form (.object written) j) :
    ∃ given, j = .object given ∧ Respelled older form written given := by
  cases h with
  | record h => exact ⟨_, rfl, h⟩

/-! ## Entries -/

theorem ParameterEntry.ofJson_eq {e : ParameterEntry} {j : Json} (hj : parameterForm e.toJson j) :
    ParameterEntry.ofJson j = .ok e := by
  obtain ⟨given, rfl, h⟩ := RecordForm.exists_object hj
  unfold ParameterEntry.ofJson
  refine openRecord_bind [] (by decide)
    (.optional (optionField_gives keepsText_eq e.name) <|
      .required (textField_gives keepsText_eq e.kind) <|
      .optional (optionField_gives keepsText_eq e.range) <|
      .optional (optionField_gives keepsText_eq e.wireFormat) <|
      .optional (optionField_gives keepsText_eq e.description) .nil) h fun r hr => ?_
  obtain ⟨hname, hkind, hrange, hwireFormat, hdescription, -⟩ := hr
  simp only [Record.get?, hname, hkind, hrange, hwireFormat, hdescription]
  rfl

theorem CommandEntry.ofJson_eq {e : CommandEntry} {j : Json} (hj : commandForm e.toJson j) :
    CommandEntry.ofJson j = .ok e := by
  obtain ⟨given, rfl, h⟩ := RecordForm.exists_object hj
  unfold CommandEntry.ofJson
  refine openRecord_bind [] (by decide)
    (.optional (optionField_gives keepsText_eq e.name) <|
      .required (textField_gives keepsText_eq e.template) <|
      .optional (optionField_gives keepsText_eq e.response) <|
      .optional (optionField_gives keepsText_eq e.failure) <|
      .optional (optionField_gives keepsText_eq e.description) .nil) h fun r hr => ?_
  obtain ⟨hname, htemplate, hresponse, hfailure, hdescription, -⟩ := hr
  simp only [Record.get?, hname, htemplate, hresponse, hfailure, hdescription]
  rfl

/-! ## Connections -/

theorem RpcMethod.ofJson_eq {m : RpcMethod} {j : Json} (hj : methodForm m.toJson j) :
    RpcMethod.ofJson j = .ok m := by
  obtain ⟨given, rfl, h⟩ := RecordForm.exists_object hj
  unfold RpcMethod.ofJson
  refine openRecord_bind [] (by decide)
    (.optional (optionField_gives keepsText_number m.remote) <|
      .optional (optionSize_gives rfl m.arity) .nil) h fun r hr => ?_
  obtain ⟨hremote, harity, -⟩ := hr
  simp only [Record.get?, hremote, harity]
  rfl

theorem CallbackSettings.ofJson_eq {c : CallbackSettings} {j : Json}
    (hj : callbackForm c.toJson j) : CallbackSettings.ofJson j = .ok c := by
  obtain ⟨given, rfl, h⟩ := RecordForm.exists_object hj
  unfold CallbackSettings.ofJson
  refine openRecord_bind [] (by decide)
    (.optional (d := standardRegisterMethod) (textField_gives keepsText_eq c.registerMethod) <|
      .optional (optionField_gives keepsText_eq c.identity) .nil) h fun r hr => ?_
  obtain ⟨hregisterMethod, hidentity, -⟩ := hr
  simp only [Record.get?, hregisterMethod, hidentity]
  rfl

section

variable {tag : Json} {given : List (String × Json)}

theorem StreamSettings.ofJson_eq {s : StreamSettings} (h : Respelled settingOlder settingForm
      (present ([("type", some tag)] ++ (Connection.stream s).settings)) given) :
    StreamSettings.ofJson (.object given) = .ok s := by
  unfold StreamSettings.ofJson
  refine openRecord_bind [("type", some tag)] (show Agree _ _ ["type"] by decide)
    (.required (textField_gives keepsText_number s.host) <|
      .required (word_gives rfl s.port.toNat_lt UInt16.ofNat_toNat) <|
      .optional (d := standardTimeout) (word_gives rfl s.timeout.toNat_lt UInt64.ofNat_toNat) <|
      .optional (d := "") (textField_gives keepsText_number s.commandTerminator) <|
      .optional (optionField_gives keepsText_number s.responseTerminator) <|
      .optional (optionSize_gives rfl s.responseLength) .nil) h fun r hr => ?_
  obtain ⟨hhost, hport, htimeout, hcommandTerminator, hresponseTerminator, hresponseLength, -⟩ := hr
  simp only [Record.get?, hhost, hport, htimeout, hcommandTerminator, hresponseTerminator,
    hresponseLength]
  rfl

theorem DatagramSettings.ofJson_eq {s : DatagramSettings} (h : Respelled settingOlder settingForm
      (present ([("type", some tag)] ++ (Connection.datagram s).settings)) given) :
    DatagramSettings.ofJson (.object given) = .ok s := by
  unfold DatagramSettings.ofJson
  refine openRecord_bind [("type", some tag)] (show Agree _ _ ["type"] by decide)
    (.required (textField_gives keepsText_number s.host) <|
      .required (word_gives rfl s.port.toNat_lt UInt16.ofNat_toNat) <|
      .optional (d := standardTimeout) (word_gives rfl s.timeout.toNat_lt UInt64.ofNat_toNat) <|
      .optional (d := "") (textField_gives keepsText_number s.commandTerminator) <|
      .optional (d := standardBuffer) (word_gives rfl s.maxBuffer.toNat_lt UInt64.ofNat_toNat) .nil)
    h fun r hr => ?_
  obtain ⟨hhost, hport, htimeout, hcommandTerminator, hmaxBuffer, -⟩ := hr
  simp only [hhost, hport, htimeout, hcommandTerminator, hmaxBuffer]
  rfl

theorem SerialSettings.ofJson_eq {s : SerialSettings} (h : Respelled settingOlder settingForm
      (present ([("type", some tag)] ++ (Connection.serial s).settings)) given) :
    SerialSettings.ofJson (.object given) = .ok s := by
  unfold SerialSettings.ofJson
  refine openRecord_bind [("type", some tag)] (show Agree _ _ ["type"] by decide)
    (.required (textField_gives keepsText_number s.port) <|
      .optional (d := 9600) (word_gives rfl s.baudRate.toNat_lt UInt32.ofNat_toNat) <|
      .optional (d := 8) (word_gives rfl s.dataBits.toNat_lt UInt8.ofNat_toNat) <|
      .optional (d := 1) (word_gives rfl s.stopBits.toNat_lt UInt8.ofNat_toNat) <|
      .optional (d := Parity.none) (gives_some fun _ => readParity_eq) <|
      .optional (d := standardTimeout) (word_gives rfl s.timeout.toNat_lt UInt64.ofNat_toNat) <|
      .optional (d := "") (textField_gives keepsText_number s.commandTerminator) <|
      .optional (optionField_gives keepsText_number s.responseTerminator) <|
      .optional (optionSize_gives rfl s.responseLength) .nil) h fun r hr => ?_
  obtain ⟨hport, hbaudRate, hdataBits, hstopBits, hparity, htimeout, hcommandTerminator,
    hresponseTerminator, hresponseLength, -⟩ := hr
  simp only [Record.get?, hport, hbaudRate, hdataBits, hstopBits, hparity, htimeout,
    hcommandTerminator, hresponseTerminator, hresponseLength]
  rfl

theorem RpcSettings.ofJson_eq {s : RpcSettings} (h : Respelled settingOlder settingForm
      (present ([("type", some tag)] ++ (Connection.rpc s).settings)) given) :
    RpcSettings.ofJson (.object given) = .ok s := by
  unfold RpcSettings.ofJson
  refine openRecord_bind [("type", some tag)] (show Agree _ _ ["type"] by decide)
    (.required (textField_gives keepsText_number s.host) <|
      .required (word_gives rfl s.port.toNat_lt UInt16.ofNat_toNat) <|
      .optional (d := standardTimeout) (word_gives rfl s.timeout.toNat_lt UInt64.ofNat_toNat) <|
      .optional (optionField_gives keepsText_number s.proxy) <|
      .optional (d := []) (gives_some fun _ => table_eq fun _ _ => RpcMethod.ofJson_eq) <|
      .optional (nullable_gives (fun _ _ => CallbackSettings.ofJson_eq) nofun s.callback) .nil)
    h fun r hr => ?_
  obtain ⟨hhost, hport, htimeout, hproxy, hmethods, hcallback, -⟩ := hr
  simp only [Record.get?, hhost, hport, htimeout, hproxy, hmethods, hcallback]
  rfl

end

/-- A connection is given with a tag of its type and with its settings. -/
theorem Connection.exists_tag {c : Connection} {j : Json} (hj : connectionForm c.toJson j) :
    ∃ given tag, j = .object given ∧ given.lookup "type" = some (.text tag) ∧
      ConnectionType.ofTag? tag = some c.type ∧ Respelled settingOlder settingForm
        (present ([("type", some (Json.text c.type.name))] ++ c.settings)) given := by
  obtain ⟨given, rfl, h⟩ := RecordForm.exists_object hj
  have hnodup : (([("type", some (Json.text c.type.name))] ++ c.settings).map Prod.fst).Nodup := by
    cases c <;> simp [Connection.settings]
  have hothers : ∀ n, settingOlder n ≠ some "type" := by
    intro n
    unfold settingOlder
    split <;> simp
  have hrel := rel_lookup_given h hnodup List.mem_cons_self rfl hothers
  generalize hlookup : given.lookup "type" = found at hrel
  cases hrel with
  | some hv =>
    obtain ⟨tag, rfl, htag⟩ := TagForm.exists_tag hv
    exact ⟨given, tag, rfl, hlookup, htag, h⟩

/-- A connection is read back under every spelling. -/
theorem Connection.ofJson_eq {c : Connection} {j : Json} (hj : connectionForm c.toJson j) :
    Connection.ofJson j = .ok c := by
  obtain ⟨given, tag, rfl, hlookup, htag, h⟩ := Connection.exists_tag hj
  simp only [Connection.ofJson, hlookup, htag]
  cases c with
  | stream s => exact map_eq_ok_iff.2 ⟨s, StreamSettings.ofJson_eq h, rfl⟩
  | datagram s => exact map_eq_ok_iff.2 ⟨s, DatagramSettings.ofJson_eq h, rfl⟩
  | serial s => exact map_eq_ok_iff.2 ⟨s, SerialSettings.ofJson_eq h, rfl⟩
  | rpc s => exact map_eq_ok_iff.2 ⟨s, RpcSettings.ofJson_eq h, rfl⟩

/-! ## Schemas -/

theorem Schema.ofJson_eq {s : Schema} {j : Json} (hj : schemaForm s.toJson j) :
    Schema.ofJson j = .ok s := by
  obtain ⟨given, rfl, h⟩ := RecordForm.exists_object hj
  unfold Schema.ofJson
  refine openRecord_bind [] (by decide)
    (.required (textField_gives keepsText_eq s.name) <|
      .optional (optionField_gives keepsText_eq s.description) <|
      .required (gives_some fun _ => Connection.ofJson_eq) <|
      .optional (optionField_gives keepsText_eq s.failure) <|
      .optional (optionField_gives keepsText_eq s.marker) <|
      .optional (d := []) (gives_some fun _ => table_eq fun _ _ => ParameterEntry.ofJson_eq) <|
      .optional (d := []) (gives_some fun _ => table_eq fun _ _ => CommandEntry.ofJson_eq) .nil)
    h fun r hr => ?_
  obtain ⟨hname, hdescription, hconnection, hfailure, hmarker, hparameters, hcommands, -⟩ := hr
  simp only [Record.get?, hname, hdescription, hconnection, hfailure, hmarker, hparameters,
    hcommands]
  rfl

/-- The tag that is looked at before all else is one of the connection's type. -/
theorem Schema.exists_connectionTag {s : Schema} {j : Json} (hj : schemaForm s.toJson j) :
    ∃ tag, connectionTag? j = some tag ∧ ConnectionType.ofTag? tag = some s.connection.type := by
  obtain ⟨given, rfl, h⟩ := RecordForm.exists_object hj
  have hothers : ∀ n, schemaOlder n ≠ some "connectionProperties" := by
    intro n
    unfold schemaOlder
    split <;> simp
  have hrel : Option.Rel connectionForm (some s.connection.toJson)
      (given.lookup "connectionProperties") :=
    rel_lookup_given h (by simp) (by simp) rfl hothers
  generalize hlookup : given.lookup "connectionProperties" = found at hrel
  cases hrel with
  | some hv =>
    obtain ⟨settings, tag, rfl, htag, htype, -⟩ := Connection.exists_tag hv
    exact ⟨tag, by simp [connectionTag?, Json.get?, hlookup, htag, Json.asText?], htype⟩

/-- **A schema is read back from every spelling of its document.** -/
theorem Schema.ofDocument_eq {s : Schema} {j : Json} (hj : schemaForm s.toJson j) :
    Schema.ofDocument j = .ok s := by
  obtain ⟨tag, htag, htype⟩ := Schema.exists_connectionTag hj
  have hknown : (ConnectionType.ofTag? tag).isNone = false := by
    rw [htype]
    rfl
  rw [Schema.ofDocument, htag, Option.filter_some_neg (by simp [hknown])]
  exact mapError_eq_ok_iff.2 (Schema.ofJson_eq hj)

/-! ## The written document -/

namespace Spelling

theorem RecordForm.refl {older : String → Option String} {form : String → Form}
    {fields : List (String × Option Json)} (h : ∀ m ∈ fields, ∀ w, m.2 = some w → form m.1 w w) :
    RecordForm older form (.object (present fields)) (.object (present fields)) :=
  .record ⟨_, List.forall₂_same.2 fun m hm =>
    ⟨.inl rfl, h (m.1, some m.2) (mem_present.1 hm) m.2 rfl⟩, .refl _⟩

theorem TableForm.refl {β : Type} {form : Form} {write : β → Json}
    (h : ∀ b, form (write b) (write b)) (l : List (String × β)) :
    TableForm form (.object (l.map fun (n, b) => (n, write b)))
      (.object (l.map fun (n, b) => (n, write b))) := by
  refine .table (List.forall₂_same.2 fun m hm => ⟨rfl, ?_⟩)
  obtain ⟨m, -, rfl⟩ := List.mem_map.1 hm
  exact h m.2

theorem padded_refl (s : String) : Padded s.toList s := ⟨[], [], nofun, nofun, by simp⟩

theorem parameterForm_refl (e : ParameterEntry) : parameterForm e.toJson e.toJson :=
  RecordForm.refl fun _ _ _ _ => rfl

theorem commandForm_refl (e : CommandEntry) : commandForm e.toJson e.toJson :=
  RecordForm.refl fun _ _ _ _ => rfl

theorem methodForm_refl (m : RpcMethod) : methodForm m.toJson m.toJson :=
  RecordForm.refl fun _ _ _ _ => .same _

theorem callbackForm_refl (c : CallbackSettings) : callbackForm c.toJson c.toJson :=
  RecordForm.refl fun _ _ _ _ => rfl

theorem connectionForm_refl (c : Connection) : connectionForm c.toJson c.toJson := by
  have htag : ∀ w, some (Json.text c.type.name) = some w → TagForm w w := by
    rintro _ ⟨⟩
    exact .tag (by cases c <;> exact List.mem_cons_self) (Recased.refl _)
  have hparity : ∀ p : Parity, ∀ w, some (Json.text p.name) = some w → ParityForm w w := by
    rintro p _ ⟨⟩
    exact .word List.mem_cons_self (Recased.refl _) (padded_refl _)
  have hsame : ∀ o : Option Json, ∀ w, o = some w → NumberForm w w := fun _ w _ => .same w
  suffices h : ∀ m ∈ ("type", some (Json.text c.type.name)) :: c.settings, ∀ w, m.2 = some w →
      settingForm m.1 w w from RecordForm.refl h
  refine List.forall_mem_cons.2 ⟨htag, ?_⟩
  cases c with
  | stream s =>
    simp only [Connection.settings, List.forall_mem_cons]
    exact ⟨hsame _, hsame _, hsame _, hsame _, hsame _, hsame _, nofun⟩
  | datagram s =>
    simp only [Connection.settings, List.forall_mem_cons]
    exact ⟨hsame _, hsame _, hsame _, hsame _, hsame _, nofun⟩
  | serial s =>
    simp only [Connection.settings, List.forall_mem_cons]
    exact ⟨hsame _, hsame _, hsame _, hsame _, hparity _, hsame _, hsame _, hsame _, hsame _,
      nofun⟩
  | rpc s =>
    simp only [Connection.settings, List.forall_mem_cons]
    refine ⟨hsame _, hsame _, hsame _, hsame _, ?_, ?_, nofun⟩
    · rintro _ ⟨⟩
      exact TableForm.refl methodForm_refl _
    · intro w hw
      obtain ⟨c, -, rfl⟩ := Option.map_eq_some_iff.1 hw
      exact callbackForm_refl c

/-- A document as it is written is a spelling of itself. -/
theorem schemaForm_refl (s : Schema) : schemaForm s.toJson s.toJson := by
  refine RecordForm.refl ?_
  simp only [List.forall_mem_cons]
  refine ⟨fun _ _ => rfl, fun _ _ => rfl, ?_, fun _ _ => rfl, fun _ _ => rfl, ?_, ?_, nofun⟩
  · rintro _ ⟨⟩
    exact connectionForm_refl _
  · rintro _ ⟨⟩
    exact TableForm.refl parameterForm_refl _
  · rintro _ ⟨⟩
    exact TableForm.refl commandForm_refl _

end Spelling

/-- A schema is read back from its own document. -/
theorem Schema.ofDocument_toJson (s : Schema) : Schema.ofDocument s.toJson = .ok s :=
  Schema.ofDocument_eq (schemaForm_refl s)

/-! ## The main statement -/

/-- **A schema is read from every text that holds a spelling of its document.**  Any of its fields
may go by its older name, any number of its connection may be a numeral with blanks around it, the
type of the connection may be any of its tags in any case, the parity its name in any case or its
number, and the members of each record may come in any order: what is read is the schema, no field
of it changed or lost. -/
theorem schema_respelled {s : Schema} {text : String} {j : Json} (hj : schemaForm s.toJson j)
    (hread : Json.read text = .ok j) : Schema.read text = .ok s := by
  rw [Schema.read, hread]
  exact Schema.ofDocument_eq hj

/-- A shutter on a serial line. -/
def shutter : Schema where
  name := "shutter"
  description := none
  connection := .serial ⟨"/dev/ttyS0", 9600, 7, 2, .odd, 500, "\r", none, none⟩
  failure := some "ERR"
  marker := none
  parameters := [("angle", ⟨none, "int", some "[0,90]", some "%d", none⟩)]
  commands := [("turn", ⟨none, "T (angle)", some "AT (angle)", none, some ""⟩)]

/-- The shutter in older names, with numerals for numbers. -/
def shutterText : String :=
  String.ofList <| List.flatMap String.toList
    ["\x7b\"name\": \"shutter\", ", "\"deviceSadRegex\": \"ERR\", ",
     "\"connectionProperties\": ", "\x7b\"type\": \"Serial\", ", "\"port\": \"/dev/ttyS0\", ",
     "\"baudrate\": \" 9600 \", ", "\"databit\": \"07\", ", "\"stopbit\": 2, ",
     "\"parity\": \"ODD\", ", "\"timeout\": \"+500\", ", "\"commandTerminator\": ", "\"\\r\"\x7d, ",
     "\"paramDefMap\": ", "\x7b\"angle\": ", "\x7b\"type\": \"int\", ", "\"range\": \"[0,90]\", ",
     "\"paramFormat\": \"%d\"\x7d\x7d, ", "\"commandMap\": ", "\x7b\"turn\": ",
     "\x7b\"command\": \"T (angle)\", ", "\"responseFormat\": \"AT (angle)\", ",
     "\"description\": \"\"\x7d\x7d\x7d"]

/-- The connection as the text gives it. -/
def shutterLine : Json :=
  .object
    [("baudrate", .text " 9600 "), ("commandTerminator", .text "\r"), ("databit", .text "07"),
     ("parity", .text "ODD"), ("port", .text "/dev/ttyS0"), ("stopbit", .integer 2),
     ("timeout", .text "+500"), ("type", .text "Serial")]

/-- The parameters as the text gives them. -/
def shutterParameters : Json :=
  .object [("angle", .object
    [("paramFormat", .text "%d"), ("range", .text "[0,90]"), ("type", .text "int")])]

/-- The commands as the text gives them. -/
def shutterCommands : Json :=
  .object [("turn", .object
    [("command", .text "T (angle)"), ("description", .text ""),
     ("responseFormat", .text "AT (angle)")])]

/-- What the text holds. -/
def shutterDocument : Json :=
  .object
    [("commandMap", shutterCommands), ("connectionProperties", shutterLine),
     ("deviceSadRegex", .text "ERR"), ("name", .text "shutter"), ("paramDefMap", shutterParameters)]

theorem shutterLine_given : connectionForm shutter.connection.toJson shutterLine := by
  have htag : TagForm (.text "serial") (.text "Serial") :=
    @TagForm.tag .serial "serial" "Serial" (by decide) (by decide)
  have hparity : ParityForm (.text "odd") (.text "ODD") :=
    @ParityForm.word .odd "odd" "ODD" _ (by decide) (by decide) (padded_refl _)
  refine .record ⟨
    [("type", .text "Serial"), ("port", .text "/dev/ttyS0"), ("baudrate", .text " 9600 "),
     ("databit", .text "07"), ("stopbit", .integer 2), ("parity", .text "ODD"),
     ("timeout", .text "+500"), ("commandTerminator", .text "\r")], ?_, by decide⟩
  exact
    .cons ⟨.inl rfl, htag⟩ <|
    .cons ⟨.inl rfl, .same _⟩ <|
    .cons ⟨.inr rfl, .numeral (n := 9600) (.plain 0)
      ⟨[' '], [' '], List.forall_mem_singleton.2 rfl, List.forall_mem_singleton.2 rfl,
        by decide⟩⟩ <|
    .cons ⟨.inr rfl, .numeral (n := 7) (.plain 1) (padded_refl "07")⟩ <|
    .cons ⟨.inr rfl, .same _⟩ <|
    .cons ⟨.inl rfl, hparity⟩ <|
    .cons ⟨.inl rfl, .numeral (n := 500) (.signed 0) (padded_refl "+500")⟩ <|
    .cons ⟨.inl rfl, .same _⟩ .nil

theorem shutterParameters_given : TableForm parameterForm
    (.object (shutter.parameters.map fun (n, e) => (n, e.toJson))) shutterParameters := by
  refine .table (.cons ⟨rfl, .record ⟨
    [("type", .text "int"), ("range", .text "[0,90]"), ("paramFormat", .text "%d")],
    ?_, by decide⟩⟩ .nil)
  exact .cons ⟨.inl rfl, rfl⟩ <| .cons ⟨.inl rfl, rfl⟩ <| .cons ⟨.inr rfl, rfl⟩ .nil

theorem shutterCommands_given : TableForm commandForm
    (.object (shutter.commands.map fun (n, e) => (n, e.toJson))) shutterCommands := by
  refine .table (.cons ⟨rfl, .record ⟨
    [("command", .text "T (angle)"), ("responseFormat", .text "AT (angle)"),
     ("description", .text "")], ?_, by decide⟩⟩ .nil)
  exact .cons ⟨.inr rfl, rfl⟩ <| .cons ⟨.inr rfl, rfl⟩ <| .cons ⟨.inl rfl, rfl⟩ .nil

theorem shutterDocument_given : schemaForm shutter.toJson shutterDocument := by
  refine .record ⟨
    [("name", .text "shutter"), ("connectionProperties", shutterLine),
     ("deviceSadRegex", .text "ERR"), ("paramDefMap", shutterParameters),
     ("commandMap", shutterCommands)], ?_, by decide⟩
  exact
    .cons ⟨.inl rfl, rfl⟩ <|
    .cons ⟨.inl rfl, shutterLine_given⟩ <|
    .cons ⟨.inr rfl, rfl⟩ <|
    .cons ⟨.inr rfl, shutterParameters_given⟩ <|
    .cons ⟨.inr rfl, shutterCommands_given⟩ .nil

-- Piece by piece, because the time to turn a literal into characters grows with the square of its
-- length.
theorem read_shutterText : Json.read shutterText = .ok shutterDocument :=
  Json.read_ofList (by decide +kernel)

theorem schema_respelled_shutter :
    schemaForm shutter.toJson shutterDocument ∧ Json.read shutterText = .ok shutterDocument ∧
      Schema.read shutterText = .ok shutter :=
  ⟨shutterDocument_given, read_shutterText,
    schema_respelled shutterDocument_given read_shutterText⟩

end Instrument
