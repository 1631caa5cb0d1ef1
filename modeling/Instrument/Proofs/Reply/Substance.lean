/-
# Matches are not empty

Every match of a form of good replies takes some text, and so does each of its groups.  A place takes
what is in the language of its parameter, and the empty text never is: the patterns of the kinds are
solid, and that of a date is as soon as its format has a segment (`Parameter.Made.solid`).  A format
read from the empty text would have none, but an empty format in an entry counts as not given, just as
an empty template of replies does.  So a template has parts, and these are literal characters or
places (`substantial_of_follows`).

As matches stand one behind the other, there are no more of them than the reply has characters
(`Succession.length_le`), and none in an empty reply.  What the parameters are given to read are the
texts of the groups (`ReplyForm.readings`), so no parameter is ever given the empty text.
-/
import Instrument.Proofs.DateFormat.Translation
import Instrument.Proofs.Profile.Validity

namespace Instrument

open Pattern
open Shape (exists_left_of_forall₂)

/-! ## Parameters as they are made -/

namespace DateFormat

/-- A template with text has segments. -/
theorem segments_ne_nil {source : String} {f : DateFormat} (h : read source = .ok f)
    (hne : source ≠ "") : f.segments ≠ [] := by
  obtain ⟨-, htext⟩ := read_eq_ok_iff.1 h
  intro hnil
  rw [hnil] at htext
  generalize hcs : source.toList = cs at htext
  cases htext
  exact hne (String.toList_eq_nil_iff.1 hcs)

end DateFormat

namespace Parameter

/-- A parameter as it is made: plain, or read from an entry. -/
inductive Made : Parameter → Prop
  | plain (name : String) (kind : Kind) (description : Option String) :
      Made (.plain name kind description)
  | read {name : String} {e : ParameterEntry} {p : Parameter} : ofEntry name e = .ok p → Made p

theorem segments_of_standard {kind : Kind} {f : DateFormat}
    (h : Encoding.standard kind = .date f) : f.segments ≠ [] := by
  cases kind <;> cases h
  exact List.cons_ne_nil _ _

theorem segments_of_withFormat {p q : Parameter} {text : String} (hne : text ≠ "")
    (h : p.withFormat text = .ok q) {f : DateFormat} (hf : q.encoding = .date f) :
    f.segments ≠ [] := by
  obtain ⟨⟨e, he⟩, hread, rfl⟩ := map_eq_ok_iff.1 h
  cases hf
  unfold readEncoding at hread
  split at hread
  · split at hread
    · cases hread
    · rename_i hformat
      cases hread
      exact DateFormat.segments_ne_nil hformat hne
  · split at hread
    · cases hread
    · split at hread <;> cases hread

/-- **The pattern of a parameter is solid**, as it is made. -/
theorem Made.solid {p : Parameter} (h : p.Made) : p.fragment.solid = true := by
  refine p.solid_fragment fun f hf => ?_
  cases h with
  | plain name kind description => exact segments_of_standard hf
  | @read name e p hread =>
    obtain ⟨-, kind, -, q, hrange, hformat⟩ := ofEntry_eq_ok_iff.1 hread
    cases htext : formatText? e with
    | some text =>
      rw [htext] at hformat
      exact segments_of_withFormat (formatText?_eq_some_iff.1 htext).2 hformat hf
    | none =>
      rw [htext] at hformat
      cases hformat
      have hstandard : p.encoding = .standard kind := by
        cases ht : rangeText? e with
        | none =>
          rw [ht] at hrange
          cases hrange
          rfl
        | some text =>
          rw [ht] at hrange
          obtain ⟨r, hr, -, -, rfl⟩ := withRange_eq_ok hrange
          rfl
      exact segments_of_standard (hstandard.symm.trans hf)

end Parameter

/-! ## Registries of parameters as they are made -/

namespace Registry

theorem mem_of_mem_place {p q : Parameter} {ps : List Parameter} (h : q ∈ place p ps) :
    q = p ∨ q ∈ ps := by
  induction ps with
  | nil => exact .inl (List.mem_singleton.1 h)
  | cons d rest ih =>
    unfold place at h
    split at h
    · exact (List.mem_cons.1 h).imp_right (List.mem_cons_of_mem d)
    · split at h
      · exact List.mem_cons.1 h
      · rcases List.mem_cons.1 h with rfl | h
        · exact .inr List.mem_cons_self
        · exact (ih h).imp_right (List.mem_cons_of_mem d)

/-- A registry of parameters that have something in common has nothing else. -/
theorem all_ofList {P : Parameter → Prop} {ps : List Parameter} (h : ∀ p ∈ ps, P p) :
    ∀ q ∈ (ofList ps).parameters, P q := by
  suffices hfold : ∀ r : Registry, (∀ q ∈ r.parameters, P q) →
      ∀ q ∈ (ps.foldl insert r).parameters, P q from
    hfold empty fun q hq => absurd hq List.not_mem_nil
  induction ps with
  | nil => exact fun r hr => hr
  | cons p rest ih =>
    intro r hr
    refine ih (fun q hq => h q (List.mem_cons_of_mem p hq)) (r.insert p) fun q hq => ?_
    rcases mem_of_mem_place hq with rfl | hq
    · exact h q List.mem_cons_self
    · exact hr q hq

theorem made_standard : ∀ q ∈ standard.parameters, q.Made := by
  refine all_ofList fun q hq => ?_
  obtain ⟨k, -, rfl⟩ := List.mem_map.1 hq
  exact .plain k.name k _

end Registry

/-- A parameter that the templates of a profile may name is as it was made. -/
theorem Profile.made_of_means {s : Schema} {registry : Registry} {p : Profile}
    (hregistry : ∀ q ∈ registry.parameters, q.Made) (h : ofSchema s registry = .ok p)
    {q : Parameter} (hq : p.Means q) : q.Made := by
  obtain ⟨ps, cs, hps, -, -, rfl⟩ := ofSchema_eq_ok_iff.1 h
  rcases hq with hq | ⟨-, hq⟩
  · obtain ⟨entry, -, hread⟩ := exists_left_of_forall₂ (forall₂_of_readParameters hps) hq
    exact .read hread
  · exact hregistry q (List.mem_of_find?_eq_some hq)

/-! ## Filled templates -/

namespace Template

theorem parts_ne_nil {text : String} (h : text ≠ "") : (ofText text).parts ≠ [] := by
  intro hnil
  have htext := flatMap_partText_scan none text.toList
  rw [show scan none text.toList = [] from hnil] at htext
  exact h (String.toList_eq_nil_iff.1 htext.symm)

/-- Parts are not filled to nothing by texts that are not empty. -/
theorem filled_ne_nil {parts : List TemplatePart} {texts : List (List Char)} (hparts : parts ≠ [])
    (htexts : ∀ x ∈ texts, x ≠ []) : fillParts parts texts ≠ [] := by
  match parts, texts with
  | .literal c :: rest, texts => exact List.cons_ne_nil _ _
  | .hole name :: rest, x :: texts =>
    exact List.append_ne_nil_of_left_ne_nil (htexts x List.mem_cons_self) _
  | .hole name :: rest, [] => exact List.cons_ne_nil _ _

end Template

/-! ## Matches -/

/-- A match that takes some text, and `count` groups of which each takes part and takes some too. -/
structure Pattern.Found.Substantial (m : Found) (count : Nat) : Prop where
  text : m.first.textTo m.last ≠ []
  groups : ∀ i, 1 ≤ i → i ≤ count → ∃ x, m.group? i = some x ∧ x ≠ []

namespace Pattern.Found.Substantial

variable {m : Found} {count : Nat}

theorem isEmpty_eq_false (h : m.Substantial count) : m.isEmpty = false := by
  refine decide_eq_false fun hstill => h.text ?_
  rw [Place.textTo, hstill, Nat.sub_self, List.take_zero]

theorem groupTexts_ne_nil (h : m.Substantial count) : ∀ x ∈ m.groupTexts count, x ≠ [] := by
  intro x hx
  obtain ⟨i, hi, rfl⟩ := List.mem_map.1 hx
  obtain ⟨y, hy, hne⟩ := h.groups (i + 1) (Nat.le_add_left 1 i) (List.mem_range.1 hi)
  rwa [hy]

end Pattern.Found.Substantial

namespace Command

/-- **The matches of a form are substantial** if its template has parts and the patterns of its
parameters are solid. -/
theorem substantial_of_follows {parts : List TemplatePart} {ps : List Parameter}
    (hlen : Template.holes parts = ps.length) (hparts : parts ≠ [])
    (hps : ∀ p ∈ ps, p.fragment.solid = true) {m : Found} {p : Place} {gap : List Char}
    (h : m.Follows (formPattern parts ps) p gap) : m.Substantial ps.length := by
  obtain ⟨texts, rest, hspells, hr, hlast⟩ := (ways_formItems_iff hlen).1 (way_seqs_iff.1 h.way)
  have htexts : ∀ x ∈ texts, x ≠ [] := by
    intro x hx
    obtain ⟨q, hq, hx⟩ := exists_left_of_forall₂ hspells hx
    exact (Parameter.spells_iff.1 hx).ne_nil (hps q hq)
  have hgroups : m.last.groups = tagged 0 texts [] := by
    rw [hlast, h.first_eq]
    rfl
  refine ⟨?_, fun i hpos hle => ?_⟩
  · have htaken : m.first.textTo m.last = Template.fillParts parts texts := by
      rw [hlast, Place.textTo, hr]
      simp
    rw [htaken]
    exact Template.filled_ne_nil hparts htexts
  · obtain ⟨i, rfl⟩ := Nat.exists_eq_add_of_le' hpos
    rw [hspells.length_eq] at hle
    have hgroup := lookup_tagged (n := 0) (i := i) hle []
    rw [Nat.zero_add, ← hgroups] at hgroup
    exact ⟨texts[i], hgroup, htexts _ (List.getElem_mem hle)⟩

end Command

/-! ## Readings -/

/-- What the parameters of a form are given to read from a reply: for each match, a text for each
parameter. -/
def ReplyForm.readings (f : ReplyForm) (reply : String) : List (List (Parameter × String)) :=
  (f.expression.findAll reply).map fun m =>
    f.parameters.zip ((m.groupTexts f.parameters.length).map String.ofList)

/-- What a parameter reads from a text. -/
def Parameter.valueRead (reading : Parameter × String) : Except ParameterFault Value :=
  (reading.1.decode reading.2).map (·.value)

namespace Command

theorem decodeGroups_eq_mapM (ps : List Parameter) (texts : List (List Char)) :
    decodeGroups ps texts = (ps.zip (texts.map String.ofList)).mapM Parameter.valueRead := by
  induction ps generalizing texts with
  | nil => rfl
  | cons p ps ih =>
    cases texts with
    | nil => rfl
    | cons x texts =>
      simp only [decodeGroups, ih, List.map_cons, List.zip_cons_cons, List.mapM_cons,
        Parameter.valueRead]
      cases p.decode (String.ofList x) <;> rfl

/-- The rows of good replies are made of the readings, one by one, and of nothing else. -/
theorem goodRows_eq_mapM {c : Command} {f : ReplyForm} (hf : c.reply = some f) (reply : String) :
    c.goodRows reply = (f.readings reply).mapM (·.mapM Parameter.valueRead) := by
  simp only [goodRows, hf, ReplyForm.readings]
  generalize f.expression.findAll reply = ms
  induction ms with
  | nil => rfl
  | cons m ms ih => simp only [decodeMatches, decodeGroups_eq_mapM, ih, List.map_cons, List.mapM_cons]

/-! ## Forms that are read -/

/-- A form as it is read from a template that is not empty: the template has parts, there is a
parameter for each of its places, and the pattern is made of both. -/
structure Formed (f : ReplyForm) : Prop where
  parts : f.template.parts ≠ []
  holes : Template.holes f.template.parts = f.parameters.length
  pattern : f.expression.pattern = formPattern f.template.parts f.parameters

theorem formed_of_ofText {registry : Registry} {key text : String} {f : ReplyForm}
    (hne : text ≠ "") (h : ReplyForm.ofText registry key text = .ok f) : Formed f := by
  have hnames := (ofText_eq_ok h).length_eq
  obtain ⟨ps, hps, h⟩ := bind_eq_ok_iff.1 h
  rw [ofText?_replyPattern] at h
  cases h
  exact ⟨Template.parts_ne_nil hne, (Template.length_names _).symm.trans hnames, rfl⟩

/-- An empty template of replies counts as not given, so every form is one of a template with
text. -/
theorem formed_of_ofEntry {registry : Registry} {failure : Option String} {key : String}
    {e : CommandEntry} {c : Command} {f : ReplyForm} (h : ofEntry registry failure key e = .ok c)
    (hf : c.reply = some f) : Formed f := by
  obtain ⟨ps, reply, expression, -, hreply, -, rfl⟩ := ofEntry_eq_ok_iff.1 h
  obtain rfl : reply = some f := hf
  cases hgiven : given? e.response with
  | none =>
    rw [hgiven] at hreply
    cases hreply
  | some text =>
    rw [hgiven] at hreply
    obtain ⟨form, hform, heq⟩ := map_eq_ok_iff.1 hreply
    cases heq
    exact formed_of_ofText (given?_eq_some_iff.1 hgiven).2 hform

end Command

namespace Profile

variable {s : Schema} {registry : Registry} {p : Profile} {c : Command} {f : ReplyForm}

theorem formed_of_mem (h : ofSchema s registry = .ok p) (hc : c ∈ p.commands)
    (hf : c.reply = some f) : Command.Formed f := by
  obtain ⟨ps, cs, -, -, hcs, rfl⟩ := ofSchema_eq_ok_iff.1 h
  obtain ⟨entry, -, hread⟩ := exists_left_of_forall₂ (forall₂_of_readCommands hcs) hc
  exact Command.formed_of_ofEntry (readCommand_eq_ok hread).2 hf

theorem made_of_mem (hregistry : ∀ q ∈ registry.parameters, q.Made)
    (h : ofSchema s registry = .ok p) (hc : c ∈ p.commands) (hf : c.reply = some f) :
    ∀ q ∈ f.parameters, q.Made := by
  intro q hq
  obtain ⟨entry, -, -, -, -, -, hmeans⟩ :=
    exists_left_of_forall₂ (madeOf_of_ofSchema h).commands hc
  refine made_of_means hregistry h (hmeans q ?_)
  rwa [Command.results, hf]

end Profile

/-! ## Replies -/

/-- What there is to a form of good replies and a reply. -/
structure ReplyForm.Dense (f : ReplyForm) (reply : String) : Prop where
  groups : f.expression.pattern.groupCount = f.parameters.length
  substantial : ∀ m ∈ f.expression.findAll reply,
    m.Substantial f.expression.pattern.groupCount
  length_le : (f.expression.findAll reply).length ≤ reply.length
  readings : ∀ row ∈ f.readings reply,
    row.map (·.1) = f.parameters ∧ ∀ reading ∈ row, reading.2 ≠ ""

namespace Command

theorem dense_of_formed {f : ReplyForm} (hf : Formed f) (hmade : ∀ q ∈ f.parameters, q.Made)
    (reply : String) : f.Dense reply := by
  have hgroups : f.expression.pattern.groupCount = f.parameters.length := by
    rw [hf.pattern]
    exact groupCount_formPattern hf.holes
  have hmatches : ∀ m ∈ f.expression.findAll reply, m.Substantial f.parameters.length := by
    intro m hm
    obtain ⟨q, gap, hfollows⟩ := (succession_findAll _ _).exists_follows m hm
    rw [hf.pattern] at hfollows
    exact substantial_of_follows hf.holes hf.parts (fun q hq => (hmade q hq).solid) hfollows
  refine ⟨hgroups, by rwa [hgroups], ?_, fun row hrow => ?_⟩
  · rw [← String.length_toList]
    exact (succession_findAll _ _).length_le fun m hm => (hmatches m hm).isEmpty_eq_false
  · obtain ⟨m, hm, rfl⟩ := List.mem_map.1 hrow
    refine ⟨List.map_fst_zip (by simp [Found.groupTexts]), fun reading hreading => ?_⟩
    obtain ⟨x, hx, htext⟩ := List.mem_map.1 (List.of_mem_zip hreading).2
    rw [← htext]
    intro hempty
    exact (hmatches m hm).groupTexts_ne_nil x hx (String.ofList_eq_empty_iff.1 hempty)

end Command

/-- **Matches take some text, and so do their groups.**  Take any command of a profile that is read
from a schema with a registry of parameters as they are made, and any reply.  In each match of its form
there is some text, and in each of its groups, one for each parameter; so no parameter is given the
empty text to read, and rows are made of what parameters read alone.  There are no more rows than
characters, and none in an empty reply. -/
theorem matches_substantial {s : Schema} {registry : Registry} {p : Profile}
    (hregistry : ∀ q ∈ registry.parameters, q.Made) (h : Profile.ofSchema s registry = .ok p)
    {c : Command} (hc : c ∈ p.commands) (reply : String) :
    (∀ f, c.reply = some f → f.Dense reply ∧
      c.goodRows reply = (f.readings reply).mapM (·.mapM Parameter.valueRead)) ∧
    (∀ rows, c.goodRows reply = .ok rows → rows.length ≤ reply.length) ∧
    c.goodRows "" = .ok [] := by
  have hdense : ∀ f, c.reply = some f → ∀ reply, f.Dense reply := fun f hf =>
    Command.dense_of_formed (Profile.formed_of_mem h hc hf) (Profile.made_of_mem hregistry h hc hf)
  refine ⟨fun f hf => ⟨hdense f hf reply, Command.goodRows_eq_mapM hf reply⟩,
    fun rows hrows => ?_, ?_⟩
  · unfold Command.goodRows at hrows
    split at hrows
    · cases hrows
      exact Nat.zero_le _
    · rename_i f hf
      rw [Command.length_of_decodeMatches hrows]
      exact (hdense f hf reply).length_le
  · unfold Command.goodRows
    split
    · rfl
    · rename_i f hf
      have hnone : f.expression.findAll "" = [] :=
        List.eq_nil_of_length_eq_zero (Nat.le_zero.1 (hdense f hf "").length_le)
      rw [hnone]
      rfl

namespace Clock

/-- A clock with a log, of which an entry is a day and a number. -/
def schema : Schema where
  name := "clock"
  description := none
  connection := .rpc (.plain "localhost" 7800)
  failure := none
  marker := none
  parameters := [("day", ⟨none, "date", none, some "%tY-%tm-%td", none⟩)]
  commands := [("log", ⟨none, "LOG", some "(day) (int);", none, none⟩)]

end Clock

/-- Two entries of a log, with four texts to read. -/
theorem matches_substantial_clock :
    (∀ q ∈ Registry.standard.parameters, q.Made) ∧
    ∃ p c f, Profile.ofSchema Clock.schema .standard = .ok p ∧ c ∈ p.commands ∧ c.reply = some f ∧
      (f.readings "2024-02-29 7;2024-03-01 -8;").map (·.map (·.2)) =
        [["2024-02-29", "7"], ["2024-03-01", "-8"]] ∧
      f.Dense "2024-02-29 7;2024-03-01 -8;" ∧ c.goodRows "" = .ok [] := by
  have hread : (Profile.ofSchema Clock.schema .standard).map (fun p =>
      (p.command? "log").map fun c => c.reply.map fun f =>
        (f.readings "2024-02-29 7;2024-03-01 -8;").map (·.map (·.2))) =
      .ok (some (some [["2024-02-29", "7"], ["2024-03-01", "-8"]])) := by decide +kernel
  obtain ⟨p, hp, hread⟩ := map_eq_ok_iff.1 hread
  obtain ⟨c, hc, hread⟩ := Option.map_eq_some_iff.1 hread
  obtain ⟨f, hf, hreadings⟩ := Option.map_eq_some_iff.1 hread
  have hmem : c ∈ p.commands := List.mem_of_find?_eq_some hc
  obtain ⟨hform, -, hempty⟩ := matches_substantial Registry.made_standard hp hmem
    "2024-02-29 7;2024-03-01 -8;"
  exact ⟨Registry.made_standard, p, c, f, hp, hmem, hf, hreadings, (hform f hf).1, hempty⟩

end Instrument
