/-
# Which entries of commands are read

`CommandEntry.Valid` says what the entry of a command must be like, given the names that its templates
may use; the facts about it are those about the entries of parameters.

A template of replies is always a pattern, whatever its parameters (`ofText?_replyPattern`), so
`CommandFault.reply` is never reported and nothing needs to be said of it.
-/
import Instrument.Proofs.Profile.Reload
import Instrument.Proofs.Reply.Form

namespace Instrument

/-! ## Valid entries -/

/-- A text is a pattern for replies. -/
def Pattern.Compiles (text : String) : Prop := ∃ a, Pattern.read .replies text.toList = .ok a

/-- A command's entry under its key, with the names that its templates may use.  An empty template
of replies has no names in it; an empty pattern counts as not given. -/
structure CommandEntry.Valid (known : String → Prop) (key : String) (e : CommandEntry) : Prop where
  name : ∀ inner ∈ e.name, inner = key
  arguments : ∀ name ∈ (Template.ofText e.template).names, known name
  results : ∀ text ∈ e.response, ∀ name ∈ (Template.ofText text).names, known name
  failure : ∀ text ∈ e.failure, text = "" ∨ Pattern.Compiles text

/-- A fault that a command's entry has. -/
inductive CommandFault.Explains (known : String → Prop) (key : String) (e : CommandEntry) :
    CommandFault → Prop
  | key {inner : String} : e.name = some inner → inner ≠ key → Explains known key e (.key inner key)
  | argument {name : String} : name ∈ (Template.ofText e.template).names → ¬ known name →
      Explains known key e (.unknownParameter name .argument key)
  | result {text name : String} : e.response = some text → name ∈ (Template.ofText text).names →
      ¬ known name → Explains known key e (.unknownParameter name .result key)
  | failure {text : String} : e.failure = some text → text ≠ "" → ¬ Pattern.Compiles text →
      Explains known key e (.failure key)

/-- An entry with a fault is not valid. -/
theorem CommandFault.Explains.not_valid {known : String → Prop} {key : String} {e : CommandEntry}
    {fault : CommandFault} (h : fault.Explains known key e) : ¬ e.Valid known key := by
  intro hvalid
  cases h with
  | key hinner hne => exact hne (hvalid.name _ hinner)
  | argument hname hunknown => exact hunknown (hvalid.arguments _ hname)
  | result htext hname hunknown => exact hunknown (hvalid.results _ htext _ hname)
  | failure htext hne hpattern => exact hpattern ((hvalid.failure _ htext).resolve_left hne)

theorem Expression.ofText?_isSome_iff {text : String} :
    (ofText? text).isSome = true ↔ Pattern.Compiles text := by
  unfold ofText? Pattern.Compiles
  cases Pattern.read .replies text.toList <;> simp

namespace Registry

/-- A registry has a parameter of a name. -/
def Has (r : Registry) (name : String) : Prop := ∃ p, r.get? name = some p

theorem name_of_get? {r : Registry} {name : String} {p : Parameter} (h : r.get? name = some p) :
    p.name = name := by
  have hname := List.find?_some h
  exact of_decide_eq_true hname

end Registry

namespace Command

variable {registry : Registry} {failure text : Option String} {key : String} {e : CommandEntry}
  {c : Command} {fault : CommandFault}

/-! ### Names in templates -/

/-- **Names are resolved** to the parameters that the registry has for them, in order. -/
theorem resolve_eq_ok {role : Role} {names : List String} {ps : List Parameter}
    (h : resolve registry key role names = .ok ps) :
    List.Forall₂ (fun name p => registry.get? name = some p) names ps := by
  induction names generalizing ps with
  | nil =>
    cases h
    exact .nil
  | cons name rest ih =>
    unfold resolve at h
    split at h
    · cases h
    · rename_i p hp
      obtain ⟨more, hmore, rfl⟩ := map_eq_ok_iff.1 h
      exact .cons hp (ih hmore)

theorem resolve_eq_error {role : Role} {names : List String}
    (h : resolve registry key role names = .error fault) :
    ∃ name ∈ names, ¬ registry.Has name ∧ fault = .unknownParameter name role key := by
  induction names with
  | nil => cases h
  | cons name rest ih =>
    unfold resolve at h
    split at h
    · rename_i hnone
      cases h
      refine ⟨name, List.mem_cons_self, ?_, rfl⟩
      rintro ⟨p, hp⟩
      rw [hnone] at hp
      cases hp
    · obtain ⟨other, hother, hunknown⟩ := ih (map_eq_error_iff.1 h)
      exact ⟨other, List.mem_cons_of_mem _ hother, hunknown⟩

/-- Names that were resolved are known. -/
theorem has_of_forall₂ {names : List String} {ps : List Parameter}
    (h : List.Forall₂ (fun name p => registry.get? name = some p) names ps) :
    ∀ name ∈ names, registry.Has name := by
  induction h with
  | nil => exact nofun
  | cons hp _ ih =>
    intro name hname
    rcases List.mem_cons.1 hname with rfl | hname
    · exact ⟨_, hp⟩
    · exact ih name hname

/-! ### The parts of an entry -/

theorem given?_eq_some_iff {t : String} : given? text = some t ↔ text = some t ∧ t ≠ "" := by
  simp [given?, Option.filter_eq_some_iff]

theorem names_empty : (Template.ofText "").names = [] := rfl

theorem ofText_eq_ok {t : String} {form : ReplyForm} (h : ReplyForm.ofText registry key t = .ok form) :
    List.Forall₂ (fun name p => registry.get? name = some p) (Template.ofText t).names
      form.parameters := by
  obtain ⟨ps, hps, h⟩ := bind_eq_ok_iff.1 h
  rw [ofText?_replyPattern] at h
  cases h
  exact resolve_eq_ok hps

/-- The parameters of a reply are those of the names in its template, of which an empty one, or
none, has none. -/
theorem results_of_forOption {response : Option String} {reply : Option ReplyForm}
    (h : forOption (ReplyForm.ofText registry key) (given? response) = .ok reply) :
    List.Forall₂ (fun name p => registry.get? name = some p)
      (Template.ofText (response.getD "")).names ((reply.map (·.parameters)).getD []) := by
  cases ht : given? response with
  | none =>
    rw [ht] at h
    cases h
    have hempty : response.getD "" = "" := by
      cases response with
      | none => rfl
      | some t => simpa [given?] using ht
    rw [hempty, names_empty]
    exact .nil
  | some t =>
    rw [ht] at h
    obtain ⟨form, hform, rfl⟩ := map_eq_ok_iff.1 h
    rw [(given?_eq_some_iff.1 ht).1]
    exact ofText_eq_ok hform

theorem fault_of_forOption {response : Option String}
    (h : forOption (ReplyForm.ofText registry key) (given? response) = .error fault) :
    ∃ t, response = some t ∧ ∃ name ∈ (Template.ofText t).names,
      ¬ registry.Has name ∧ fault = .unknownParameter name .result key := by
  cases ht : given? response with
  | none =>
    rw [ht] at h
    cases h
  | some t =>
    rw [ht] at h
    refine ⟨t, (given?_eq_some_iff.1 ht).1, ?_⟩
    rcases bind_eq_error_iff.1 (map_eq_error_iff.1 h) with hresolve | ⟨ps, -, hform⟩
    · exact resolve_eq_error hresolve
    · rw [ofText?_replyPattern] at hform
      cases hform

theorem readFailure_eq_ok_iff {t : String} :
    (∃ x, readFailure key t = .ok x) ↔ Pattern.Compiles t := by
  rw [← Expression.ofText?_isSome_iff]
  unfold readFailure
  cases Expression.ofText? t <;> simp

theorem readFailure_eq_error {t : String} (h : readFailure key t = .error fault) :
    ¬ Pattern.Compiles t ∧ fault = .failure key := by
  refine ⟨fun hpattern => ?_, ?_⟩
  · obtain ⟨x, hx⟩ := readFailure_eq_ok_iff.2 hpattern
    rw [hx] at h
    cases h
  · unfold readFailure at h
    split at h
    · cases h
    · cases h
      rfl

/-! ### Entries -/

/-- A command that was read has the name of its key, and its parameters are those that the registry
has for the names in its templates. -/
structure ReadFrom (registry : Registry) (key : String) (e : CommandEntry) (c : Command) : Prop where
  name : c.name = key
  parameters : List.Forall₂ (fun name p => registry.get? name = some p)
    (Template.ofText e.template).names c.parameters
  results : List.Forall₂ (fun name p => registry.get? name = some p)
    (Template.ofText (e.response.getD "")).names c.results

theorem readFrom_of_ofEntry (h : ofEntry registry failure key e = .ok c) :
    c.ReadFrom registry key e := by
  obtain ⟨ps, reply, expression, hps, hreply, -, rfl⟩ := ofEntry_eq_ok_iff.1 h
  exact ⟨rfl, resolve_eq_ok hps, results_of_forOption hreply⟩

end Command

namespace Profile

open Command

variable {registry : Registry} {failure : Option String} {key : String} {e : CommandEntry}
  {c : Command} {fault : CommandFault}

/-- A command's entry is read if it is under its own name. -/
theorem readCommand_eq_ok (h : readCommand registry failure key e = .ok c) :
    (∀ inner ∈ e.name, inner = key) ∧ Command.ofEntry registry failure key e = .ok c := by
  unfold readCommand at h
  cases hname : e.name with
  | none =>
    rw [hname] at h
    exact ⟨nofun, h⟩
  | some inner =>
    rw [hname] at h
    by_cases hi : inner = key
    · refine ⟨fun other hother => ?_, by simpa [hi] using h⟩
      exact (Option.some.inj hother).symm.trans hi
    · simp [hi, bind, Except.bind, throw, throwThe, MonadExceptOf.throw] at h

theorem readCommand_eq_error (h : readCommand registry failure key e = .error fault) :
    (∃ inner, e.name = some inner ∧ inner ≠ key ∧ fault = .key inner key) ∨
      Command.ofEntry registry failure key e = .error fault := by
  unfold readCommand at h
  cases hname : e.name with
  | none =>
    rw [hname] at h
    exact .inr h
  | some inner =>
    rw [hname] at h
    by_cases hi : inner = key
    · exact .inr (by simpa [hi] using h)
    · refine .inl ⟨inner, rfl, hi, ?_⟩
      simpa [hi, bind, Except.bind, throw, throwThe, MonadExceptOf.throw, eq_comm] using h

/-- An entry that was read is valid. -/
theorem valid_of_readCommand (h : readCommand registry failure key e = .ok c) :
    e.Valid registry.Has key := by
  obtain ⟨hname, hread⟩ := readCommand_eq_ok h
  have hfrom := readFrom_of_ofEntry hread
  obtain ⟨ps, reply, expression, -, -, hfailure, -⟩ := ofEntry_eq_ok_iff.1 hread
  refine ⟨hname, has_of_forall₂ hfrom.parameters, fun text htext => ?_, fun text htext => ?_⟩
  · have hresults := has_of_forall₂ hfrom.results
    rwa [show e.response = some text from htext] at hresults
  · by_cases hne : text = ""
    · exact .inl hne
    · rw [given?_eq_some_iff.2 ⟨htext, hne⟩] at hfailure
      obtain ⟨x, hx, -⟩ := map_eq_ok_iff.1 hfailure
      exact .inr (readFailure_eq_ok_iff.1 ⟨x, hx⟩)

/-- An entry that was not read has the fault that is reported, if the instrument's own pattern of bad
replies is one. -/
theorem explains_of_readCommand (hinstrument : ∀ t, given? failure = some t → Pattern.Compiles t)
    (h : readCommand registry failure key e = .error fault) :
    fault.Explains registry.Has key e := by
  rcases readCommand_eq_error h with ⟨inner, hinner, hne, rfl⟩ | h
  · exact .key hinner hne
  rcases bind_eq_error_iff.1 h with hresolve | ⟨ps, -, h⟩
  · obtain ⟨name, hname, hunknown, rfl⟩ := resolve_eq_error hresolve
    exact .argument hname hunknown
  rcases bind_eq_error_iff.1 h with hreply | ⟨reply, -, h⟩
  · obtain ⟨text, htext, name, hname, hunknown, rfl⟩ := fault_of_forOption hreply
    exact .result htext hname hunknown
  rcases bind_eq_error_iff.1 h with hfailure | ⟨x, -, ⟨⟩⟩
  cases ht : given? e.failure with
  | some text =>
    rw [ht] at hfailure
    obtain ⟨htext, hne⟩ := given?_eq_some_iff.1 ht
    obtain ⟨hpattern, rfl⟩ := readFailure_eq_error (map_eq_error_iff.1 hfailure)
    exact .failure htext hne hpattern
  | none =>
    rw [ht, Option.none_or] at hfailure
    cases hg : given? failure with
    | none =>
      rw [hg] at hfailure
      cases hfailure
    | some text =>
      rw [hg] at hfailure
      exact absurd (hinstrument text hg) (readFailure_eq_error (map_eq_error_iff.1 hfailure)).1

end Profile

end Instrument
