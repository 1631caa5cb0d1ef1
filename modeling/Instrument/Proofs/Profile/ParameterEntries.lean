/-
# Which entries of parameters are read

`ParameterEntry.Valid` says what the entry of a parameter must be like, without the readers of entries:
under its own name, of a kind that there is, with a range and a format that its kind takes.  What may
be left out is said with each part, and is another thing for each: a range may be blank, a format may
be empty.

Three facts about entries are proved, and the same three of every level above: what is read is valid
(`valid_of_ofEntry`), what is not read has the fault that is reported (`explains_of_ofEntry`), and
what has a fault is not valid (`EntryFault.Explains.not_valid`).  Together they say that the valid
entries are just those that are read.
-/
import Instrument.Proofs.Profile.Reload
import Instrument.Proofs.Text.Blank

namespace Instrument

/-! ## Valid entries -/

/-- A text names a kind; the case of its letters and blanks around it do not count. -/
def Kind.IsNamed (k : Kind) (text : String) : Prop :=
  Text.lowerAscii (Text.trim text.toList) = k.name.toList

/-- A text is the range of a parameter: only numbers have an interval. -/
def Kind.TakesRange (k : Kind) (text : String) : Prop :=
  ∃ r, Range.read text = .ok r ∧ (r.isInterval = true → k.isNumeric = true)

/-- A text is the format of a parameter: dates have formats of their own. -/
inductive Kind.TakesFormat : Kind → String → Prop
  | date {text : String} {f : DateFormat} : DateFormat.read text = .ok f → TakesFormat .date text
  | wire {k : Kind} {text : String} {f : WireFormat} : k ≠ .date → WireFormat.read text = .ok f →
      (∀ spec c, .conversion spec c ∈ f.pieces → c.suits k = true) → TakesFormat k text

/-- A parameter's entry under its key.  A blank range and an empty format count as not given. -/
structure ParameterEntry.Valid (key : String) (e : ParameterEntry) : Prop where
  name : ∀ inner ∈ e.name, inner = key
  kind : ∃ k : Kind, k.IsNamed e.kind ∧
    (∀ text ∈ e.range, (∀ c ∈ text.toList, Text.isBlank c = true) ∨ k.TakesRange text) ∧
    ∀ text ∈ e.wireFormat, text = "" ∨ k.TakesFormat text

/-- A fault that a parameter's entry has. -/
inductive EntryFault.Explains (key : String) (e : ParameterEntry) : EntryFault → Prop
  | key {inner : String} : e.name = some inner → inner ≠ key → Explains key e (.key inner key)
  | kind : (∀ k : Kind, ¬ k.IsNamed e.kind) → Explains key e (.kind key e.kind)
  | range {text : String} {fault : RangeFault} : e.range = some text →
      (∃ c ∈ text.toList, Text.isBlank c = false) → Range.read text = .error fault →
      Explains key e (.range key fault)
  | interval {k : Kind} {text : String} {r : Range} : k.IsNamed e.kind → e.range = some text →
      (∃ c ∈ text.toList, Text.isBlank c = false) → Range.read text = .ok r →
      r.isInterval = true → k.isNumeric = false → Explains key e (.interval key)
  | wireFormat {k : Kind} {text : String} {fault : WireFormatFault} : k.IsNamed e.kind →
      e.wireFormat = some text → text ≠ "" → k ≠ .date → WireFormat.read text = .error fault →
      Explains key e (.wireFormat key fault)
  | conversion {k : Kind} {text : String} {f : WireFormat} {spec : Spec} {c : Conversion} :
      k.IsNamed e.kind → e.wireFormat = some text → text ≠ "" → k ≠ .date →
      WireFormat.read text = .ok f → .conversion spec c ∈ f.pieces → c.suits k = false →
      Explains key e (.wireFormat key (.incompatible c.letter k.name))
  | dateFormat {text : String} {fault : DateFormatFault} : Kind.IsNamed .date e.kind →
      e.wireFormat = some text → text ≠ "" → DateFormat.read text = .error fault →
      Explains key e (.dateFormat key fault)

namespace Kind

theorem ofName?_eq_some_iff {k : Kind} {text : String} :
    ofName? text = some k ↔ k.IsNamed text := by
  unfold ofName? IsNamed Text.lowerAscii
  constructor
  · intro h
    have hname := List.find?_some h
    exact (of_decide_eq_true hname).symm
  · intro h
    rw [h]
    cases k <;> decide

theorem isNamed_unique {k l : Kind} {text : String} (hk : k.IsNamed text) (hl : l.IsNamed text) :
    k = l :=
  Option.some.inj ((ofName?_eq_some_iff.2 hk).symm.trans (ofName?_eq_some_iff.2 hl))

end Kind

theorem WireFormat.unsuited?_eq_none_iff {f : WireFormat} {k : Kind} :
    f.unsuited? k = none ↔ ∀ spec c, .conversion spec c ∈ f.pieces → c.suits k = true := by
  unfold unsuited?
  rw [List.findSome?_eq_none_iff]
  constructor
  · intro h spec c hc
    simpa using h _ hc
  · intro h piece hpiece
    cases piece with
    | text cs => rfl
    | conversion spec c => simp [h spec c hpiece]

theorem WireFormat.exists_of_unsuited? {f : WireFormat} {k : Kind} {c : Conversion}
    (h : f.unsuited? k = some c) :
    ∃ spec, .conversion spec c ∈ f.pieces ∧ c.suits k = false := by
  obtain ⟨piece, hpiece, hc⟩ := List.exists_of_findSome?_eq_some h
  cases piece with
  | text cs => cases hc
  | conversion spec d =>
    dsimp only at hc
    split at hc
    · cases hc
    · rename_i hsuits
      cases hc
      exact ⟨spec, hpiece, by simpa using hsuits⟩

namespace Parameter

variable {key text : String} {e : ParameterEntry} {p q : Parameter} {fault : EntryFault}

/-! ### Ranges -/

theorem takesRange_of_withRange (h : p.withRange text = .ok q) :
    p.kind.TakesRange text ∧ q.name = p.name ∧ q.kind = p.kind := by
  obtain ⟨r, hr, -, hread, rfl⟩ := withRange_eq_ok h
  refine ⟨⟨r.range, hread, fun hinterval => ?_⟩, rfl, rfl⟩
  simpa [RangeClause.suits, hinterval] using hr

/-- Why a text is not the range of a parameter. -/
theorem fault_of_withRange (h : p.withRange text = .error fault) :
    (∃ f, Range.read text = .error f ∧ fault = .range p.name f) ∨
    ∃ r, Range.read text = .ok r ∧ r.isInterval = true ∧ p.kind.isNumeric = false ∧
      fault = .interval p.name := by
  have hread := map_eq_error_iff.1 h
  unfold readRange at hread
  split at hread
  · rename_i f hf
    cases hread
    exact .inl ⟨f, hf, rfl⟩
  · rename_i r hr
    dsimp only at hread
    split at hread
    · cases hread
    · rename_i hsuits
      cases hread
      simp only [RangeClause.suits, Bool.or_eq_true, Bool.not_eq_true', not_or,
        Bool.not_eq_false, Bool.not_eq_true] at hsuits
      exact .inr ⟨r, hr, hsuits.1, hsuits.2, rfl⟩

/-! ### Formats -/

theorem takesFormat_of_withFormat (h : p.withFormat text = .ok q) : p.kind.TakesFormat text := by
  obtain ⟨⟨f, hf⟩, hread, rfl⟩ := map_eq_ok_iff.1 h
  unfold readEncoding at hread
  split at hread
  · rename_i hdate
    split at hread
    · cases hread
    · rename_i format hformat
      exact hdate ▸ .date hformat
  · rename_i hdate
    split at hread
    · cases hread
    · rename_i format hformat
      split at hread
      · cases hread
      · rename_i hsuits
        exact .wire hdate hformat (WireFormat.unsuited?_eq_none_iff.1 hsuits)

/-- Why a text is not the format of a parameter. -/
theorem explains_of_withFormat (hkind : p.kind.IsNamed e.kind) (htext : e.wireFormat = some text)
    (hne : text ≠ "") (h : p.withFormat text = .error fault) : fault.Explains p.name e := by
  have hread := map_eq_error_iff.1 h
  unfold readEncoding at hread
  split at hread
  · rename_i hdate
    split at hread
    · rename_i f hf
      cases hread
      exact .dateFormat (hdate ▸ hkind) htext hne hf
    · cases hread
  · rename_i hdate
    split at hread
    · rename_i f hf
      cases hread
      exact .wireFormat hkind htext hne hdate hf
    · rename_i f hf
      split at hread
      · rename_i c hc
        cases hread
        obtain ⟨spec, hmem, hsuits⟩ := WireFormat.exists_of_unsuited? hc
        exact .conversion hkind htext hne hdate hf hmem hsuits
      · cases hread

/-! ### Entries -/

theorem rangeText?_eq_some_iff :
    rangeText? e = some text ↔ e.range = some text ∧ Text.IsSolid text.toList := by
  unfold rangeText?
  rw [Option.filter_eq_some_iff]
  refine and_congr_right fun _ => ?_
  constructor
  · intro h
    exact Text.isSolid_of_trim_ne_nil (by simpa using h)
  · intro h
    simpa using Text.trim_ne_nil h

theorem formatText?_eq_some_iff :
    formatText? e = some text ↔ e.wireFormat = some text ∧ text ≠ "" := by
  simp [formatText?, Option.filter_eq_some_iff]

/-- An entry that was read is valid. -/
theorem valid_of_ofEntry (h : ofEntry key e = .ok p) : e.Valid key := by
  obtain ⟨hname, kind, hkind, q, hrange, hformat⟩ := ofEntry_eq_ok_iff.1 h
  have hq : q.kind = kind ∧ ∀ text, rangeText? e = some text → kind.TakesRange text := by
    cases ht : rangeText? e with
    | none =>
      rw [ht] at hrange
      cases hrange
      exact ⟨rfl, nofun⟩
    | some text =>
      rw [ht] at hrange
      obtain ⟨htakes, -, hq⟩ := takesRange_of_withRange hrange
      exact ⟨hq, fun _ h => Option.some.inj h ▸ htakes⟩
  obtain ⟨rfl, htakesRange⟩ := hq
  refine ⟨hname, q.kind, Kind.ofName?_eq_some_iff.1 hkind, fun text htext => ?_,
    fun text htext => ?_⟩
  · rcases Text.isSolid_or_isBlank text.toList with hsolid | hblank
    · exact .inr (htakesRange text (rangeText?_eq_some_iff.2 ⟨htext, hsolid⟩))
    · exact .inl hblank
  · by_cases hne : text = ""
    · exact .inl hne
    · rw [formatText?_eq_some_iff.2 ⟨htext, hne⟩] at hformat
      exact .inr (takesFormat_of_withFormat hformat)

/-- How an entry is refused: for its name, for its type, or for a text in it that counts as given. -/
theorem ofEntry_eq_error_iff :
    ofEntry key e = .error fault ↔
      (∃ inner, e.name = some inner ∧ inner ≠ key ∧ fault = .key inner key) ∨
      (∀ inner ∈ e.name, inner = key) ∧
        (Kind.ofName? e.kind = none ∧ fault = .kind key e.kind ∨
        ∃ kind, Kind.ofName? e.kind = some kind ∧
          (withOption withRange (rangeText? e) (plain key kind e.description) = .error fault ∨
          ∃ q, withOption withRange (rangeText? e) (plain key kind e.description) = .ok q ∧
            withOption withFormat (formatText? e) q = .error fault)) := by
  obtain ⟨own, kindText, range, wireFormat, description⟩ := e
  unfold ofEntry
  cases own with
  | none =>
    cases hk : Kind.ofName? kindText with
    | none => simp [throw, throwThe, MonadExceptOf.throw, eq_comm]
    | some kind => simp [bind_eq_error_iff]
  | some inner =>
    by_cases hi : inner = key
    · cases hk : Kind.ofName? kindText with
      | none => simp [hi, throw, throwThe, MonadExceptOf.throw, eq_comm]
      | some kind => simp [hi, bind_eq_error_iff]
    · simp [hi, Ne.symm hi, bind, Except.bind, throw, throwThe, MonadExceptOf.throw, eq_comm]

/-- An entry that was not read has the fault that is reported. -/
theorem explains_of_ofEntry (h : ofEntry key e = .error fault) : fault.Explains key e := by
  rcases ofEntry_eq_error_iff.1 h with ⟨inner, hinner, hne, rfl⟩ | ⟨-, h⟩
  · exact .key hinner hne
  rcases h with ⟨hkind, rfl⟩ | ⟨kind, hkind, h⟩
  · refine .kind fun k hk => ?_
    rw [Kind.ofName?_eq_some_iff.2 hk] at hkind
    cases hkind
  have hnamed := Kind.ofName?_eq_some_iff.1 hkind
  rcases h with hrange | ⟨q, hrange, hformat⟩
  · cases ht : rangeText? e with
    | none =>
      rw [ht] at hrange
      cases hrange
    | some text =>
      rw [ht] at hrange
      obtain ⟨htext, hsolid⟩ := rangeText?_eq_some_iff.1 ht
      rcases fault_of_withRange hrange with ⟨f, hf, rfl⟩ | ⟨r, hr, hinterval, hnumeric, rfl⟩
      · exact .range htext hsolid hf
      · exact .interval hnamed htext hsolid hr hinterval hnumeric
  · have hq : q.name = key ∧ q.kind = kind := by
      cases ht : rangeText? e with
      | none =>
        rw [ht] at hrange
        cases hrange
        exact ⟨rfl, rfl⟩
      | some text =>
        rw [ht] at hrange
        exact (takesRange_of_withRange hrange).2
    obtain ⟨rfl, rfl⟩ := hq
    cases ht : formatText? e with
    | none =>
      rw [ht] at hformat
      cases hformat
    | some text =>
      rw [ht] at hformat
      obtain ⟨htext, hne⟩ := formatText?_eq_some_iff.1 ht
      exact explains_of_withFormat hnamed htext hne hformat

end Parameter

/-- An entry with a fault is not valid. -/
theorem EntryFault.Explains.not_valid {key : String} {e : ParameterEntry} {fault : EntryFault}
    (h : fault.Explains key e) : ¬ e.Valid key := by
  rintro ⟨hname, k, hk, hrange, hformat⟩
  -- The text of a range or a format is taken by the kind that the entry names.
  have htakesRange : ∀ text, e.range = some text → (∃ c ∈ text.toList, Text.isBlank c = false) →
      k.TakesRange text := by
    rintro text htext ⟨c, hc, hblank⟩
    refine (hrange text htext).resolve_left fun hall => ?_
    rw [hall c hc] at hblank
    cases hblank
  have htakesFormat : ∀ text, e.wireFormat = some text → text ≠ "" → k.TakesFormat text :=
    fun text htext hne => (hformat text htext).resolve_left hne
  cases h with
  | key hinner hne => exact hne (hname _ hinner)
  | kind hnone => exact hnone k hk
  | range htext hsolid hread =>
    obtain ⟨r, hr, -⟩ := htakesRange _ htext hsolid
    rw [hread] at hr
    cases hr
  | interval hl htext hsolid hread hinterval hnumeric =>
    obtain ⟨r, hr, hsuits⟩ := htakesRange _ htext hsolid
    rw [hread] at hr
    cases hr
    rw [← Kind.isNamed_unique hk hl, hsuits hinterval] at hnumeric
    cases hnumeric
  | wireFormat hl htext hne hdate hread =>
    obtain rfl := Kind.isNamed_unique hk hl
    cases htakesFormat _ htext hne with
    | date => exact hdate rfl
    | wire _ hread' _ =>
      rw [hread] at hread'
      cases hread'
  | conversion hl htext hne hdate hread hmem hsuits =>
    obtain rfl := Kind.isNamed_unique hk hl
    cases htakesFormat _ htext hne with
    | date => exact hdate rfl
    | wire _ hread' hall =>
      rw [hread] at hread'
      cases hread'
      rw [hall _ _ hmem] at hsuits
      cases hsuits
  | dateFormat hl htext hne hread =>
    obtain rfl := Kind.isNamed_unique hk hl
    cases htakesFormat _ htext hne with
    | date hread' =>
      rw [hread] at hread'
      cases hread'
    | wire hdate _ _ => exact hdate rfl

end Instrument
