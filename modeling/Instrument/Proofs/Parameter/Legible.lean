/-
# Templates that can be read back

A template says how a value is written, and nothing reads it when the text comes back: a text is read
by the type of its parameter alone.  So a template can spell another value than the one it was given,
in hexadecimal, with a digit of its own in front, or with the end cut off (`value_misread`).

`WireFormat.Legible` lists the templates, type by type, under which that does not happen to a value.
Under some the value is there to be read, and under the others the text is one that is never read:
then there is nothing to be mistaken for.
-/
import Instrument.Proofs.Parameter.Reading
import Instrument.Proofs.Parameter.RoundTrip
import Instrument.Proofs.Profile.Reload
import Instrument.Proofs.WireFormat.Written

namespace Instrument

open Number

/-! ## Legible templates -/

namespace Kind

/-- Characters that end the text of a value of the kind, and are not blanks around it: a text that
goes on behind one is no value. -/
def splits (k : Kind) (c : Char) : Bool :=
  match k with
  | .byte | .int | .long => !c.isDigit
  | .token => Text.isBlank c
  | _ => false

/-- Characters that are no blanks and stand in no text of a value of the kind. -/
def excludes (k : Kind) (c : Char) : Bool :=
  !Text.isBlank c && match k with
    | .byte | .int | .long => !c.isDigit && c ≠ '+' && c ≠ '-'
    | .boolean => c.toLower ∉ "truefalse".toList
    | _ => false

theorem of_splits {k : Kind} {c : Char} (h : k.splits c = true) :
    k.isInteger = true ∧ c.isDigit = false ∨ k = .token ∧ Text.isBlank c = true := by
  cases k <;> simp_all [splits, isInteger]

theorem of_excludes {k : Kind} {c : Char} (h : k.excludes c = true) :
    Text.isBlank c = false ∧
      (k.isInteger = true ∧ c.isDigit = false ∧ c ≠ '+' ∧ c ≠ '-' ∨
        k = .boolean ∧ c.toLower ∉ "truefalse".toList) := by
  cases k <;> simp_all [excludes, isInteger]

end Kind

namespace WireFormat

/-- **The templates under which a value of a kind is read back as it is**, or not at all. -/
inductive Legible : Kind → Value → List Segment → Prop
  /-- An integer that is shown; what stands in front is no minus sign and no digit but zero, and
  what stands behind is no digit. -/
  | integer {kind : Kind} {v : Value} {before after : List Char} {s : Spec} {k : Conversion} :
      kind.isInteger = true → k.Shows s v →
      (∀ c ∈ before, c ≠ '-' ∧ (c.isDigit = true → c = '0')) →
      (∀ c ∈ after, c.isDigit = false) →
      Legible kind v (before.map .literal ++ .conversion s k :: after.map .literal)
  /-- A word that is shown between blanks. -/
  | word {v : Value} {before after : List Char} {s : Spec} {k : Conversion} : k.Shows s v →
      (∀ c ∈ before, Text.isBlank c = true) → (∀ c ∈ after, Text.isBlank c = true) →
      Legible .token v (before.map .literal ++ .conversion s k :: after.map .literal)
  /-- A text that is shown alone, and is not filled up. -/
  | text {v : Value} {s : Spec} {k : Conversion} : k.Shows s v →
      s.width.getD 0 ≤ v.display.toList.length → Legible .text v [.conversion s k]
  /-- A character that is not cut to nothing and that upper case leaves as it is. -/
  | char {v : Value} {segments : List Segment} {s : Spec} {k : Conversion} :
      .conversion s k ∈ segments → k.limit? s ≠ some 0 → k.Leaves v → Legible .char v segments
  /-- A truth value that is not cut to nothing. -/
  | boolean {v : Value} {segments : List Segment} {s : Spec} {k : Conversion} :
      .conversion s k ∈ segments → k.limit? s ≠ some 0 → Legible .boolean v segments
  /-- A character that ends the text of a value, between two parts that are not blank. -/
  | split {kind : Kind} {v : Value} {before after : List Segment} {c : Char} :
      kind.splits c = true → (∃ x ∈ before, x.Solid v) → (∃ x ∈ after, x.Solid v) →
      Legible kind v (before ++ .literal c :: after)
  /-- A character that stands in no text of a value. -/
  | foreign {kind : Kind} {v : Value} {segments : List Segment} {c : Char} :
      kind.excludes c = true → .literal c ∈ segments → Legible kind v segments
  /-- An integer in hexadecimal, with the mark of the base or with a letter for a digit. -/
  | hexadecimal {kind : Kind} {v : Value} {segments : List Segment} {s : Spec} {upper : Bool} :
      kind.isInteger = true → .conversion s (.hexadecimal upper) ∈ segments →
      (s.flags.alternate = true ∨
        ∃ n, word? v = some n ∧ ∃ c ∈ hexDigits upper n, c.isDigit = false) →
      Legible kind v segments
  /-- Two characters for one. -/
  | pair {v : Value} {before after : List Segment} {c d : Char} : .literal c ∈ before →
      .literal d ∈ after → Legible .char v (before ++ after)

end WireFormat

/-- A text that is written by a template. -/
theorem Parameter.exists_of_render {p : Parameter} {f : WireFormat} {v : Value} {wire : String}
    (hf : p.encoding = .wire f) (h : p.render v = .ok wire) :
    ∃ cs, WireFormat.applySegments v f.segments = .ok cs ∧ wire = String.ofList cs := by
  unfold render at h
  rw [hf] at h
  simp only at h
  split at h
  · rename_i happly
    cases h
    rw [WireFormat.apply_eq] at happly
    obtain ⟨cs, hcs, rfl⟩ := map_eq_ok_iff.1 happly
    exact ⟨cs, hcs, rfl⟩
  · cases h

/-- Integers and words do not begin with a blank. -/
theorem Parameter.exists_first {p : Parameter} {v : Value} {c : Char}
    (hk : p.kind.splits c = true) (hv : v.isOf p.kind = true) (hword : p.checkWord v = .ok ()) :
    ((∃ n, v.asInt? = some n) ∨ ∃ s, v = .text s) ∧
      ∃ d rest, v.display.toList = d :: rest ∧ Text.isBlank d = false := by
  have hcons : ∀ cs : List Char, cs ≠ [] → (∀ d ∈ cs, Text.isBlank d = false) →
      ∃ d rest, cs = d :: rest ∧ Text.isBlank d = false := by
    intro cs hne hblank
    obtain ⟨d, rest, rfl⟩ := List.exists_cons_of_ne_nil hne
    exact ⟨d, rest, rfl, hblank d List.mem_cons_self⟩
  rcases Kind.of_splits hk with ⟨hinteger, -⟩ | ⟨htoken, -⟩
  · obtain ⟨n, hn⟩ := Value.exists_asInt? hinteger hv
    rw [WireFormat.display_of_asInt? hn]
    exact ⟨.inl ⟨n, hn⟩, hcons _ (writeInteger_ne_nil n) fun d hd => isBlank_of_mem_writeInteger hd⟩
  · obtain ⟨s, rfl, hne, hblank⟩ := word_of_checkWord hv hword htoken
    exact ⟨.inr ⟨s, rfl⟩, hcons _ (by rwa [ne_eq, String.toList_eq_nil_iff]) hblank⟩

/-! ## What is in the text -/

namespace Number

/-- Behind something that is not blank an integer has no sign. -/
theorem IntegerText.not_minus {cs ds : List Char} {n : Int}
    (h : IntegerText (Text.trim (cs ++ ds)) n) (hcs : Text.IsSolid cs) : '-' ∉ ds := by
  intro hmem
  obtain ⟨front, ⟨c, hc, -⟩, htrim⟩ := Text.exists_trim_append hcs ⟨'-', hmem, by decide⟩
  rw [htrim] at h
  have hdigit := h.isDigit_of_mem_append (List.ne_nil_of_mem hc) (Text.mem_trim hmem (by decide))
  cases hdigit

end Number

namespace WireFormat

variable {v : Value} {cs : List Char}

/-- An integer that is shown legibly is the one that is read. -/
theorem eq_of_shows {before after : List Char} {s : Spec} {k : Conversion} {n m : Int}
    (h : k.Shows s v) (hv : v.asInt? = some n)
    (hbefore : ∀ c ∈ before, c ≠ '-' ∧ (c.isDigit = true → c = '0'))
    (hafter : ∀ c ∈ after, c.isDigit = false)
    (hcs : applySegments v (before.map .literal ++ .conversion s k :: after.map .literal) = .ok cs)
    (hread : IntegerText (Text.trim cs) m) : m = n := by
  obtain ⟨mid, hmid, rfl⟩ := exists_of_between hcs
  have hcarries := carries_of_shows h hv hmid
  have hsolid : Text.IsSolid (before ++ mid) := by
    obtain ⟨c, hc, hblank⟩ := hcarries.isSolid
    exact ⟨c, List.mem_append_right _ hc, hblank⟩
  have hnot : '-' ∉ after := by
    rw [← List.append_assoc] at hread
    exact hread.not_minus hsolid
  refine hread.eq_of_carries (hcarries.between hbefore fun c hc => ⟨?_, hafter c hc⟩).trim
  rintro rfl
  exact hnot hc

/-- What stands between two parts that are not blank is kept when the text is trimmed, and it is not
in front then. -/
theorem exists_trim_of_split {before after : List Segment} {c : Char}
    (hv : (∃ n, v.asInt? = some n) ∨ ∃ s, v = .text s)
    (hfirst : ∃ c rest, v.display.toList = c :: rest ∧ Text.isBlank c = false)
    (hbefore : ∃ x ∈ before, x.Solid v) (hafter : ∃ x ∈ after, x.Solid v)
    (hcs : applySegments v (before ++ .literal c :: after) = .ok cs) :
    ∃ front back, front ≠ [] ∧ Text.trim cs = front ++ c :: back := by
  have hsolid : ∀ {segments : List Segment} {ds : List Char}, (∃ x ∈ segments, x.Solid v) →
      applySegments v segments = .ok ds → Text.IsSolid ds := by
    rintro segments ds ⟨x, hmem, hx⟩ hds
    obtain ⟨front, mid, back, hmid, rfl⟩ := exists_of_mem hds hmem
    obtain ⟨d, hd, hblank⟩ := isSolid_of_solid hv hfirst hx hmid
    exact ⟨d, by simp [hd], hblank⟩
  obtain ⟨front, rest, hfront, hrest, rfl⟩ := applySegments_append hcs
  obtain ⟨mid, back, hmid, hback, rfl⟩ := applySegments_cons hrest
  cases hmid
  obtain ⟨front', back', hne, htrim⟩ :=
    Text.exists_trim_around (hsolid hbefore hfront) (hsolid hafter hback) [c]
  exact ⟨front', back', hne, htrim⟩

/-- A literal is in the text. -/
theorem mem_of_literal {segments : List Segment} {c : Char} (h : .literal c ∈ segments)
    (hcs : applySegments v segments = .ok cs) : c ∈ cs := by
  obtain ⟨front, mid, back, hmid, rfl⟩ := exists_of_mem hcs h
  cases hmid
  simp

/-- A hexadecimal digit that is a letter stands in no integer. -/
theorem excludes_of_mem_hexDigits {k : Kind} (hk : k.isInteger = true) {upper : Bool} {n : Nat}
    {c : Char} (h : c ∈ hexDigits upper n) (hletter : c.isDigit = false) : k.excludes c = true := by
  have hdigits : ∀ d < 16, k.excludes d.digitChar = !d.digitChar.isDigit ∧
      k.excludes d.digitChar.toUpper = !d.digitChar.toUpper.isDigit := by
    cases k <;> cases hk <;> decide
  unfold hexDigits at h
  cases upper with
  | false =>
    obtain ⟨d, hd, rfl⟩ := exists_of_mem_toDigits (by decide) h
    rw [(hdigits d hd).1, hletter]
    rfl
  | true =>
    obtain ⟨e, he, rfl⟩ := List.mem_map.1 h
    obtain ⟨d, hd, rfl⟩ := exists_of_mem_toDigits (by decide) he
    rw [(hdigits d hd).2, hletter]
    rfl

/-- The mark of the base, or a letter for a digit, is in the text. -/
theorem exists_mem_of_hexadecimal {k : Kind} (hk : k.isInteger = true) {segments : List Segment}
    {s : Spec} {upper : Bool} (h : .conversion s (.hexadecimal upper) ∈ segments)
    (hmarked : s.flags.alternate = true ∨
      ∃ n, word? v = some n ∧ ∃ c ∈ hexDigits upper n, c.isDigit = false)
    (hcs : applySegments v segments = .ok cs) : ∃ c ∈ cs, k.excludes c = true := by
  obtain ⟨front, mid, back, hmid, rfl⟩ := exists_of_mem hcs h
  obtain ⟨n, hn, rfl⟩ := Option.map_eq_some_iff.1 (convert?_of_applySegment hmid)
  rcases hmarked with halternate | ⟨m, hm, c, hc, hletter⟩
  · have hmark : k.excludes (if upper then 'X' else 'x') = true := by
      cases k <;> cases hk <;> cases upper <;> decide
    rw [if_pos halternate]
    refine ⟨_, ?_, hmark⟩
    exact List.mem_append_right _ (List.mem_append_left _ (mem_number_of_mem_mark (by simp)))
  · obtain rfl : n = m := Option.some.inj (hn.symm.trans hm)
    refine ⟨c, ?_, excludes_of_mem_hexDigits hk hc hletter⟩
    exact List.mem_append_right _ (List.mem_append_left _ (mem_number hc))

/-- A character that is not cut to nothing is in the text. -/
theorem mem_of_char {segments : List Segment} {s : Spec} {k : Conversion} {c : Char}
    (h : .conversion s k ∈ segments) (hlimit : k.limit? s ≠ some 0)
    (hleaves : k.Leaves (.char c)) (hcs : applySegments (.char c) segments = .ok cs) : c ∈ cs := by
  obtain ⟨front, mid, back, hmid, rfl⟩ := exists_of_mem hcs h
  have hconvert := convert?_of_applySegment hmid
  have hmem : c ∈ mid := by
    cases k with
    | decimal | hexadecimal upper | octal | fixed | scientific upper | general upper
    | boolean upper => cases hconvert
    | char =>
      cases hconvert
      exact mem_fill (List.mem_singleton.2 rfl)
    | text upper =>
      rw [convert?_text hleaves] at hconvert
      cases hconvert
      have hdisplay : (Value.char c).display.toList = [c] := String.toList_ofList
      rw [hdisplay]
      exact mem_fill (mem_cut hlimit c [])
  simp [hmem]

/-- The first letter of a truth value, in either case. -/
theorem exists_boolWord (b : Bool) : ∃ c rest, boolWord b = c :: rest ∧ c.toLower = c ∧
    c.toUpper.toLower = c ∧ Text.isBlank c = false ∧ Text.isBlank c.toUpper = false ∧
    Text.upperChar c = [c.toUpper] := by
  cases b with
  | true => exact ⟨'t', ['r', 'u', 'e'], by decide⟩
  | false => exact ⟨'f', ['a', 'l', 's', 'e'], by decide⟩

/-- The first letter of a truth value that is not cut to nothing is in the text. -/
theorem exists_mem_of_boolean {segments : List Segment} {s : Spec} {k : Conversion} {b : Bool}
    (h : .conversion s k ∈ segments) (hlimit : k.limit? s ≠ some 0)
    (hcs : applySegments (.boolean b) segments = .ok cs) :
    ∃ c ∈ cs, Text.isBlank c = false ∧ (boolWord b).head? = some c.toLower := by
  obtain ⟨front, mid, back, hmid, rfl⟩ := exists_of_mem hcs h
  have hconvert := convert?_of_applySegment hmid
  obtain ⟨c, rest, hword, hlower, hupper, hblank, hblank', hchar⟩ := exists_boolWord b
  have hdisplay : (Value.boolean b).display.toList = c :: rest := by
    rw [← hword]
    cases b <;> rfl
  have hmem : c ∈ mid ∨ c.toUpper ∈ mid := by
    cases k with
    | decimal | hexadecimal upper | octal | fixed | scientific upper | general upper | char =>
      cases hconvert
    | boolean upper =>
      cases hconvert
      cases upper with
      | false => exact .inl (mem_fill (hword ▸ mem_cut hlimit c rest))
      | true => exact .inr (mem_fill (hword ▸ mem_cut hlimit c.toUpper (rest.map Char.toUpper)))
    | text upper =>
      cases hconvert
      rw [hdisplay]
      have hcut := mem_cut hlimit c rest
      cases upper with
      | false => exact .inl (mem_fill hcut)
      | true =>
        refine .inr (mem_fill (List.mem_flatMap.2 ⟨c, hcut, ?_⟩))
        rw [hchar]
        exact List.mem_cons_self
  rw [hword]
  rcases hmem with hmem | hmem
  · exact ⟨c, by simp [hmem], hblank, congrArg some hlower.symm⟩
  · exact ⟨c.toUpper, by simp [hmem], hblank', congrArg some hupper.symm⟩

end WireFormat

/-! ## Case by case -/

namespace WireFormat

variable {p : Parameter} {v w : Value} {segments : List Segment} {cs : List Char}

theorem eq_of_integer {before after : List Char} {s : Spec} {k : Conversion}
    (hk : p.kind.isInteger = true) (hv : v.isOf p.kind = true) (hshows : k.Shows s v)
    (hbefore : ∀ c ∈ before, c ≠ '-' ∧ (c.isDigit = true → c = '0'))
    (hafter : ∀ c ∈ after, c.isDigit = false)
    (hcs : applySegments v (before.map .literal ++ .conversion s k :: after.map .literal) = .ok cs)
    (hread : p.readValue? (String.ofList cs) = some w) : w = v := by
  obtain ⟨n, hn⟩ := Value.exists_asInt? hk hv
  obtain ⟨m, hm, htext⟩ := Parameter.integer_of_readValue? hk hread
  rw [String.toList_ofList] at htext
  have heq : m = n := eq_of_shows hshows hn hbefore hafter hcs htext
  have hw : w.isOf p.kind = true := Parameter.isOf_of_readValue? hread
  exact Value.eq_of_asInt? hk hv hw (by rw [hm, hn, heq])

theorem eq_of_word {before after : List Char} {s : Spec} {k : Conversion}
    (hk : p.kind = .token) (hv : v.isOf p.kind = true) (hword : p.checkWord v = .ok ())
    (hshows : k.Shows s v) (hbefore : ∀ c ∈ before, Text.isBlank c = true)
    (hafter : ∀ c ∈ after, Text.isBlank c = true)
    (hcs : applySegments v (before.map .literal ++ .conversion s k :: after.map .literal) = .ok cs)
    (hread : p.readValue? (String.ofList cs) = some w) : w = v := by
  obtain ⟨t, rfl, -, hblank⟩ := Parameter.word_of_checkWord hv hword hk
  obtain ⟨mid, hmid, rfl⟩ := exists_of_between hcs
  have hdecimal : k ≠ .decimal := by
    rintro rfl
    cases hmid
  have hmid := exists_of_shows hshows hdecimal hmid
  rw [Value.display] at hmid
  obtain ⟨left, right, hleft, hright, hfill⟩ := exists_fill s t.toList
  have hspace : ∀ c : Char, c = ' ' → Text.isBlank c = true := by
    rintro c rfl
    decide
  have htrim : Text.trim (before ++ (mid ++ after)) = t.toList := calc
    Text.trim (before ++ (mid ++ after)) = Text.trim mid := Text.trim_between hbefore hafter mid
    _ = Text.trim (left ++ (t.toList ++ right)) := by rw [hmid, hfill]
    _ = Text.trim t.toList :=
      Text.trim_between (fun c hc => hspace c (hleft c hc)) (fun c hc => hspace c (hright c hc)) _
    _ = t.toList := Text.trim_eq_self hblank
  obtain ⟨rfl, -⟩ := Parameter.word_of_readValue? hk hread
  rw [String.toList_ofList, htrim, String.ofList_toList]

theorem eq_of_text {s : Spec} {k : Conversion} (hk : p.kind = .text) (hv : v.isOf p.kind = true)
    (hshows : k.Shows s v) (hwidth : s.width.getD 0 ≤ v.display.toList.length)
    (hcs : applySegments v [.conversion s k] = .ok cs)
    (hread : p.readValue? (String.ofList cs) = some w) : w = v := by
  rw [hk] at hv
  cases v <;> cases hv
  rename_i t
  obtain ⟨mid, rest, hmid, hrest, rfl⟩ := applySegments_cons hcs
  cases hrest
  have hconvert := convert?_of_applySegment hmid
  have hdecimal : k ≠ .decimal := by
    rintro rfl
    cases hconvert
  rw [exists_of_shows hshows hdecimal hconvert, List.append_nil, fill_eq_self hwidth] at hread
  rw [Parameter.text_of_readValue? hk hread, Value.display, String.ofList_toList]

theorem eq_of_char {s : Spec} {k : Conversion} (hk : p.kind = .char) (hv : v.isOf p.kind = true)
    (hmem : .conversion s k ∈ segments) (hlimit : k.limit? s ≠ some 0) (hleaves : k.Leaves v)
    (hcs : applySegments v segments = .ok cs)
    (hread : p.readValue? (String.ofList cs) = some w) : w = v := by
  rw [hk] at hv
  cases v <;> cases hv
  obtain ⟨d, rfl, hd⟩ := Parameter.char_of_readValue? hk hread
  rw [String.toList_ofList] at hd
  subst hd
  have hc := mem_of_char hmem hlimit hleaves hcs
  rw [List.mem_singleton.1 hc]

theorem eq_of_boolean {s : Spec} {k : Conversion} (hk : p.kind = .boolean)
    (hv : v.isOf p.kind = true) (hmem : .conversion s k ∈ segments) (hlimit : k.limit? s ≠ some 0)
    (hcs : applySegments v segments = .ok cs)
    (hread : p.readValue? (String.ofList cs) = some w) : w = v := by
  rw [hk] at hv
  cases v <;> cases hv
  rename_i b
  obtain ⟨b', rfl, htext⟩ := Parameter.boolean_of_readValue? hk hread
  obtain ⟨c, hc, hblank, hhead⟩ := exists_mem_of_boolean hmem hlimit hcs
  rw [String.toList_ofList] at htext
  have hlower : c.toLower ∈ boolWord b' := htext ▸ List.mem_map_of_mem (Text.mem_trim hc hblank)
  -- Neither of the two words has the first letter of the other.
  have hsame : ∀ b b' : Bool, ∀ c ∈ (boolWord b).head?, c ∈ boolWord b' → b' = b := by
    intro b b'
    cases b <;> cases b' <;> simp [boolWord]
  rw [hsame b b' _ hhead hlower]

/-- Nothing is read of a text that goes on behind its end. -/
theorem readValue?_of_split {before after : List Segment} {c : Char}
    (hc : p.kind.splits c = true) (hv : v.isOf p.kind = true) (hword : p.checkWord v = .ok ())
    (hbefore : ∃ x ∈ before, x.Solid v) (hafter : ∃ x ∈ after, x.Solid v)
    (hcs : applySegments v (before ++ .literal c :: after) = .ok cs) :
    p.readValue? (String.ofList cs) = none := by
  rw [Option.eq_none_iff_forall_not_mem]
  intro w hread
  obtain ⟨hplain, hfirst⟩ := Parameter.exists_first hc hv hword
  obtain ⟨front, back, hne, htrim⟩ := exists_trim_of_split hplain hfirst hbefore hafter hcs
  rcases Kind.of_splits hc with ⟨hk, hdigit⟩ | ⟨hk, hblank⟩
  · obtain ⟨m, -, htext⟩ := Parameter.integer_of_readValue? hk hread
    rw [String.toList_ofList, htrim] at htext
    rw [htext.isDigit_of_mem_append hne List.mem_cons_self] at hdigit
    cases hdigit
  · obtain ⟨-, hall⟩ := Parameter.word_of_readValue? hk hread
    rw [String.toList_ofList, htrim] at hall
    rw [hall c (List.mem_append_right _ List.mem_cons_self)] at hblank
    cases hblank

/-- Nothing is read of a text with a character that stands in no value. -/
theorem readValue?_of_foreign {c : Char} (hc : p.kind.excludes c = true) (hmem : c ∈ cs) :
    p.readValue? (String.ofList cs) = none := by
  rw [Option.eq_none_iff_forall_not_mem]
  intro w hread
  obtain ⟨hblank, hc⟩ := Kind.of_excludes hc
  have htrim : c ∈ Text.trim cs := Text.mem_trim hmem hblank
  rcases hc with ⟨hk, hdigit, hplus, hminus⟩ | ⟨hk, hletter⟩
  · obtain ⟨m, -, htext⟩ := Parameter.integer_of_readValue? hk hread
    rw [String.toList_ofList] at htext
    rcases htext.isDigit_or_sign htrim with h | h | h
    · rw [h] at hdigit
      cases hdigit
    · exact hplus h
    · exact hminus h
  · obtain ⟨b, -, htext⟩ := Parameter.boolean_of_readValue? hk hread
    rw [String.toList_ofList] at htext
    have hlower : c.toLower ∈ boolWord b := htext ▸ List.mem_map_of_mem htrim
    have hword : ∀ b : Bool, ∀ d ∈ boolWord b, d ∈ "truefalse".toList := by
      intro b
      cases b <;> simp [boolWord]
    exact hletter (hword b _ hlower)

/-- Nothing is read of two characters where there should be one. -/
theorem readValue?_of_pair {before after : List Segment} {c d : Char} (hk : p.kind = .char)
    (hbefore : .literal c ∈ before) (hafter : .literal d ∈ after)
    (hcs : applySegments v (before ++ after) = .ok cs) :
    p.readValue? (String.ofList cs) = none := by
  rw [Option.eq_none_iff_forall_not_mem]
  intro w hread
  obtain ⟨front, back, hfront, hback, rfl⟩ := applySegments_append hcs
  obtain ⟨e, -, he⟩ := Parameter.char_of_readValue? hk hread
  rw [String.toList_ofList] at he
  have hlength := congrArg List.length he
  have hleft := List.length_pos_of_mem (mem_of_literal hbefore hfront)
  have hright := List.length_pos_of_mem (mem_of_literal hafter hback)
  simp only [List.length_append, List.length_singleton] at hlength
  omega

/-- What is written legibly is read as it is. -/
theorem Legible.eq_of_readValue? (h : Legible p.kind v segments) (hv : v.isOf p.kind = true)
    (hword : p.checkWord v = .ok ()) (hcs : applySegments v segments = .ok cs)
    (hread : p.readValue? (String.ofList cs) = some w) : w = v := by
  generalize hkind : p.kind = kind at h
  cases h with
  | integer hk hshows hbefore hafter =>
    exact eq_of_integer (hkind ▸ hk) hv hshows hbefore hafter hcs hread
  | word hshows hbefore hafter => exact eq_of_word hkind hv hword hshows hbefore hafter hcs hread
  | text hshows hwidth => exact eq_of_text hkind hv hshows hwidth hcs hread
  | char hmem hlimit hleaves => exact eq_of_char hkind hv hmem hlimit hleaves hcs hread
  | boolean hmem hlimit => exact eq_of_boolean hkind hv hmem hlimit hcs hread
  | split hc hbefore hafter =>
    rw [readValue?_of_split (hkind ▸ hc) hv hword hbefore hafter hcs] at hread
    cases hread
  | foreign hc hmem =>
    rw [readValue?_of_foreign (hkind ▸ hc) (mem_of_literal hmem hcs)] at hread
    cases hread
  | hexadecimal hk hmem hmarked =>
    obtain ⟨c, hc, hforeign⟩ := exists_mem_of_hexadecimal hk hmem hmarked hcs
    rw [readValue?_of_foreign (hkind ▸ hforeign) hc] at hread
    cases hread
  | pair hbefore hafter =>
    rw [readValue?_of_pair hkind hbefore hafter hcs] at hread
    cases hread

end WireFormat

/-! ## Templates of parameters -/

/-- The parameter of a kind with a template. -/
def Parameter.templated (kind : Kind) (f : WireFormat) (h : (Encoding.wire f).suits kind = true) :
    Parameter :=
  { Parameter.plain "p" kind none with
    encoding := .wire f, format := some f.source, encoding_suits := h }

theorem Parameter.ofEntry_templated {kind : Kind} {f : WireFormat}
    (hread : WireFormat.read f.source = .ok f) (hne : f.source ≠ "")
    (h : (Encoding.wire f).suits kind = true) :
    ofEntry "p" ⟨none, kind.name, none, some f.source, none⟩ = .ok (templated kind f h) := by
  obtain ⟨hdate, hsuits⟩ := Bool.and_eq_true_iff.1 h
  have hencoding : readEncoding "p" kind f.source = .ok ⟨.wire f, h⟩ := by
    unfold readEncoding
    rw [dif_neg (by simpa using hdate), hread]
    simp only
    split
    · rename_i k hk
      rw [hk] at hsuits
      cases hsuits
    · rfl
  refine ofEntry_eq_ok_iff.2 ⟨by simp, kind, Kind.ofName?_name kind, plain "p" kind none, rfl, ?_⟩
  have hformat : formatText? ⟨none, kind.name, none, some f.source, none⟩ = some f.source := by
    simp [formatText?, hne]
  rw [hformat]
  exact map_eq_ok_iff.2 ⟨_, hencoding, rfl⟩

/-- **A template that is legible for a value does not corrupt it.**  If a value is written with it and
the text is read back, what is read is that value. -/
theorem value_restored {p : Parameter} {f : WireFormat} {v : Value} {a a' : Argument}
    (hf : p.encoding = .wire f) (hlegible : WireFormat.Legible p.kind v f.segments)
    (hencode : p.encode v = .ok a) (hdecode : p.decode a.wire = .ok a') : a'.value = v := by
  obtain ⟨hv, hword, hchecked⟩ := Parameter.encode_eq_ok hencode
  obtain ⟨-, hrender⟩ := Parameter.checked_eq_ok hchecked
  obtain ⟨cs, hcs, hwire⟩ := Parameter.exists_of_render hf hrender
  obtain ⟨w, hread, hchecked'⟩ := bind_eq_ok_iff.1 hdecode
  obtain ⟨rfl, -⟩ := Parameter.checked_eq_ok hchecked'
  rw [hwire] at hread
  exact hlegible.eq_of_readValue? hv hword hcs (Parameter.readValue_eq_ok_iff.1 hread)

namespace Gauge

/-- A plus sign and a zero, a number filled up with blanks behind it, and another blank. -/
def template : WireFormat :=
  ⟨" +0%-6d ", [.text [' ', '+', '0'],
    .conversion ⟨{ Flags.none with left := true }, some 6, none⟩ .decimal, .text [' ']]⟩

/-- What the gauge shows. -/
def level : Parameter := .templated .int template rfl

end Gauge

/-- A level with all that stands around it. -/
theorem value_restored_gauge :
    let a : Argument := ⟨.int 42, " +042     "⟩
    Parameter.ofEntry "p" ⟨none, "int", none, some " +0%-6d ", none⟩ = .ok Gauge.level ∧
      Gauge.level.encoding = .wire Gauge.template ∧
      WireFormat.Legible Gauge.level.kind (.int 42) Gauge.template.segments ∧
      Gauge.level.encode (.int 42) = .ok a ∧ Gauge.level.decode " +042     " = .ok a ∧
      a.value = .int 42 := by
  intro a
  have hread : WireFormat.readPieces " +0%-6d " []
      ([' ', '+', '0'] ++ '%' :: ['-', '6', 'd', ' ']) = .ok Gauge.template.pieces :=
    WireFormat.readPieces_between (show '%' ∉ [' ', '+', '0'] by decide)
      (show '%' ∉ [' '] by decide) rfl rfl
  have hlegible : WireFormat.Legible .int (.int 42) Gauge.template.segments :=
    @WireFormat.Legible.integer _ _ [' ', '+', '0'] [' '] _ _ rfl
      ⟨.inl rfl, by simp [Conversion.limit?], nofun⟩ (by simp) (by simp)
  have hencode : Gauge.level.encode (.int 42) = .ok a := by rfl
  have hdecode : Gauge.level.decode " +042     " = .ok a := by rfl
  refine ⟨?_, rfl, hlegible, hencode, hdecode, value_restored rfl hlegible hencode hdecode⟩
  exact @Parameter.ofEntry_templated .int Gauge.template (map_eq_ok_iff.2 ⟨_, hread, rfl⟩)
    (by decide) rfl

/-- A value is written under a template, read back, and is another then. -/
def Misread (kind : Kind) (template : String) (v : Value) : Prop :=
  ∃ p a a', Parameter.ofEntry "p" ⟨none, kind.name, none, some template, none⟩ = .ok p ∧
    p.encode v = .ok a ∧ p.decode a.wire = .ok a' ∧ a'.value ≠ v

theorem misread_of {kind : Kind} {v : Value} {a : Argument} (f : WireFormat) (a' : Argument)
    (hread : WireFormat.readPieces f.source [] f.source.toList = .ok f.pieces) (hne : f.source ≠ "")
    (h : (Encoding.wire f).suits kind = true)
    (hencode : (Parameter.templated kind f h).encode v = .ok a)
    (hdecode : (Parameter.templated kind f h).decode a.wire = .ok a')
    (hshown : a'.value.display ≠ v.display) : Misread kind f.source v := by
  have hread : WireFormat.read f.source = .ok f := map_eq_ok_iff.2 ⟨f.pieces, hread, rfl⟩
  exact ⟨_, a, a', Parameter.ofEntry_templated hread hne h, hencode, hdecode,
    fun hvalue => hshown (congrArg Value.display hvalue)⟩

/-- **Templates that corrupt values**: one that cuts the value, one that fills it up, two that
change its case, one that adds to it, one that cuts it to nothing and spells another, one that writes
it in another notation, two that add a digit or a sign, and one that writes it twice. -/
theorem value_misread :
    Misread .text "%.2s" (.text "abc") ∧ Misread .text "%4s" (.text "abc") ∧
    Misread .text "%S" (.text "abc") ∧ Misread .char "%S" (.char 'a') ∧
    Misread .token "x%s" (.text "abc") ∧ Misread .boolean "true%.0b" (.boolean false) ∧
    Misread .int "%x" (.int 16) ∧ Misread .int "1%d" (.int 5) ∧ Misread .int "-%d" (.int 5) ∧
    Misread .int "%d%d" (.int 5) := by
  have hread : ∀ {source : String} {s : Spec} {k : Conversion} {c : Char} {cs : List Char}
      (before : List Char), '%' ∉ before → WireFormat.readSpec cs = (s, [c]) →
      Conversion.ofLetter? c = some k → WireFormat.readPieces source [] (before ++ '%' :: cs) =
        .ok (WireFormat.flush before [.conversion s k]) :=
    fun before hbefore hspec hk =>
      WireFormat.readPieces_between hbefore List.not_mem_nil hspec hk
  have hdouble : WireFormat.readPieces "%d%d" [] ['%', 'd', '%', 'd'] =
      .ok [.conversion ⟨.none, none, none⟩ .decimal, .conversion ⟨.none, none, none⟩ .decimal] := by
    have hfirst : WireFormat.readSpec ['d', '%', 'd'] = (⟨.none, none, none⟩, ['d', '%', 'd']) := rfl
    have hsecond : WireFormat.readPieces "%d%d" [] ['%', 'd'] =
        .ok [.conversion ⟨.none, none, none⟩ .decimal] := hread [] List.not_mem_nil rfl rfl
    rw [WireFormat.readPieces_conversion hfirst rfl, hsecond]
    rfl
  refine ⟨?_, ?_, ?_, ?_, ?_, ?_, ?_, ?_, ?_, ?_⟩
  · exact misread_of ⟨"%.2s", [.conversion ⟨.none, none, some 2⟩ (.text false)]⟩
      ⟨.text "ab", "ab"⟩ (hread [] (by decide) rfl rfl) (by decide) rfl rfl rfl (by decide)
  · exact misread_of ⟨"%4s", [.conversion ⟨.none, some 4, none⟩ (.text false)]⟩
      ⟨.text " abc", " abc"⟩ (hread [] (by decide) rfl rfl) (by decide) rfl rfl rfl
      (by decide)
  · exact misread_of ⟨"%S", [.conversion ⟨.none, none, none⟩ (.text true)]⟩
      ⟨.text "ABC", "ABC"⟩ (hread [] (by decide) rfl rfl) (by decide) rfl rfl rfl
      (by decide)
  · exact misread_of ⟨"%S", [.conversion ⟨.none, none, none⟩ (.text true)]⟩
      ⟨.char 'A', "A"⟩ (hread [] (by decide) rfl rfl) (by decide) rfl rfl rfl (by decide)
  · exact misread_of
      ⟨"x%s", [.text ['x'], .conversion ⟨.none, none, none⟩ (.text false)]⟩
      ⟨.text "xabc", "xxabc"⟩ (hread ['x'] (by decide) rfl rfl) (by decide) rfl rfl rfl
      (by decide)
  · exact misread_of ⟨"true%.0b", [.text ['t', 'r', 'u', 'e'],
        .conversion ⟨.none, none, some 0⟩ (.boolean false)]⟩
      ⟨.boolean true, "true"⟩ (hread ['t', 'r', 'u', 'e'] (by decide) rfl rfl) (by decide)
      rfl rfl rfl (by decide)
  · exact misread_of ⟨"%x", [.conversion ⟨.none, none, none⟩ (.hexadecimal false)]⟩
      ⟨.int 10, "a"⟩ (hread [] (by decide) rfl rfl) (by decide) rfl rfl rfl (by decide)
  · exact misread_of ⟨"1%d", [.text ['1'], .conversion ⟨.none, none, none⟩ .decimal]⟩
      ⟨.int 15, "115"⟩ (hread ['1'] (by decide) rfl rfl) (by decide) rfl rfl rfl
      (by decide)
  · exact misread_of ⟨"-%d", [.text ['-'], .conversion ⟨.none, none, none⟩ .decimal]⟩
      ⟨.int (-5), "--5"⟩ (hread ['-'] (by decide) rfl rfl) (by decide) rfl rfl rfl
      (by decide)
  · exact misread_of ⟨"%d%d", [.conversion ⟨.none, none, none⟩ .decimal,
        .conversion ⟨.none, none, none⟩ .decimal]⟩
      ⟨.int 55, "5555"⟩ hdouble (by decide) rfl rfl rfl (by decide)

end Instrument
