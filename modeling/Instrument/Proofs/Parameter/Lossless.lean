/-
# Formats that lose nothing

A value that is written is not always read back: a template may cut it, or say it in a notation that
nothing reads.  `Lossless` lists, kind by kind, the formats under which every value is read back,
whatever the flags and the width of the conversion are: an integer in decimal, a truth value or a word
in letters, each of them alone between blanks, and a character or a text in the standard format.

What is read back is the argument that was written, in the range of the parameter as before, since the
range is asked about the same value.  Only the empty text is written and not read back: no text spells
it.
-/
import Instrument.Proofs.Parameter.Legible
import Instrument.Proofs.WireFormat.Alone

namespace Instrument

open Number WireFormat

/-- The formats under which every value of a kind is read back as it was. -/
inductive Lossless : Kind → Encoding → Prop
  /-- An integer in decimal. -/
  | decimal {k : Kind} {f : WireFormat} {s : Spec} : k.isInteger = true →
      Alone s .decimal f.segments → Lossless k (.wire f)
  /-- An integer as it is shown. -/
  | integer {k : Kind} {f : WireFormat} {s : Spec} : k.isInteger = true → s.precision = none →
      Alone s (.text false) f.segments → Lossless k (.wire f)
  /-- A truth value in letters of either case. -/
  | boolean {f : WireFormat} {s : Spec} {upper : Bool} : s.precision = none →
      Alone s (.boolean upper) f.segments ∨ Alone s (.text upper) f.segments →
      Lossless .boolean (.wire f)
  /-- A word as it is. -/
  | word {f : WireFormat} {s : Spec} : s.precision = none → Alone s (.text false) f.segments →
      Lossless .token (.wire f)
  | char : Lossless .char (.standard .char)
  | text : Lossless .text (.standard .text)

namespace WireFormat

variable {v : Value} {s : Spec} {cs : List Char}

/-! ## What the conversions write -/

/-- **A decimal number without the blanks around it spells the integer**, however it is filled up. -/
theorem integerText_number (s : Spec) (n : Int) :
    IntegerText (Text.trim (number s (n < 0) [] (Digits.text n.natAbs))) n ∧
      ∃ c ∈ Text.trim (number s (n < 0) [] (Digits.text n.natAbs)), c.isDigit = true := by
  rw [trim_number s _ fun c hc => Text.isBlank_of_isDigit (isDigit_of_mem_text hc)]
  generalize zeroFill s _ = zeros
  have hdigits : ∀ c ∈ List.replicate zeros '0' ++ Digits.text n.natAbs, c.isDigit = true :=
    fun c hc => isDigit_of_mem_zeros hc
  have hvalue := value_zeros_text zeros n.natAbs
  constructor
  · rcases shownSign_cases s.flags (n < 0) with ⟨hneg, hsign⟩ | ⟨hneg, hsign | hsign⟩ <;> rw [hsign]
    · have hn : n < 0 := of_decide_eq_true hneg
      have htext := IntegerText.minus hdigits
      rwa [hvalue, show -(n.natAbs : Int) = n by omega] at htext
    · have hn : ¬ n < 0 := of_decide_eq_false hneg
      have htext := IntegerText.plus hdigits
      rwa [hvalue, show (n.natAbs : Int) = n by omega] at htext
    · have hn : ¬ n < 0 := of_decide_eq_false hneg
      have htext := IntegerText.plain hdigits
      rwa [hvalue, show (n.natAbs : Int) = n by omega] at htext
  · obtain ⟨c, rest, htext, hc⟩ := exists_text n.natAbs
    have hmem : c ∈ Digits.text n.natAbs := htext ▸ List.mem_cons_self
    exact ⟨c, List.mem_append_right _ (List.mem_append_right _ hmem), hc⟩

theorem cut_of_none (hs : s.precision = none) (cs : List Char) : cut s cs = cs :=
  cut_eq_self (by simp [hs])

/-- A value that is not cut is shown between blanks. -/
theorem trim_of_text (hs : s.precision = none) (hcs : convert? s (.text false) v = some cs) :
    Text.trim cs = Text.trim v.display.toList := by
  cases hcs
  rw [trim_fill, cut_of_none hs]
  rfl

/-- A truth value that is not cut is there, in letters of one case or the other. -/
theorem lowerAscii_of_boolean {k : Conversion} {b : Bool} (hs : s.precision = none)
    (hk : ∃ upper, k = .boolean upper ∨ k = .text upper)
    (hcs : convert? s k (.boolean b) = some cs) :
    Text.lowerAscii (Text.trim cs) = boolWord b := by
  have hdisplay : (Value.boolean b).display.toList = boolWord b := by cases b <;> rfl
  -- The words of both values, as they are and as either conversion puts them into upper case.
  have hwords : ∀ b : Bool, Text.lowerAscii (Text.trim (boolWord b)) = boolWord b ∧
      Text.lowerAscii (Text.trim ((boolWord b).map Char.toUpper)) = boolWord b ∧
      Text.lowerAscii (Text.trim (Text.upper (boolWord b))) = boolWord b := by decide
  obtain ⟨hplain, hupper, hfull⟩ := hwords b
  obtain ⟨upper, rfl | rfl⟩ := hk <;> cases hcs <;> rw [trim_fill]
  · rw [cut_of_none hs]
    cases upper with
    | false => exact hplain
    | true => exact hupper
  · rw [cut_of_none hs, hdisplay]
    cases upper with
    | false => exact hplain
    | true => exact hfull

end WireFormat

/-! ## Read back -/

/-- The standard format writes a text as it is. -/
theorem Parameter.wire_of_text {p : Parameter} {t wire : String}
    (he : p.encoding = .standard .text) (h : p.render (.text t) = .ok wire) : wire = t := by
  obtain ⟨cs, hcs, rfl⟩ := exists_of_render he h
  obtain ⟨mid, rest, hmid, hrest, rfl⟩ := applySegments_cons hcs
  cases hrest
  cases convert?_of_applySegment hmid
  simp [fill, cut, Value.display]

theorem Parameter.readValue?_of_text {p : Parameter} {t : String} (hk : p.kind = .text)
    (hne : t ≠ "") : p.readValue? t = some (.text t) := by
  unfold readValue?
  rw [if_neg hne, hk]

namespace Lossless

variable {p : Parameter} {v : Value} {a : Argument}

/-- **What is written without loss is read**, but for the empty text. -/
theorem readValue?_eq (h : Lossless p.kind p.encoding) (hencode : p.encode v = .ok a)
    (hne : v ≠ .text "") : p.readValue? a.wire = some v := by
  obtain ⟨hv, hword, hchecked⟩ := Parameter.encode_eq_ok hencode
  obtain ⟨-, hrender⟩ := Parameter.checked_eq_ok hchecked
  have hkind : ∀ {k}, p.kind = k → v.isOf k = true := fun hk => hk ▸ hv
  -- What the one conversion writes is what is left of the wire text when it is trimmed.
  have hwire : ∀ {f : WireFormat} {s : Spec} {k : Conversion}, p.encoding = .wire f →
      Alone s k f.segments →
      ∃ mid, convert? s k v = some mid ∧ Text.trim a.wire.toList = Text.trim mid := by
    intro f s k hf halone
    obtain ⟨cs, hcs, hwire⟩ := Parameter.exists_of_render hf hrender
    rw [hwire, String.toList_ofList]
    exact halone.exists_convert hcs
  generalize hk : p.kind = k at h
  generalize he : p.encoding = e at h
  cases h with
  | decimal hinteger halone =>
    obtain ⟨mid, hmid, htrim⟩ := hwire he halone
    rw [← hk] at hinteger
    obtain ⟨n, hn⟩ := Value.exists_asInt? hinteger hv
    rw [convert?, hn] at hmid
    cases hmid
    obtain ⟨htext, hdigit⟩ := integerText_number _ n
    rw [← htrim] at htext hdigit
    exact Parameter.readValue?_of_integerText hinteger hv hn htext hdigit
  | integer hinteger hs halone =>
    obtain ⟨mid, hmid, htrim⟩ := hwire he halone
    rw [← hk] at hinteger
    obtain ⟨n, hn⟩ := Value.exists_asInt? hinteger hv
    rw [trim_of_text hs hmid, display_of_asInt? hn] at htrim
    refine Parameter.readValue?_of_readInt? hinteger hv hn ?_
    rw [htrim, Parameter.readInt?_writeInteger (Value.has_of_asInt? hinteger hv hn)]
  | boolean hs halone =>
    have hof := hkind hk
    cases v <;> cases hof
    refine Parameter.readValue?_of_boolWord hk ?_
    rcases halone with halone | halone
    · obtain ⟨mid, hmid, htrim⟩ := hwire he halone
      rw [htrim]
      exact lowerAscii_of_boolean hs ⟨_, .inl rfl⟩ hmid
    · obtain ⟨mid, hmid, htrim⟩ := hwire he halone
      rw [htrim]
      exact lowerAscii_of_boolean hs ⟨_, .inr rfl⟩ hmid
  | word hs halone =>
    obtain ⟨t, rfl, hne, hblank⟩ := Parameter.word_of_checkWord hv hword hk
    obtain ⟨mid, hmid, htrim⟩ := hwire he halone
    rw [trim_of_text hs hmid, Value.display, Text.trim_eq_self hblank] at htrim
    exact Parameter.readValue?_of_isWord hk (by simpa [isWord, hne] using hblank) htrim
  | char =>
    have hstandard : p.encoding = .standard p.kind := by rw [he, hk]
    obtain ⟨-, hwrites, -⟩ := Parameter.decode_of_encode (hk ▸ rfl) hstandard hencode
    have hread := hwrites.readValue?_eq
    rwa [String.ofList_toList] at hread
  | text =>
    have hof := hkind hk
    cases v <;> cases hof
    rename_i t
    rw [Parameter.wire_of_text he hrender]
    exact Parameter.readValue?_of_text hk fun ht => hne (ht ▸ rfl)

end Lossless

/-- **A format that loses nothing gives back every value**: the wire text is decoded to the argument
that was encoded, in whatever range the parameter has.  Only the text that is empty is refused. -/
theorem decode_lossless {p : Parameter} {v : Value} {a : Argument}
    (h : Lossless p.kind p.encoding) (hencode : p.encode v = .ok a) :
    (v ≠ .text "" → p.decode a.wire = .ok a) ∧
      (v = .text "" → p.kind = .text ∧ p.decode a.wire = .error (.parse p.name "" .text)) := by
  obtain ⟨hv, hword, hchecked⟩ := Parameter.encode_eq_ok hencode
  constructor
  · intro hne
    have hread : p.readValue a.wire = .ok v := by
      rw [Parameter.readValue, h.readValue?_eq hencode hne]
    rw [Parameter.decode_of_readValue hread, hencode]
  · rintro rfl
    have hk : p.kind = .text := by
      generalize hk : p.kind = k at hv
      cases k <;> cases hv
      · rfl
      · obtain ⟨t, ht, hne, -⟩ := Parameter.word_of_checkWord (hk ▸ rfl) hword hk
        cases ht
        exact absurd rfl hne
    refine ⟨hk, ?_⟩
    rw [hk] at h
    generalize he : p.encoding = e at h
    cases h with
    | decimal hinteger | integer hinteger => cases hinteger
    | text =>
      rw [Parameter.wire_of_text he (Parameter.checked_eq_ok hchecked).2]
      simp [Parameter.decode, Parameter.readValue, Parameter.readValue?, Parameter.notValid, hk,
        bind, Except.bind]

namespace Thermostat

/-- A tab, a number with its sign and filled up with zeros, and the end of the line. -/
def template : WireFormat :=
  ⟨"\t%+08d%n", [.text ['\t'],
    .conversion ⟨{ Flags.none with plus := true, zero := true }, some 8, none⟩ .decimal,
    .text ['\n']]⟩

/-- What the thermostat is set to. -/
def target : Parameter := .templated .byte template rfl

end Thermostat

/-- The least byte, with zeros between the sign and the digits, and the text that is refused. -/
theorem decode_lossless_thermostat :
    let a : Argument := ⟨.byte (-128), "\t-0000128\n"⟩
    let note := Parameter.plain "note" .text none
    (Parameter.ofEntry "p" ⟨none, "byte", none, some "\t%+08d%n", none⟩ = .ok Thermostat.target ∧
      Lossless Thermostat.target.kind Thermostat.target.encoding ∧
      Thermostat.target.encode (.byte (-128)) = .ok a ∧
      Thermostat.target.decode "\t-0000128\n" = .ok a) ∧
    (Lossless note.kind note.encoding ∧ note.encode (.text "") = .ok ⟨.text "", ""⟩ ∧
      note.decode "" = .error (.parse "note" "" .text)) := by
  intro a note
  have halone : Alone _ .decimal Thermostat.template.segments :=
    @Alone.intro _ _ ['\t'] ['\n'] (by decide) (by decide)
  have hlossless : Lossless Thermostat.target.kind Thermostat.target.encoding :=
    .decimal rfl halone
  have hencode : Thermostat.target.encode (.byte (-128)) = .ok a := by rfl
  have hread : readPieces "\t%+08d%n" [] (['\t'] ++ '%' :: ['+', '0', '8', 'd', '%', 'n']) =
      .ok Thermostat.template.pieces := by
    rw [readPieces_append (by decide), readPieces_conversion rfl rfl, readPieces_spec rfl,
      if_neg (by decide), if_pos rfl, readPieces_nil]
    rfl
  have hnote : note.encode (.text "") = .ok ⟨.text "", ""⟩ := by rfl
  refine ⟨⟨?_, hlossless, hencode, (decode_lossless hlossless hencode).1 nofun⟩,
    .text, hnote, ((decode_lossless .text hnote).2 rfl).2⟩
  exact @Parameter.ofEntry_templated .byte Thermostat.template (map_eq_ok_iff.2 ⟨_, hread, rfl⟩)
    (by decide) rfl

end Instrument
