/-
# Real numbers written and read

What the conversions `f e E g G` write for a number is a mantissa with an exponent or without one
(`magnitudeText_realBody`), however many places there are, and zeros in front of it leave it one.  So
whatever the flags and the width are, the text is a numeral and is read again.

What is no number is written as a word, and the width may be filled up with zeros in front of it as if
it were one.  No word has a zero in front, so such a text is not read (`ZeroFilled`).
-/
import Instrument.Proofs.Number.Positional
import Instrument.Proofs.Parameter.Legible
import Instrument.Proofs.WireFormat.Alone

namespace Instrument

open Number WireFormat

/-! ## Mantissas and exponents -/

namespace Number

/-- A mantissa with an exponent, which may be empty. -/
inductive MagnitudeText : List Char → Prop
  | intro {mantissa exponent : List Char} : MantissaText Char.isDigit mantissa →
      ExponentText Char.isDigit exponent → MagnitudeText (mantissa ++ exponent)

theorem MantissaText.magnitude {cs : List Char} (h : MantissaText Char.isDigit cs) :
    MagnitudeText cs := by
  simpa using MagnitudeText.intro h .none

theorem MagnitudeText.number {sign cs : List Char} (hsign : SignText sign) (h : MagnitudeText cs) :
    NumberText Char.isDigit (sign ++ cs) := by
  obtain ⟨hmantissa, hexponent⟩ := h
  exact .intro hsign hmantissa hexponent

/-- Zeros in front of a mantissa. -/
theorem MantissaText.zeros {cs : List Char} (zeros : Nat) (h : MantissaText Char.isDigit cs) :
    MantissaText Char.isDigit (List.replicate zeros '0' ++ cs) := by
  have hzeros : ∀ c ∈ List.replicate zeros '0', c.isDigit = true := fun c hc => by
    rw [List.eq_of_mem_replicate hc]
    rfl
  cases h with
  | whole h =>
    exact .whole ⟨List.append_ne_nil_of_right_ne_nil _ h.1,
      List.forall_mem_append.2 ⟨hzeros, h.2⟩⟩
  | point hds hes hne =>
    rw [← List.append_assoc]
    refine .point (List.forall_mem_append.2 ⟨hzeros, hds⟩) hes ?_
    rw [List.append_assoc]
    exact List.append_ne_nil_of_right_ne_nil _ hne

theorem MagnitudeText.zeros {cs : List Char} (zeros : Nat) (h : MagnitudeText cs) :
    MagnitudeText (List.replicate zeros '0' ++ cs) := by
  obtain ⟨hmantissa, hexponent⟩ := h
  rw [← List.append_assoc]
  exact .intro (hmantissa.zeros zeros) hexponent

end Number

namespace WireFormat

theorem magnitudeText_exponential (upper : Bool) (places : Nat) (x : Scientific) :
    MagnitudeText (exponential upper places x) := by
  have hsign : ∀ e : Int, SignText [if e < 0 then '-' else '+'] := by
    intro e
    split
    · exact .minus
    · exact .plus
  have hletter : (if upper then 'E' else 'e') = 'e' ∨ (if upper then 'E' else 'e') = 'E' := by
    cases upper <;> simp
  exact .intro (mantissaText_withPlaces places x.digits)
    (.some hletter (hsign x.exponent) (digitsText_padded 2 _))

/-- **The body of a number is a mantissa with an exponent**, whatever the conversion is. -/
theorem magnitudeText_realBody (s : Spec) (k : Conversion) (num den : Nat) :
    MagnitudeText (realBody s k num den) := by
  have hfixed : ∀ places, MagnitudeText (fixed places num den) :=
    fun places => (mantissaText_withPlaces places _).magnitude
  cases k with
  | scientific upper => exact magnitudeText_exponential upper _ _
  | general upper =>
    simp only [realBody, general]
    split
    · exact hfixed _
    · split
      · exact hfixed _
      · exact magnitudeText_exponential upper _ _
  | decimal | hexadecimal upper | octal | fixed | char | boolean upper | text upper =>
    exact hfixed _

/-! ## What is written is read -/

theorem signText_shownSign (f : Flags) (negative : Bool) : SignText (shownSign f negative) := by
  rcases shownSign_cases f negative with ⟨-, h⟩ | ⟨-, h | h⟩ <;> rw [h]
  · exact .minus
  · exact .plus
  · exact .none

/-- A number is read again, filled up with zeros or with blanks. -/
theorem numeralText_number (s : Spec) (negative : Bool) {body : List Char}
    (h : MagnitudeText body) : NumeralText (Text.trim (number s negative [] body)) := by
  have hbody : ∀ c ∈ body, Text.isBlank c = false := by
    intro c hc
    rcases (MagnitudeText.number .none h).digit_or_mark hc with h | h
    · exact Text.isBlank_of_isDigit h
    · exact isBlank_of_isNumberMark h
  rw [trim_number s negative hbody]
  exact .number ((h.zeros _).number (signText_shownSign s.flags negative))

/-- No word has a zero in front. -/
theorem not_numeralText_of_zero {cs : List Char} {c : Char} (hc : c ∈ cs)
    (hdigit : c.isDigit = false) (hmark : isNumberMark c = false) (hzero : '0' ∈ cs) :
    ¬ NumeralText cs := by
  rintro (⟨hsign, hword⟩ | hnumber)
  · rcases List.mem_append.1 hzero with hmem | hmem
    · have := hsign.isNumberMark hmem
      cases this
    · have hwords : ∀ w ∈ numeralWords, '0' ∉ w := by decide
      exact hwords _ hword (List.mem_map_of_mem (f := Char.toLower) hmem)
  · rcases hnumber.digit_or_mark hc with h | h
    · rw [hdigit] at h
      cases h
    · rw [hmark] at h
      cases h

/-- A word is read again unless it is filled up with zeros. -/
theorem numeralText_word_iff (s : Spec) (negative : Bool) (word : List Char) (c : Char)
    (hblank : ∀ c ∈ word, Text.isBlank c = false) (hword : Text.lowerAscii word ∈ numeralWords)
    (hc : c ∈ word) (hdigit : c.isDigit = false) (hmark : isNumberMark c = false) :
    NumeralText (Text.trim (number s negative [] word)) ↔
      zeroFill s ((sign s.flags negative).length + word.length) = 0 := by
  rw [trim_number s negative hblank]
  generalize zeroFill s _ = zeros
  cases zeros with
  | zero => exact iff_of_true (.word (signText_shownSign s.flags negative) hword) rfl
  | succ zeros =>
    refine iff_of_false (not_numeralText_of_zero (c := c) ?_ hdigit hmark ?_) (Nat.succ_ne_zero _)
    · simp [hc]
    · simp [List.replicate_succ]

/-- What is no number, under a specification that fills it up with zeros to its width. -/
inductive ZeroFilled (s : Spec) : Binary.Datum → Prop
  | nan : 0 < zeroFill s ((sign s.flags false).length + "NaN".length) → ZeroFilled s .nan
  | infinite {negative : Bool} :
      0 < zeroFill s ((sign s.flags negative).length + "Infinity".length) →
      ZeroFilled s (.infinite negative)

/-- **A datum is read again unless it is a word filled up with zeros.** -/
theorem numeralText_real_iff (s : Spec) (k : Conversion) (d : Binary.Datum) :
    NumeralText (Text.trim (real s k d)) ↔ ¬ ZeroFilled s d := by
  cases d with
  | nan =>
    have hword := numeralText_word_iff s false "NaN".toList 'N' (by decide) (by decide)
      (by decide) rfl rfl
    refine hword.trans ⟨?_, ?_⟩
    · rintro h (hpos | _)
      exact absurd h (Nat.ne_of_gt hpos)
    · exact fun h => Nat.eq_zero_of_not_pos fun hpos => h (.nan hpos)
  | infinite negative =>
    have hword := numeralText_word_iff s negative "Infinity".toList 'y' (by decide)
      (by decide) (by decide) rfl rfl
    refine hword.trans ⟨?_, ?_⟩
    · rintro h (_ | hpos)
      exact absurd h (Nat.ne_of_gt hpos)
    · exact fun h => Nat.eq_zero_of_not_pos fun hpos => h (.infinite hpos)
  | finite negative m q =>
    exact iff_of_true (numeralText_number s _ (magnitudeText_realBody s k _ _)) nofun

end WireFormat

/-! ## Parameters -/

/-- The conversions of real numbers. -/
def Conversion.isReal : Conversion → Bool
  | .fixed | .scientific _ | .general _ => true
  | _ => false

theorem WireFormat.convert?_of_isReal {s : Spec} {k : Conversion} {v : Value}
    (hk : k.isReal = true) : convert? s k v = (datum? v).map (real s k) := by
  cases k with
  | fixed | scientific upper | general upper => rfl
  | decimal | hexadecimal upper | octal | char | boolean upper | text upper => cases hk

/-- **A real number that was written is read again**, if it is a number or no zeros are written in
front of the word for what is none. -/
theorem real_read_back {p : Parameter} {f : WireFormat} {s : Spec} {k : Conversion} {v : Value}
    {a : Argument} (hk : p.kind.isFloating = true) (hf : p.encoding = .wire f)
    (halone : Alone s k f.segments) (hreal : k.isReal = true) (h : p.encode v = .ok a) :
    ∃ d, datum? v = some d ∧ ((∃ w, p.readValue a.wire = .ok w) ↔ ¬ ZeroFilled s d) := by
  obtain ⟨-, -, hchecked⟩ := Parameter.encode_eq_ok h
  obtain ⟨cs, hcs, hwire⟩ := Parameter.exists_of_render hf (Parameter.checked_eq_ok hchecked).2
  obtain ⟨mid, hmid, htrim⟩ := halone.exists_convert hcs
  rw [convert?_of_isReal hreal] at hmid
  obtain ⟨d, hd, rfl⟩ := Option.map_eq_some_iff.1 hmid
  refine ⟨d, hd, ?_⟩
  simp only [Parameter.readValue_eq_ok_iff]
  rw [Parameter.exists_readValue?_iff_numeralText hk, hwire, String.toList_ofList, htrim,
    numeralText_real_iff]

namespace Voltmeter

/-- Twelve characters, filled up with zeros. -/
def template : WireFormat :=
  ⟨"%012f", [.conversion ⟨{ Flags.none with zero := true }, some 12, none⟩ .fixed]⟩

/-- What the voltmeter shows. -/
def voltage : Parameter := .templated .double template rfl

end Voltmeter

theorem ofEntry_voltage :
    Parameter.ofEntry "p" ⟨none, "double", none, some "%012f", none⟩ = .ok Voltmeter.voltage := by
  have hread : readPieces "%012f" [] ([] ++ '%' :: ['0', '1', '2', 'f']) =
      .ok Voltmeter.template.pieces :=
    readPieces_between List.not_mem_nil List.not_mem_nil rfl rfl
  exact @Parameter.ofEntry_templated .double Voltmeter.template (map_eq_ok_iff.2 ⟨_, hread, rfl⟩)
    (by decide) rfl

/-- A negative voltage, with zeros behind the sign. -/
theorem real_read_back_voltmeter :
    let x : Value := .double (floatOfWord 0xBFF8000000000000)
    Alone ⟨{ Flags.none with zero := true }, some 12, none⟩ .fixed Voltmeter.template.segments ∧
      Voltmeter.voltage.encode x = .ok ⟨x, "-0001.500000"⟩ ∧
      ∃ w, Voltmeter.voltage.readValue "-0001.500000" = .ok w := by
  intro x
  have halone : Alone ⟨{ Flags.none with zero := true }, some 12, none⟩ .fixed
      Voltmeter.template.segments := @Alone.intro _ _ [] [] nofun nofun
  have hencode : Voltmeter.voltage.encode x = .ok ⟨x, "-0001.500000"⟩ := by rfl
  obtain ⟨d, hd, hread⟩ := real_read_back rfl rfl halone rfl hencode
  obtain rfl : Binary.Datum.finite true 6755399441055744 (-52) = d := Option.some.inj hd
  exact ⟨halone, hencode, hread.2 nofun⟩

/-- **Infinity is written with zeros in front, and that is not read.** -/
theorem infinity_not_read_back :
    let x : Value := .double (floatOfWord Binary.double.infinityWord)
    Parameter.ofEntry "p" ⟨none, "double", none, some "%012f", none⟩ = .ok Voltmeter.voltage ∧
      Voltmeter.voltage.encode x = .ok ⟨x, "0000Infinity"⟩ ∧
      Voltmeter.voltage.readValue "0000Infinity" = .error (.parse "p" "0000Infinity" .double) :=
  ⟨ofEntry_voltage, by rfl, by rfl⟩

end Instrument
