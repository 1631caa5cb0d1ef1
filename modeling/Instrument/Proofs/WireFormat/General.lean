/-
# Numbers with significant digits

The conversions `g` and `G` write a number that is rounded to so many significant digits
(`RoundsToDigits`), in fixed notation (`FixedText`) or with an exponent (`ExponentialText`).  The
notation depends on the rounded number: its logarithm is the exponent that was found when the number
was rounded (`general_notation`), and no text is in both notations
(`FixedText.not_exponentialText`).

Either way the digits are those that were rounded, since a text with places has the digits of a
number behind the zeros that the places need (`Positional.text_split_padded`).
-/
import Instrument.Proofs.Number.Positional
import Instrument.Proofs.Number.Significant
import Instrument.Proofs.WireFormat.Integers

namespace Instrument

open Number

/-! ## Notations -/

namespace Number

namespace Positional

/-- The number that the digits denote. -/
def toRat (x : Positional) : ℚ := Digits.value (x.whole ++ x.places) / 10 ^ x.places.length

/-- The digits without the zeros in front. -/
def significant (x : Positional) : List Char := (x.whole ++ x.places).dropWhile (· = '0')

/-- Are there digits only, at least one in front of the point, and no zero in front of them? -/
structure WellFormed (x : Positional) : Prop where
  isDigit : ∀ c ∈ x.whole ++ x.places, c.isDigit = true
  ne_nil : x.whole ≠ []
  first : x.whole.head? = some '0' → x.whole = ['0']

end Positional

/-- The texts that denote a number in fixed notation, with so many significant digits. -/
inductive FixedText (digits : Nat) (r : ℚ) : List Char → Prop
  | intro {x : Positional} : x.WellFormed → x.significant.length = digits → x.toRat = r →
      FixedText digits r x.text

/-- The texts that denote a number with an exponent: one digit that is no zero, places up to so many
digits, and an exponent with a sign and two digits at least. -/
inductive ExponentialText (upper : Bool) (digits : Nat) (r : ℚ) : List Char → Prop
  | intro {d : Char} {places es : List Char} {e : Int} : (Positional.mk [d] places).WellFormed →
      d ≠ '0' → places.length + 1 = digits → (∀ c ∈ es, c.isDigit = true) → 2 ≤ es.length →
      Digits.value es = e.natAbs → (Positional.mk [d] places).toRat * 10 ^ e = r →
      ExponentialText upper digits r ((Positional.mk [d] places).text ++
        (if upper then 'E' else 'e') :: (if e < 0 then '-' else '+') :: es)

/-- The digits of a positive number do not begin with a zero. -/
theorem head?_text {n : Nat} (hn : 0 < n) : (Digits.text n).head? ≠ some '0' := by
  intro hhead
  have hnumeral := WireFormat.isNumeral_text n
  have hvalue := hnumeral.denotes
  rw [hnumeral.first hhead] at hvalue
  exact hn.ne hvalue

/-- Zeros in front of the digits of a positive number are all the zeros in front. -/
theorem dropWhile_zeros_text (zeros : Nat) {n : Nat} (hn : 0 < n) :
    (List.replicate zeros '0' ++ Digits.text n).dropWhile (· = '0') = Digits.text n := by
  have hzeros : ∀ c ∈ List.replicate zeros '0', decide (c = '0') = true :=
    fun c hc => decide_eq_true (List.eq_of_mem_replicate hc)
  have hhead := head?_text hn
  obtain ⟨c, rest, htext, -⟩ := exists_text n
  rw [List.dropWhile_append_of_pos hzeros]
  rw [htext] at hhead ⊢
  apply List.dropWhile_cons_of_neg
  simpa using hhead

namespace Positional

variable {places n : Nat}

theorem significant_split_padded (hn : 0 < n) :
    (split places (Digits.padded (places + 1) n)).significant = Digits.text n := by
  rw [significant, whole_append_places, padded_eq, dropWhile_zeros_text _ hn]

/-- A zero in front of the point is needed there: it is the only digit. -/
theorem wellFormed_split_padded (hn : 0 < n) :
    (split places (Digits.padded (places + 1) n)).WellFormed := by
  have hlength := Digits.length_padded (places + 1) n
  have hwhole := length_whole_split places (Digits.padded (places + 1) n)
  refine ⟨(digitsText_split_padded places n).2, List.ne_nil_of_length_pos (by omega), ?_⟩
  intro hhead
  obtain ⟨rest, hcons⟩ := List.head?_eq_some_iff.1 hhead
  have hpadded := padded_eq places n
  rcases Nat.eq_zero_or_pos (places + 1 - (Digits.text n).length) with hzeros | hzeros
  · -- Without zeros in front the first digit is that of the number, which is none.
    have happend := whole_append_places places (Digits.padded (places + 1) n)
    rw [hcons, hpadded, hzeros, List.replicate_zero, List.nil_append] at happend
    exact absurd (by rw [← happend]; rfl) (head?_text hn)
  · rw [hcons, hpadded, List.length_append, List.length_replicate, List.length_cons] at hwhole
    rw [hcons, List.eq_nil_of_length_eq_zero (by omega : rest.length = 0)]

end Positional

/-! ## Rounded numbers in both notations -/

namespace Scientific.Full

variable {places : Nat} {x : Scientific}

theorem pos (h : x.Full places) : 0 < x.digits :=
  lt_of_lt_of_le (Nat.pow_pos (by decide)) h.le

theorem toRat_pos (h : x.Full places) : 0 < x.toRat places := by
  have hpos : (0 : ℚ) < x.digits := Nat.cast_pos.2 h.pos
  unfold toRat
  positivity

theorem length_text (h : x.Full places) : (Digits.text x.digits).length = places + 1 := by
  refine Nat.le_antisymm (length_text_le (Nat.succ_pos places) h.lt) (Nat.not_le.1 fun hle => ?_)
  have hlt := value_lt fun c hc => isDigit_of_mem_text (n := x.digits) hc
  rw [value_text] at hlt
  exact absurd (h.le.trans_lt hlt) (Nat.not_lt.2 (Nat.pow_le_pow_right (by decide) hle))

/-- Whether the number is in the range of fixed notation is known from the exponent. -/
theorem range_iff (h : x.Full places) :
    (10 : ℚ) ^ (-4 : Int) ≤ x.toRat places ∧ x.toRat places < 10 ^ (places + 1) ↔
      -4 ≤ x.exponent ∧ x.exponent < (places : Int) + 1 := by
  have hlow := Int.zpow_le_iff_le_log (b := 10) (by decide) h.toRat_pos (x := -4)
  have hhigh := Int.lt_zpow_iff_log_lt (b := 10) (by decide) h.toRat_pos (x := places + 1)
  rw [h.log_eq] at hlow hhigh
  rw [← hlow, ← hhigh]
  norm_cast

end Scientific.Full

theorem fixedText_withPlaces {places c : Nat} {x : Scientific} (hx : x.Full places)
    (hc : (places : Int) - x.exponent = c) :
    FixedText (places + 1) (x.toRat places) (withPlaces c x.digits) := by
  rw [← Positional.text_split_padded]
  refine .intro (Positional.wellFormed_split_padded hx.pos) ?_ ?_
  · rw [Positional.significant_split_padded hx.pos, hx.length_text]
  · have hexponent : x.exponent - places = -(c : Int) := by omega
    rw [Positional.toRat, Positional.value_split_padded, Positional.length_places_padded,
      Scientific.toRat, hexponent, zpow_neg, zpow_natCast, div_eq_mul_inv]

end Number

namespace WireFormat

variable {places num den : Nat}

theorem exponentialText_exponential (upper : Bool) {x : Scientific} (hx : x.Full places) :
    ExponentialText upper (places + 1) (x.toRat places) (exponential upper places x) := by
  obtain ⟨d, es, htext, -⟩ := exists_text x.digits
  have hlength := hx.length_text
  have hsplit : Positional.split places (Digits.padded (places + 1) x.digits) = ⟨[d], es⟩ := by
    have hone : (d :: es).length - places = 1 := by
      rw [← htext]
      omega
    rw [Positional.padded_eq, hlength, Nat.sub_self, List.replicate_zero, List.nil_append, htext,
      Positional.split, hone]
    rfl
  have hwell := @Positional.wellFormed_split_padded places _ hx.pos
  have hmantissa := Positional.text_split_padded places x.digits
  rw [hsplit] at hwell hmantissa
  rw [htext, List.length_cons] at hlength
  have hvalue : (Positional.mk [d] es).toRat * 10 ^ x.exponent = x.toRat places := by
    rw [Positional.toRat, List.singleton_append, ← htext, value_text, Nat.succ.inj hlength,
      Scientific.toRat, zpow_sub₀ (by norm_num), zpow_natCast, div_mul_eq_mul_div, mul_div_assoc]
  rw [exponential, ← hmantissa]
  refine .intro hwell ?_ hlength (fun c hc => isDigit_of_mem_padded hc) (Digits.length_padded 2 _)
    (value_padded 2 _) hvalue
  rintro rfl
  exact head?_text hx.pos (by rw [htext]; rfl)

/-- **The notation depends on the rounded number**, which both notations denote. -/
theorem general_notation (upper : Bool) (places : Nat) (hnum : 0 < num) (hden : 0 < den) : ∃ r : ℚ,
    RoundsToDigits (places + 1) (num / den) r ∧
      if (10 : ℚ) ^ (-4 : Int) ≤ r ∧ r < 10 ^ (places + 1)
      then FixedText (places + 1) r (general upper places num den)
      else ExponentialText upper (places + 1) r (general upper places num den) := by
  have hfull := full_scientific places hnum hden
  refine ⟨_, roundsToDigits_scientific places hnum hden, ?_⟩
  rw [general, if_neg hnum.ne']
  dsimp only
  by_cases hrange : -4 ≤ (scientific places num den).exponent ∧
      (scientific places num den).exponent < (places : Int) + 1
  · obtain ⟨c, hc⟩ := Int.eq_ofNat_of_zero_le
      (a := places - (scientific places num den).exponent) (by omega)
    rw [if_pos hrange, if_pos (hfull.range_iff.2 hrange), hc, Int.toNat_natCast,
      fixed_scientific hnum hden hc]
    exact fixedText_withPlaces hfull hc
  · rw [if_neg hrange, if_neg (mt hfull.range_iff.1 hrange)]
    exact exponentialText_exponential upper hfull

end WireFormat

namespace Number

theorem Positional.WellFormed.digit_or_point {x : Positional} (h : x.WellFormed) {c : Char}
    (hc : c ∈ x.text) : c.isDigit = true ∨ c = '.' := by
  unfold text at hc
  split at hc
  · exact .inl (h.isDigit c (List.mem_append_left _ hc))
  · rcases List.mem_append.1 hc with hc | hc
    · exact .inl (h.isDigit c (List.mem_append_left _ hc))
    · rcases List.mem_cons.1 hc with hc | hc
      · exact .inr hc
      · exact .inl (h.isDigit c (List.mem_append_right _ hc))

/-- No text is in both notations: only an exponent has a letter. -/
theorem FixedText.not_exponentialText {upper : Bool} {digits : Nat} {r : ℚ} {cs : List Char}
    (h : FixedText digits r cs) : ¬ ExponentialText upper digits r cs := by
  intro hexponential
  have hletter : (if upper then 'E' else 'e') ∈ cs := by
    cases hexponential
    simp
  obtain ⟨hwell, -, -⟩ := h
  cases upper <;> exact absurd (hwell.digit_or_point hletter) (by decide)

end Number

namespace WireFormat

/-- How many significant digits the conversions `g` and `G` write. -/
def significantDigits (s : Spec) : Nat := max (s.precision.getD 6) 1

/-- **Numbers are written with significant digits.**  Under the conversions `g` and `G` with any
precision, a number other than zero is rounded once, a half to the even last digit, and its text
denotes the rounded number with just so many significant digits: in fixed notation if the rounded
number lies in the range for it, and with an exponent otherwise. -/
theorem general_rounded (s : Spec) (upper : Bool) {v : Value} {negative : Bool} {m : Nat} {q : Int}
    (hv : datum? v = some (.finite negative m q)) (hm : 0 < m) : ∃ r body,
    (∀ t, RoundsToDigits (significantDigits s) (m * 2 ^ q) t ↔ t = r) ∧
      convert? s (.general upper) v = some (number s negative [] body) ∧
      (FixedText (significantDigits s) r body ↔
        (10 : ℚ) ^ (-4 : Int) ≤ r ∧ r < 10 ^ significantDigits s) ∧
      (ExponentialText upper (significantDigits s) r body ↔
        ¬ ((10 : ℚ) ^ (-4 : Int) ≤ r ∧ r < 10 ^ significantDigits s)) := by
  have hdigits : significantDigits s - 1 + 1 = significantDigits s :=
    Nat.sub_add_cancel (Nat.le_max_right _ _)
  have hden : 0 < (scale 2 q m 1).2 := scale_pos two_pos q Nat.one_pos
  have hvalue := div_scale two_pos q m 1
  rcases hscale : scale 2 q m 1 with ⟨num, den⟩
  rw [hscale, Nat.cast_one, div_one, Nat.cast_ofNat] at hvalue
  rw [hscale] at hden
  have hnum : 0 < num := by
    have hpos : (0 : ℚ) < num / den := by
      rw [hvalue]
      positivity
    exact Nat.pos_of_ne_zero fun hzero => by simp [hzero] at hpos
  obtain ⟨r, hround, hnotation⟩ := general_notation upper (significantDigits s - 1) hnum hden
  rw [hdigits, hvalue] at hround
  rw [hdigits] at hnotation
  refine ⟨r, general upper (significantDigits s - 1) num den, ?_, ?_, ?_⟩
  · exact fun t => ⟨fun ht => ht.unique hround, fun ht => ht ▸ hround⟩
  · have hnegative : (negative && decide (m ≠ 0)) = negative := by
      rw [decide_eq_true hm.ne', Bool.and_true]
    simp only [convert?, hv, Option.map_some, real, hscale, hnegative]
    rfl
  · split at hnotation
    · rename_i hrange
      exact ⟨iff_of_true hnotation hrange,
        iff_of_false hnotation.not_exponentialText (not_not.2 hrange)⟩
    · rename_i hrange
      exact ⟨iff_of_false (fun h => h.not_exponentialText hnotation) hrange,
        iff_of_true hnotation hrange⟩

/-- The number nearest to `9.9999996`, whose six digits are rounded up to a power of ten. -/
theorem general_rounded_carried :
    let v : Value := .double (floatOfWord 0x4023FFFFF29406B3)
    let s : Spec := ⟨Flags.none, none, none⟩
    datum? v = some (.finite false 5629499309033139 (-49)) ∧ 0 < 5629499309033139 ∧
      convert? s (.general false) v = some "10.0000".toList ∧ ∃ r body,
      (∀ t, RoundsToDigits 6 ((5629499309033139 : Nat) * 2 ^ (-49 : Int)) t ↔ t = r) ∧
        convert? s (.general false) v = some (number s false [] body) ∧
        (FixedText 6 r body ↔ (10 : ℚ) ^ (-4 : Int) ≤ r ∧ r < 10 ^ 6) ∧
        (ExponentialText false 6 r body ↔ ¬ ((10 : ℚ) ^ (-4 : Int) ≤ r ∧ r < 10 ^ 6)) := by
  intro v s
  have hv : datum? v = some (.finite false 5629499309033139 (-49)) := by rfl
  have hm : 0 < 5629499309033139 := by decide
  exact ⟨hv, hm, by decide +kernel, general_rounded s false hv hm⟩

end WireFormat

end Instrument
