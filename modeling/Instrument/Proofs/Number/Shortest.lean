/-
# Shortest decimals read back

The shortest decimal of a number is looked for on grids of 1, 2, … digits, and what is found on a grid
lies in the interval of the numbers that round to it (`has_of_onGrid?`).  The last grid is finer than the
interval is wide, so one of the two points next to the number lies in it at the latest there
(`isSome_onGrid?`); hence there is always a decimal, and it rounds to the number (`has_shortest`).

Its text stands for it exactly, however many zeros there are before and behind the digits.  So what is
written of a `binary64` number is read as that number again (`readFloat?_displayFloat`), zero with its
sign, the infinities and the datum that is no number included.
-/
import Instrument.Proofs.Number.Nearest
import Instrument.Proofs.Number.Positional

namespace Instrument.Number

/-! ## Points of a grid -/

namespace RoundingInterval

variable {i : RoundingInterval} {tie : Tie} {q g : Int}

/-- A quarter, counted in steps of the grid, is the quotient of two natural numbers. -/
theorem exists_quarter (q g : Int) : ∃ a b : Nat, 0 < a ∧ 0 < b ∧
    (2 : ℚ) ^ (q - 2) = a / b * 10 ^ g ∧
    scale 10 (-g) (scale 2 (q - 2) 1 1).1 (scale 2 (q - 2) 1 1).2 = (a, b) := by
  have hquarter := div_scale two_pos (q - 2) 1 1
  have hten : 0 < 10 := by decide
  have hstep := div_scale hten (-g) (scale 2 (q - 2) 1 1).1 (scale 2 (q - 2) 1 1).2
  have hquarterPos : 0 < (scale 2 (q - 2) 1 1).2 := scale_pos two_pos (q - 2) Nat.one_pos
  have hb : 0 < (scale 10 (-g) (scale 2 (q - 2) 1 1).1 (scale 2 (q - 2) 1 1).2).2 :=
    scale_pos hten (-g) hquarterPos
  generalize scale 10 (-g) (scale 2 (q - 2) 1 1).1 (scale 2 (q - 2) 1 1).2 = p at hstep hb ⊢
  obtain ⟨a, b⟩ := p
  have heq : (2 : ℚ) ^ (q - 2) = a / b * 10 ^ g := by
    rw [hstep, hquarter]
    push_cast
    rw [mul_assoc, ← zpow_add₀ (by norm_num), neg_add_cancel]
    norm_num
  refine ⟨a, b, Nat.pos_of_ne_zero fun hzero => ?_, hb, heq, rfl⟩
  have hpos : (0 : ℚ) < 2 ^ (q - 2) := by positivity
  rw [heq, hzero, Nat.cast_zero, zero_div, zero_mul] at hpos
  exact lt_irrefl 0 hpos

section Grid

variable {a b : Nat} (hb : 0 < b) (hquarter : (2 : ℚ) ^ (q - 2) = a / b * 10 ^ g)

include hb hquarter

theorem quarters_le_iff (n d : Nat) : (n : ℚ) * 2 ^ (q - 2) ≤ d * 10 ^ g ↔ n * a ≤ d * b := by
  have hpow : (0 : ℚ) < 10 ^ g := by positivity
  have hbpos : (0 : ℚ) < b := Nat.cast_pos.2 hb
  rw [hquarter, ← mul_assoc, mul_le_mul_iff_of_pos_right hpow, ← mul_div_assoc, div_le_iff₀ hbpos]
  norm_cast

theorem le_quarters_iff (n d : Nat) : (d * 10 ^ g : ℚ) ≤ n * 2 ^ (q - 2) ↔ d * b ≤ n * a := by
  have hpow : (0 : ℚ) < 10 ^ g := by positivity
  have hbpos : (0 : ℚ) < b := Nat.cast_pos.2 hb
  rw [hquarter, ← mul_assoc, mul_le_mul_iff_of_pos_right hpow, ← mul_div_assoc, le_div_iff₀ hbpos]
  norm_cast

/-- A point of the grid lies in the interval. -/
theorem has_grid_iff (d : Nat) : i.Has q (d * 10 ^ g) ↔
    if i.closed then i.low * a ≤ d * b ∧ d * b ≤ i.high * a
    else i.low * a < d * b ∧ d * b < i.high * a := by
  have hlow : (i.low * 2 ^ (q - 2) : ℚ) < d * 10 ^ g ↔ i.low * a < d * b := by
    rw [← not_le, le_quarters_iff hb hquarter, not_le]
  have hhigh : (d * 10 ^ g : ℚ) < i.high * 2 ^ (q - 2) ↔ d * b < i.high * a := by
    rw [← not_le, quarters_le_iff hb hquarter, not_le]
  simp only [Has, hlow, hhigh, quarters_le_iff hb hquarter, le_quarters_iff hb hquarter]

end Grid

section Choice

variable {low near : Bool} {high : Prop} [Decidable high] {x y d : Nat}

/-- Of two points the lower one is taken only if it may be, and so is the upper one. -/
theorem of_choice_eq_some
    (h : (if low && (near || !decide high) then some x else if high then some y else none) =
      some d) : low = true ∧ d = x ∨ high ∧ d = y := by
  split at h
  · rename_i htaken
    cases h
    exact .inl ⟨(Bool.and_eq_true_iff.1 htaken).1, rfl⟩
  · split at h
    · rename_i hhigh
      cases h
      exact .inr ⟨hhigh, rfl⟩
    · cases h

/-- If one of two points may be taken, one of them is. -/
theorem isSome_choice (h : low = true ∨ high) :
    (if low && (near || !decide high) then some x else if high then some y else none).isSome =
      true := by
  by_cases hhigh : high
  · rw [if_pos hhigh]
    split <;> rfl
  · rw [h.resolve_right hhigh, decide_eq_false hhigh, Bool.not_false, Bool.or_true, Bool.and_true,
      if_pos rfl]
    rfl

end Choice

/-- **What is found on a grid lies in the interval.** -/
theorem has_of_onGrid? {d : Nat} (hlow : i.low < i.centre) (hhigh : i.centre < i.high)
    (h : i.onGrid? tie q g = some d) : 0 < d ∧ i.Has q (d * 10 ^ g) := by
  obtain ⟨a, b, ha, hb, hquarter, hscale⟩ := exists_quarter q g
  have hbelow : i.centre * a / b * b ≤ i.centre * a := Nat.div_mul_le_self _ _
  have habove : i.centre * a < (i.centre * a / b + 1) * b := by
    rw [Nat.succ_mul]
    exact Nat.lt_div_mul_add hb
  have hlow := Nat.mul_lt_mul_of_pos_right hlow ha
  have hhigh := Nat.mul_lt_mul_of_pos_right hhigh ha
  rw [has_grid_iff hb hquarter]
  simp only [onGrid?, hscale] at h
  generalize i.centre * a / b = below at *
  rcases of_choice_eq_some h with ⟨hin, rfl⟩ | ⟨hin, rfl⟩
  · obtain ⟨hpos, hin⟩ := Bool.and_eq_true_iff.1 hin
    refine ⟨Nat.pos_of_ne_zero (of_decide_eq_true hpos), ?_⟩
    split at hin
    · rename_i hclosed
      rw [if_pos hclosed]
      exact ⟨of_decide_eq_true hin, by omega⟩
    · rename_i hopen
      rw [if_neg hopen]
      exact ⟨of_decide_eq_true hin, by omega⟩
  · refine ⟨Nat.succ_pos _, ?_⟩
    split at hin
    · rename_i hclosed
      rw [if_pos hclosed]
      exact ⟨by omega, hin⟩
    · rename_i hopen
      rw [if_neg hopen]
      exact ⟨by omega, hin⟩

/-- **One of the two points next to the number lies in the interval**, if the grid is finer than the
interval is wide. -/
theorem isSome_onGrid? (hcentre : (10 : ℚ) ^ g ≤ i.centre * 2 ^ (q - 2))
    (hwidth : (10 : ℚ) ^ g < (i.high - i.low) * 2 ^ (q - 2)) :
    (i.onGrid? tie q g).isSome = true := by
  obtain ⟨a, b, ha, hb, hquarter, hscale⟩ := exists_quarter q g
  have hpow : (0 : ℚ) < 10 ^ g := by positivity
  have hbpos : (0 : ℚ) < b := Nat.cast_pos.2 hb
  have hcentre : 1 * b ≤ i.centre * a := by
    rw [← le_quarters_iff hb hquarter, Nat.cast_one, one_mul]
    exact hcentre
  have hwidth : i.low * a + b < i.high * a := by
    rw [hquarter, ← mul_assoc, lt_mul_iff_one_lt_left hpow, ← mul_div_assoc, one_lt_div hbpos]
      at hwidth
    have hcast : (i.low * a + b : ℚ) < i.high * a := by linarith
    exact_mod_cast hcast
  have hpos : i.centre * a / b ≠ 0 :=
    (Nat.div_pos (by omega) hb).ne'
  have hnext : (i.centre * a / b + 1) * b = i.centre * a / b * b + b := Nat.succ_mul _ _
  simp only [onGrid?, hscale]
  refine isSome_choice ?_
  generalize i.centre * a / b = below at *
  rw [decide_eq_true hpos, Bool.true_and]
  cases i.closed <;> simp only [if_true, Bool.false_eq_true, if_false, decide_eq_true_eq] <;> omega

end RoundingInterval

/-! ## The shortest decimal -/

/-- The number that a decimal is. -/
def Decimal.toRat (d : Decimal) : ℚ := d.digits * 10 ^ d.exponent

/-- Zeros behind the digits are moved to the exponent. -/
theorem Decimal.stripZeros_spec (fuel : Nat) {d : Decimal} (hd : 0 < d.digits) :
    0 < (stripZeros fuel d).digits ∧ (stripZeros fuel d).toRat = d.toRat := by
  induction fuel generalizing d with
  | zero => exact ⟨hd, rfl⟩
  | succ fuel ih =>
    rw [stripZeros]
    split
    · rename_i hzero
      have hdigits : d.digits = d.digits / 10 * 10 := by omega
      obtain ⟨hpos, heq⟩ := @ih ⟨d.digits / 10, d.exponent + 1⟩ (Nat.div_pos (by omega) (by decide))
      refine ⟨hpos, heq.trans ?_⟩
      have hcast : (d.digits : ℚ) = (d.digits / 10 : Nat) * 10 := by exact_mod_cast hdigits
      rw [toRat, toRat, hcast, zpow_add_one₀ (by norm_num)]
      ring
    · exact ⟨hd, rfl⟩

namespace Binary.Layout

variable {l : Layout} {m : Nat} {q : Int}

theorem interval_lt (hm : 0 < m) : (l.interval m q).low < (l.interval m q).centre ∧
    (l.interval m q).centre < (l.interval m q).high := by
  simp only [interval]
  split <;> omega

/-- The last grid is finer than the interval is wide. -/
theorem isSome_lastGrid (hl : l.fraction < 53) (hholds : l.Holds m q) (tie : Tie) {k : Int}
    (hk : (10 : ℚ) ^ k ≤ m * 2 ^ q) :
    ((l.interval m q).onGrid? tie q (k - (16 : Nat))).isSome = true := by
  have hquarter : (0 : ℚ) < 2 ^ (q - 2) := by positivity
  have hcentre : ((l.interval m q).centre : ℚ) = 4 * m := by simp [interval]
  have hgrid : (10 : ℚ) ^ (k - (16 : Nat)) = 10 ^ k / 10 ^ 16 := by
    rw [zpow_sub₀ (by norm_num)]
    norm_cast
  rw [two_zpow_quarters] at hk
  refine RoundingInterval.isSome_onGrid? ?_ ?_
  · rw [hgrid, hcentre]
    refine (div_le_self (by positivity) (by norm_num)).trans (hk.trans (le_of_eq ?_))
    ring
  · rw [hgrid, div_lt_iff₀ (by norm_num), interval_high]
    refine lt_of_le_of_lt hk ?_
    have hpow : (2 : ℚ) ^ l.fraction ≤ 2 ^ 52 :=
      pow_le_pow_right₀ (by norm_num) (by omega)
    have hfits : (m : ℚ) < 2 ^ l.fraction * 2 := by
      rw [← pow_succ]
      exact_mod_cast hholds.fits
    rcases interval_low_cases (l := l) (q := q) hholds.pos with ⟨hlow, -⟩ | ⟨hlow, heq⟩
    · rw [hlow]
      nlinarith
    · have hm : (m : ℚ) = 2 ^ l.fraction := by exact_mod_cast heq
      rw [hlow]
      nlinarith

/-- **The shortest decimal of a number rounds to it.** -/
theorem has_shortest (hl : l.fraction < 53) (hholds : l.Holds m q) (tie : Tie) :
    0 < (l.shortest tie m q).digits ∧ (l.interval m q).Has q (l.shortest tie m q).toRat := by
  obtain ⟨hlow, hhigh⟩ := interval_lt (l := l) (q := q) hholds.pos
  have hvalue := div_scale Nat.two_pos q m 1
  have hden : 0 < (scale 2 q m 1).2 := scale_pos two_pos q Nat.one_pos
  rcases hscale : scale 2 q m 1 with ⟨num, den⟩
  rw [hscale, Nat.cast_one, div_one, Nat.cast_ofNat] at hvalue
  rw [hscale] at hden
  have hnum : 0 < num := by
    refine Nat.pos_of_ne_zero fun hzero => ?_
    have hm : (0 : ℚ) < m := by exact_mod_cast hholds.pos
    have hpos : (0 : ℚ) < m * 2 ^ q := by positivity
    rw [← hvalue, hzero, Nat.cast_zero, zero_div] at hpos
    exact lt_irrefl 0 hpos
  have hk := ten_zpow_floorLog10_le hnum hden
  rw [hvalue] at hk
  simp only [shortest, hscale]
  generalize floorLog10 num den = k at hk ⊢
  have hfound : ((List.range mostDigits).findSome? fun n : Nat =>
      ((l.interval m q).onGrid? tie q (k - n)).map fun d =>
        Decimal.stripZeros mostDigits ⟨d, k - n⟩).isSome = true := by
    refine List.findSome?_isSome_iff.2 ⟨16, by decide, ?_⟩
    rw [Option.isSome_map]
    exact isSome_lastGrid hl hholds tie hk
  obtain ⟨d, hd⟩ := Option.isSome_iff_exists.1 hfound
  obtain ⟨n, -, hn⟩ := List.exists_of_findSome?_eq_some hd
  obtain ⟨digits, hgrid, rfl⟩ := Option.map_eq_some_iff.1 hn
  obtain ⟨hpos, hhas⟩ := RoundingInterval.has_of_onGrid? hlow hhigh hgrid
  obtain ⟨hpos, heq⟩ := Decimal.stripZeros_spec mostDigits (d := ⟨digits, k - n⟩) hpos
  rw [hd, Option.getD_some, heq]
  exact ⟨hpos, hhas⟩

end Binary.Layout

/-! ## Its text -/

/-- Places are split off from the digits of a number, zeros in front if there are too few. -/
theorem exists_withPlaces {places : Nat} (hplaces : 0 < places) (n : Nat) : ∃ ds es,
    withPlaces places n = ds ++ '.' :: es ∧ (∀ c ∈ ds, c.isDigit = true) ∧
      (∀ c ∈ es, c.isDigit = true) ∧ ds ++ es ≠ [] ∧ es.length = places ∧
      Digits.value (ds ++ es) = n := by
  obtain ⟨hne, hdigits⟩ := Positional.digitsText_split_padded places n
  obtain ⟨hds, hes⟩ := List.forall_mem_append.1 hdigits
  have hlength := Positional.length_places_padded places n
  refine ⟨_, _, ?_, hds, hes, hne, hlength, Positional.value_split_padded places n⟩
  rw [← Positional.text_split_padded, Positional.text,
    if_neg (List.ne_nil_of_length_pos (hlength.symm ▸ hplaces))]

namespace Decimal

theorem positional_of_nonneg {d : Decimal} {k : Nat} (h : d.exponent = k) :
    d.positional = Digits.text d.digits ++ List.replicate k '0' := by
  rw [positional, h, if_pos (Int.natCast_nonneg k), Int.toNat_natCast]

theorem positional_of_neg {d : Decimal} {places : Nat} (hplaces : 0 < places)
    (h : d.exponent = -places) : d.positional = withPlaces places d.digits := by
  have hplaces' : (- -(places : Int)).toNat = places := by omega
  rw [positional, h, if_neg (by omega), withPlaces, if_neg hplaces.ne', hplaces']
  rfl

/-- **The text of a decimal stands for it exactly**, and is a mantissa without an exponent. -/
theorem positional_spec (d : Decimal) : MantissaText Char.isDigit d.positional ∧
    ∃ n e, Numeral.readMagnitude? d.positional = some (n, e) ∧ (n * 10 ^ e : ℚ) = d.toRat := by
  rcases Int.lt_or_le d.exponent 0 with hneg | hnonneg
  · obtain ⟨places, hplaces⟩ := Int.eq_ofNat_of_zero_le (Int.neg_nonneg_of_nonpos hneg.le)
    have hexponent : d.exponent = -places := by omega
    have hpos : 0 < places := by omega
    obtain ⟨ds, es, htext, hds, hes, hne, hlength, hvalue⟩ := exists_withPlaces hpos d.digits
    have hend : ∀ c ∈ ([] : List Char).head?, c.isDigit = false := nofun
    have hread := readMagnitude?_point hds hes hne hend
    rw [List.append_nil, hlength, hvalue] at hread
    rw [positional_of_neg hpos hexponent, htext]
    refine ⟨.point hds hes hne, _, _, hread, ?_⟩
    rw [toRat, hexponent, zero_sub]
  · obtain ⟨k, hexponent⟩ := Int.eq_ofNat_of_zero_le hnonneg
    have hdigits : DigitsText Char.isDigit (Digits.text d.digits ++ List.replicate k '0') := by
      refine ⟨List.append_ne_nil_of_left_ne_nil Nat.toDigits_ne_nil _, fun c hc => ?_⟩
      rcases List.mem_append.1 hc with hc | hc
      · exact isDigit_of_mem_text hc
      · rw [List.eq_of_mem_replicate hc]
        rfl
    have hvalue : Digits.value (Digits.text d.digits ++ List.replicate k '0') =
        d.digits * 10 ^ k := by
      rw [value_eq_ofDigitChars hdigits.2, Nat.ofDigitChars_append,
        Nat.ofDigitChars_replicate_zero, Digits.text, Nat.ofDigitChars_ten_toDigits, Nat.mul_comm]
    have hend : ∀ c ∈ ([] : List Char).head?, c.isDigit = false ∧ c ≠ '.' := nofun
    have hread := readMagnitude?_whole hdigits hend
    rw [List.append_nil, hvalue] at hread
    rw [positional_of_nonneg hexponent]
    refine ⟨.whole hdigits, _, _, hread, ?_⟩
    rw [toRat, hexponent, zpow_natCast, zpow_zero, mul_one, Nat.cast_mul, Nat.cast_pow,
      Nat.cast_ofNat]

end Decimal

/-! ## The number of a word -/

namespace Binary.Layout

/-- The words that stand for a datum. -/
inductive Codes (l : Layout) : Nat → Datum → Prop
  | nan {w : Nat} : w / 2 ^ l.fraction % 2 ^ l.exponent = 2 ^ l.exponent - 1 →
      w % 2 ^ l.fraction ≠ 0 → Codes l w .nan
  | infinite (negative : Bool) : Codes l (l.signWord negative + l.infinityWord) (.infinite negative)
  | zero (negative : Bool) (q : Int) : Codes l (l.signWord negative) (.finite negative 0 q)
  | finite {m : Nat} {q : Int} (negative : Bool) : l.Holds m q → l.wordOf m q < l.infinityWord →
      Codes l (l.signWord negative + l.wordOf m q) (.finite negative m q)

/-- A word is the sum of its fields. -/
theorem word_eq_fields {l : Layout} {w : Nat} (hw : w < 2 * 2 ^ (l.fraction + l.exponent)) :
    w = l.signWord (w / 2 ^ (l.fraction + l.exponent) % 2 = 1) +
      (w / 2 ^ l.fraction % 2 ^ l.exponent * 2 ^ l.fraction + w % 2 ^ l.fraction) := by
  have hsign : w / 2 ^ (l.fraction + l.exponent) < 2 :=
    (Nat.div_lt_iff_lt_mul (Nat.two_pow_pos _)).2 hw
  have hword : l.signWord (w / 2 ^ (l.fraction + l.exponent) % 2 = 1) =
      w / 2 ^ l.fraction / 2 ^ l.exponent * 2 ^ l.exponent * 2 ^ l.fraction := by
    have hpow : Nat.pow 2 (l.fraction + l.exponent) = 2 ^ l.exponent * 2 ^ l.fraction := by
      rw [Nat.mul_comm, ← pow_add]
      rfl
    rw [Nat.div_div_eq_div_mul, ← pow_add, Nat.mul_assoc, signWord, hpow]
    generalize w / 2 ^ (l.fraction + l.exponent) = bit at *
    obtain rfl | rfl : bit = 0 ∨ bit = 1 := by omega
    · exact (Nat.zero_mul _).symm
    · exact (Nat.one_mul _).symm
  rw [hword, ← Nat.add_assoc, ← Nat.add_mul, Nat.div_add_mod', Nat.div_add_mod']

theorem infinityWord_eq (l : Layout) : l.infinityWord = (2 ^ l.exponent - 1) * 2 ^ l.fraction :=
  rfl

/-- The digits alone stand for a number with the smallest power of two. -/
theorem codes_least {l : Layout} (hexponent : 2 ≤ l.exponent) (negative : Bool) {f : Nat}
    (hf : f < 2 ^ l.fraction) :
    l.Codes (l.signWord negative + f) (.finite negative f l.leastExponent) := by
  rcases Nat.eq_zero_or_pos f with rfl | hpos
  · exact .zero negative _
  · have hE : 2 ^ 2 ≤ 2 ^ l.exponent := Nat.pow_le_pow_right two_pos hexponent
    have hword : l.wordOf f l.leastExponent = f := by
      rw [wordOf, Int.sub_self, Int.toNat_zero, Nat.zero_mul, Nat.zero_add]
    have hholds : l.Holds f l.leastExponent := by
      refine ⟨hpos, ?_, le_rfl, fun hlt => absurd hlt (lt_irrefl _)⟩
      exact hf.trans (Nat.pow_lt_pow_succ Nat.one_lt_two)
    have hlt : f < l.infinityWord := by
      rw [infinityWord_eq]
      exact lt_of_lt_of_le hf (Nat.le_mul_of_pos_left _ (by omega))
    simpa only [hword] using Codes.finite negative hholds (hword.symm ▸ hlt)

/-- An exponent before the digits stands for one more digit in front of them. -/
theorem codes_full {l : Layout} (negative : Bool) {k f : Nat} (hk : k + 2 < 2 ^ l.exponent)
    (hf : f < 2 ^ l.fraction) :
    l.Codes (l.signWord negative + ((k + 1) * 2 ^ l.fraction + f))
      (.finite negative (2 ^ l.fraction + f) (l.leastExponent + (k + 1 : Nat) - 1)) := by
  have hplace : (l.leastExponent + (k + 1 : Nat) - 1 - l.leastExponent).toNat = k := by omega
  have hword : l.wordOf (2 ^ l.fraction + f) (l.leastExponent + (k + 1 : Nat) - 1) =
      (k + 1) * 2 ^ l.fraction + f := by
    rw [wordOf, hplace, Nat.succ_mul, Nat.add_assoc]
  have hholds : l.Holds (2 ^ l.fraction + f) (l.leastExponent + (k + 1 : Nat) - 1) := by
    refine ⟨by omega, ?_, by omega, fun _ => Nat.le_add_right _ _⟩
    rw [pow_succ]
    omega
  have hlt : (k + 1) * 2 ^ l.fraction + f < l.infinityWord := by
    have hle : (k + 2) * 2 ^ l.fraction ≤ (2 ^ l.exponent - 1) * 2 ^ l.fraction :=
      Nat.mul_le_mul_right _ (by omega)
    rw [Nat.succ_mul] at hle
    rw [infinityWord_eq]
    omega
  rw [← hword]
  exact .finite negative hholds (hword.symm ▸ hlt)

/-- **A word stands for what it is decoded to.** -/
theorem codes_decode {l : Layout} (hexponent : 2 ≤ l.exponent) {w : Nat}
    (hw : w < 2 * 2 ^ (l.fraction + l.exponent)) : l.Codes w (l.decode w) := by
  have hpow : ∀ n, Nat.pow 2 n = 2 ^ n := fun _ => rfl
  have hfields := word_eq_fields hw
  have he := Nat.mod_lt (w / 2 ^ l.fraction) (Nat.two_pow_pos l.exponent)
  have hf := Nat.mod_lt w (Nat.two_pow_pos l.fraction)
  have hnan := @Codes.nan l w
  unfold decode
  simp only [hpow]
  generalize w / 2 ^ l.fraction % 2 ^ l.exponent = e at *
  generalize w % 2 ^ l.fraction = f at *
  generalize decide (w / 2 ^ (l.fraction + l.exponent) % 2 = 1) = negative at *
  split
  · rename_i hlast
    split
    · rename_i hzero
      rw [hfields, hlast, hzero, Nat.add_zero, ← infinityWord_eq]
      exact .infinite negative
    · rename_i hne
      exact hnan hlast hne
  · rename_i hlast
    split
    · rename_i hfirst
      rw [hfields, hfirst, Nat.zero_mul, Nat.zero_add]
      exact codes_least hexponent negative hf
    · rename_i hfirst
      obtain ⟨k, rfl⟩ := Nat.exists_eq_succ_of_ne_zero hfirst
      rw [hfields]
      exact codes_full negative (by omega) hf

end Binary.Layout

/-! ## Numbers read back -/

/-- The sign in front of a text. -/
theorem minus_eq (negative : Bool) (cs : List Char) :
    ∃ sign, SignText sign ∧ minus negative cs = sign ++ cs ∧ decide (sign = ['-']) = negative := by
  cases negative with
  | false => exact ⟨[], .none, rfl, rfl⟩
  | true => exact ⟨['-'], .minus, rfl, rfl⟩

/-- **The text of a number is read as a numeral with the word of the number.** -/
theorem exists_read?_display {l : Binary.Layout} (hexponent : 2 ≤ l.exponent)
    (hfraction : l.fraction < 53) {w : Nat} {d : Binary.Datum} (h : l.Codes w d) :
    ∃ n, Numeral.read? (l.display d) = some n ∧
      n.word l = if d = .nan then l.nanWord else w := by
  cases h with
  | nan _ _ => exact ⟨.nan false, rfl, rfl⟩
  | infinite negative => cases negative <;> exact ⟨.infinite _, rfl, rfl⟩
  | zero negative q =>
    refine ⟨.finite negative 0 0, ?_, ?_⟩
    · cases negative <;> rfl
    · simp [Numeral.word]
  | @finite m q negative hholds hw =>
    obtain ⟨-, hhas⟩ := Binary.Layout.has_shortest hfraction hholds .up
    obtain ⟨hmantissa, n, e, hread, heq⟩ := Decimal.positional_spec (l.shortest .up m q)
    obtain ⟨sign, hsign, htext, hnegative⟩ :=
      minus_eq negative (l.shortest .up m q).positional
    have hdisplay : l.display (.finite negative m q) =
        sign ++ (l.shortest .up m q).positional := by
      rw [← htext, Binary.Layout.display, if_neg hholds.pos.ne']
    have hnumber : ¬ Binary.Datum.finite negative m q = .nan := by
      intro hnan
      cases hnan
    refine ⟨_, hdisplay ▸ hmantissa.read? hsign hread, ?_⟩
    rw [if_neg hnumber, hnegative]
    exact Numeral.word_eq negative hexponent hholds (heq ▸ hhas) hw.le

/-- **A number is read as itself from its text.** -/
theorem readFloat?_displayFloat (x : Float) : readFloat? (displayFloat x) = some x := by
  have hw : x.toBits.toNat < 2 * 2 ^ (Binary.double.fraction + Binary.double.exponent) :=
    x.toBits.toNat_lt
  have hcodes := Binary.Layout.codes_decode (by decide) hw
  obtain ⟨n, hread, hword⟩ := exists_read?_display (by decide) (by decide) hcodes
  have hsame : n.word Binary.double = x.toBits.toNat := by
    rw [hword]
    split
    · rename_i hnan
      have hunique := @toBits_eq_nanWord x
      rw [hnan] at hcodes
      generalize x.toBits.toNat = w at hcodes hunique ⊢
      cases hcodes with
      | nan hlast hne => exact (hunique hlast hne).symm
    · rfl
  have hbits : floatOfWord x.toBits.toNat = x :=
    (congrArg Float.ofBits UInt64.ofNat_toNat).trans (Float.ofBits_toBits x)
  rw [readFloat?, displayFloat, floatDatum, hread, Option.map_some, hsame, hbits]

end Instrument.Number
