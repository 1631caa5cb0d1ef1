/-
# The nearest number of a binary format

The numbers that round to `m · 2^q` fill the interval `Binary.Layout.interval`, and each of them has the
word of `m · 2^q` for its nearest one (`nearest_eq`).  A number just below a power of two begins with
a smaller power, and what it is rounded to has one digit more than the format holds; that is carried
into the exponent, and the word is the same.

A numeral is not settled by its length then either, since the number that it stands for is near to one
of the format (`Numeral.word_eq`).
-/
import Instrument.Proofs.Number.Quotients

namespace Instrument.Number

namespace Binary.Layout

/-- Is `m · 2^q` a positive number of the format?  Its digits fill the fraction, with one in front,
unless it is one of the smallest numbers. -/
structure Holds (l : Layout) (m : Nat) (q : Int) : Prop where
  pos : 0 < m
  fits : m < 2 ^ (l.fraction + 1)
  least : l.leastExponent ≤ q
  full : l.leastExponent < q → 2 ^ l.fraction ≤ m

/-- The word of the number `m · 2^q`. -/
def wordOf (l : Layout) (m : Nat) (q : Int) : Nat :=
  (q - l.leastExponent).toNat * 2 ^ l.fraction + m

end Binary.Layout

/-- Does a number lie in an interval whose quarters are worth `2^(q-2)`? -/
def RoundingInterval.Has (i : RoundingInterval) (q : Int) (x : ℚ) : Prop :=
  if i.closed then i.low * 2 ^ (q - 2) ≤ x ∧ x ≤ i.high * 2 ^ (q - 2)
  else i.low * 2 ^ (q - 2) < x ∧ x < i.high * 2 ^ (q - 2)

namespace RoundingInterval

variable {i : RoundingInterval} {q : Int} {x : ℚ}

theorem Has.le (h : i.Has q x) : i.low * 2 ^ (q - 2) ≤ x ∧ x ≤ i.high * 2 ^ (q - 2) := by
  unfold Has at h
  split at h
  · exact h
  · exact ⟨h.1.le, h.2.le⟩

end RoundingInterval

/-- A power of two in quarters. -/
theorem two_zpow_quarters (q : Int) : (2 : ℚ) ^ q = 4 * 2 ^ (q - 2) := by
  rw [show (4 : ℚ) = 2 ^ (2 : Int) by norm_num, ← zpow_add₀ two_ne_zero]
  congr 1
  omega

theorem two_zpow_half (q : Int) : (2 : ℚ) ^ (q - 1) = 2 * 2 ^ (q - 2) := by
  rw [← zpow_one_add₀ two_ne_zero]
  congr 1
  omega

namespace Binary.Layout

variable {l : Layout} {m : Nat} {q : Int} {x : ℚ}

/-- How far below the number its interval begins, in quarters. -/
theorem interval_low_cases (hm : 0 < m) :
    ((l.interval m q).low : ℚ) = 4 * m - 2 ∧ ¬ (m = 2 ^ l.fraction ∧ l.leastExponent < q) ∨
      ((l.interval m q).low : ℚ) = 4 * m - 1 ∧ m = 2 ^ l.fraction := by
  have hpow : Nat.pow 2 l.fraction = 2 ^ l.fraction := rfl
  simp only [interval, hpow]
  split
  · rename_i h
    rw [Nat.cast_sub (by omega)]
    push_cast
    exact .inr ⟨rfl, h.1⟩
  · rename_i h
    rw [Nat.cast_sub (by omega)]
    push_cast
    exact .inl ⟨rfl, h⟩

theorem interval_high (l : Layout) (m : Nat) (q : Int) :
    ((l.interval m q).high : ℚ) = 4 * m + 2 := by
  simp [interval]

theorem interval_closed_iff : (l.interval m q).closed = true ↔ m % 2 = 0 := by
  simp [interval]

/-- What lies in the interval of a number rounds to its digits. -/
theorem roundsTo_of_has (hm : 0 < m) (h : (l.interval m q).Has q x) : RoundsTo (x / 2 ^ q) m := by
  have hquarter : (0 : ℚ) < 2 ^ (q - 2) := by positivity
  have hscale : ∀ a : ℚ, a * 2 ^ (q - 2) = a / 4 * 2 ^ q := fun a => by
    rw [two_zpow_quarters q]
    ring
  have hpow : (0 : ℚ) < 2 ^ q := by positivity
  have hlow : (m : ℚ) - 1 / 2 ≤ (l.interval m q).low / 4 := by
    rcases interval_low_cases (l := l) (q := q) hm with ⟨h, -⟩ | ⟨h, -⟩ <;> (rw [h]; linarith)
  have hhigh : ((l.interval m q).high : ℚ) / 4 = m + 1 / 2 := by
    rw [interval_high]
    ring
  unfold RoundingInterval.Has at h
  simp only [hscale, ← le_div_iff₀ hpow, ← div_le_iff₀ hpow, ← lt_div_iff₀ hpow,
    ← div_lt_iff₀ hpow, interval_closed_iff, hhigh] at h
  unfold RoundsTo
  split
  · rename_i heven
    rw [if_pos heven] at h
    exact abs_le.2 ⟨by linarith [h.1], by linarith [h.2]⟩
  · rename_i hodd
    rw [if_neg hodd] at h
    exact abs_lt.2 ⟨by linarith [h.1], by linarith [h.2]⟩

/-- What lies in the interval of a number is more than half of it, and within its power of two. -/
theorem bounds_of_has (hholds : l.Holds m q) (h : (l.interval m q).Has q x) :
    m * 2 ^ (q - 1) ≤ x ∧ x < 2 ^ (l.fraction + 1 + q) := by
  have hquarter : (0 : ℚ) < 2 ^ (q - 2) := by positivity
  have hpos : (1 : ℚ) ≤ m := by exact_mod_cast hholds.pos
  have hfits : (m : ℚ) + 1 ≤ 2 ^ (l.fraction + 1) := by exact_mod_cast hholds.fits
  obtain ⟨hlow, hhigh⟩ := h.le
  constructor
  · have hcase : 4 * (m : ℚ) - 2 ≤ (l.interval m q).low := by
      rcases interval_low_cases (l := l) (q := q) hholds.pos with ⟨h, -⟩ | ⟨h, -⟩
      · rw [h]
      · rw [h]
        linarith
    rw [two_zpow_half]
    nlinarith
  · rw [interval_high] at hhigh
    calc x ≤ (4 * m + 2) * 2 ^ (q - 2) := hhigh
      _ < (m + 1) * (4 * 2 ^ (q - 2)) := by nlinarith
      _ ≤ 2 ^ (l.fraction + 1) * (4 * 2 ^ (q - 2)) := by gcongr
      _ = 2 ^ (l.fraction + 1 + q) := by
        rw [← two_zpow_quarters, ← zpow_natCast, ← zpow_add₀ two_ne_zero]
        norm_cast

/-- What lies below a power of two, in its interval, rounds to it with one digit more. -/
theorem roundsTo_of_lt (hholds : l.Holds m q) (h : (l.interval m q).Has q x)
    (hx : x < 2 ^ (l.fraction + q)) (hq : l.leastExponent < q) :
    m = 2 ^ l.fraction ∧ RoundsTo (x / 2 ^ (q - 1)) (2 ^ (l.fraction + 1)) := by
  have hquarter : (0 : ℚ) < 2 ^ (q - 2) := by positivity
  have hfull : (2 ^ l.fraction : ℚ) ≤ m := by exact_mod_cast hholds.full hq
  have hx : x < 2 ^ l.fraction * (4 * 2 ^ (q - 2)) := by
    rwa [← two_zpow_quarters, ← zpow_natCast, ← zpow_add₀ two_ne_zero]
  obtain ⟨hlow, -⟩ := h.le
  rcases interval_low_cases (l := l) (q := q) hholds.pos with ⟨hcase, hnot⟩ | ⟨hcase, rfl⟩
  · have hnext : 2 ^ l.fraction + 1 ≤ m :=
      Nat.lt_of_le_of_ne (hholds.full hq) fun heq => hnot ⟨heq.symm, hq⟩
    have hnext : (2 ^ l.fraction : ℚ) + 1 ≤ m := by exact_mod_cast hnext
    rw [hcase] at hlow
    nlinarith
  · rw [hcase] at hlow
    push_cast at hlow
    have heven : 2 ^ (l.fraction + 1) % 2 = 0 := by omega
    refine ⟨rfl, ?_⟩
    rw [RoundsTo, if_pos heven, two_zpow_half, abs_le, le_sub_iff_add_le, sub_le_iff_le_add,
      le_div_iff₀ (by positivity), div_le_iff₀ (by positivity)]
    push_cast
    rw [pow_succ]
    constructor <;> nlinarith

/-- The nearest word, by the power of two of its last place and what its digits round to. -/
theorem nearest_of_roundsTo {num den n : Nat} (hnum : 0 < num) (hden : 0 < den)
    (hq : max (floorLog2 num den - l.fraction) l.leastExponent = q)
    (h : RoundsTo (num / den / 2 ^ q) n) : l.nearest num den = min (l.wordOf n q) l.infinityWord := by
  have hround : roundHalfEven (scale 2 (-q) num den).1 (scale 2 (-q) num den).2 = n := by
    refine RoundsTo.roundHalfEven_eq ?_ (scale_pos two_pos _ hden)
    rwa [div_scale two_pos, Nat.cast_ofNat, zpow_neg, ← div_eq_mul_inv]
  simp only [nearest, if_neg hnum.ne', hq, hround]
  rfl

/-- The word of a power of two is that of its digits with one more, a place further down. -/
theorem wordOf_carry (hq : l.leastExponent < q) :
    l.wordOf (2 ^ (l.fraction + 1)) (q - 1) = l.wordOf (2 ^ l.fraction) q := by
  obtain ⟨e, he⟩ : ∃ e : Nat, q = l.leastExponent + e + 1 := ⟨(q - l.leastExponent - 1).toNat, by omega⟩
  have hlow : (q - 1 - l.leastExponent).toNat = e := by omega
  have hhigh : (q - l.leastExponent).toNat = e + 1 := by omega
  rw [wordOf, wordOf, hlow, hhigh, pow_succ]
  ring

/-- **What lies in the interval of a number has its word for the nearest one.** -/
theorem nearest_eq {num den : Nat} (hden : 0 < den) (hholds : l.Holds m q)
    (h : (l.interval m q).Has q (num / den)) (hw : l.wordOf m q ≤ l.infinityWord) :
    l.nearest num den = l.wordOf m q := by
  have hround := roundsTo_of_has hholds.pos h
  obtain ⟨hlow, hlt⟩ := bounds_of_has hholds h
  have hnum : 0 < num := by
    have hm : (0 : ℚ) < m := by exact_mod_cast hholds.pos
    have hx : (0 : ℚ) < num / den := lt_of_lt_of_le (by positivity) hlow
    refine Nat.pos_of_ne_zero fun hzero => ?_
    rw [hzero, Nat.cast_zero, zero_div] at hx
    exact lt_irrefl 0 hx
  obtain ⟨hk, hk'⟩ := floorLog2_spec hnum hden
  have hleast := hholds.least
  have hupper : floorLog2 num den < l.fraction + 1 + q :=
    (zpow_lt_zpow_iff_right₀ one_lt_two).1 (hk.trans_lt hlt)
  by_cases hbelow : (num / den : ℚ) < 2 ^ (l.fraction + q) ∧ l.leastExponent < q
  · -- just below a power of two the last place is worth half as much
    obtain ⟨hbelow, hq⟩ := hbelow
    obtain ⟨rfl, hcarry⟩ := roundsTo_of_lt hholds h hbelow hq
    have hlow : (2 : ℚ) ^ (l.fraction + (q - 1)) ≤ num / den := by
      rw [zpow_add₀ two_ne_zero, zpow_natCast]
      exact_mod_cast hlow
    have hlower := (zpow_lt_zpow_iff_right₀ one_lt_two).1 (hlow.trans_lt hk')
    have hhigher := (zpow_lt_zpow_iff_right₀ one_lt_two).1 (hk.trans_lt hbelow)
    rw [nearest_of_roundsTo hnum hden (by omega) hcarry, wordOf_carry hq, Nat.min_eq_left hw]
  · have hlower : q = l.leastExponent ∨ l.fraction + q < floorLog2 num den + 1 := by
      refine or_iff_not_imp_left.2 fun hq => ?_
      have hle : (2 : ℚ) ^ (l.fraction + q) ≤ num / den := by
        refine not_lt.1 fun hlt => hbelow ⟨hlt, by omega⟩
      exact (zpow_lt_zpow_iff_right₀ one_lt_two).1 (hle.trans_lt hk')
    rw [nearest_of_roundsTo hnum hden (by omega) hround, Nat.min_eq_left hw]

/-- A word that is not above that of infinity has no greater power of two than the format. -/
theorem le_of_wordOf_le (hholds : l.Holds m q) (hexponent : 2 ≤ l.exponent)
    (hw : l.wordOf m q ≤ l.infinityWord) :
    q < l.leastExponent + 2 ^ l.exponent ∧
      l.leastExponent = 2 - 2 ^ (l.exponent - 1) - l.fraction ∧
      (2 ^ l.exponent : Int) = 2 * 2 ^ (l.exponent - 1) ∧ (2 : Int) ≤ 2 ^ (l.exponent - 1) := by
  obtain ⟨e, he⟩ := Nat.exists_eq_add_of_le' hexponent
  have hinfinity : l.infinityWord = (2 ^ l.exponent - 1) * 2 ^ l.fraction := rfl
  have hle : (q - l.leastExponent).toNat ≤ 2 ^ l.exponent - 1 := by
    refine Nat.le_of_mul_le_mul_right ?_ (Nat.two_pow_pos l.fraction)
    rw [← hinfinity]
    exact Nat.le_trans (Nat.le_add_right _ _) hw
  have hpow := Nat.two_pow_pos l.exponent
  have hleast := hholds.least
  have hhalf : l.exponent - 1 = e + 1 := by omega
  refine ⟨?_, rfl, ?_, ?_⟩
  · have hcast : ((2 ^ l.exponent : Nat) : Int) = 2 ^ l.exponent := by norm_cast
    omega
  · rw [hhalf, he]
    ring
  · rw [hhalf, pow_succ]
    have : (1 : Int) ≤ 2 ^ e := one_le_pow₀ (by decide)
    omega

end Binary.Layout

/-! ## Numerals -/

/-- A positive number lies between the powers of ten that its digits reach. -/
theorem ten_zpow_bounds {m : Nat} (hm : 0 < m) (e : Int) :
    (10 : ℚ) ^ (e + Digits.count m - 1) ≤ m * 10 ^ e ∧ (m * 10 ^ e : ℚ) < 10 ^ (e + Digits.count m) := by
  have hcount : 0 < Digits.count m := by
    rw [Digits.count, if_neg hm.ne']
    exact Nat.length_toDigits_pos
  obtain ⟨k, hk⟩ := Nat.exists_eq_add_of_le' hcount
  have hlow : (10 ^ k : ℚ) ≤ m := by
    have := pow_count_le hm
    rw [hk, Nat.add_sub_cancel] at this
    exact_mod_cast this
  have hhigh : (m : ℚ) < 10 ^ Digits.count m := by exact_mod_cast lt_pow_count m
  constructor
  · have hexponent : e + (Digits.count m : Int) - 1 = k + e := by omega
    rw [hexponent, zpow_add₀ (by norm_num), zpow_natCast]
    gcongr
  · rw [Int.add_comm, zpow_add₀ (by norm_num), zpow_natCast]
    gcongr

/-- Powers of ten that are not below one are above those of two. -/
theorem lt_of_ten_zpow_lt {a b : Int} (ha : 0 ≤ a) (h : (10 : ℚ) ^ a < 2 ^ b) : a < b := by
  have hpow : (2 : ℚ) ^ a ≤ 10 ^ a := zpow_le_zpow_left₀ ha (by norm_num) (by norm_num)
  exact (zpow_lt_zpow_iff_right₀ one_lt_two).1 (hpow.trans_lt h)

/-- Powers of ten that are not above one are below those of two. -/
theorem lt_of_two_zpow_lt {a b : Int} (hb : b ≤ 0) (h : (2 : ℚ) ^ a < 10 ^ b) : a < b := by
  have hpow : (10 : ℚ) ^ b ≤ 2 ^ b := by
    have hinv : (10⁻¹ : ℚ) ^ (-b) ≤ 2⁻¹ ^ (-b) :=
      zpow_le_zpow_left₀ (Int.neg_nonneg_of_nonpos hb) (by norm_num) (by norm_num)
    rwa [inv_zpow', inv_zpow', neg_neg] at hinv
  exact (zpow_lt_zpow_iff_right₀ one_lt_two).1 (h.trans_le hpow)

/-- **A numeral in the interval of a number has its word.**  It is near to a number of the format, so its
leading digit is not past all of them and not below. -/
theorem Numeral.word_eq {l : Binary.Layout} {m : Nat} {q : Int} (negative : Bool) {n : Nat} {e : Int}
    (hexponent : 2 ≤ l.exponent) (hholds : l.Holds m q) (h : (l.interval m q).Has q (n * 10 ^ e))
    (hw : l.wordOf m q ≤ l.infinityWord) :
    (Numeral.finite negative n e).word l = l.signWord negative + l.wordOf m q := by
  obtain ⟨hlow, hhigh⟩ := Binary.Layout.bounds_of_has hholds h
  obtain ⟨hq, hleast, hdouble, htwo⟩ := Binary.Layout.le_of_wordOf_le hholds hexponent hw
  have hleastq := hholds.least
  have hm : (1 : ℚ) ≤ m := by exact_mod_cast hholds.pos
  have hn : 0 < n := by
    refine Nat.pos_of_ne_zero fun hzero => ?_
    rw [hzero, Nat.cast_zero, zero_mul] at hlow
    have : (0 : ℚ) < m * 2 ^ (q - 1) := by positivity
    exact absurd hlow (not_le.2 this)
  obtain ⟨hten, hten'⟩ := ten_zpow_bounds hn e
  generalize htop : e + (Digits.count n : Int) = top at hten hten'
  have hnot : ¬ 2 ^ l.exponent + (l.fraction : Int) < top := by
    intro hlimit
    have hless := lt_of_ten_zpow_lt (by omega) (hten.trans_lt hhigh)
    omega
  have hnot' : ¬ top < -(2 ^ l.exponent + (l.fraction : Int)) := by
    intro hlimit
    have hlast : (2 : ℚ) ^ (q - 1) ≤ m * 2 ^ (q - 1) := le_mul_of_one_le_left (by positivity) hm
    have hless := lt_of_two_zpow_lt (by omega) ((hlast.trans hlow).trans_lt hten')
    omega
  have hscale : ((scale 10 e n 1).1 : ℚ) / (scale 10 e n 1).2 = n * 10 ^ e := by
    rw [div_scale (by decide), Nat.cast_one, div_one]
    norm_cast
  have hnearest := Binary.Layout.nearest_eq (scale_pos (by decide) e Nat.one_pos) hholds
    (hscale ▸ h) hw
  have hpow : (Nat.pow 2 l.exponent : Int) = 2 ^ l.exponent := by norm_cast
  simp only [word, hpow, htop, hnearest]
  rw [if_neg (by rintro (h | h); exacts [hn.ne' h, hnot' h]), if_neg hnot]

end Instrument.Number
