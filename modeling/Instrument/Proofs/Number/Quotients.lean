/-
# Quotients and powers

Numbers on their way into text and out of it are quotients of naturals, so that nothing is rounded
before its time.  What is done to them is said here of the rationals that they are: `scale` multiplies by
a power (`div_scale`), `floorLog2` and `floorLog10` find the power that a number begins with, and
`roundHalfEven` finds the integer that it rounds to (`RoundsTo.roundHalfEven_eq`).
-/
import Instrument.Number.Shortest
import Instrument.Proofs.Number.Rounding

namespace Instrument.Number

/-! ## Scaling -/

section Scale

variable {base num den : Nat}

theorem scale_pos (hbase : 0 < base) (e : Int) (hden : 0 < den) :
    0 < (scale base e num den).2 := by
  unfold scale
  split
  · exact hden
  · exact Nat.mul_pos hden (Nat.pow_pos hbase)

/-- **Scaling multiplies by a power.** -/
theorem div_scale (hbase : 0 < base) (e : Int) (num den : Nat) :
    ((scale base e num den).1 : ℚ) / (scale base e num den).2 = num / den * (base : ℚ) ^ e := by
  have hne : (base : ℚ) ≠ 0 := Nat.cast_ne_zero.2 hbase.ne'
  rcases Int.le_total 0 e with he | he
  · obtain ⟨k, rfl⟩ := Int.eq_ofNat_of_zero_le he
    rw [scale_natCast, zpow_natCast]
    push_cast
    ring
  · obtain ⟨k, hk⟩ := Int.eq_ofNat_of_zero_le (Int.neg_nonneg.2 he)
    obtain rfl : e = -(k : Int) := by omega
    rw [scale_neg_natCast, zpow_neg, zpow_natCast]
    push_cast
    rw [div_mul_eq_div_div, div_eq_mul_inv (_ / _)]

end Scale

/-! ## Powers -/

theorem lt_two_zpow_log2 (n : Nat) : (n : ℚ) < 2 ^ ((n.log2 : Int) + 1) := by
  have hlt : n < 2 ^ (n.log2 + 1) := Nat.lt_log2_self
  exact_mod_cast hlt

theorem two_zpow_log2_le {n : Nat} (hn : 0 < n) : (2 : ℚ) ^ (n.log2 : Int) ≤ n := by
  have hle : 2 ^ n.log2 ≤ n := Nat.log2_self_le hn.ne'
  exact_mod_cast hle

/-- **The power of two that a positive number begins with.** -/
theorem floorLog2_spec {num den : Nat} (hnum : 0 < num) (hden : 0 < den) :
    (2 : ℚ) ^ Binary.floorLog2 num den ≤ num / den ∧
      (num / den : ℚ) < 2 ^ (Binary.floorLog2 num den + 1) := by
  have hpos : (0 : ℚ) < den := Nat.cast_pos.2 hden
  generalize hk : (num.log2 : Int) - den.log2 = k
  have hpow : (0 : ℚ) < 2 ^ k := by positivity
  have hb : (0 : ℚ) < (scale 2 (-k) num den).2 := Nat.cast_pos.2 (scale_pos two_pos _ hden)
  -- the lengths of numerator and denominator leave two powers, and one comparison decides
  have hlow : (2 : ℚ) ^ (k - 1) ≤ num / den := by
    rw [le_div_iff₀ hpos]
    calc (2 : ℚ) ^ (k - 1) * den ≤ 2 ^ (k - 1) * 2 ^ ((den.log2 : Int) + 1) := by
          gcongr
          exact (lt_two_zpow_log2 den).le
      _ = 2 ^ (num.log2 : Int) := by
          rw [← zpow_add₀ two_ne_zero]
          congr 1
          omega
      _ ≤ num := two_zpow_log2_le hnum
  have hhigh : (num / den : ℚ) < 2 ^ (k + 1) := by
    rw [div_lt_iff₀ hpos]
    calc (num : ℚ) < 2 ^ ((num.log2 : Int) + 1) := lt_two_zpow_log2 num
      _ = 2 ^ (k + 1) * 2 ^ (den.log2 : Int) := by
          rw [← zpow_add₀ two_ne_zero]
          congr 1
          omega
      _ ≤ 2 ^ (k + 1) * den := by
          gcongr
          exact two_zpow_log2_le hden
  have hless : (scale 2 (-k) num den).1 < (scale 2 (-k) num den).2 ↔ (num / den : ℚ) < 2 ^ k := by
    rw [← Nat.cast_lt (α := ℚ), ← div_lt_one hb, div_scale two_pos, Nat.cast_ofNat, zpow_neg,
      ← div_eq_mul_inv, div_lt_one hpow]
  simp only [Binary.floorLog2, hk]
  split
  · rename_i h
    exact ⟨hlow, by rw [Int.sub_add_cancel]; exact hless.1 h⟩
  · rename_i h
    exact ⟨not_lt.1 (mt hless.2 h), hhigh⟩

theorem lt_pow_count (n : Nat) : n < 10 ^ Digits.count n := by
  unfold Digits.count
  split
  · rename_i h
    rw [h]
    exact Nat.one_pos
  · exact (Nat.length_toDigits_le_iff (by decide) (Nat.length_toDigits_pos)).1 le_rfl

theorem pow_count_le {n : Nat} (hn : 0 < n) : 10 ^ (Digits.count n - 1) ≤ n := by
  rw [Digits.count, if_neg hn.ne']
  rcases Nat.eq_zero_or_pos ((Digits.text n).length - 1) with h | h
  · rw [h]
    exact hn
  · refine Nat.not_lt.1 fun hlt => ?_
    have hle : (Digits.text n).length ≤ (Digits.text n).length - 1 := length_text_le h hlt
    omega

/-- **The power of ten that a positive number begins with** is not above it. -/
theorem ten_zpow_floorLog10_le {num den : Nat} (hnum : 0 < num) (hden : 0 < den) :
    (10 : ℚ) ^ floorLog10 num den ≤ num / den := by
  have hpos : (0 : ℚ) < den := Nat.cast_pos.2 hden
  unfold floorLog10
  split
  · rename_i hle
    have hquotient : 0 < num / den := Nat.div_pos hle hden
    have hcount : 0 < Digits.count (num / den) := by
      rw [Digits.count, if_neg hquotient.ne']
      exact Nat.length_toDigits_pos
    have hexponent : (Digits.count (num / den) : Int) - 1 =
        (Digits.count (num / den) - 1 : Nat) := by omega
    rw [hexponent, zpow_natCast]
    calc (10 : ℚ) ^ (Digits.count (num / den) - 1) ≤ (num / den : Nat) := by
          exact_mod_cast pow_count_le hquotient
      _ ≤ num / den := Nat.cast_div_le
  · rw [zpow_neg, zpow_natCast, inv_eq_one_div, div_le_div_iff₀ (by positivity) hpos, one_mul]
    have hlt : den - 1 < 10 ^ Digits.count ((den - 1) / num) * num := by
      rw [← Nat.div_lt_iff_lt_mul hnum]
      exact lt_pow_count _
    have hle : den ≤ num * 10 ^ Digits.count ((den - 1) / num) := by
      rw [Nat.mul_comm num]
      omega
    exact_mod_cast hle

/-- The number is below the next power of ten. -/
theorem lt_ten_zpow_floorLog10 {num den : Nat} (hnum : 0 < num) (hden : 0 < den) :
    (num / den : ℚ) < 10 ^ (floorLog10 num den + 1) := by
  have hpos : (0 : ℚ) < den := Nat.cast_pos.2 hden
  unfold floorLog10
  split
  · rw [Int.sub_add_cancel, zpow_natCast, div_lt_iff₀ hpos]
    have hlt : num < 10 ^ Digits.count (num / den) * den :=
      (Nat.div_lt_iff_lt_mul hden).1 (lt_pow_count _)
    exact_mod_cast hlt
  · rename_i hlt
    have hquotient : 0 < (den - 1) / num := Nat.div_pos (by omega) hnum
    have hcount : 0 < Digits.count ((den - 1) / num) := by
      rw [Digits.count, if_neg hquotient.ne']
      exact Nat.length_toDigits_pos
    have hexponent : -(Digits.count ((den - 1) / num) : Int) + 1 =
        -((Digits.count ((den - 1) / num) - 1 : Nat) : Int) := by omega
    rw [hexponent, zpow_neg, zpow_natCast, inv_eq_one_div, div_lt_div_iff₀ hpos (by positivity),
      one_mul]
    have hle : 10 ^ (Digits.count ((den - 1) / num) - 1) * num ≤ den - 1 :=
      (Nat.le_div_iff_mul_le hnum).1 (pow_count_le hquotient)
    have hbelow : num * 10 ^ (Digits.count ((den - 1) / num) - 1) < den := by
      rw [Nat.mul_comm]
      omega
    exact_mod_cast hbelow

/-! ## Rounding -/

/-- Does a number round to the natural number `n`?  It is no farther than a half from it, and just a
half only if `n` is even. -/
def RoundsTo (x : ℚ) (n : Nat) : Prop :=
  if n % 2 = 0 then |x - n| ≤ 1 / 2 else |x - n| < 1 / 2

namespace RoundsTo

variable {x : ℚ} {m n : Nat}

theorem abs_sub_le (h : RoundsTo x n) : |x - n| ≤ 1 / 2 := by
  unfold RoundsTo at h
  split at h
  · exact h
  · exact h.le

theorem abs_sub_lt (h : RoundsTo x n) (hodd : n % 2 ≠ 0) : |x - n| < 1 / 2 := by
  rwa [RoundsTo, if_neg hodd] at h

/-- A number rounds to one natural number only: of two neighbours one is odd. -/
theorem unique (hm : RoundsTo x m) (hn : RoundsTo x n) : m = n := by
  wlog hle : m ≤ n generalizing m n
  · exact (this hn hm (Nat.le_of_not_le hle)).symm
  obtain ⟨hmlow, hmhigh⟩ := abs_le.1 hm.abs_sub_le
  obtain ⟨hnlow, hnhigh⟩ := abs_le.1 hn.abs_sub_le
  have hnear : n ≤ m + 1 := by
    have hcast : (n : ℚ) ≤ m + 1 := by linarith
    exact_mod_cast hcast
  refine Nat.le_antisymm hle (Nat.not_lt.1 fun hlt => ?_)
  obtain rfl : n = m + 1 := by omega
  rw [Nat.cast_succ] at hnlow
  rcases Nat.mod_two_eq_zero_or_one m with heven | hodd
  · have hstrict := (abs_lt.1 (hn.abs_sub_lt (by omega))).1
    rw [Nat.cast_succ] at hstrict
    linarith
  · have hstrict := (abs_lt.1 (hm.abs_sub_lt (by omega))).2
    linarith

/-- What rounds to a multiple of ten rounds to it one place further in front, too. -/
theorem of_mul_ten (h : RoundsTo (10 * x) (10 * n)) : RoundsTo x n := by
  have hle := h.abs_sub_le
  rw [Nat.cast_mul, Nat.cast_ofNat, ← mul_sub, abs_mul, abs_of_pos (by norm_num)] at hle
  unfold RoundsTo
  split <;> linarith

/-- What lies between the halves below and above a natural number rounds to it. -/
theorem of_bounds {num den : Nat} (hden : 0 < den) (hlow : 2 * (n * den) ≤ 2 * num + den)
    (hhigh : 2 * num ≤ 2 * (n * den) + den)
    (hodd : n % 2 ≠ 0 → 2 * (n * den) < 2 * num + den ∧ 2 * num < 2 * (n * den) + den) :
    RoundsTo (num / den) n := by
  have hpos : (0 : ℚ) < den := Nat.cast_pos.2 hden
  have hclear : (num / den - n : ℚ) = (2 * num - 2 * (n * den)) / (2 * den) := by field_simp
  have hdouble : (0 : ℚ) < 2 * den := by positivity
  unfold RoundsTo
  rw [hclear]
  split
  · have hcast : (2 * (n * den) : ℚ) ≤ 2 * num + den ∧ (2 * num : ℚ) ≤ 2 * (n * den) + den := by
      exact_mod_cast And.intro hlow hhigh
    rw [abs_le, le_div_iff₀ hdouble, div_le_iff₀ hdouble]
    constructor <;> linarith
  · rename_i hn
    have hcast : (2 * (n * den) : ℚ) < 2 * num + den ∧ (2 * num : ℚ) < 2 * (n * den) + den := by
      exact_mod_cast hodd hn
    rw [abs_lt, lt_div_iff₀ hdouble, div_lt_iff₀ hdouble]
    constructor <;> linarith

end RoundsTo

/-- **A quotient rounds to what it is rounded to**, and to no other number. -/
theorem roundsTo_roundHalfEven {den : Nat} (hden : 0 < den) (num : Nat) :
    RoundsTo (num / den) (roundHalfEven num den) := by
  have hdiv : num / den * den + num % den = num := Nat.div_add_mod' num den
  have hmod := Nat.mod_lt num hden
  have hnext : (num / den + 1) * den = num / den * den + den := Nat.succ_mul _ _
  apply RoundsTo.of_bounds hden <;> unfold roundHalfEven <;> dsimp only <;> split_ifs <;> omega

theorem RoundsTo.roundHalfEven_eq {num den n : Nat} (h : RoundsTo (num / den) n) (hden : 0 < den) :
    roundHalfEven num den = n :=
  (roundsTo_roundHalfEven hden num).unique h

end Instrument.Number
