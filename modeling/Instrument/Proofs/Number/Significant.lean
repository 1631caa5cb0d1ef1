/-
# Significant digits

A positive number is rounded to significant digits at the place that the first of its digits
determines (`RoundsToDigits`).  `scientific` does so (`roundsToDigits_scientific`): the digits of
the quotient are rounded, and if they become one more, the first of them is carried into the
exponent.

`fixed` rounds the quotient again, at the place that the exponent left.  If a digit was carried this
is another place than the first time, but the number is then so close to a power of ten that both
roundings reach it (`fixed_scientific`).
-/
import Instrument.Number.Places
import Instrument.Proofs.Number.Quotients
import Mathlib.Data.Int.Log

namespace Instrument.Number

/-! ## Rounding to significant digits -/

/-- The power of ten that a number begins with is its logarithm. -/
theorem log_eq_of_zpow {x : ℚ} {k : Int} (hlow : 10 ^ k ≤ x) (hhigh : x < 10 ^ (k + 1)) :
    Int.log 10 x = k := by
  have hpos : 0 < x := lt_of_lt_of_le (by positivity) hlow
  have hle : k ≤ Int.log 10 x :=
    (Int.zpow_le_iff_le_log (by norm_num) hpos).1 (by exact_mod_cast hlow)
  have hlt : Int.log 10 x < k + 1 :=
    (Int.lt_zpow_iff_log_lt (by norm_num) hpos).1 (by exact_mod_cast hhigh)
  omega

/-- The power of ten of the last of so many digits of a number. -/
def lastPlace (digits : Nat) (x : ℚ) : Int := Int.log 10 x + 1 - digits

/-- Does a number round to another one that has so many significant digits?  Of two that are equally
near it is the one whose last digit is even. -/
def RoundsToDigits (digits : Nat) (x r : ℚ) : Prop :=
  ∃ n : Nat, RoundsTo (x / 10 ^ lastPlace digits x) n ∧ r = n * 10 ^ lastPlace digits x

theorem RoundsToDigits.unique {digits : Nat} {x r t : ℚ} (hr : RoundsToDigits digits x r)
    (ht : RoundsToDigits digits x t) : r = t := by
  obtain ⟨m, hm, rfl⟩ := hr
  obtain ⟨n, hn, rfl⟩ := ht
  rw [hm.unique hn]

/-! ## Scientific notation -/

namespace Scientific

/-- The number that digits and an exponent stand for, with so many places after the first digit. -/
def toRat (places : Nat) (x : Scientific) : ℚ := x.digits * 10 ^ (x.exponent - places)

/-- Are the digits as many as the places and one more? -/
structure Full (places : Nat) (x : Scientific) : Prop where
  le : 10 ^ places ≤ x.digits
  lt : x.digits < 10 ^ (places + 1)

/-- The exponent of a full number is its logarithm. -/
theorem Full.log_eq {places : Nat} {x : Scientific} (h : x.Full places) :
    Int.log 10 (x.toRat places) = x.exponent := by
  have hle : (10 : ℚ) ^ places ≤ x.digits := by exact_mod_cast h.le
  have hlt : (x.digits : ℚ) < 10 ^ (places + 1) := by exact_mod_cast h.lt
  apply log_eq_of_zpow
  · calc (10 : ℚ) ^ x.exponent = 10 ^ places * 10 ^ (x.exponent - places) := by
          rw [← zpow_natCast, ← zpow_add₀ (by norm_num)]
          congr 1
          omega
      _ ≤ x.toRat places := by
          unfold toRat
          gcongr
  · calc x.toRat places < 10 ^ (places + 1) * 10 ^ (x.exponent - places) := by
          unfold toRat
          gcongr
      _ = 10 ^ (x.exponent + 1) := by
          rw [← zpow_natCast, ← zpow_add₀ (by norm_num)]
          congr 1
          push_cast
          omega

end Scientific

section Quotient

variable {num den : Nat}

/-- How `scientific` rounds: `n` is the quotient without the power of ten of its last place. -/
theorem exists_scientific (places : Nat) (hnum : 0 < num) (hden : 0 < den) :
    ∃ k n, Int.log 10 (num / den : ℚ) = k ∧
      RoundsTo (num / den * 10 ^ (places - k)) n ∧ 10 ^ places ≤ n ∧ n ≤ 10 ^ (places + 1) ∧
      scientific places num den =
        if n = 10 ^ (places + 1) then ⟨10 ^ places, k + 1⟩ else ⟨n, k⟩ := by
  have hlow := ten_zpow_floorLog10_le hnum hden
  have hhigh := lt_ten_zpow_floorLog10 hnum hden
  generalize hk : floorLog10 num den = k at hlow hhigh
  rcases hscale : scale 10 (places - k) num den with ⟨a, b⟩
  have hb : 0 < b := by
    have h := @scale_pos 10 num den (by decide) (places - k) hden
    rwa [hscale] at h
  have hquotient : (a / b : ℚ) = num / den * 10 ^ (places - k) := by
    have h := @div_scale 10 (by decide) (places - k) num den
    rwa [hscale] at h
  have hbpos : (0 : ℚ) < b := Nat.cast_pos.2 hb
  have hpow : (0 : ℚ) < 10 ^ (places - k) := by positivity
  refine ⟨k, roundHalfEven a b, log_eq_of_zpow hlow hhigh, ?_, ?_, ?_, ?_⟩
  · rw [← hquotient]
    exact roundsTo_roundHalfEven hb a
  · apply le_roundHalfEven hb
    have hle : (10 ^ places : ℚ) ≤ a / b := by
      calc (10 ^ places : ℚ) = 10 ^ k * 10 ^ (places - k) := by
            rw [← zpow_add₀ (by norm_num), ← zpow_natCast]
            congr 1
            omega
        _ ≤ num / den * 10 ^ (places - k) := by gcongr
        _ = a / b := hquotient.symm
    rw [le_div_iff₀ hbpos] at hle
    exact_mod_cast hle
  · apply roundHalfEven_le hb
    have hlt : (a / b : ℚ) < 10 ^ (places + 1) := by
      calc (a / b : ℚ) = num / den * 10 ^ (places - k) := hquotient
        _ < 10 ^ (k + 1) * 10 ^ (places - k) := by gcongr
        _ = 10 ^ (places + 1) := by
            rw [← zpow_add₀ (by norm_num), ← zpow_natCast]
            congr 1
            push_cast
            omega
    rw [div_lt_iff₀ hbpos] at hlt
    exact_mod_cast hlt.le
  · simp only [scientific, if_neg hnum.ne', hk, hscale]
    rfl

theorem full_scientific (places : Nat) (hnum : 0 < num) (hden : 0 < den) :
    (scientific places num den).Full places := by
  obtain ⟨k, n, -, -, hle, hge, hscientific⟩ := exists_scientific places hnum hden
  rw [hscientific]
  split
  · exact ⟨le_rfl, Nat.pow_lt_pow_right (by decide) (Nat.lt_succ_self places)⟩
  · rename_i hn
    exact ⟨hle, lt_of_le_of_ne hge hn⟩

/-- **Scientific notation rounds to significant digits.** -/
theorem roundsToDigits_scientific (places : Nat) (hnum : 0 < num) (hden : 0 < den) :
    RoundsToDigits (places + 1) (num / den) ((scientific places num den).toRat places) := by
  obtain ⟨k, n, hlog, hround, -, -, hscientific⟩ := exists_scientific places hnum hden
  have hplace : lastPlace (places + 1) (num / den) = k - places := by
    unfold lastPlace
    omega
  refine ⟨n, ?_, ?_⟩
  · rwa [hplace, div_eq_mul_inv, ← zpow_neg, neg_sub]
  · rw [hplace, hscientific]
    split
    · rename_i hn
      -- One digit more is the same number with the next exponent.
      have hcarry : k + 1 - (places : Int) = 1 + (k - places) := by omega
      rw [Scientific.toRat, hn, hcarry, zpow_one_add₀ (by norm_num)]
      push_cast
      ring
    · rfl

/-- **Fixed notation has the digits of scientific notation**, if it has a place for the last of
them. -/
theorem fixed_scientific {places c : Nat} (hnum : 0 < num) (hden : 0 < den)
    (hc : (places : Int) - (scientific places num den).exponent = c) :
    fixed c num den = withPlaces c (scientific places num den).digits := by
  obtain ⟨k, n, -, hround, -, -, hscientific⟩ := exists_scientific places hnum hden
  have hfixed : fixed c num den = withPlaces c (roundHalfEven (num * 10 ^ c) den) := rfl
  have hshift : ((num * 10 ^ c : Nat) / den : ℚ) = num / den * 10 ^ c := by
    push_cast
    ring
  rw [hscientific] at hc ⊢
  rw [hfixed]
  congr 1
  apply RoundsTo.roundHalfEven_eq _ hden
  rw [hshift]
  by_cases hn : n = 10 ^ (places + 1)
  · rw [if_pos hn] at hc ⊢
    have hcarry : (places : Int) - k = c + 1 := by
      dsimp only at hc
      omega
    rw [hn, hcarry, zpow_add_one₀ (by norm_num), zpow_natCast, pow_succ, ← mul_assoc, mul_comm _ 10,
      Nat.mul_comm _ 10] at hround
    exact hround.of_mul_ten
  · rw [if_neg hn] at hc ⊢
    rwa [hc, zpow_natCast] at hround

end Quotient

end Instrument.Number
