/-
# Integers as binary64 numbers

The `binary64` number nearest to an integer is again an integer, the one that has 53 binary digits and
zeros behind them (`roundNat`), and none of that form is nearer (`roundNat_nearest`).  What a word
stands for is counted in the last place of the smallest numbers (`wordUnits`); there it is a natural
number, larger for a larger word, and that of the word nearest to an integer is the rounded integer
(`wordUnits_nearest`).  So two integers compare as `binary64` numbers as they do when both are rounded
(`IsNearest.lt_iff`).
-/
import Instrument.Proofs.Number.Numerals
import Instrument.Proofs.Number.Words

namespace Instrument.Number

/-! ## What words stand for -/

/-- The number of a finite word without its sign, counted in the last place of the smallest
numbers. -/
def wordUnits (w : Nat) : Nat := wordMantissa w * 2 ^ (max (w / 2 ^ 52) 1 - 1)

theorem wordUnits_strictMono : StrictMono wordUnits := by
  refine strictMono_nat_of_lt_succ fun w => ?_
  unfold wordUnits
  by_cases hlast : w % 2 ^ 52 = 2 ^ 52 - 1
  · have hnext : max ((w + 1) / 2 ^ 52) 1 - 1 = w / 2 ^ 52 := by omega
    have hmantissa : wordMantissa (w + 1) = 2 ^ 52 := by
      unfold wordMantissa
      split_ifs <;> omega
    rw [hnext, hmantissa]
    unfold wordMantissa
    rcases Nat.eq_zero_or_pos (w / 2 ^ 52) with hzero | hpos
    · rw [hzero, if_pos (by omega)]
      show w * 2 ^ 0 < 2 ^ 52 * 2 ^ 0
      omega
    · obtain ⟨e, he⟩ := Nat.exists_eq_add_of_le' hpos
      have hshift : 2 ^ 52 * 2 ^ (e + 1) = 2 ^ 53 * 2 ^ e := by ring
      rw [he, hshift, if_neg (by omega), Nat.max_eq_left (by omega), Nat.add_sub_cancel]
      exact Nat.mul_lt_mul_of_pos_right (by omega) (Nat.two_pow_pos e)
  · have hexponent : max ((w + 1) / 2 ^ 52) 1 - 1 = max (w / 2 ^ 52) 1 - 1 := by omega
    have hmantissa : wordMantissa w < wordMantissa (w + 1) := by
      unfold wordMantissa
      split_ifs <;> omega
    rw [hexponent]
    exact Nat.mul_lt_mul_of_pos_right hmantissa (Nat.two_pow_pos _)

theorem wordUnits_zero : wordUnits 0 = 0 := rfl

theorem wordUnits_add {e m : Nat} (hlow : 2 ^ 52 ≤ m) (hhigh : m ≤ 2 ^ 53) :
    wordUnits (e * 2 ^ 52 + m) = m * 2 ^ e := by
  unfold wordUnits wordMantissa
  rw [if_neg (by omega)]
  rcases Nat.lt_or_eq_of_le hhigh with h | rfl
  · have hexponent : max ((e * 2 ^ 52 + m) / 2 ^ 52) 1 - 1 = e := by omega
    have hmantissa : 2 ^ 52 + (e * 2 ^ 52 + m) % 2 ^ 52 = m := by omega
    rw [hexponent, hmantissa]
  · have hexponent : max ((e * 2 ^ 52 + 2 ^ 53) / 2 ^ 52) 1 - 1 = e + 1 := by omega
    have hmantissa : 2 ^ 52 + (e * 2 ^ 52 + 2 ^ 53) % 2 ^ 52 = 2 ^ 52 := by omega
    rw [hexponent, hmantissa, pow_succ]
    ring

/-! ## Rounding -/

theorem roundHalfEven_cases {den : Nat} (hden : 0 < den) (num : Nat) :
    roundHalfEven num den = num / den ∨
      roundHalfEven num den = num / den + 1 ∧ 0 < num % den := by
  unfold roundHalfEven
  dsimp only
  split_ifs
  · exact .inl rfl
  · exact .inr ⟨rfl, by omega⟩
  · exact .inl rfl
  · exact .inr ⟨rfl, by omega⟩

theorem roundHalfEven_one (n : Nat) : roundHalfEven n 1 = n := by
  simp [roundHalfEven, Nat.mod_one]

theorem le_roundHalfEven {low num den : Nat} (hden : 0 < den) (h : low * den ≤ num) :
    low ≤ roundHalfEven num den := by
  have hquotient : low ≤ num / den := (Nat.le_div_iff_mul_le hden).2 h
  rcases roundHalfEven_cases hden num with h | ⟨h, -⟩ <;> omega

theorem roundHalfEven_le {high num den : Nat} (hden : 0 < den) (h : num ≤ high * den) :
    roundHalfEven num den ≤ high := by
  rcases roundHalfEven_cases hden num with hround | ⟨hround, hrest⟩
  · rw [hround]
    exact Nat.div_le_of_le_mul (Nat.mul_comm den high ▸ h)
  · have hdiv := Nat.div_add_mod num den
    have hlt : den * (num / den) < den * high := by
      rw [Nat.mul_comm den high]
      omega
    rw [hround]
    exact Nat.lt_of_mul_lt_mul_left hlt

/-- A quotient is rounded by half a unit at most. -/
theorem roundHalfEven_half {den : Nat} (hden : 0 < den) (num : Nat) :
    2 * ((roundHalfEven num den * den : Nat) - (num : Int)).natAbs ≤ den := by
  have hdiv : num / den * den + num % den = num := Nat.div_add_mod' num den
  have hmod := Nat.mod_lt num hden
  have hnext : (num / den + 1) * den = num / den * den + den := Nat.succ_mul _ _
  unfold roundHalfEven
  generalize num % den = r at *
  dsimp only
  split_ifs
  · omega
  · rw [hnext]
    omega
  · omega
  · rw [hnext]
    omega

/-- No multiple of the denominator is nearer. -/
theorem roundHalfEven_nearest {den : Nat} (hden : 0 < den) (num k : Nat) :
    ((roundHalfEven num den * den : Nat) - (num : Int)).natAbs ≤
      ((k * den : Nat) - (num : Int)).natAbs := by
  have hhalf := roundHalfEven_half hden num
  generalize roundHalfEven num den = r at hhalf ⊢
  rcases lt_trichotomy k r with h | rfl | h
  · have hstep : k * den + den ≤ r * den := Nat.succ_mul k den ▸ Nat.mul_le_mul_right den h
    omega
  · exact le_rfl
  · have hstep : r * den + den ≤ k * den := Nat.succ_mul r den ▸ Nat.mul_le_mul_right den h
    omega
/-- The nearest natural number with 53 binary digits and zeros behind them; of two that are equally
near the one with an even 53rd digit. -/
def roundNat (n : Nat) : Nat := roundHalfEven n (2 ^ (n.log2 - 52)) * 2 ^ (n.log2 - 52)

/-- **No number with the same zeros behind its digits is nearer.** -/
theorem roundNat_nearest (n k : Nat) : ((roundNat n : Nat) - (n : Int)).natAbs ≤
    ((k * 2 ^ (n.log2 - 52) : Nat) - (n : Int)).natAbs :=
  roundHalfEven_nearest (Nat.two_pow_pos _) n k

/-- Numbers of up to 53 digits are kept. -/
theorem roundNat_eq_self {n : Nat} (h : n < 2 ^ 53) : roundNat n = n := by
  have hshort : n.log2 - 52 = 0 := by
    rcases Nat.eq_zero_or_pos n with rfl | hpos
    · rfl
    · have := (Nat.log2_lt hpos.ne').2 h
      omega
  rw [roundNat, hshort, pow_zero, Nat.mul_one, roundHalfEven_one]

/-- Longer numbers do not become shorter. -/
theorem le_roundNat {n : Nat} (h : 2 ^ 53 ≤ n) : 2 ^ 53 ≤ roundNat n := by
  have hpos : n ≠ 0 := by omega
  have hlong : 53 ≤ n.log2 := (Nat.le_log2 hpos).2 h
  obtain ⟨k, hk⟩ := Nat.exists_eq_add_of_le hlong
  have hself := Nat.log2_self_le hpos
  have hlow : 2 ^ 52 ≤ roundHalfEven n (2 ^ (k + 1)) := by
    refine le_roundHalfEven (Nat.two_pow_pos _) (le_trans (le_of_eq ?_) hself)
    rw [hk]
    ring
  have hshift : n.log2 - 52 = k + 1 := by omega
  rw [roundNat, hshift]
  calc 2 ^ 53 ≤ 2 ^ 52 * 2 ^ (k + 1) := by
        rw [← pow_add]
        exact Nat.pow_le_pow_right (by decide) (by omega)
    _ ≤ roundHalfEven n (2 ^ (k + 1)) * 2 ^ (k + 1) := Nat.mul_le_mul_right _ hlow

/-! ## The nearest word -/

theorem scale_natCast (base k num den : Nat) :
    scale base (k : Int) num den = (num * base ^ k, den) :=
  if_pos (Int.natCast_nonneg k)

theorem scale_neg_natCast (base k num den : Nat) :
    scale base (-(k : Int)) num den = (num, den * base ^ k) := by
  rcases Nat.eq_zero_or_pos k with rfl | hpos
  · simp [scale]
  · simp only [scale]
    rw [if_neg (by omega), Int.neg_neg, Int.toNat_natCast]
    rfl

theorem floorLog2_one {n : Nat} (hn : n ≠ 0) : Binary.floorLog2 n 1 = n.log2 := by
  have hself := Nat.log2_self_le hn
  have hone : (n.log2 : Int) - Nat.log2 1 = (n.log2 : Nat) := Int.sub_zero _
  simp only [Binary.floorLog2, hone, scale_neg_natCast, Nat.one_mul]
  exact if_neg (Nat.not_lt.2 hself)

/-- The word nearest to an integer, by the power of two of its last place. -/
theorem nearest_eq {n a b : Nat} {q : Int} (hn : n ≠ 0)
    (hq : max ((n.log2 : Int) - 52) (-1074) = q) (hscale : scale 2 (-q) n 1 = (a, b)) :
    Binary.double.nearest n 1 =
      min ((q + 1074).toNat * 2 ^ 52 + roundHalfEven a b) Binary.double.infinityWord := by
  have hleast : Binary.double.leastExponent = -1074 := rfl
  have hfraction : ((Binary.double.fraction : Nat) : Int) = 52 := rfl
  simp only [Binary.Layout.nearest, if_neg hn, floorLog2_one hn, hleast, hfraction, hq, hscale]
  rfl

/-- The word nearest to an integer, by its exponent and its digits with the first of them. -/
theorem exists_nearest {n : Nat} (hn : n ≠ 0) (h : n < 2 ^ 64) :
    ∃ e m, e ≤ 1085 ∧ 2 ^ 52 ≤ m ∧ m ≤ 2 ^ 53 ∧ Binary.double.nearest n 1 = e * 2 ^ 52 + m ∧
      m * 2 ^ e = roundNat n * 2 ^ 1074 := by
  have hself := Nat.log2_self_le hn
  have hlt := @Nat.lt_log2_self n
  have hlog : n.log2 < 64 := (Nat.log2_lt hn).2 h
  rcases Nat.le_total 52 n.log2 with hlong | hshort
  · obtain ⟨k, hk⟩ := Nat.exists_eq_add_of_le hlong
    have hround : n.log2 - 52 = k := by omega
    have hnearest := nearest_eq hn (q := k) (by omega) (scale_neg_natCast 2 k n 1)
    have hexponent : ((k : Int) + 1074).toNat = k + 1074 := by omega
    rw [hk] at hself hlt
    have hlow : 2 ^ 52 ≤ roundHalfEven n (2 ^ k) :=
      le_roundHalfEven (Nat.two_pow_pos k) (by rwa [← pow_add])
    have hhigh : roundHalfEven n (2 ^ k) ≤ 2 ^ 53 := by
      refine roundHalfEven_le (Nat.two_pow_pos k) (le_trans hlt.le (le_of_eq ?_))
      ring
    rw [Nat.one_mul, hexponent, infinityWord_double] at hnearest
    refine ⟨k + 1074, roundHalfEven n (2 ^ k), by omega, hlow, hhigh, by omega, ?_⟩
    rw [roundNat, hround, pow_add, Nat.mul_assoc]
  · obtain ⟨j, hj⟩ := Nat.exists_eq_add_of_le hshort
    have hscale : scale 2 (- -(j : Int)) n 1 = (n * 2 ^ j, 1) := by
      rw [Int.neg_neg, scale_natCast]
    have hnearest := nearest_eq hn (by omega) hscale
    have hexponent : (-(j : Int) + 1074).toNat = 1074 - j := by omega
    have hshift : 2 ^ n.log2 * 2 ^ j = 2 ^ 52 := by rw [← pow_add, ← hj]
    have hlow : 2 ^ 52 ≤ n * 2 ^ j := hshift ▸ Nat.mul_le_mul_right _ hself
    have hhigh : n * 2 ^ j ≤ 2 ^ 53 := by
      have hbound := Nat.mul_le_mul_right (2 ^ j) hlt.le
      rw [pow_succ, Nat.mul_right_comm, hshift] at hbound
      omega
    rw [roundHalfEven_one, hexponent, infinityWord_double] at hnearest
    refine ⟨1074 - j, n * 2 ^ j, by omega, hlow, hhigh, by omega, ?_⟩
    rw [roundNat_eq_self (lt_of_lt_of_le hlt (Nat.pow_le_pow_right (by decide) (by omega))),
      Nat.mul_assoc, ← pow_add, Nat.add_sub_cancel' (by omega)]

theorem wordUnits_nearest {n : Nat} (h : n < 2 ^ 64) :
    Binary.double.nearest n 1 < Binary.double.infinityWord ∧
      wordUnits (Binary.double.nearest n 1) = roundNat n * 2 ^ 1074 := by
  rcases Nat.eq_zero_or_pos n with rfl | hpos
  · have hzero : Binary.double.nearest 0 1 = 0 := if_pos rfl
    rw [hzero, roundNat_eq_self (by decide), Nat.zero_mul, infinityWord_double]
    exact ⟨by decide, wordUnits_zero⟩
  · obtain ⟨e, m, he, hlow, hhigh, hword, hunits⟩ := exists_nearest hpos.ne' h
    rw [hword, wordUnits_add hlow hhigh, infinityWord_double]
    exact ⟨by omega, hunits⟩

/-! ## Integers compared -/

/-- What keeps the order of natural numbers and zero keeps that of numbers with a sign. -/
theorem signedNat_lt_iff {f : Nat → Nat} (hf : StrictMono f) (hzero : f 0 = 0) {s t : Bool}
    {a b : Nat} : signedNat s (f a) < signedNat t (f b) ↔ signedNat s a < signedNat t b := by
  have hpos : ∀ a, 0 < f a ↔ 0 < a := fun a => by
    have hlt := @StrictMono.lt_iff_lt _ _ _ _ _ hf 0 a
    rwa [hzero] at hlt
  have ha := hpos a
  have hb := hpos b
  have hab := hf.lt_iff_lt (a := a) (b := b)
  have hba := hf.lt_iff_lt (a := b) (b := a)
  cases s <;> cases t <;> simp only [signedNat_true, signedNat_false] <;> omega

/-- The nearest integer with 53 binary digits and zeros behind them. -/
def roundInt (n : Int) : Int := signedNat (n < 0) (roundNat n.natAbs)

theorem roundInt_of_nonneg {n : Int} (h : 0 ≤ n) : roundInt n = roundNat n.natAbs := by
  rw [roundInt, decide_eq_false (by omega), signedNat_false]

theorem roundInt_of_neg {n : Int} (h : n < 0) : roundInt n = -(roundNat n.natAbs : Int) := by
  rw [roundInt, decide_eq_true h, signedNat_true]

/-- Integers of up to 53 digits are kept. -/
theorem roundInt_eq_self {n : Int} (h : n.natAbs < 2 ^ 53) : roundInt n = n := by
  rcases Int.lt_or_le n 0 with hneg | hnonneg
  · rw [roundInt_of_neg hneg, roundNat_eq_self h]
    omega
  · rw [roundInt_of_nonneg hnonneg, roundNat_eq_self h]
    omega

theorem signedNat_roundNat (s : Bool) (a : Nat) :
    signedNat s (roundNat a) = roundInt (signedNat s a) := by
  cases s with
  | false => rw [signedNat_false, signedNat_false, roundInt_of_nonneg (by omega), Int.natAbs_natCast]
  | true =>
    rw [signedNat_true, signedNat_true]
    rcases Nat.eq_zero_or_pos a with rfl | hpos
    · rfl
    · rw [roundInt_of_neg (by omega), Int.natAbs_neg, Int.natAbs_natCast]

/-- An integer of up to 53 digits is on one side of another one after rounding as it was before. -/
theorem roundInt_lt_iff {m n : Int} (h : m.natAbs < 2 ^ 53 ∨ n.natAbs < 2 ^ 53) :
    roundInt m < roundInt n ↔ m < n := by
  -- what is rounded at all keeps its sign and is no closer to zero than `2^53`
  have hfar : ∀ k : Int, k.natAbs < 2 ^ 53 ∧ roundInt k = k ∨
      2 ^ 53 ≤ k ∧ 2 ^ 53 ≤ roundInt k ∨ k ≤ -2 ^ 53 ∧ roundInt k ≤ -2 ^ 53 := by
    intro k
    by_cases hk : k.natAbs < 2 ^ 53
    · exact .inl ⟨hk, roundInt_eq_self hk⟩
    · have hround := le_roundNat (Nat.not_lt.1 hk)
      rcases Int.lt_or_le k 0 with hneg | hnonneg
      · rw [roundInt_of_neg hneg]
        omega
      · rw [roundInt_of_nonneg hnonneg]
        omega
  have hm := hfar m
  have hn := hfar n
  omega

/-- The words of two integers are in the order of the rounded integers. -/
theorem signedNat_nearest_lt_iff {s t : Bool} {a b : Nat} (ha : a < 2 ^ 64) (hb : b < 2 ^ 64) :
    signedNat s (Binary.double.nearest a 1) < signedNat t (Binary.double.nearest b 1) ↔
      roundInt (signedNat s a) < roundInt (signedNat t b) := by
  have hscale : ∀ p, StrictMono fun n => n * 2 ^ p :=
    fun p _ _ h => Nat.mul_lt_mul_of_pos_right h (Nat.two_pow_pos p)
  rw [← signedNat_lt_iff wordUnits_strictMono wordUnits_zero, (wordUnits_nearest ha).2,
    (wordUnits_nearest hb).2, signedNat_lt_iff (hscale 1074) (Nat.zero_mul _), signedNat_roundNat,
    signedNat_roundNat]

/-- Is `x` the `binary64` number nearest to an integer?  That of zero may have either sign. -/
def IsNearest (x : Float) (n : Int) : Prop :=
  ∃ s a, a < 2 ^ 64 ∧ n = signedNat s a ∧
    x = floatOfWord (Binary.double.signWord s + Binary.double.nearest a 1)

theorem isNearest_nearestFloat {n : Int} (h : n.natAbs < 2 ^ 64) :
    IsNearest (nearestFloat n) n := by
  refine ⟨n < 0, n.natAbs, h, ?_, rfl⟩
  rcases Int.lt_or_le n 0 with hneg | hnonneg
  · rw [decide_eq_true hneg, signedNat_true]
    omega
  · rw [decide_eq_false (by omega), signedNat_false]
    omega

/-- A numeral without an exponent and of no more than 19 digits is not settled by its length. -/
theorem word_finite_zero (s : Bool) {m : Nat} (h : m < 2 ^ 63) :
    Numeral.word Binary.double (.finite s m 0) =
      Binary.double.signWord s + Binary.double.nearest m 1 := by
  rcases Nat.eq_zero_or_pos m with rfl | hpos
  · rfl
  · have hcount : Digits.count m ≤ 19 := by
      rw [Digits.count, if_neg hpos.ne']
      exact length_text_le (by decide) (lt_trans h (by decide))
    have hlimit : (Nat.pow 2 Binary.double.exponent : Int) + Binary.double.fraction = 2100 := rfl
    simp only [Numeral.word, hlimit]
    rw [if_neg (by omega), if_neg (by omega)]
    simp [scale]

/-- **The numeral of an integer is read as the number nearest to it.** -/
theorem IntegerText.exists_readFloat? {cs : List Char} {n : Int} (h : IntegerText cs n)
    (hdigit : ∃ c ∈ cs, c.isDigit = true) (hn : n.natAbs < 2 ^ 63) :
    ∃ x, readFloat? cs = some x ∧ IsNearest x n := by
  obtain ⟨s, m, rfl, hread⟩ := h.exists_read? hdigit
  have hm : m < 2 ^ 63 := by
    cases s <;> simpa using hn
  refine ⟨_, ?_, s, m, by omega, rfl, rfl⟩
  rw [readFloat?, hread, Option.map_some, word_finite_zero s hm]

namespace IsNearest

variable {x y : Float} {m n : Int}

/-- **Integers compare as `binary64` numbers as they do when they are rounded.** -/
theorem lt_iff (hx : IsNearest x m) (hy : IsNearest y n) : x < y ↔ roundInt m < roundInt n := by
  obtain ⟨s, a, ha, rfl, rfl⟩ := hx
  obtain ⟨t, b, hb, rfl, rfl⟩ := hy
  rw [floatOfWord_lt_iff (wordUnits_nearest ha).1 (wordUnits_nearest hb).1,
    signedNat_nearest_lt_iff ha hb]

theorem le_iff (hx : IsNearest x m) (hy : IsNearest y n) : x ≤ y ↔ roundInt m ≤ roundInt n := by
  obtain ⟨s, a, ha, rfl, rfl⟩ := hx
  obtain ⟨t, b, hb, rfl, rfl⟩ := hy
  rw [floatOfWord_le_iff (wordUnits_nearest ha).1 (wordUnits_nearest hb).1, ← not_lt,
    signedNat_nearest_lt_iff hb ha, not_lt]

end IsNearest

end Instrument.Number
