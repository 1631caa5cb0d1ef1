/-
# The order of binary64 numbers

A finite number is stored as a sign and a word, the exponent in front and the digits behind it, and that
is done so that the words are in the order of the numbers: two numbers of one sign compare as their
words do, and `floatOfWord_lt_iff` says it of all.  It is what makes comparisons of `Float` a matter
of natural numbers, and the only place where `Float` is opened.
-/
import Instrument.Number.Binary
import Instrument.Proofs.Number.Integer
import Mathlib

namespace Instrument.Number

open Float.Model Float.Model.UnpackedFloat

theorem infinityWord_double : Binary.double.infinityWord = 2047 * 2 ^ 52 := rfl

theorem signWord_double (negative : Bool) :
    Binary.double.signWord negative = if negative then 2 ^ 63 else 0 := rfl

/-! ## What a word is unpacked to -/

/-- The power of two of the last place of a finite number, by its word without the sign. -/
def wordExponent (w : Nat) : Int := (max (w / 2 ^ 52) 1 : Nat) - 1075

/-- The digits of a finite number; the first of them is not in the word, but for the smallest
numbers. -/
def wordMantissa (w : Nat) : Nat := if w < 2 ^ 52 then w else 2 ^ 52 + w % 2 ^ 52

theorem wordMantissa_pos {w : Nat} (h : w ≠ 0) : 0 < wordMantissa w := by
  unfold wordMantissa
  split <;> omega

/-- The sign of a number. -/
def wordSign (negative : Bool) : Sign := if negative then .negative else .positive

/-- The number of a sign and a finite word, unpacked. -/
def unpacked (negative : Bool) (w : Nat) : UnpackedFloat :=
  if h : w = 0 then .zero (wordSign negative)
  else .finite (wordSign negative) (wordMantissa w) (wordExponent w) (wordMantissa_pos h)

/-- Two comparisons have one outcome if they are alike in both directions. -/
theorem compare_congr {α β : Type} [LinearOrder α] [LinearOrder β] {a b : α} {c d : β}
    (hlt : a < b ↔ c < d) (hgt : b < a ↔ d < c) : compare a b = compare c d := by
  rcases lt_trichotomy c d with h | h | h
  · rw [compare_lt_iff_lt.2 h, compare_lt_iff_lt.2 (hlt.2 h)]
  · have heq : a = b := by
      refine le_antisymm (not_lt.1 fun hba => ?_) (not_lt.1 fun hab => ?_)
      · exact absurd h (hgt.1 hba).ne'
      · exact absurd h (hlt.1 hab).ne
    rw [compare_eq_iff_eq.2 h, compare_eq_iff_eq.2 heq]
  · rw [compare_gt_iff_gt.2 h, compare_gt_iff_gt.2 (hgt.2 h)]

/-- Exponent before mantissa is the order of the words. -/
theorem compare_words (a b : Nat) :
    (compare (wordExponent a) (wordExponent b)).then (compare (wordMantissa a) (wordMantissa b)) =
      compare a b := by
  rcases lt_trichotomy (wordExponent a) (wordExponent b) with h | h | h
  · have hab : a < b := by
      simp only [wordExponent] at h
      omega
    rw [compare_lt_iff_lt.2 h, compare_lt_iff_lt.2 hab]
    rfl
  · rw [compare_eq_iff_eq.2 h, Ordering.eq_then]
    simp only [wordExponent] at h
    refine compare_congr ?_ ?_ <;>
      · simp only [wordMantissa]
        split_ifs <;> omega
  · have hba : b < a := by
      simp only [wordExponent] at h
      omega
    rw [compare_gt_iff_gt.2 h, compare_gt_iff_gt.2 hba]
    rfl

/-! ## Fields of a word -/

theorem toNat_unpackMantissa (b : BitVec Format.binary64.numBits) :
    (unpackMantissa b).toNat = b.toNat % 2 ^ 52 := by
  rw [unpackMantissa_def]
  simp [BitVec.extractLsb'_toNat]

theorem toNat_unpackExponent (b : BitVec Format.binary64.numBits) :
    (unpackExponent b).toNat = b.toNat / 2 ^ 52 % 2 ^ 11 := by
  rw [unpackExponent_def]
  simp [BitVec.extractLsb'_toNat, Nat.shiftRight_eq_div_pow]

theorem toNat_unpackSign (b : BitVec Format.binary64.numBits) :
    (unpackSign b).toNat = b.toNat / 2 ^ 63 % 2 := by
  rw [unpackSign_def]
  simp [BitVec.extractLsb'_toNat, Nat.shiftRight_eq_div_pow]

theorem unpack_eq {negative : Bool} {w : Nat} (hw : w < Binary.double.infinityWord)
    {b : BitVec Format.binary64.numBits} (hb : b.toNat = Binary.double.signWord negative + w) :
    UnpackedFloat.unpack Format.binary64 b = unpacked negative w := by
  rw [infinityWord_double] at hw
  have hmantissa : (unpackMantissa b).toNat = w % 2 ^ 52 := by
    rw [toNat_unpackMantissa, hb, signWord_double]
    split <;> omega
  have hexponent : (unpackExponent b).toNat = w / 2 ^ 52 := by
    rw [toNat_unpackExponent, hb, signWord_double]
    split <;> omega
  have hneg : Sign.ofBitVec (unpackSign b) = wordSign negative := by
    have hbit : (unpackSign b).toNat = if negative then 1 else 0 := by
      rw [toNat_unpackSign, hb, signWord_double]
      split <;> omega
    cases negative with
    | false => rw [BitVec.eq_of_toNat_eq (y := 0#1) hbit]; rfl
    | true => rw [BitVec.eq_of_toNat_eq (y := 1#1) hbit]; rfl
  have hfinite : unpackExponent b ≠ -1#_ := by
    intro h
    have := congrArg BitVec.toNat h
    rw [hexponent] at this
    simp at this
    omega
  have hzero : unpackExponent b = 0#_ ↔ w / 2 ^ 52 = 0 := by
    rw [← hexponent, ← BitVec.toNat_inj]
    rfl
  have hmzero : unpackMantissa b = 0#_ ↔ w % 2 ^ 52 = 0 := by
    rw [← hmantissa, ← BitVec.toNat_inj]
    rfl
  have himplicit : (1#1 ++ unpackMantissa b).toNat = 2 ^ 52 + w % 2 ^ 52 := by
    rw [BitVec.toNat_append, ← Nat.shiftLeft_add_eq_or_of_lt (unpackMantissa b).isLt, hmantissa]
    rfl
  unfold UnpackedFloat.unpack unpacked
  simp only [hfinite, if_false, hneg, hzero, hmzero, hexponent, himplicit, hmantissa]
  by_cases he : w / 2 ^ 52 = 0
  · by_cases hw0 : w = 0
    · simp [hw0]
    · have hrest : w % 2 ^ 52 ≠ 0 := by omega
      simp only [he, hw0, hrest, dite_false, if_true, UnpackedFloat.finite.injEq, true_and]
      constructor
      · rw [wordMantissa, if_pos (by omega)]
        omega
      · rw [wordExponent, he]
        rfl
  · have hw0 : w ≠ 0 := by omega
    simp only [he, hw0, if_false, dite_false, UnpackedFloat.finite.injEq, true_and]
    constructor
    · rw [wordMantissa, if_neg (by omega)]
    · rw [wordExponent, Nat.max_eq_left (by omega)]
      rfl

/-- The number of a word is that word, unpacked. -/
theorem unpack_floatOfWord {negative : Bool} {w : Nat} (hw : w < Binary.double.infinityWord) :
    (floatOfWord (Binary.double.signWord negative + w)).toModel.unpack = unpacked negative w := by
  have hfits : Binary.double.signWord negative + w < 2 ^ 64 := by
    rw [infinityWord_double] at hw
    rw [signWord_double]
    split <;> omega
  have hb : (Binary.double.signWord negative + w).toUInt64.toBitVec.toNat =
      Binary.double.signWord negative + w := Nat.mod_eq_of_lt hfits
  have hunpack := unpack_eq hw hb
  have hnan : ∀ b : BitVec Format.binary64.numBits,
      UnpackedFloat.unpack Format.binary64 b = unpacked negative w → isNaNBits b = false := by
    intro b h
    rw [Bool.eq_false_iff]
    intro hnan
    obtain ⟨hexponent, hmantissa⟩ := of_decide_eq_true hnan
    have hnone : UnpackedFloat.unpack Format.binary64 b = .notANumber := by
      unfold UnpackedFloat.unpack
      simp only [hexponent, hmantissa, if_true, if_false]
    rw [hnone, unpacked] at h
    split at h <;> cases h
  show UnpackedFloat.unpack Format.binary64 (UnpackedFloat.pack Format.binary64
    (UnpackedFloat.unpack Format.binary64 _)) = _
  rw [pack_unpack, hnan _ hunpack]
  exact hunpack

/-- A `Float` has one word only for what is no number. -/
theorem toBits_eq_nanWord {x : Float} (hexponent : x.toBits.toNat / 2 ^ 52 % 2 ^ 11 = 2 ^ 11 - 1)
    (hfraction : x.toBits.toNat % 2 ^ 52 ≠ 0) : x.toBits.toNat = Binary.double.nanWord := by
  have hnan : packedNaN Format.binary64 = Binary.double.nanWord := by decide
  have hbits : @unpackExponent Format.binary64 x.toBits.toBitVec = -1#_ := by
    apply BitVec.eq_of_toNat_eq
    rw [toNat_unpackExponent]
    exact hexponent
  have hmantissa : @unpackMantissa Format.binary64 x.toBits.toBitVec ≠ 0#_ := by
    intro hzero
    rw [← BitVec.toNat_inj, toNat_unpackMantissa] at hzero
    exact hfraction hzero
  exact congrArg BitVec.toNat ((x.toModel.valid.eq_packedNaN hbits hmantissa).trans hnan)

/-! ## The order -/

/-- Compared the other way round, two numbers have the opposite outcome. -/
theorem compare_swap (a b : UnpackedFloat) : b.compare a = (a.compare b).map Ordering.swap := by
  have hfinite : ∀ (m n : Nat) (e f : Int), (compare f e).then (compare n m) =
      ((compare e f).then (compare m n)).swap := fun m n e f => by
    rw [Ordering.swap_then, ← Std.OrientedOrd.eq_swap, ← Std.OrientedOrd.eq_swap]
  rcases a with (_ | _) | _ | s | ⟨_ | _, m, e, _⟩ <;>
    rcases b with (_ | _) | _ | t | ⟨_ | _, n, f, _⟩ <;> try rfl
  · exact congrArg (fun o => some (Ordering.swap o)) (hfinite m n e f)
  · exact congrArg some (hfinite m n e f)

/-- Two numbers are compared if both are numbers. -/
theorem compare_eq_none_iff (a b : UnpackedFloat) :
    a.compare b = none ↔ a.isNaN = true ∨ b.isNaN = true := by
  rcases a with (_ | _) | _ | s | ⟨_ | _, m, e, _⟩ <;>
    rcases b with (_ | _) | _ | t | ⟨_ | _, n, f, _⟩ <;>
    simp [UnpackedFloat.compare, UnpackedFloat.isNaN]

theorem lt_iff_compare (x y : Float) :
    x < y ↔ x.toModel.unpack.compare y.toModel.unpack = some .lt := by
  rw [← beq_iff_eq]
  show (decide _ = true) ↔ _
  rw [decide_eq_true_eq]
  rfl

theorem le_iff_compare (x y : Float) :
    x ≤ y ↔ (x.toModel.unpack.compare y.toModel.unpack).any (·.isLE) = true := by
  show (decide _ = true) ↔ _
  rw [decide_eq_true_eq]
  rfl

/-- **What is not greater is less or equal**, unless one of the two is no number. -/
theorem not_lt_iff_le {x y : Float} : ¬ y < x ↔ x ≤ y ∨ x.isNaN = true ∨ y.isNaN = true := by
  have hnone : x.isNaN = true ∨ y.isNaN = true ↔
      x.toModel.unpack.compare y.toModel.unpack = none := (compare_eq_none_iff _ _).symm
  rw [hnone, lt_iff_compare, le_iff_compare, compare_swap x.toModel.unpack]
  generalize x.toModel.unpack.compare y.toModel.unpack = o
  rcases o with _ | _ | _ | _ <;> decide

theorem compare_unpacked (s t : Bool) (a b : Nat) :
    (unpacked s a).compare (unpacked t b) = some (compare (signedNat s a) (signedNat t b)) := by
  have hpos : compare (a : Int) (b : Int) = compare a b := compare_congr (by omega) (by omega)
  have hneg : compare (-(a : Int)) (-(b : Int)) = (compare a b).swap := by
    rw [← Std.OrientedOrd.eq_swap]
    exact compare_congr (by omega) (by omega)
  have hlt : ∀ {m n : Int}, m < n → compare m n = .lt := compare_lt_iff_lt.2
  have hgt : ∀ {m n : Int}, n < m → compare m n = .gt := compare_gt_iff_gt.2
  have hzero : ∀ s, signedNat s 0 = 0 := by decide
  unfold unpacked
  by_cases ha : a = 0
  · subst ha
    by_cases hb : b = 0
    · subst hb
      rw [hzero, hzero]
      rfl
    · rw [hzero, dif_neg hb]
      cases t with
      | false => exact congrArg some (hlt (by rw [signedNat_false]; omega)).symm
      | true => exact congrArg some (hgt (by rw [signedNat_true]; omega)).symm
  · rw [dif_neg ha]
    by_cases hb : b = 0
    · subst hb
      rw [hzero]
      cases s with
      | false => exact congrArg some (hgt (by rw [signedNat_false]; omega)).symm
      | true => exact congrArg some (hlt (by rw [signedNat_true]; omega)).symm
    · rw [dif_neg hb]
      cases s <;> cases t
      · exact congrArg some ((compare_words a b).trans hpos.symm)
      · exact congrArg some (hgt (by rw [signedNat_true, signedNat_false]; omega)).symm
      · exact congrArg some (hlt (by rw [signedNat_true, signedNat_false]; omega)).symm
      · exact congrArg some ((congrArg Ordering.swap (compare_words a b)).trans hneg.symm)

section Order

variable {s t : Bool} {a b : Nat} (ha : a < Binary.double.infinityWord)
  (hb : b < Binary.double.infinityWord)

include ha hb

/-- **Words are in the order of the numbers that they are**, with their signs. -/
theorem floatOfWord_lt_iff :
    floatOfWord (Binary.double.signWord s + a) < floatOfWord (Binary.double.signWord t + b) ↔
      signedNat s a < signedNat t b := by
  rw [lt_iff_compare, unpack_floatOfWord ha, unpack_floatOfWord hb, compare_unpacked]
  simp [compare_lt_iff_lt]

theorem floatOfWord_le_iff :
    floatOfWord (Binary.double.signWord s + a) ≤ floatOfWord (Binary.double.signWord t + b) ↔
      signedNat s a ≤ signedNat t b := by
  rw [le_iff_compare, unpack_floatOfWord ha, unpack_floatOfWord hb, compare_unpacked]
  simp [Int.isLE_compare]

end Order

end Instrument.Number
