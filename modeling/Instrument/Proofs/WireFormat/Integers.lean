/-
# Integers under a template

A number is written as a field: a sign, the mark of its base and its digits, and what fills it up to
the width stands in one place, as zeros behind the mark or as blanks outside (`exists_field`).  The
digits are those of the base without zeros in front, so they denote the number and the width of the
field is known from them (`isNumeral_toDigits`).

For the conversion `d` the number is the magnitude of the integer, and for the others it is the word
of the integer in two's complement, which is what is left of the integer modulo a power of two
(`Value.IsInteger.word?`).
-/
import Instrument.Proofs.WireFormat.Written
import Mathlib.Data.List.Basic

namespace Instrument

open Number

/-! ## Digits of a base -/

/-- The digits in which a conversion writes integers, in the order of what they count for. -/
def Conversion.digits? : Conversion → Option (List Char)
  | .decimal => some "0123456789".toList
  | .hexadecimal upper => some (if upper then "0123456789ABCDEF" else "0123456789abcdef").toList
  | .octal => some "01234567".toList
  | _ => none

/-- The number that is denoted where each digit counts for its place in the list of them all. -/
def denoted (digits cs : List Char) : Nat :=
  cs.foldl (fun n c => digits.length * n + digits.idxOf c) 0

theorem denoted_concat (digits cs : List Char) (c : Char) :
    denoted digits (cs ++ [c]) = digits.length * denoted digits cs + digits.idxOf c := by
  rw [denoted, List.foldl_append]
  rfl

/-- Zeros in front do not count. -/
theorem denoted_zeros {digits : List Char} (h : digits.idxOf '0' = 0) (zeros : Nat)
    (cs : List Char) :
    denoted digits (List.replicate zeros '0' ++ cs) = denoted digits cs := by
  have hzeros : denoted digits (List.replicate zeros '0') = 0 := by
    induction zeros with
    | zero => rfl
    | succ zeros ih => rw [List.replicate_succ', denoted_concat, ih, h, Nat.mul_zero]
  rw [denoted, List.foldl_append]
  exact congrArg (fun n => cs.foldl _ n) hzeros

/-- Are these the digits of a number, none of which is a zero in front? -/
structure IsNumeral (digits cs : List Char) (n : Nat) : Prop where
  ne_nil : cs ≠ []
  subset : cs ⊆ digits
  denotes : denoted digits cs = n
  first : cs.head? = some '0' → cs = ['0']

/-- **The digits of a number denote it**, in either case of the letters among them. -/
theorem isNumeral_toDigits {digits : List Char} {f : Char → Char} (hbase : 1 < digits.length)
    (hzero : digits.idxOf '0' = 0)
    (hf : ∀ d < digits.length, f d.digitChar ∈ digits ∧ digits.idxOf (f d.digitChar) = d)
    (n : Nat) :
    IsNumeral digits ((Nat.toDigits digits.length n).map f) n := by
  induction n using Nat.strongRecOn with
  | ind n ih =>
    rw [Nat.toDigits_eq_if hbase]
    split
    · rename_i hn
      obtain ⟨hmem, hidx⟩ := hf n hn
      refine ⟨by simp, by simpa using hmem, by simp [denoted, hidx], ?_⟩
      intro h
      exact congrArg (fun c => [c]) (Option.some.inj h)
    · rename_i hn
      have hquotient : 0 < n / digits.length := Nat.div_pos (by omega) (by omega)
      obtain ⟨hne, hsubset, hdenotes, hfirst⟩ :=
        ih (n / digits.length) (Nat.div_lt_self (by omega) hbase)
      obtain ⟨hmem, hidx⟩ := hf (n % digits.length) (Nat.mod_lt n (by omega))
      rw [List.map_append]
      refine ⟨List.append_ne_nil_of_left_ne_nil hne _, ?_, ?_, ?_⟩
      · exact List.append_subset.2 ⟨hsubset, by simpa using hmem⟩
      · rw [List.map_singleton, denoted_concat, hdenotes, hidx, Nat.div_add_mod]
      · intro h
        rw [List.head?_append_of_ne_nil _ hne] at h
        -- A zero in front would be all there is of a number that is none.
        rw [hfirst h] at hdenotes
        have hnone : denoted digits ['0'] = 0 := by simp [denoted, hzero]
        omega

namespace WireFormat

theorem isNumeral_text (n : Nat) : IsNumeral "0123456789".toList (Digits.text n) n := by
  have h := @isNumeral_toDigits "0123456789".toList id (by decide) (by decide) (by decide) n
  rwa [List.map_id] at h

theorem isNumeral_hexDigits (upper : Bool) (n : Nat) :
    IsNumeral (if upper then "0123456789ABCDEF" else "0123456789abcdef").toList
      (hexDigits upper n) n := by
  cases upper with
  | false =>
    have h := @isNumeral_toDigits "0123456789abcdef".toList id (by decide) (by decide) (by decide) n
    rwa [List.map_id] at h
  | true =>
    exact @isNumeral_toDigits "0123456789ABCDEF".toList Char.toUpper (by decide) (by decide)
      (by decide) n

theorem isNumeral_octal (n : Nat) : IsNumeral "01234567".toList (Nat.toDigits 8 n) n := by
  have h := @isNumeral_toDigits "01234567".toList id (by decide) (by decide) (by decide) n
  rwa [List.map_id] at h

/-! ## Fields -/

/-- A number taken apart: blanks, a sign, the mark of a base, zeros, digits and blanks. -/
structure Field where
  before : Nat
  sign : List Char
  mark : List Char
  zeros : Nat
  digits : List Char
  after : Nat

namespace Field

/-- The text of a field. -/
def text (x : Field) : List Char :=
  List.replicate x.before ' ' ++ (x.sign ++ (x.mark ++ (List.replicate x.zeros '0' ++
    (x.digits ++ List.replicate x.after ' '))))

/-- Is the field filled up to its width, with zeros only without the flag `-`? -/
structure Fills (x : Field) (s : Spec) : Prop where
  length : x.text.length =
    max (s.width.getD 0) (x.sign.length + x.mark.length + x.digits.length)
  before : 0 < x.before → s.flags.left = false ∧ s.flags.zero = false
  zeros : 0 < x.zeros → s.flags.left = false ∧ s.flags.zero = true
  after : 0 < x.after → s.flags.left = true

end Field

/-- **A number is a field.** -/
theorem exists_field (s : Spec) (negative : Bool) (mark digits : List Char) :
    ∃ x : Field, x.text = number s negative mark digits ∧ x.Fills s ∧
      x.sign = sign s.flags negative ∧ x.mark = mark ∧ x.digits = digits := by
  generalize hsign : sign s.flags negative = front
  generalize hlength : front.length + mark.length + digits.length = length
  generalize hrest : s.width.getD 0 - length = rest
  have hnone : ∀ {p : Prop}, 0 < 0 → p := fun h => absurd h (Nat.lt_irrefl 0)
  cases hleft : s.flags.left with
  | true =>
    have hfills : (Field.mk 0 front mark 0 digits rest).Fills s := by
      refine ⟨?_, hnone, hnone, fun _ => hleft⟩
      simp [Field.text]
      omega
    refine ⟨_, ?_, hfills, rfl, rfl, rfl⟩
    simp [Field.text, number, fill, hleft, hsign, ← hrest, ← hlength]
    omega
  | false =>
    cases hzero : s.flags.zero with
    | true =>
      have hfills : (Field.mk 0 front mark rest digits 0).Fills s := by
        refine ⟨?_, hnone, fun _ => ⟨hleft, hzero⟩, hnone⟩
        simp [Field.text]
        omega
      refine ⟨_, ?_, hfills, rfl, rfl, rfl⟩
      simp [Field.text, number, hleft, hzero, hsign, ← hrest, ← hlength]
    | false =>
      have hfills : (Field.mk rest front mark 0 digits 0).Fills s := by
        refine ⟨?_, fun _ => ⟨hleft, hzero⟩, hnone, hnone⟩
        simp [Field.text]
        omega
      refine ⟨_, ?_, hfills, rfl, rfl, rfl⟩
      simp [Field.text, number, fill, hleft, hzero, hsign, ← hrest, ← hlength]
      omega

end WireFormat

/-! ## Integers -/

/-- The integer that a value is, and how many bits its type has. -/
inductive Value.IsInteger : Value → Int → Nat → Prop
  | byte (n : Int8) : IsInteger (.byte n) n.toInt 8
  | int (n : Int32) : IsInteger (.int n) n.toInt 32
  | long (n : Int64) : IsInteger (.long n) n.toInt 64

theorem Value.IsInteger.asInt? {v : Value} {n : Int} {bits : Nat} (h : v.IsInteger n bits) :
    v.asInt? = some n := by
  cases h <;> rfl

/-- **The word of an integer is what is left of it modulo a power of two.** -/
theorem Value.IsInteger.word? {v : Value} {n : Int} {bits : Nat} (h : v.IsInteger n bits) :
    ∃ w : Nat, WireFormat.word? v = some w ∧ (w : Int) = n % 2 ^ bits := by
  have hword : ∀ {bits : Nat} (b : BitVec bits), (b.toNat : Int) = b.toInt % 2 ^ bits := by
    intro bits b
    have hlt : (b.toNat : Int) < ((2 ^ bits : Nat) : Int) := Int.ofNat_lt.2 b.isLt
    have hmod := Int.bmod_emod (x := b.toNat) (m := 2 ^ bits)
    rw [← BitVec.toInt_eq_toNat_bmod, Int.emod_eq_of_lt (Int.natCast_nonneg _) hlt] at hmod
    rw [← hmod, Int.natCast_pow]
    rfl
  cases h with
  | byte n => exact ⟨_, rfl, hword n.toBitVec⟩
  | int n => exact ⟨_, rfl, hword n.toBitVec⟩
  | long n => exact ⟨_, rfl, hword n.toBitVec⟩

namespace WireFormat

/-- The mark of the base of a conversion. -/
def baseMark : Conversion → List Char
  | .hexadecimal upper => ['0', if upper then 'X' else 'x']
  | .octal => ['0']
  | _ => []

/-- Does a field show an integer of so many bits, in the digits of a conversion? -/
structure Field.Shows (x : Field) (s : Spec) (k : Conversion) (n : Int) (bits : Nat)
    (digits : List Char) : Prop where
  sign : x.sign = if k = .decimal ∧ n < 0 then ['-']
    else if s.flags.plus then ['+'] else if s.flags.space then [' '] else []
  mark : x.mark = if s.flags.alternate then baseMark k else []
  ne_nil : x.digits ≠ []
  subset : x.digits ⊆ digits
  first : x.digits.head? = some '0' → x.digits = ['0']
  denotes : (denoted digits (List.replicate x.zeros '0' ++ x.digits) : Int) =
    if k = .decimal then |n| else n % 2 ^ bits

/-- A number whose digits denote what a conversion shows of an integer is a field that shows it. -/
theorem shows_number (s : Spec) {k : Conversion} {n : Int} (bits : Nat) {digits cs : List Char}
    {m : Nat} (hzero : digits.idxOf '0' = 0) (hcs : IsNumeral digits cs m)
    (hm : (m : Int) = if k = .decimal then |n| else n % 2 ^ bits) :
    ∃ x : Field, x.text = number s (k = .decimal ∧ n < 0)
        (if s.flags.alternate then baseMark k else []) cs ∧
      x.Fills s ∧ x.Shows s k n bits digits := by
  obtain ⟨x, htext, hfills, hsign, hmark, rfl⟩ :=
    exists_field s (k = .decimal ∧ n < 0) (if s.flags.alternate then baseMark k else []) cs
  refine ⟨x, htext, hfills, ?_, hmark, hcs.ne_nil, hcs.subset, hcs.first, ?_⟩
  · rw [hsign, WireFormat.sign]
    simp only [decide_eq_true_eq]
  · rw [denoted_zeros hzero, hcs.denotes, hm]

/-- **Integers show in their field.**  Under the conversions `d`, `x`, `X` and `o` with any flags
and any width, the text of an integer is a field filled to the width whose digits denote the
magnitude for `d` and the integer modulo the power of two of its type for the others. -/
theorem integer_shown (s : Spec) {k : Conversion} {v : Value} {n : Int} {bits : Nat}
    {digits : List Char} (hk : k.digits? = some digits) (hv : v.IsInteger n bits) :
    ∃ x : Field, convert? s k v = some x.text ∧ x.Fills s ∧ x.Shows s k n bits digits := by
  obtain ⟨w, hword, hw⟩ := hv.word?
  cases k with
  | decimal =>
    cases hk
    obtain ⟨x, htext, hx⟩ := shows_number s (k := .decimal) (n := n) bits (by decide)
      (isNumeral_text n.natAbs) (Int.natCast_natAbs n)
    refine ⟨x, ?_, hx⟩
    rw [convert?, hv.asInt?, htext]
    simp [baseMark]
  | hexadecimal upper =>
    cases hk
    have hzero : (if upper then "0123456789ABCDEF" else "0123456789abcdef").toList.idxOf '0' = 0 := by
      cases upper <;> decide
    obtain ⟨x, htext, hx⟩ := shows_number s (k := .hexadecimal upper) bits hzero
      (isNumeral_hexDigits upper w) hw
    refine ⟨x, ?_, hx⟩
    rw [convert?, hword, htext]
    simp [baseMark]
  | octal =>
    cases hk
    obtain ⟨x, htext, hx⟩ := shows_number s (k := .octal) bits (by decide) (isNumeral_octal w) hw
    refine ⟨x, ?_, hx⟩
    rw [convert?, hword, htext]
    simp [baseMark]
  | _ => simp [Conversion.digits?] at hk

/-- The byte `-1` under `%+#09X` is the field of the word `FF` of its eight bits. -/
theorem integer_shown_filled :
    (Conversion.hexadecimal true).digits? = some "0123456789ABCDEF".toList ∧
    (Value.byte (-1)).IsInteger (-1) 8 ∧
    ∃ x : Field, convert? ⟨⟨false, true, false, true, true⟩, some 9, none⟩ (.hexadecimal true)
        (.byte (-1)) = some x.text ∧
      x.Fills ⟨⟨false, true, false, true, true⟩, some 9, none⟩ ∧
      x.Shows ⟨⟨false, true, false, true, true⟩, some 9, none⟩ (.hexadecimal true) (-1) 8
        "0123456789ABCDEF".toList :=
  ⟨rfl, .byte (-1), integer_shown _ rfl (.byte (-1))⟩

end WireFormat

end Instrument
