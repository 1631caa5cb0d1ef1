/-
# Integers and their text

What bounds admit, what the text of an integer begins with, and how reading goes on from what has
been read.
-/
import Instrument.Number.Integer

namespace Instrument.Number

/-- A natural number with a sign. -/
def signedNat (negative : Bool) (n : Nat) : Int := if negative then -n else n

@[simp] theorem signedNat_true (n : Nat) : signedNat true n = -n := rfl

@[simp] theorem signedNat_false (n : Nat) : signedNat false n = n := rfl

theorem Bounds.has_iff {b : Bounds} {n : Int} : b.has n = true ↔ b.least ≤ n ∧ n ≤ b.greatest := by
  simp [has]

/-- Zero fits into every number of bits. -/
theorem Bounds.has_zero_signed (bits : Nat) : (signed bits).has 0 = true := by
  have hpos : 0 < Nat.pow 2 (bits - 1) := Nat.pow_pos (by decide)
  simp only [has_iff, signed]
  omega

theorem readDigits_append {b : Bounds} {negative : Bool} {acc n : Int} {cs : List Char}
    (h : readDigits b negative acc cs = .ok n) (cs' : List Char) :
    readDigits b negative acc (cs ++ cs') = readDigits b negative n cs' := by
  induction cs generalizing acc with
  | nil =>
    cases h
    rfl
  | cons c rest ih =>
    simp only [readDigits, List.cons_append] at h ⊢
    cases hd : Digits.digit? c with
    | none => rw [hd] at h; cases h
    | some d =>
      simp only [hd] at h ⊢
      split at h
      · cases h
      · split at h
        · cases h
        · rename_i hgreatest hleast
          rw [if_neg hgreatest, if_neg hleast]
          exact ih h

theorem isDigit_of_mem_text {n : Nat} {c : Char} (h : c ∈ Digits.text n) : c.isDigit = true :=
  Nat.isDigit_of_mem_toDigits (by decide) (by decide) h

/-- The digits of a number begin with a digit. -/
theorem exists_text (n : Nat) : ∃ c rest, Digits.text n = c :: rest ∧ c.isDigit = true := by
  obtain ⟨c, rest, h⟩ := List.exists_cons_of_ne_nil (Nat.toDigits_ne_nil (n := n) (b := 10))
  have hmem : c ∈ Nat.toDigits 10 n := h ▸ List.mem_cons_self
  exact ⟨c, rest, h, isDigit_of_mem_text hmem⟩

/-- What begins with a digit has no sign. -/
theorem readInteger_of_isDigit (b : Bounds) {c : Char} (hc : c.isDigit = true) (rest : List Char) :
    readInteger b (c :: rest) = readDigits b false 0 (c :: rest) := by
  have hplus : c ≠ '+' := by rintro rfl; cases hc
  have hminus : c ≠ '-' := by rintro rfl; cases hc
  unfold readInteger
  split
  · rename_i heq; cases heq
  · rename_i heq; exact absurd (List.cons.inj heq).1 hplus
  · rename_i heq; exact absurd (List.cons.inj heq).1 hminus
  · rename_i heq; exact absurd (List.cons.inj heq).1 hplus
  · rename_i heq; exact absurd (List.cons.inj heq).1 hminus
  · rfl

theorem writeInteger_ne_nil (n : Int) : writeInteger n ≠ [] := by
  obtain ⟨c, rest, htext, -⟩ := exists_text n.natAbs
  unfold writeInteger
  rw [htext]
  split <;> exact List.cons_ne_nil _ _

end Instrument.Number
