/-
# Texts that are alike

Two texts are alike if they differ in the blanks at their ends and in the case of the letters `A` to
`Z` alone.  That is what the program finds out by trimming both and comparing them in lower case
(`alike_iff`): no letter is a blank in either case, so it does not matter which is done first.
-/
import Instrument.Proofs.Schema.Values
import Instrument.Text.Case
import Mathlib.Data.List.Forall2

namespace Instrument

namespace Text

/-- Are two characters the same, or the same letter of `A` to `Z` in either case? -/
def SameLetter (c d : Char) : Prop := c = d ∨ d = c.toLower ∨ c = d.toLower

/-- Two texts are alike if they are the same, letter by letter, between blanks at their ends. -/
def Alike (s t : String) : Prop :=
  ∃ cs ds, Spelling.Padded cs s ∧ Spelling.Padded ds t ∧ List.Forall₂ SameLetter cs ds

theorem toNat_toLower (c : Char) :
    c.toLower.toNat = if 65 ≤ c.toNat ∧ c.toNat ≤ 90 then c.toNat + 32 else c.toNat := by
  by_cases h : 65 ≤ c.toNat ∧ c.toNat ≤ 90
  · have hletter : c.val ≥ 'A'.val ∧ c.val ≤ 'Z'.val := h
    have hval : c.toLower.val = c.val + 32 := congrArg Char.val (dif_pos hletter)
    have hsmall : c.val.toNat + 32 < 2 ^ 32 := by
      have hhigh : c.val.toNat ≤ 90 := h.2
      omega
    rw [if_pos h, Char.toNat, hval]
    exact (UInt32.toNat_add _ _).trans (Nat.mod_eq_of_lt hsmall)
  · have hother : ¬ (c.val ≥ 'A'.val ∧ c.val ≤ 'Z'.val) := h
    rw [if_neg h]
    exact congrArg Char.toNat (dif_neg hother)

/-- Lower case leaves a character as it is or moves it on by 32. -/
theorem toLower_eq_or (c : Char) : c.toLower = c ∨ c.toLower.toNat = c.toNat + 32 := by
  by_cases h : 65 ≤ c.toNat ∧ c.toNat ≤ 90
  · exact .inr (by rw [toNat_toLower, if_pos h])
  · exact .inl (Char.toNat_inj.1 (by rw [toNat_toLower, if_neg h]))

theorem toLower_toLower (c : Char) : c.toLower.toLower = c.toLower := by
  refine Char.toNat_inj.1 ?_
  simp only [toNat_toLower]
  split_ifs <;> omega

theorem sameLetter_iff {c d : Char} : SameLetter c d ↔ c.toLower = d.toLower := by
  constructor
  · rintro (rfl | rfl | rfl)
    · rfl
    · exact (toLower_toLower c).symm
    · exact toLower_toLower d
  · intro h
    rcases toLower_eq_or c with hc | hc
    · exact .inr (.inr (hc ▸ h))
    · rcases toLower_eq_or d with hd | hd
      · exact .inr (.inl (hd ▸ h.symm))
      · rw [h, hd] at hc
        exact .inl (Char.toNat_inj.1 (Nat.add_right_cancel hc.symm))

theorem isBlank_toLower (c : Char) : isBlank c.toLower = isBlank c := by
  have hletter : ∀ n, 65 ≤ n → n ≤ 122 → inRanges n blankRanges = false := by
    intro n hlow hhigh
    simp [blankRanges, inRanges]
    omega
  simp only [isBlank, toNat_toLower]
  split_ifs with h
  · rw [hletter _ (by omega) (by omega), hletter _ h.1 (by omega)]
  · rfl

theorem dropWhile_lowerAscii (cs : List Char) :
    (lowerAscii cs).dropWhile isBlank = lowerAscii (cs.dropWhile isBlank) := by
  have hblank : isBlank ∘ Char.toLower = isBlank := funext isBlank_toLower
  rw [lowerAscii, List.dropWhile_map, hblank]
  rfl

/-- Blanks at the ends are the same in lower case. -/
theorem trim_lowerAscii (cs : List Char) : trim (lowerAscii cs) = lowerAscii (trim cs) := by
  have hreverse : ∀ ds, (lowerAscii ds).reverse = lowerAscii ds.reverse :=
    fun ds => List.map_reverse.symm
  simp only [trim, trimStart, trimEnd, dropWhile_lowerAscii, hreverse]

/-- **Alike texts are those that the program takes for equal.** -/
theorem alike_iff {s t : String} :
    Alike s t ↔ eqIgnoreAsciiCase (trim s.toList) (trim t.toList) = true := by
  have hlower : ∀ {cs ds}, List.Forall₂ SameLetter cs ds ↔ lowerAscii cs = lowerAscii ds := by
    intro cs ds
    have hsame : SameLetter = fun c d => c.toLower = d.toLower :=
      funext₂ fun c d => propext sameLetter_iff
    rw [lowerAscii, lowerAscii, ← List.forall₂_eq_eq_eq, List.forall₂_map_left_iff,
      List.forall₂_map_right_iff, hsame]
  rw [eqIgnoreAsciiCase, decide_eq_true_eq]
  constructor
  · rintro ⟨cs, ds, hcs, hds, h⟩
    rw [hcs.trim_eq, hds.trim_eq, ← trim_lowerAscii, ← trim_lowerAscii, hlower.1 h]
  · exact fun h => ⟨_, _, exists_trim _, exists_trim _, hlower.2 h⟩

end Text

end Instrument
