/-
# Digits around a point

A number with a given count of places is a run of digits with a point in front of the last of them
(`Positional.text_split_padded`): those of the number, behind zeros if they are too few.  So what is
written with places is a mantissa (`mantissaText_withPlaces`).
-/
import Instrument.Number.Places
import Instrument.Proofs.Number.Numerals

namespace Instrument.Number

theorem digitsText_padded (width n : Nat) : DigitsText Char.isDigit (Digits.padded width n) :=
  ⟨List.append_ne_nil_of_right_ne_nil _ Nat.toDigits_ne_nil, fun _ hc => isDigit_of_mem_padded hc⟩

/-- Digits in front of a point and digits behind it. -/
structure Positional where
  whole : List Char
  places : List Char

namespace Positional

/-- The digits with the point, which is not written if there are none behind it. -/
def text (x : Positional) : List Char :=
  if x.places = [] then x.whole else x.whole ++ '.' :: x.places

/-- A run of digits with the point in front of the last `places` of them. -/
def split (places : Nat) (cs : List Char) : Positional :=
  ⟨cs.take (cs.length - places), cs.drop (cs.length - places)⟩

theorem whole_append_places (places : Nat) (cs : List Char) :
    (split places cs).whole ++ (split places cs).places = cs :=
  List.take_append_drop _ cs

theorem length_whole_split (places : Nat) (cs : List Char) :
    (split places cs).whole.length = cs.length - places := by
  rw [split, List.length_take]
  omega

theorem length_places_split {places : Nat} {cs : List Char} (h : places ≤ cs.length) :
    (split places cs).places.length = places := by
  rw [split, List.length_drop]
  omega

theorem mantissaText_text {x : Positional}
    (h : DigitsText Char.isDigit (x.whole ++ x.places)) : MantissaText Char.isDigit x.text := by
  obtain ⟨hne, hdigits⟩ := h
  obtain ⟨hwhole, hplaces⟩ := List.forall_mem_append.1 hdigits
  unfold text
  split
  · rename_i hnil
    rw [hnil, List.append_nil] at hne
    exact .whole ⟨hne, hwhole⟩
  · exact .point hwhole hplaces hne

section Padded

variable (places n : Nat)

theorem padded_eq : Digits.padded (places + 1) n =
    List.replicate (places + 1 - (Digits.text n).length) '0' ++ Digits.text n := rfl

theorem digitsText_split_padded :
    DigitsText Char.isDigit ((split places (Digits.padded (places + 1) n)).whole ++
      (split places (Digits.padded (places + 1) n)).places) := by
  rw [whole_append_places]
  exact digitsText_padded (places + 1) n

theorem length_places_padded :
    (split places (Digits.padded (places + 1) n)).places.length = places :=
  length_places_split (Nat.le_of_succ_le (Digits.length_padded (places + 1) n))

theorem value_split_padded : Digits.value ((split places (Digits.padded (places + 1) n)).whole ++
    (split places (Digits.padded (places + 1) n)).places) = n := by
  rw [whole_append_places, value_padded]

/-- **A text with places is that of the digits with the point**, zeros in front if they are too
few. -/
theorem text_split_padded :
    (split places (Digits.padded (places + 1) n)).text = withPlaces places n := by
  have hplaces := length_places_padded places n
  obtain ⟨c, rest, htext, -⟩ := exists_text n
  unfold text withPlaces
  rcases Nat.eq_zero_or_pos places with rfl | hpos
  · rw [if_pos (List.eq_nil_of_length_eq_zero hplaces), if_pos rfl, split, padded_eq, htext,
      Nat.sub_zero, List.take_length]
    simp
  · rw [if_neg (List.ne_nil_of_length_pos (hplaces.symm ▸ hpos)), if_neg hpos.ne']
    rfl

end Padded

end Positional

theorem mantissaText_withPlaces (places n : Nat) :
    MantissaText Char.isDigit (withPlaces places n) := by
  rw [← Positional.text_split_padded]
  exact Positional.mantissaText_text (Positional.digitsText_split_padded places n)

end Instrument.Number
