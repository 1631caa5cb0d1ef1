/-
# Sorted ranges of code points

A class of characters that a standard gives by enumeration is held as a list of closed ranges of
code points, in ascending order.  `inRanges` reads such a list and stops at the first range that
starts past the code point asked about.
-/

namespace Instrument.Text

/-- Membership of `n` in a list of closed ranges in ascending order. -/
def inRanges (n : Nat) : List (Nat × Nat) → Bool
  | [] => false
  | (low, high) :: rest => if n < low then false else n ≤ high || inRanges n rest

/-- What `inRanges` finds lies in one of the ranges. -/
theorem exists_of_inRanges {n : Nat} {rs : List (Nat × Nat)} (h : inRanges n rs = true) :
    ∃ r ∈ rs, r.1 ≤ n ∧ n ≤ r.2 := by
  induction rs with
  | nil => simp [inRanges] at h
  | cons r rest ih =>
    obtain ⟨low, high⟩ := r
    by_cases hl : n < low
    · simp [inRanges, hl] at h
    · by_cases hh : n ≤ high
      · exact ⟨(low, high), List.mem_cons_self, by simp; omega, by simpa using hh⟩
      · simp only [inRanges, hl, hh, if_false, decide_false, Bool.false_or] at h
        obtain ⟨r, hr, hin⟩ := ih h
        exact ⟨r, List.mem_cons_of_mem _ hr, hin⟩

end Instrument.Text
