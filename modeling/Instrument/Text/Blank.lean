/-
# Blanks

Blank characters are those of Unicode's `White_Space` property.  Text from an instrument or from a
schema is trimmed of them, and words are the runs between them.
-/
import Instrument.Text.Ranges

namespace Instrument.Text

/-- The property `White_Space`. -/
def blankRanges : List (Nat × Nat) :=
  [(0x09, 0x0D), (0x20, 0x20), (0x85, 0x85), (0xA0, 0xA0), (0x1680, 0x1680), (0x2000, 0x200A),
   (0x2028, 0x2029), (0x202F, 0x202F), (0x205F, 0x205F), (0x3000, 0x3000)]

/-- Is `c` a blank? -/
def isBlank (c : Char) : Bool := inRanges c.toNat blankRanges

/-- `cs` without its leading blanks. -/
def trimStart (cs : List Char) : List Char := cs.dropWhile isBlank

/-- `cs` without its trailing blanks. -/
def trimEnd (cs : List Char) : List Char := (cs.reverse.dropWhile isBlank).reverse

/-- `cs` without the blanks at either end. -/
def trim (cs : List Char) : List Char := trimEnd (trimStart cs)

/-- The first run of characters that are not blank; nothing when there is none. -/
def firstWord (cs : List Char) : List Char := (trimStart cs).takeWhile (!isBlank ·)

/-- A string without the blanks at either end. -/
def trimmed (s : String) : String := String.ofList (trim s.toList)

/-- The pieces between the occurrences of `sep`: always one more than there are of it. -/
def splitOn (sep : Char) : List Char → List (List Char)
  | [] => [[]]
  | c :: rest =>
    if c = sep then [] :: splitOn sep rest
    else match splitOn sep rest with
      | [] => [[c]]
      | piece :: pieces => (c :: piece) :: pieces

theorem splitOn_ne_nil (sep : Char) (cs : List Char) : splitOn sep cs ≠ [] := by
  cases cs with
  | nil => simp [splitOn]
  | cons c rest =>
    simp only [splitOn]
    split
    · simp
    · split <;> simp

/-- The pieces hold no separator. -/
theorem not_mem_of_mem_splitOn {sep : Char} {cs piece : List Char}
    (h : piece ∈ splitOn sep cs) : sep ∉ piece := by
  induction cs generalizing piece with
  | nil => simp [splitOn] at h; simp [h]
  | cons c rest ih =>
    simp only [splitOn] at h
    split at h
    · rcases List.mem_cons.1 h with rfl | h
      · simp
      · exact ih h
    · rename_i hc
      split at h
      · rename_i hnil; exact absurd hnil (splitOn_ne_nil sep rest)
      · rename_i p ps heq
        rcases List.mem_cons.1 h with rfl | h
        · have hp : sep ∉ p := ih (heq ▸ List.mem_cons_self)
          simp [hp, Ne.symm hc]
        · exact ih (heq ▸ List.mem_cons_of_mem _ h)

/-- Joining the pieces again restores the text. -/
theorem intercalate_splitOn (sep : Char) (cs : List Char) :
    List.intercalate [sep] (splitOn sep cs) = cs := by
  induction cs with
  | nil => simp [splitOn, List.intercalate]
  | cons c rest ih =>
    simp only [splitOn]
    have hne := splitOn_ne_nil sep rest
    cases hs : splitOn sep rest with
    | nil => exact absurd hs hne
    | cons p ps =>
      rw [hs] at ih
      split
      · rename_i hc; subst hc
        rw [← ih]; simp [List.intercalate]
      · rw [← ih]
        cases ps <;> simp [List.intercalate]

end Instrument.Text
