/-
# Equality of JSON values

Whether two values are equal can be decided, and so can what is read from a given text.  Values nest
in lists, so that the test goes over values, items and members at once; each of the three is correct
by the other two.
-/
import Instrument.Json.Reader

namespace Instrument.Json

mutual

/-- Are two values the same? -/
def same : Json → Json → Bool
  | .null, .null => true
  | .bool a, .bool b => a = b
  | .integer a, .integer b => a = b
  | .real a, .real b => a = b
  | .single a, .single b => a = b
  | .text a, .text b => a = b
  | .array as, .array bs => sameItems as bs
  | .object as, .object bs => sameMembers as bs
  | _, _ => false

/-- Are two lists of values the same? -/
def sameItems : List Json → List Json → Bool
  | [], [] => true
  | a :: as, b :: bs => same a b && sameItems as bs
  | _, _ => false

/-- Are two lists of members the same? -/
def sameMembers : List (String × Json) → List (String × Json) → Bool
  | [], [] => true
  | (m, a) :: as, (n, b) :: bs => m = n && same a b && sameMembers as bs
  | _, _ => false

end

mutual

theorem same_iff (a b : Json) : same a b = true ↔ a = b := by
  cases a <;> cases b <;> simp [same, sameItems_iff, sameMembers_iff]

theorem sameItems_iff (as bs : List Json) : sameItems as bs = true ↔ as = bs := by
  cases as <;> cases bs <;> simp [sameItems, same_iff, sameItems_iff]

theorem sameMembers_iff (as bs : List (String × Json)) : sameMembers as bs = true ↔ as = bs := by
  cases as with
  | nil => cases bs <;> simp [sameMembers]
  | cons m as =>
    obtain ⟨m, a⟩ := m
    cases bs with
    | nil => simp [sameMembers]
    | cons n bs =>
      obtain ⟨n, b⟩ := n
      simp [sameMembers, same_iff a b, sameMembers_iff as bs]

end

instance : DecidableEq Json := fun a b => decidable_of_iff _ (same_iff a b)

deriving instance DecidableEq for Except

/-- A text that is a value and nothing more. -/
theorem read_ofList {cs : List Char} {v : Json}
    (hvalue : readValue (2 * cs.length + 2) nestingLimit cs = .ok (v, [])) :
    read (String.ofList cs) = .ok v := by
  have hrest : (skipSpace []).isEmpty = true := rfl
  simp only [read, String.toList_ofList, hvalue, hrest, if_true]

end Instrument.Json
