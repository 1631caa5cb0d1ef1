/-
# Where a reply ends

What `Reader.complete?` finds, said by the octets alone.  With a terminator `t` a whole reply is
there exactly if the octets are `t … t r t p`: copies of `t`, then a reply `r` with something in it
that is cut off by the first `t` behind it, and what is past its end (`complete?_terminator_iff`).
A terminator may overlap itself or the content, so "the first" has to be said by positions: `Ends t
r` says that `t` occurs in `r t` at no position before the last.

That makes the rule stable: more octets behind a whole reply do not change it (`complete?_append`).
-/
import Instrument.Transport.Reader
import Mathlib.Data.List.Infix

namespace Instrument

namespace Reader

variable {t octets : List UInt8}

/-! ## Copies at the start -/

/-- A number of copies of `t`, one behind the other. -/
def copies (t : List UInt8) (count : Nat) : List UInt8 := (List.replicate count t).flatten

theorem copies_succ (t : List UInt8) (count : Nat) :
    copies t (count + 1) = t ++ copies t count := by
  simp [copies, List.replicate_succ]

/-- What is left after stripping does not begin with `t` any more. -/
theorem exists_strip (ht : t ≠ []) {fuel : Nat} (hfuel : octets.length ≤ fuel) :
    ∃ count, octets = copies t count ++ strip t fuel octets ∧ ¬ t <+: strip t fuel octets := by
  induction fuel generalizing octets with
  | zero =>
    obtain rfl : octets = [] := List.eq_nil_of_length_eq_zero (Nat.le_zero.1 hfuel)
    exact ⟨0, rfl, fun h => ht (List.prefix_nil.1 h)⟩
  | succ fuel ih =>
    by_cases hp : t <+: octets
    · obtain ⟨rest, rfl⟩ := hp
      have hpos := List.length_pos_of_ne_nil ht
      rw [List.length_append] at hfuel
      have hshort : rest.length ≤ fuel := by omega
      obtain ⟨count, hrest, hnot⟩ := ih hshort
      have hstrip : strip t (fuel + 1) (t ++ rest) = strip t fuel rest := by
        simp [strip]
      rw [hstrip]
      exact ⟨count + 1, by rw [copies_succ, List.append_assoc, ← hrest], hnot⟩
    · have hstrip : strip t (fuel + 1) octets = octets := by
        rw [strip, if_neg (by simpa using hp)]
      rw [hstrip]
      exact ⟨0, rfl, hp⟩

theorem strip_copies (ht : t ≠ []) {count : Nat} {rest : List UInt8} (hrest : ¬ t <+: rest)
    {fuel : Nat} (hfuel : (copies t count ++ rest).length ≤ fuel) :
    strip t fuel (copies t count ++ rest) = rest := by
  induction count generalizing fuel with
  | zero =>
    cases fuel with
    | zero => rfl
    | succ fuel => exact if_neg (by simpa [copies] using hrest)
  | succ count ih =>
    have hpos := List.length_pos_of_ne_nil ht
    rw [copies_succ, List.append_assoc, List.length_append] at hfuel
    rw [copies_succ, List.append_assoc]
    cases fuel with
    | zero => omega
    | succ fuel =>
      have hstrip : strip t (fuel + 1) (t ++ (copies t count ++ rest)) =
          strip t fuel (copies t count ++ rest) := by
        simp [strip]
      rw [hstrip]
      exact ih (by omega)

/-! ## The first occurrence -/

/-- In `r` followed by `t`, the first occurrence of `t` is the one at the end. -/
def Ends (t r : List UInt8) : Prop := ∀ i < r.length, ¬ t <+: (r ++ t).drop i

theorem ends_cons_iff {b : UInt8} {r : List UInt8} :
    Ends t (b :: r) ↔ ¬ t <+: b :: (r ++ t) ∧ Ends t r := by
  constructor
  · exact fun h => ⟨h 0 (Nat.succ_pos _), fun i hi => h (i + 1) (Nat.succ_lt_succ hi)⟩
  · rintro ⟨hfirst, hrest⟩ i hi
    cases i with
    | zero => exact hfirst
    | succ i => exact hrest i (Nat.lt_of_succ_lt_succ hi)

/-- What stands past the end does not make an occurrence earlier. -/
theorem prefix_append_iff {b : UInt8} {r p : List UInt8} :
    t <+: b :: (r ++ t ++ p) ↔ t <+: b :: (r ++ t) := by
  constructor
  · intro h
    refine List.prefix_of_prefix_length_le h (List.prefix_append (b :: (r ++ t)) p) ?_
    rw [List.length_cons, List.length_append]
    omega
  · exact fun h => h.trans (List.prefix_append (b :: (r ++ t)) p)

theorem splitAt?_of_ends (ht : t ≠ []) {r p : List UInt8} (h : Ends t r) :
    splitAt? t (r ++ t ++ p) = some (r, p) := by
  induction r with
  | nil =>
    obtain ⟨b, rest, rfl⟩ := List.exists_cons_of_ne_nil ht
    simp [splitAt?]
  | cons b r ih =>
    obtain ⟨hfirst, hrest⟩ := ends_cons_iff.1 h
    have hnot : ¬ t.isPrefixOf (b :: (r ++ t ++ p)) = true := by
      rw [List.isPrefixOf_iff_prefix, prefix_append_iff]
      exact hfirst
    rw [List.cons_append, List.cons_append, splitAt?, if_neg hnot, ih hrest]
    rfl

theorem of_splitAt?_eq_some {r p : List UInt8} (h : splitAt? t octets = some (r, p)) :
    octets = r ++ t ++ p ∧ Ends t r := by
  induction octets generalizing r with
  | nil => cases h
  | cons b rest ih =>
    rw [splitAt?] at h
    split at h
    · rename_i hp
      obtain ⟨after, hafter⟩ := List.isPrefixOf_iff_prefix.1 hp
      cases h
      refine ⟨?_, fun i hi => absurd hi (Nat.not_lt_zero i)⟩
      rw [← hafter, List.drop_left, List.nil_append]
    · rename_i hp
      obtain ⟨⟨r, p⟩, hsplit, heq⟩ := Option.map_eq_some_iff.1 h
      cases heq
      obtain ⟨hrest, hends⟩ := ih hsplit
      refine ⟨congrArg (b :: ·) hrest, ends_cons_iff.2 ⟨?_, hends⟩⟩
      rwa [hrest, List.isPrefixOf_iff_prefix, prefix_append_iff] at hp

/-- **What is cut off at a terminator**: the octets before the first occurrence and those after it.
-/
theorem splitAt?_eq_some_iff (ht : t ≠ []) {r p : List UInt8} :
    splitAt? t octets = some (r, p) ↔ octets = r ++ t ++ p ∧ Ends t r := by
  constructor
  · exact of_splitAt?_eq_some
  · rintro ⟨rfl, h⟩
    exact splitAt?_of_ends ht h

theorem not_infix_of_splitAt?_eq_none (ht : t ≠ []) (h : splitAt? t octets = none) :
    ¬ t <:+: octets := by
  induction octets with
  | nil => exact fun hin => ht (List.infix_nil.1 hin)
  | cons b rest ih =>
    rw [splitAt?] at h
    split at h
    · cases h
    · rename_i hp
      rw [List.infix_cons_iff]
      rintro (hfirst | hrest)
      · exact hp (List.isPrefixOf_iff_prefix.2 hfirst)
      · exact ih (Option.map_eq_none_iff.1 h) hrest

/-! ## Whole replies -/

/-- **A whole reply with a terminator.** -/
theorem complete?_terminator_iff (ht : t ≠ []) {r p : List UInt8} :
    complete? (.terminator t) octets = some (r, p) ↔
      ∃ count, octets = copies t count ++ r ++ t ++ p ∧ r ≠ [] ∧ Ends t r := by
  constructor
  · intro h
    obtain ⟨count, hoctets, hnot⟩ := exists_strip ht (Nat.le_refl octets.length)
    obtain ⟨hsplit, hends⟩ := (splitAt?_eq_some_iff ht).1 h
    refine ⟨count, ?_, ?_, hends⟩
    · rw [List.append_assoc, List.append_assoc, ← List.append_assoc r, ← hsplit]
      exact hoctets
    · rintro rfl
      exact hnot ⟨p, hsplit.symm⟩
  · rintro ⟨count, rfl, hne, hends⟩
    obtain ⟨b, rest, rfl⟩ := List.exists_cons_of_ne_nil hne
    have hnot : ¬ t <+: b :: rest ++ t ++ p := by
      rw [List.cons_append, List.cons_append, prefix_append_iff]
      exact (ends_cons_iff.1 hends).1
    have hassoc : copies t count ++ b :: rest ++ t ++ p =
        copies t count ++ (b :: rest ++ t ++ p) := by
      simp only [List.append_assoc]
    rw [complete?, hassoc, strip_copies ht hnot (Nat.le_refl _)]
    exact splitAt?_of_ends ht hends

-- The terminator overlaps itself: the reply ends at its first occurrence, and the rest is past the end.
example : complete? (.terminator [1, 1]) [1, 1, 2, 1, 1, 1] = some ([2], [1]) := by decide

/-- No whole reply with a terminator: once the copies at the start are left out, there is none. -/
theorem exists_of_complete?_eq_none (ht : t ≠ [])
    (h : complete? (.terminator t) octets = none) :
    ∃ count rest, octets = copies t count ++ rest ∧ ¬ t <:+: rest := by
  obtain ⟨count, hoctets, -⟩ := exists_strip ht (Nat.le_refl octets.length)
  exact ⟨count, _, hoctets, not_infix_of_splitAt?_eq_none ht h⟩

theorem complete?_length_eq_some {n : Nat} {r p : List UInt8}
    (h : complete? (.length n) octets = some (r, p)) : octets = r ++ p ∧ r.length = n := by
  rw [complete?] at h
  split at h
  · rename_i hn
    cases h
    exact ⟨(List.take_append_drop n octets).symm, List.length_take_of_le hn⟩
  · cases h

end Reader

/-! ## Strategies of settings -/

/-- A strategy that settings can ask for: there is a terminator, or a length. -/
def ReadStrategy.Proper : ReadStrategy → Prop
  | .terminator t => t ≠ []
  | .length n => n ≠ 0
  | .untilQuiet => True

theorem Text.encode_ne_nil {cs : List Char} (h : cs ≠ []) : encode cs ≠ [] := by
  obtain ⟨c, rest, rfl⟩ := List.exists_cons_of_ne_nil h
  intro hnil
  have hlength := congrArg List.length (List.append_eq_nil_iff.1 hnil).1
  rw [String.length_utf8EncodeChar] at hlength
  exact absurd hlength (Nat.ne_of_gt c.utf8Size_pos)

/-- **The strategies of settings are proper.** -/
theorem ReadStrategy.proper_ofSettings (terminator : Option String) (length : Option Nat) :
    (ofSettings terminator length).Proper := by
  unfold ofSettings
  split
  · rename_i s hs
    have hne : s ≠ "" := by simpa using (Option.filter_eq_some_iff.1 hs).2
    exact Text.encode_ne_nil fun h => hne (String.toList_eq_nil_iff.1 h)
  · rename_i n _ hn
    simpa [Proper] using (Option.filter_eq_some_iff.1 hn).2
  · trivial

namespace Reader

variable {s : ReadStrategy} {octets : List UInt8}

theorem complete?_nil (hs : s.Proper) : complete? s [] = none := by
  cases s with
  | terminator t => rfl
  | length n => exact if_neg fun h => hs (Nat.le_zero.1 h)
  | untilQuiet => rfl

/-- **A whole reply stays one**, whatever comes behind it. -/
theorem complete?_append (hs : s.Proper) {r p : List UInt8} (h : complete? s octets = some (r, p))
    (more : List UInt8) : complete? s (octets ++ more) = some (r, p ++ more) := by
  cases s with
  | terminator t =>
    obtain ⟨count, rfl, hne, hends⟩ := (complete?_terminator_iff hs).1 h
    refine (complete?_terminator_iff hs).2 ⟨count, ?_, hne, hends⟩
    rw [List.append_assoc _ p]
  | length n =>
    obtain ⟨rfl, rfl⟩ := complete?_length_eq_some h
    rw [List.append_assoc, complete?, if_pos (by simp), List.take_left, List.drop_left]
  | untilQuiet => cases h

end Reader

end Instrument
