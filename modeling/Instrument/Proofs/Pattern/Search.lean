/-
# What a search finds

A search tries the places of a text from left to right, and after a match goes on behind it.  From
the soundness and the completeness of the matcher at one place follow those of the search:

* a text has a match exactly if some place in it is the start of a way (`findAll_ne_nil_iff`);
* the matches stand one behind the other, with what was skipped between them (`succession_findAll`),
  so those that take a character are no more than the characters (`Succession.length_le`).
-/
import Instrument.Proofs.Pattern.Way

namespace Instrument.Pattern

/-- A match `f` of the pattern that is found from the place `p` on: `gap` is what is skipped before
it. -/
structure Found.Follows (f : Found) (a : Pattern) (p : Place) (gap : List Char) : Prop where
  rest_eq : p.rest = gap ++ f.first.rest
  first_eq : f.first = p.fresh.past gap
  way : Way a f.first f.last

/-- Matches one behind the other, from a place on. -/
inductive Succession (a : Pattern) : Place → List Found → Prop
  | nil {p : Place} : Succession a p []
  | cons {p : Place} {f : Found} {fs : List Found} {gap : List Char} :
      f.Follows a p gap → Succession a f.last.fresh fs → Succession a p (f :: fs)

theorem Place.past_cons (p : Place) (c : Char) (x : List Char) :
    p.past (c :: x) = (p.past [c]).past x :=
  Place.past_append p [c] x

/-! ## One match -/

theorem find?_eq_some {a : Pattern} {before : Option Char} {n : Nat} {text : List Char} {f : Found}
    (h : a.find? before n text = some f) : ∃ gap, f.Follows a ⟨n, before, text, []⟩ gap := by
  induction text generalizing before n with
  | nil =>
    simp only [find?, Option.map_eq_some_iff] at h
    obtain ⟨q, hq, rfl⟩ := h
    obtain ⟨q', hw, heq⟩ := exists_way_of_matcher a hq
    cases heq
    exact ⟨[], rfl, rfl, hw⟩
  | cons c rest ih =>
    simp only [find?] at h
    split at h
    · rename_i q hq
      cases h
      obtain ⟨q', hw, heq⟩ := exists_way_of_matcher a hq
      cases heq
      exact ⟨[], rfl, rfl, hw⟩
    · obtain ⟨gap, hrest, hfirst, hw⟩ := ih h
      refine ⟨c :: gap, congrArg (c :: ·) hrest, ?_, hw⟩
      exact hfirst.trans (Place.past_cons ⟨n, before, c :: rest, []⟩ c gap).symm

theorem isSome_matcher_some {a : Pattern} {p q : Place} (h : Way a p q) :
    (a.matcher p some).isSome = true :=
  isSome_matcher_of_way a (fun _ => rfl) h rfl

theorem isSome_find? {a : Pattern} {before : Option Char} {n : Nat} {gap rest : List Char}
    {q : Place} (h : Way a ((⟨n, before, gap ++ rest, []⟩ : Place).past gap) q) :
    (a.find? before n (gap ++ rest)).isSome = true := by
  induction gap generalizing before n with
  | nil =>
    have hm := isSome_matcher_some h
    rw [List.nil_append, Place.past_nil] at hm
    cases rest with
    | nil => simpa [find?] using hm
    | cons c rest =>
      obtain ⟨r, hr⟩ := Option.isSome_iff_exists.1 hm
      simp [find?, hr]
  | cons c gap ih =>
    rw [List.cons_append, Place.past_cons] at h
    simp only [List.cons_append, find?]
    split
    · rfl
    · exact ih h

theorem findFrom?_eq_some {a : Pattern} {p : Place} {f : Found} (h : a.findFrom? p = some f) :
    ∃ gap, f.Follows a p gap := by
  obtain ⟨gap, hrest, hfirst, hw⟩ := find?_eq_some h
  exact ⟨gap, hrest, hfirst, hw⟩

theorem findNext?_eq_some {a : Pattern} {lastEnd : Option Nat} {p : Place} {f : Found}
    (h : a.findNext? lastEnd p = some f) : ∃ gap, f.Follows a p gap := by
  unfold findNext? at h
  split at h
  · cases h
  · rename_i g hg
    split at h
    · -- An empty match where the one before ended: the search goes on behind the next character.
      obtain ⟨m, hm, hf⟩ := Option.bind_eq_some_iff.1 h
      obtain ⟨c, rest, hr, -, rfl⟩ := Place.step?_eq_some_iff.1 hm
      obtain ⟨gap, hrest, hfirst, hw⟩ := findFrom?_eq_some hf
      refine ⟨c :: gap, ?_, ?_, hw⟩
      · rw [Place.past_rest (x := [c]) hr] at hrest
        rw [hr, hrest, List.cons_append]
      · exact hfirst.trans (Place.past_cons p.fresh c gap).symm
    · cases h
      exact findFrom?_eq_some hg

/-! ## All matches -/

theorem succession_findAllFrom (a : Pattern) (fuel : Nat) (lastEnd : Option Nat) (p : Place) :
    Succession a p (a.findAllFrom fuel lastEnd p) := by
  induction fuel generalizing lastEnd p with
  | zero => exact .nil
  | succ fuel ih =>
    simp only [findAllFrom]
    split
    · exact .nil
    · rename_i f hf
      obtain ⟨gap, hfollows⟩ := findNext?_eq_some hf
      exact .cons hfollows (ih (some f.last.position) f.last.fresh)

/-- **The matches of a text stand one behind the other.** -/
theorem succession_findAll (a : Pattern) (text : List Char) :
    Succession a (.start text) (a.findAll text) :=
  succession_findAllFrom a _ _ _

/-- Each of the matches is one from some place on. -/
theorem Succession.exists_follows {a : Pattern} {p : Place} {fs : List Found}
    (h : Succession a p fs) : ∀ f ∈ fs, ∃ q gap, f.Follows a q gap := by
  induction h with
  | nil => exact fun f hf => absurd hf List.not_mem_nil
  | cons hfollows _ ih =>
    intro f hf
    rcases List.mem_cons.1 hf with rfl | hf
    · exact ⟨_, _, hfollows⟩
    · exact ih f hf

/-- There are no more matches that take a character than there are characters. -/
theorem Succession.length_le {a : Pattern} {p : Place} {fs : List Found} (h : Succession a p fs)
    (hfs : ∀ f ∈ fs, f.isEmpty = false) : fs.length ≤ p.rest.length := by
  induction h with
  | nil => exact Nat.zero_le _
  | @cons p f fs gap hfollows _ ih =>
    have hmore : fs.length ≤ f.last.rest.length :=
      ih fun g hg => hfs g (List.mem_cons_of_mem f hg)
    have hmoved : f.last.position ≠ f.first.position :=
      fun hstill => of_decide_eq_false (hfs f List.mem_cons_self) hstill.symm
    have htaken := hfollows.way.rest_lt hmoved
    rw [hfollows.rest_eq, List.length_append, List.length_cons]
    omega

/-- **A text has a match exactly if a way starts somewhere in it.** -/
theorem findAll_ne_nil_iff {a : Pattern} {text : List Char} :
    a.findAll text ≠ [] ↔
      ∃ gap rest q, text = gap ++ rest ∧ Way a ((Place.start text).past gap) q := by
  constructor
  · intro h
    obtain ⟨f, fs, heq⟩ := List.exists_cons_of_ne_nil h
    have hs := succession_findAll a text
    rw [heq] at hs
    cases hs with
    | cons hf _ => exact ⟨_, _, _, hf.rest_eq, hf.first_eq ▸ hf.way⟩
  · rintro ⟨gap, rest, q, rfl, hw⟩
    obtain ⟨f, hf⟩ := Option.isSome_iff_exists.1 (isSome_find? hw)
    have hnext : a.findNext? none (.start (gap ++ rest)) = some f := by
      simp [findNext?, findFrom?, Place.start, hf]
    simp [findAll, findAllFrom, hnext]

end Instrument.Pattern
