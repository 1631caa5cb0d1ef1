/-
# Languages of patterns

`Spells a x` says that the text `x` is in the language of the pattern `a`.  It is the textbook
reading of a regular expression: no places, no groups, and nothing of what stands around `x`.  A
pattern that looks at its surroundings has no such language, so `Spells` gives it no text; a `plain`
pattern, with neither looks nor groups, is described by it completely (`way_iff_spells`).
-/
import Instrument.Proofs.Pattern.Way

namespace Instrument.Pattern

/-- The text is in the language of the pattern. -/
inductive Spells : Pattern → List Char → Prop
  | empty : Spells .empty []
  | char {s : CharSet} {c : Char} : s.has c = true → Spells (.char s) [c]
  | seq {a b : Pattern} {x y : List Char} : Spells a x → Spells b y → Spells (.seq a b) (x ++ y)
  | left {a b : Pattern} {x : List Char} : Spells a x → Spells (.alt a b) x
  | right {a b : Pattern} {x : List Char} : Spells b x → Spells (.alt a b) x
  | once {a : Pattern} {greedy : Bool} {x : List Char} : Spells a x → Spells (.plus a greedy) x
  | more {a : Pattern} {greedy : Bool} {x y : List Char} :
      Spells a x → Spells (.plus a greedy) y → Spells (.plus a greedy) (x ++ y)
  | group {a : Pattern} {i : Nat} {x : List Char} : Spells a x → Spells (.group i a) x

/-- A pattern without looks and groups. -/
def plain : Pattern → Bool
  | .empty | .char _ => true
  | .look _ | .group _ _ => false
  | .seq a b | .alt a b => a.plain && b.plain
  | .plus a _ => a.plain

/-- A plain pattern marks no group. -/
theorem groupCount_of_plain {a : Pattern} (h : a.plain = true) : a.groupCount = 0 := by
  induction a with
  | empty | char _ | look _ => rfl
  | group i a _ => cases h
  | plus a g ih => exact ih h
  | seq a b iha ihb | alt a b iha ihb =>
    simp only [plain, Bool.and_eq_true] at h
    simp [groupCount, iha h.1, ihb h.2]

/-- A pattern that takes a character at least. -/
def solid : Pattern → Bool
  | .empty | .look _ => false
  | .char _ => true
  | .seq a b => a.solid || b.solid
  | .alt a b => a.solid && b.solid
  | .plus a _ | .group _ a => a.solid

/-- A solid pattern has no empty text in its language. -/
theorem Spells.ne_nil {a : Pattern} {x : List Char} (h : Spells a x) (ha : a.solid = true) :
    x ≠ [] := by
  induction h with
  | empty => cases ha
  | char _ => exact List.cons_ne_nil _ _
  | left _ ih =>
    simp only [solid, Bool.and_eq_true] at ha
    exact ih ha.1
  | right _ ih =>
    simp only [solid, Bool.and_eq_true] at ha
    exact ih ha.2
  | once _ ih | group _ ih => exact ih ha
  | more _ _ ih _ => exact List.append_ne_nil_of_left_ne_nil (ih ha) _
  | seq _ _ iha ihb =>
    simp only [solid, Bool.or_eq_true] at ha
    rcases ha with ha | hb
    · exact List.append_ne_nil_of_left_ne_nil (iha ha) _
    · exact List.append_ne_nil_of_right_ne_nil _ (ihb hb)

/-! ## Ways of plain patterns -/

/-- A way of a plain pattern spells what it takes. -/
theorem Way.spells {a : Pattern} {p q : Place} (h : Way a p q) (ha : a.plain = true) :
    ∃ x rest, p.rest = x ++ rest ∧ Spells a x ∧ q = p.past x := by
  induction h with
  | empty => exact ⟨[], _, rfl, .empty, rfl⟩
  | char h =>
    obtain ⟨c, rest, hr, hc, rfl⟩ := Place.step?_eq_some_iff.1 h
    exact ⟨[c], rest, hr, .char hc, rfl⟩
  | look _ | group _ => cases ha
  | left _ ih =>
    simp only [plain, Bool.and_eq_true] at ha
    obtain ⟨x, rest, hr, hx, rfl⟩ := ih ha.1
    exact ⟨x, rest, hr, .left hx, rfl⟩
  | right _ ih =>
    simp only [plain, Bool.and_eq_true] at ha
    obtain ⟨x, rest, hr, hx, rfl⟩ := ih ha.2
    exact ⟨x, rest, hr, .right hx, rfl⟩
  | once _ ih =>
    obtain ⟨x, rest, hr, hx, rfl⟩ := ih ha
    exact ⟨x, rest, hr, .once hx, rfl⟩
  | seq _ _ iha ihb =>
    simp only [plain, Bool.and_eq_true] at ha
    obtain ⟨x, rest, hr, hx, rfl⟩ := iha ha.1
    obtain ⟨y, rest', hr', hy, rfl⟩ := ihb ha.2
    rw [Place.past_rest hr] at hr'
    exact ⟨x ++ y, rest', by rw [hr, hr', List.append_assoc], .seq hx hy,
      (Place.past_append ..).symm⟩
  | more _ _ iha ihb =>
    obtain ⟨x, rest, hr, hx, rfl⟩ := iha ha
    obtain ⟨y, rest', hr', hy, rfl⟩ := ihb ha
    rw [Place.past_rest hr] at hr'
    exact ⟨x ++ y, rest', by rw [hr, hr', List.append_assoc], .more hx hy,
      (Place.past_append ..).symm⟩

/-- What a plain pattern spells is a way, wherever it stands. -/
theorem Spells.way {a : Pattern} {x : List Char} (h : Spells a x) (ha : a.plain = true) :
    ∀ {p : Place} {rest : List Char}, p.rest = x ++ rest → Way a p (p.past x) := by
  induction h with
  | empty => exact fun _ => .empty
  | char h => exact fun hr => .char (Place.step?_eq_some_iff.2 ⟨_, _, hr, h, rfl⟩)
  | group _ _ => cases ha
  | left _ ih =>
    simp only [plain, Bool.and_eq_true] at ha
    exact fun hr => .left (ih ha.1 hr)
  | right _ ih =>
    simp only [plain, Bool.and_eq_true] at ha
    exact fun hr => .right (ih ha.2 hr)
  | once _ ih => exact fun hr => .once (ih ha hr)
  | seq _ _ iha ihb =>
    simp only [plain, Bool.and_eq_true] at ha
    intro p rest hr
    rw [List.append_assoc] at hr
    rw [Place.past_append]
    exact .seq (iha ha.1 hr) (ihb ha.2 (Place.past_rest hr))
  | more _ _ iha ihb =>
    intro p rest hr
    rw [List.append_assoc] at hr
    rw [Place.past_append]
    exact .more (iha ha hr) (ihb ha (Place.past_rest hr))

/-- **A plain pattern is described by its language**: its ways take the texts that it spells,
wherever they stand, and end behind them. -/
theorem way_iff_spells {a : Pattern} (ha : a.plain = true) {p q : Place} :
    Way a p q ↔ ∃ x rest, p.rest = x ++ rest ∧ Spells a x ∧ q = p.past x := by
  constructor
  · exact fun h => h.spells ha
  · rintro ⟨x, rest, hr, hx, rfl⟩
    exact hx.way ha hr

/-! ## Sequences -/

/-- The patterns of a list can be followed one after the other. -/
inductive Ways : List Pattern → Place → Place → Prop
  | nil {p : Place} : Ways [] p p
  | cons {a : Pattern} {as : List Pattern} {p q r : Place} :
      Way a p q → Ways as q r → Ways (a :: as) p r

theorem way_seqs_iff {as : List Pattern} {p q : Place} : Way (seqs as) p q ↔ Ways as p q := by
  induction as generalizing p with
  | nil =>
    constructor
    · rintro ⟨⟩
      exact .nil
    · rintro ⟨⟩
      exact .empty
  | cons a rest ih =>
    cases rest with
    | nil =>
      constructor
      · exact fun h => .cons h .nil
      · rintro (_ | ⟨h, _ | _⟩)
        exact h
    | cons b rest =>
      constructor
      · rintro (_ | _ | _ | ⟨h, h'⟩)
        exact .cons h (ih.1 h')
      · rintro (_ | ⟨h, h'⟩)
        exact .seq h (ih.2 h')

theorem ways_cons_iff {a : Pattern} {as : List Pattern} {p r : Place} :
    Ways (a :: as) p r ↔ ∃ q, Way a p q ∧ Ways as q r := by
  constructor
  · rintro (_ | ⟨h, h'⟩)
    exact ⟨_, h, h'⟩
  · rintro ⟨q, h, h'⟩
    exact .cons h h'

theorem groupCount_seqs (as : List Pattern) :
    (seqs as).groupCount = (as.map groupCount).foldr max 0 := by
  induction as with
  | nil => rfl
  | cons a rest ih =>
    cases rest with
    | nil => exact (Nat.max_eq_left (Nat.zero_le _)).symm
    | cons b rest => exact congrArg (max a.groupCount) ih

theorem plain_seqs {as : List Pattern} (h : ∀ a ∈ as, a.plain = true) :
    (seqs as).plain = true := by
  induction as with
  | nil => rfl
  | cons a rest ih =>
    cases rest with
    | nil => exact h a List.mem_cons_self
    | cons b rest =>
      simp only [seqs, plain, Bool.and_eq_true]
      exact ⟨h a List.mem_cons_self, ih fun c hc => h c (List.mem_cons_of_mem _ hc)⟩

/-- A sequence with a solid pattern in it is solid. -/
theorem solid_seqs {a : Pattern} {as : List Pattern} (h : a ∈ as) (ha : a.solid = true) :
    (seqs as).solid = true := by
  induction as with
  | nil => cases h
  | cons b rest ih =>
    cases rest with
    | nil => rwa [List.mem_singleton.1 h] at ha
    | cons c rest =>
      simp only [seqs, solid, Bool.or_eq_true]
      rcases List.mem_cons.1 h with rfl | h
      · exact .inl ha
      · exact .inr (ih h)

/-! ## One constructor at a time -/

section Shapes

variable {a b : Pattern} {x : List Char}

theorem spells_empty_iff : Spells .empty x ↔ x = [] := by
  constructor
  · rintro ⟨⟩
    rfl
  · rintro rfl
    exact .empty

theorem spells_char_iff {s : CharSet} : Spells (.char s) x ↔ ∃ c, s.has c = true ∧ x = [c] := by
  constructor
  · rintro ⟨⟩
    exact ⟨_, ‹_›, rfl⟩
  · rintro ⟨c, hc, rfl⟩
    exact .char hc

theorem spells_seq_iff :
    Spells (.seq a b) x ↔ ∃ y z, x = y ++ z ∧ Spells a y ∧ Spells b z := by
  constructor
  · rintro ⟨⟩
    exact ⟨_, _, rfl, ‹_›, ‹_›⟩
  · rintro ⟨y, z, rfl, hy, hz⟩
    exact .seq hy hz

theorem spells_alt_iff : Spells (.alt a b) x ↔ Spells a x ∨ Spells b x := by
  constructor
  · rintro (_ | _ | _ | h | h)
    · exact .inl h
    · exact .inr h
  · rintro (h | h)
    · exact .left h
    · exact .right h

/-- A character of a set, once or more often. -/
theorem spells_plus_char_iff {s : CharSet} {greedy : Bool} :
    Spells (.plus (.char s) greedy) x ↔ x ≠ [] ∧ ∀ c ∈ x, s.has c = true := by
  constructor
  · intro h
    refine ⟨h.ne_nil rfl, ?_⟩
    generalize ha : Pattern.plus (.char s) greedy = a at h
    induction h with
    | empty | char _ | seq _ _ | left _ | right _ | group _ => cases ha
    | once h =>
      cases ha
      obtain ⟨c, hc, rfl⟩ := spells_char_iff.1 h
      simpa using hc
    | more h _ _ ih =>
      cases ha
      obtain ⟨c, hc, rfl⟩ := spells_char_iff.1 h
      exact List.forall_mem_cons.2 ⟨hc, ih rfl⟩
  · rintro ⟨hne, hall⟩
    induction x with
    | nil => exact absurd rfl hne
    | cons c x ih =>
      obtain ⟨hc, hx⟩ := List.forall_mem_cons.1 hall
      cases x with
      | nil => exact .once (.char hc)
      | cons d x => exact .more (.char hc) (ih (List.cons_ne_nil d x) hx)

/-- A character of a set, as often as is said. -/
theorem spells_times_char_iff {s : CharSet} {n : Nat} :
    Spells (times (.char s) n) x ↔ x.length = n ∧ ∀ c ∈ x, s.has c = true := by
  induction n generalizing x with
  | zero =>
    rw [times, spells_empty_iff, List.length_eq_zero_iff]
    refine ⟨?_, And.left⟩
    rintro rfl
    exact ⟨rfl, nofun⟩
  | succ n ih =>
    have hcons : Spells (times (.char s) (n + 1)) x ↔
        ∃ c y, x = c :: y ∧ s.has c = true ∧ Spells (times (.char s) n) y := by
      cases n with
      | zero => simp [times, spells_char_iff, spells_empty_iff, and_comm]
      | succ n =>
        simp only [times, spells_seq_iff, spells_char_iff]
        constructor
        · rintro ⟨_, y, rfl, ⟨c, hc, rfl⟩, hy⟩
          exact ⟨c, y, rfl, hc, hy⟩
        · rintro ⟨c, y, rfl, hc, hy⟩
          exact ⟨[c], y, rfl, ⟨c, hc, rfl⟩, hy⟩
    rw [hcons]
    constructor
    · rintro ⟨c, y, rfl, hc, hy⟩
      obtain ⟨hlength, hall⟩ := ih.1 hy
      exact ⟨congrArg (· + 1) hlength, List.forall_mem_cons.2 ⟨hc, hall⟩⟩
    · rintro ⟨hlength, hall⟩
      cases x with
      | nil => cases hlength
      | cons c y =>
        obtain ⟨hc, hy⟩ := List.forall_mem_cons.1 hall
        exact ⟨c, y, rfl, hc, ih.2 ⟨Nat.succ.inj hlength, hy⟩⟩

/-- Patterns one behind the other. -/
theorem spells_seqs_cons_iff {as : List Pattern} :
    Spells (seqs (a :: as)) x ↔ ∃ y z, x = y ++ z ∧ Spells a y ∧ Spells (seqs as) z := by
  cases as with
  | nil =>
    constructor
    · exact fun h => ⟨x, [], (List.append_nil x).symm, h, .empty⟩
    · rintro ⟨y, z, rfl, hy, hz⟩
      rwa [spells_empty_iff.1 hz, List.append_nil]
  | cons b as => exact spells_seq_iff

end Shapes
end Instrument.Pattern
