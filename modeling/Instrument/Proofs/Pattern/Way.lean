/-
# Ways of a pattern through a text

What a pattern means, apart from the order in which its matcher tries things.  `Way a p q` says that
the pattern `a` can be followed from the place `p` to the place `q`: one constructor per form of
pattern, and nothing about preference.

Two statements connect it to the search:

* **soundness** (`exists_way_of_matcher`): what the matcher finds, it finds at the end of a way;
* **completeness** (`isSome_matcher_of_way`): if some way leads to a place that is wanted, the
  matcher finds something.

Completeness has a condition.  A goal that looks at the groups can tell two ways to the same spot
apart, and the matcher drops rounds of a repetition that take nothing, with the groups in them.  So
the goal must be `Blind`: it may look at the spot only.  The goals of a search are, as they accept
every place.
-/
import Instrument.Pattern.Matcher
import Mathlib.Data.List.Basic

namespace Instrument.Pattern

/-! ## Places -/

namespace Place

/-- Two places at the same spot of a text; their groups may differ. -/
def Same (p q : Place) : Prop := p.position = q.position ∧ p.before = q.before ∧ p.rest = q.rest

theorem Same.refl (p : Place) : p.Same p := ⟨rfl, rfl, rfl⟩

theorem Same.symm {p q : Place} (h : p.Same q) : q.Same p := ⟨h.1.symm, h.2.1.symm, h.2.2.symm⟩

theorem Same.trans {p q r : Place} (h : p.Same q) (h' : q.Same r) : p.Same r :=
  ⟨h.1.trans h'.1, h.2.1.trans h'.2.1, h.2.2.trans h'.2.2⟩

theorem same_close (i : Nat) (p q : Place) : (p.close i q).Same q := ⟨rfl, rfl, rfl⟩

/-- The place behind a text `x` that lies ahead. -/
def past (p : Place) (x : List Char) : Place :=
  { p with position := p.position + x.length, before := x.getLast?.or p.before,
           rest := p.rest.drop x.length }

@[simp] theorem past_nil (p : Place) : p.past [] = p := rfl

@[simp] theorem past_groups (p : Place) (x : List Char) : (p.past x).groups = p.groups := rfl

@[simp] theorem past_position (p : Place) (x : List Char) :
    (p.past x).position = p.position + x.length := rfl

theorem past_rest {p : Place} {x rest : List Char} (h : p.rest = x ++ rest) :
    (p.past x).rest = rest := by
  simp [past, h]

theorem past_append (p : Place) (x y : List Char) : p.past (x ++ y) = (p.past x).past y := by
  simp only [past, List.length_append, List.getLast?_append, List.drop_drop, Place.mk.injEq,
    and_true]
  exact ⟨(Nat.add_assoc ..).symm, by cases y.getLast? <;> rfl⟩

theorem Same.past {p q : Place} (h : p.Same q) (x : List Char) : (p.past x).Same (q.past x) := by
  obtain ⟨hp, hb, hr⟩ := h
  exact ⟨by simp [hp], by simp [Place.past, hb], by simp [Place.past, hr]⟩

/-- A step takes one character of the set. -/
theorem step?_eq_some_iff {p q : Place} {s : CharSet} :
    p.step? s = some q ↔ ∃ c rest, p.rest = c :: rest ∧ s.has c = true ∧ q = p.past [c] := by
  unfold step?
  cases hr : p.rest with
  | nil => simp
  | cons c rest =>
    constructor
    · intro h
      by_cases hc : s.has c = true
      · simp only [hc, if_true, Option.some.injEq] at h
        exact ⟨c, rest, rfl, hc, by simp [← h, Place.past, hr]⟩
      · simp [hc] at h
    · rintro ⟨d, rest', heq, hd, rfl⟩
      obtain ⟨rfl, rfl⟩ := List.cons_eq_cons.1 heq
      simp [hd, Place.past, hr]

end Place

/-! ## Ways -/

/-- The pattern can be followed from the first place to the second. -/
inductive Way : Pattern → Place → Place → Prop
  | empty {p : Place} : Way .empty p p
  | char {s : CharSet} {p q : Place} : p.step? s = some q → Way (.char s) p q
  | look {l : Look} {p : Place} : p.looks l = true → Way (.look l) p p
  | seq {a b : Pattern} {p q r : Place} : Way a p q → Way b q r → Way (.seq a b) p r
  | left {a b : Pattern} {p q : Place} : Way a p q → Way (.alt a b) p q
  | right {a b : Pattern} {p q : Place} : Way b p q → Way (.alt a b) p q
  | once {a : Pattern} {greedy : Bool} {p q : Place} : Way a p q → Way (.plus a greedy) p q
  | more {a : Pattern} {greedy : Bool} {p q r : Place} :
      Way a p q → Way (.plus a greedy) q r → Way (.plus a greedy) p r
  | group {a : Pattern} {i : Nat} {p q : Place} : Way a p q → Way (.group i a) p (p.close i q)

/-- A way takes a text that lies ahead, and ends behind it. -/
theorem Way.exists_text {a : Pattern} {p q : Place} (h : Way a p q) :
    ∃ x, p.rest = x ++ q.rest ∧ q.Same (p.past x) := by
  induction h with
  | empty | look _ => exact ⟨[], rfl, .refl _⟩
  | char h =>
    obtain ⟨c, rest, hr, -, rfl⟩ := Place.step?_eq_some_iff.1 h
    exact ⟨[c], by simp [Place.past, hr], .refl _⟩
  | left _ ih | right _ ih | once _ ih => exact ih
  | @seq a b p q r _ _ iha ihb | @more a g p q r _ _ iha ihb =>
    obtain ⟨x, hx, hq⟩ := iha
    obtain ⟨y, hy, hr⟩ := ihb
    refine ⟨x ++ y, by rw [hx, hy, List.append_assoc], ?_⟩
    rw [Place.past_append]
    exact hr.trans (hq.past y)
  | @group a i p q _ ih =>
    obtain ⟨x, hx, hq⟩ := ih
    exact ⟨x, hx, (Place.same_close i p q).trans hq⟩

/-- A way never leads back. -/
theorem Way.position_le {a : Pattern} {p q : Place} (h : Way a p q) : p.position ≤ q.position := by
  obtain ⟨x, -, hq, -⟩ := h.exists_text
  rw [hq, Place.past_position]
  exact Nat.le_add_right _ _

/-- A way that takes nothing stays at its spot. -/
theorem Way.same_of_position_eq {a : Pattern} {p q : Place} (h : Way a p q)
    (hp : q.position = p.position) : p.Same q := by
  obtain ⟨x, -, hq⟩ := h.exists_text
  have hx : x = [] := by
    have := hq.1
    rw [Place.past_position] at this
    exact List.eq_nil_of_length_eq_zero (by omega)
  subst hx
  exact hq.symm

/-- A way that takes something leaves less of the text. -/
theorem Way.rest_lt {a : Pattern} {p q : Place} (h : Way a p q)
    (hp : q.position ≠ p.position) : q.rest.length < p.rest.length := by
  obtain ⟨x, hx, hq, -⟩ := h.exists_text
  rw [Place.past_position] at hq
  rw [hx, List.length_append]
  omega

/-! ## Soundness -/

/-- A matcher that only finds what lies at the end of a way. -/
def Matcher.SoundFor (m : Matcher) (W : Place → Place → Prop) : Prop :=
  ∀ {p goal r}, m p goal = some r → ∃ q, W p q ∧ goal q = some r

theorem orElse_eq_some {m m' : Matcher} {p r : Place} {goal : Place → Option Place}
    (h : m.orElse m' p goal = some r) : m p goal = some r ∨ m' p goal = some r := by
  unfold Matcher.orElse at h
  split at h
  · rename_i q hq
    exact .inl (hq.trans h)
  · exact .inr h

theorem choose_eq_some {greedy : Bool} {go stop : Matcher} {p r : Place}
    {goal : Place → Option Place} (h : choose greedy go stop p goal = some r) :
    go p goal = some r ∨ stop p goal = some r := by
  cases greedy with
  | true => exact orElse_eq_some h
  | false => exact (orElse_eq_some h).symm

section Rounds

variable {a : Pattern} {greedy : Bool} (ha : a.matcher.SoundFor (Way a))

include ha

theorem rounds_sound (fuel : Nat) :
    (rounds a.matcher greedy fuel).SoundFor fun p q => p = q ∨ Way (.plus a greedy) p q := by
  induction fuel with
  | zero => exact fun h => ⟨_, .inl rfl, h⟩
  | succ fuel ih =>
    intro p goal r h
    rcases choose_eq_some h with h | h
    · obtain ⟨m, hm, h⟩ := ha h
      split at h
      · cases h
      · obtain ⟨q, rfl | hq, hr⟩ := ih h
        · exact ⟨m, .inr (.once hm), hr⟩
        · exact ⟨q, .inr (.more hm hq), hr⟩
    · exact ⟨p, .inl rfl, h⟩

theorem roundsFrom_sound :
    (roundsFrom a.matcher greedy).SoundFor (Way (.plus a greedy)) := by
  intro p goal r h
  obtain ⟨m, hm, h⟩ := ha h
  split at h
  · exact ⟨m, .once hm, h⟩
  · obtain ⟨q, rfl | hq, hr⟩ := rounds_sound ha _ h
    · exact ⟨m, .once hm, hr⟩
    · exact ⟨q, .more hm hq, hr⟩

end Rounds

/-- **The matcher is sound**: what it finds lies at the end of a way to a place that is wanted. -/
theorem exists_way_of_matcher (a : Pattern) : a.matcher.SoundFor (Way a) := by
  induction a with
  | empty => exact fun h => ⟨_, .empty, h⟩
  | char s =>
    intro p goal r h
    obtain ⟨q, hq, h⟩ := Option.bind_eq_some_iff.1 h
    exact ⟨q, .char hq, h⟩
  | look l =>
    intro p goal r h
    simp only [matcher] at h
    split at h
    · exact ⟨p, .look ‹_›, h⟩
    · cases h
  | seq a b iha ihb =>
    intro p goal r h
    obtain ⟨m, hm, h⟩ := iha h
    obtain ⟨q, hq, h⟩ := ihb h
    exact ⟨q, .seq hm hq, h⟩
  | alt a b iha ihb =>
    intro p goal r h
    rcases orElse_eq_some h with h | h
    · obtain ⟨q, hq, h⟩ := iha h
      exact ⟨q, .left hq, h⟩
    · obtain ⟨q, hq, h⟩ := ihb h
      exact ⟨q, .right hq, h⟩
  | plus a greedy ih => exact roundsFrom_sound ih
  | group i a ih =>
    intro p goal r h
    obtain ⟨q, hq, h⟩ := ih h
    exact ⟨_, .group hq, h⟩

/-! ## Groups do not steer the search

Two searches from one spot, for goals that differ in what they make of the groups alone, both find
something or both find nothing. -/

/-- Goals that accept the same spots. -/
def Alike (g g' : Place → Option Place) : Prop :=
  ∀ {q q' : Place}, q.Same q' → (g q).isSome = (g' q').isSome

/-- A goal that looks at the spot alone. -/
def Blind (g : Place → Option Place) : Prop := Alike g g

/-- A matcher that the groups do not steer. -/
def Matcher.Steady (m : Matcher) : Prop :=
  ∀ {p p' : Place} {g g' : Place → Option Place},
    p.Same p' → Alike g g' → (m p g).isSome = (m p' g').isSome

theorem isSome_orElse (m m' : Matcher) (p : Place) (goal : Place → Option Place) :
    (m.orElse m' p goal).isSome = ((m p goal).isSome || (m' p goal).isSome) := by
  unfold Matcher.orElse
  cases m p goal <;> simp

theorem isSome_choose (greedy : Bool) (go stop : Matcher) (p : Place)
    (goal : Place → Option Place) :
    (choose greedy go stop p goal).isSome = ((go p goal).isSome || (stop p goal).isSome) := by
  cases greedy with
  | true => exact isSome_orElse go stop p goal
  | false => exact (isSome_orElse stop go p goal).trans (Bool.or_comm _ _)

section Rounds

variable {m : Matcher} (hm : m.Steady) (greedy : Bool) {p p' : Place}
  {g g' : Place → Option Place}

/-- What is asked of the end of a round that must take something. -/
theorem alike_goOn {m : Matcher} (hm : m.Steady) (hp : p.Same p') (hg : Alike g g') :
    Alike (fun q => if q.position = p.position then none else m q g)
      (fun q => if q.position = p'.position then none else m q g') := by
  intro q q' hq
  simp only [hq.1, hp.1]
  split
  · rfl
  · exact hm hq hg

include hm

theorem steady_rounds (fuel : Nat) : (rounds m greedy fuel).Steady := by
  induction fuel with
  | zero => exact fun hp hg => hg hp
  | succ fuel ih =>
    intro p p' g g' hp hg
    simp only [rounds, isSome_choose]
    exact congrArg₂ _ (hm hp (alike_goOn ih hp hg)) (hg hp)

/-- What is asked of the end of the first round. -/
theorem alike_goOnFirst (hp : p.Same p') (hg : Alike g g') :
    Alike (fun q => if q.position = p.position then g q else rounds m greedy q.rest.length q g)
      (fun q => if q.position = p'.position then g' q
        else rounds m greedy q.rest.length q g') := by
  intro q q' hq
  simp only [hq.1, hq.2.2, hp.1]
  split
  · exact hg hq
  · exact steady_rounds hm greedy _ hq hg

theorem steady_roundsFrom : (roundsFrom m greedy).Steady :=
  fun hp hg => hm hp (alike_goOnFirst hm greedy hp hg)

end Rounds

theorem steady_matcher (a : Pattern) : a.matcher.Steady := by
  induction a with
  | empty => exact fun hp hg => hg hp
  | char s =>
    intro p p' g g' hp hg
    simp only [matcher, Place.step?, hp.2.2]
    cases p'.rest with
    | nil => rfl
    | cons c rest =>
      by_cases hc : s.has c = true
      · simp only [hc, if_true, Option.bind_some]
        exact hg ⟨congrArg (· + 1) hp.1, rfl, rfl⟩
      · simp [hc]
  | look l =>
    intro p p' g g' hp hg
    simp only [matcher, Place.looks, hp.2.1, hp.2.2]
    by_cases hl : l.holds p'.before p'.rest.head? = true
    · simpa only [hl, if_true] using hg hp
    · simp [hl]
  | seq a b iha ihb => exact fun hp hg => iha hp fun hq => ihb hq hg
  | alt a b iha ihb =>
    intro p p' g g' hp hg
    simp only [matcher, isSome_orElse]
    rw [iha hp hg, ihb hp hg]
  | plus a greedy ih => exact steady_roundsFrom ih greedy
  | group i a ih =>
    intro p p' g g' hp hg
    refine ih hp fun {q q'} hq => hg ?_
    exact ((Place.same_close i p q).trans hq).trans (Place.same_close i p' q').symm

/-! ## Completeness -/

/-- A matcher that finds something whenever a way leads to a place that is wanted. -/
def Matcher.CompleteFor (m : Matcher) (W : Place → Place → Prop) : Prop :=
  ∀ {p q : Place} {goal : Place → Option Place},
    Blind goal → W p q → (goal q).isSome = true → (m p goal).isSome = true

/-- Rounds of a repetition that take nothing may be left out: either none takes anything, or one
that does starts at the same spot. -/
theorem Way.firstRound {a : Pattern} {greedy : Bool} {b : Pattern} {p q : Place} (h : Way b p q)
    (hb : b = .plus a greedy) :
    p.Same q ∨ ∃ p' m, p.Same p' ∧ Way a p' m ∧ m.position ≠ p.position ∧
      (m = q ∨ Way (.plus a greedy) m q) := by
  induction h with
  | empty | char _ | look _ | seq _ _ | left _ | right _ | group _ => cases hb
  | @once _ _ p q hw =>
    cases hb
    by_cases hp : q.position = p.position
    · exact .inl (hw.same_of_position_eq hp)
    · exact .inr ⟨p, q, .refl p, hw, hp, .inl rfl⟩
  | @more _ _ p m q hw hrest _ ih =>
    cases hb
    by_cases hp : m.position = p.position
    · have hs := hw.same_of_position_eq hp
      rcases ih rfl with hq | ⟨p', m', hp', hw', hne, hq⟩
      · exact .inl (hs.trans hq)
      · exact .inr ⟨p', m', hs.trans hp', hw', by rwa [hs.1], hq⟩
    · exact .inr ⟨p, m, .refl p, hw, hp, .inr hrest⟩

section Rounds

variable {a : Pattern} {greedy : Bool} (ha : a.matcher.CompleteFor (Way a))

include ha

theorem rounds_complete (fuel : Nat) {p q : Place} {goal : Place → Option Place}
    (hfuel : p.rest.length ≤ fuel) (hg : Blind goal)
    (h : p = q ∨ Way (.plus a greedy) p q) (hq : (goal q).isSome = true) :
    (rounds a.matcher greedy fuel p goal).isSome = true := by
  -- Each round that is kept takes a character, so the fuel lasts.
  induction fuel generalizing p with
  | zero =>
    rcases h with rfl | h
    · exact hq
    · have hp : q.position = p.position := by
        by_contra hne
        have := h.rest_lt hne
        omega
      exact (hg (h.same_of_position_eq hp)).trans hq
  | succ fuel ih =>
    simp only [rounds, isSome_choose, Bool.or_eq_true]
    have hsame : p.Same q ∨ ∃ p' m, p.Same p' ∧ Way a p' m ∧ m.position ≠ p.position ∧
        (m = q ∨ Way (.plus a greedy) m q) := by
      rcases h with rfl | h
      · exact .inl (.refl p)
      · exact h.firstRound rfl
    rcases hsame with hs | ⟨p', m, hs, hw, hne, hrest⟩
    · exact .inr ((hg hs).trans hq)
    · left
      have hblind : Blind fun q => if q.position = p.position then none
          else rounds a.matcher greedy fuel q goal :=
        alike_goOn (steady_rounds (steady_matcher a) greedy fuel) (.refl p) hg
      rw [steady_matcher a hs hblind]
      refine ha hblind hw ?_
      rw [if_neg hne]
      have hlt : m.rest.length < p'.rest.length := hw.rest_lt (by rwa [← hs.1])
      rw [← hs.2.2] at hlt
      exact ih (by omega) hrest

theorem roundsFrom_complete :
    (roundsFrom a.matcher greedy).CompleteFor (Way (.plus a greedy)) := by
  intro p q goal hg h hq
  have hblind : Blind fun q => if q.position = p.position then goal q
      else rounds a.matcher greedy q.rest.length q goal :=
    alike_goOnFirst (steady_matcher a) greedy (.refl p) hg
  rcases h.firstRound rfl with hs | ⟨p', m, hs, hw, hne, hrest⟩
  · -- No round takes anything: the first one alone will do.
    have hfirst : ∃ m, Way a p m ∧ m.position ≤ q.position := by
      cases h with
      | once hw => exact ⟨q, hw, Nat.le_refl _⟩
      | more hw hrest => exact ⟨_, hw, hrest.position_le⟩
    obtain ⟨m, hw, hle⟩ := hfirst
    have hm : m.position = p.position :=
      Nat.le_antisymm (hs.1 ▸ hle) hw.position_le
    refine ha hblind hw ?_
    rw [if_pos hm]
    exact (hg ((hw.same_of_position_eq hm).symm.trans hs)).trans hq
  · refine (steady_matcher a hs hblind).trans (ha hblind hw ?_)
    rw [if_neg hne]
    exact rounds_complete ha _ (Nat.le_refl _) hg hrest hq

end Rounds

/-- **The matcher is complete**: if a way leads to a place that is wanted, it finds something. -/
theorem isSome_matcher_of_way (a : Pattern) : a.matcher.CompleteFor (Way a) := by
  induction a with
  | empty =>
    intro p q goal _ h hq
    cases h
    exact hq
  | char s =>
    intro p q goal _ h hq
    cases h with
    | char h => simpa [matcher, h] using hq
  | look l =>
    intro p q goal _ h hq
    cases h with
    | look h => simpa [matcher, h] using hq
  | seq a b iha ihb =>
    intro p q goal hg h hq
    cases h with
    | seq h h' => exact iha (fun hs => steady_matcher b hs hg) h (ihb hg h' hq)
  | alt a b iha ihb =>
    intro p q goal hg h hq
    simp only [matcher, isSome_orElse, Bool.or_eq_true]
    cases h with
    | left h => exact .inl (iha hg h hq)
    | right h => exact .inr (ihb hg h hq)
  | plus a greedy ih => exact roundsFrom_complete ih
  | group i a ih =>
    intro p q goal hg h hq
    cases h with
    | @group _ _ _ m h =>
      refine ih (fun {r r'} hs => hg ?_) h hq
      exact ((Place.same_close i p r).trans hs).trans (Place.same_close i p r').symm

end Instrument.Pattern
