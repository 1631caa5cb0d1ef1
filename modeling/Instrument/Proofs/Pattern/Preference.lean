/-
# What a pattern takes first

Ways do not say which of several a search takes.  `Prefers a x rest` does, for one text at a time:
where `x` stands with `rest` behind it, the pattern `a` takes `x` before anything else, so that a
search stops there if it can go on behind `x`.  What stands behind matters: a repetition takes as
much as it can, and stops at the end of a run only because the next character is no longer one of
the set.

The matches of a text follow.  If the pattern takes the whole of a text and finds nothing behind it,
the text has this match and no other (`findAll_eq_singleton`).
-/
import Instrument.Proofs.Pattern.Language
import Instrument.Proofs.Pattern.Search

namespace Instrument.Pattern

/-- Where `x` stands with `rest` behind it, the pattern takes `x` before anything else. -/
def Prefers (a : Pattern) (x rest : List Char) : Prop :=
  ∀ ⦃p r : Place⦄ ⦃goal : Place → Option Place⦄,
    p.rest = x ++ rest → goal (p.past x) = some r → a.matcher p goal = some r

/-- Where `text` stands, the pattern finds no way. -/
def Refuses (a : Pattern) (text : List Char) : Prop :=
  ∀ ⦃p : Place⦄ ⦃goal : Place → Option Place⦄, p.rest = text → a.matcher p goal = none

/-! ## Places -/

/-- A character of the set is taken. -/
theorem matcher_char {s : CharSet} {p : Place} {c : Char} {rest : List Char}
    (hp : p.rest = c :: rest) (hc : s.has c = true) (goal : Place → Option Place) :
    (matcher (.char s)) p goal = goal (p.past [c]) := by
  have hstep : p.step? s = some (p.past [c]) :=
    Place.step?_eq_some_iff.2 ⟨c, rest, hp, hc, rfl⟩
  simp [matcher, hstep]

theorem step?_of_not_has {s : CharSet} {p : Place} {text : List Char} (hp : p.rest = text)
    (htext : ∀ c ∈ text.head?, s.has c = false) : p.step? s = none := by
  rw [Option.eq_none_iff_forall_not_mem]
  intro q hq
  obtain ⟨c, rest, hr, hc, -⟩ := Place.step?_eq_some_iff.1 hq
  rw [hp] at hr
  rw [htext c (by rw [hr]; rfl)] at hc
  cases hc

/-! ## Refusal -/

theorem refuses_char {s : CharSet} {text : List Char} (h : ∀ c ∈ text.head?, s.has c = false) :
    Refuses (.char s) text := by
  intro p goal hp
  simp [matcher, step?_of_not_has hp h]

theorem Refuses.seq {a : Pattern} {text : List Char} (h : Refuses a text) (b : Pattern) :
    Refuses (.seq a b) text :=
  fun _ _ hp => h hp

/-! ## Preference -/

theorem prefers_empty (rest : List Char) : Prefers .empty [] rest :=
  fun _ _ _ _ hgoal => hgoal

theorem prefers_char {s : CharSet} {c : Char} (h : s.has c = true) (rest : List Char) :
    Prefers (.char s) [c] rest := by
  intro p r goal hp hgoal
  rw [matcher_char hp h, hgoal]

theorem Prefers.seq {a b : Pattern} {x y rest : List Char} (ha : Prefers a x (y ++ rest))
    (hb : Prefers b y rest) : Prefers (.seq a b) (x ++ y) rest := by
  intro p r goal hp hgoal
  rw [List.append_assoc] at hp
  rw [Place.past_append] at hgoal
  exact ha hp (hb (Place.past_rest hp) hgoal)

theorem Prefers.left {a : Pattern} {x rest : List Char} (h : Prefers a x rest) (b : Pattern) :
    Prefers (.alt a b) x rest := by
  intro p r goal hp hgoal
  simp [matcher, Matcher.orElse, h hp hgoal]

theorem Prefers.right {a b : Pattern} {x rest : List Char} (ha : Refuses a (x ++ rest))
    (hb : Prefers b x rest) : Prefers (.alt a b) x rest := by
  intro p r goal hp hgoal
  simp [matcher, Matcher.orElse, ha hp, hb hp hgoal]

/-- The sequence of a list of patterns, one step at a time. -/
theorem matcher_seqs_cons (a : Pattern) (as : List Pattern) (p : Place)
    (goal : Place → Option Place) :
    (seqs (a :: as)).matcher p goal = a.matcher p fun q => (seqs as).matcher q goal := by
  cases as <;> rfl

/-! ## Runs -/

section Runs

variable {s : CharSet} {x rest : List Char} (hx : ∀ c ∈ x, s.has c = true)
  (hrest : ∀ c ∈ rest.head?, s.has c = false)

include hx hrest

theorem rounds_of_run {fuel : Nat} (hfuel : x.length ≤ fuel) {p r : Place}
    {goal : Place → Option Place} (hp : p.rest = x ++ rest) (hgoal : goal (p.past x) = some r) :
    rounds (matcher (.char s)) true fuel p goal = some r := by
  -- Each round takes one character of the run, so there is fuel for all of them.
  induction x generalizing fuel p with
  | nil =>
    cases fuel with
    | zero => exact hgoal
    | succ fuel =>
      have hstop : p.step? s = none := step?_of_not_has hp hrest
      simp only [rounds, choose, Matcher.orElse, matcher, hstop, if_true]
      exact hgoal
  | cons c x ih =>
    cases fuel with
    | zero => exact absurd hfuel (Nat.not_succ_le_zero _)
    | succ fuel =>
      have hmoved : (p.past [c]).position ≠ p.position := by simp
      have hmore := ih (fun d hd => hx d (List.mem_cons_of_mem c hd)) (Nat.le_of_succ_le_succ hfuel)
        (Place.past_rest (x := [c]) hp) (by rwa [← Place.past_cons])
      simp only [rounds, choose, Matcher.orElse, if_true]
      rw [matcher_char hp (hx c List.mem_cons_self), if_neg hmoved, hmore]

/-- **A greedy repetition takes a run to its end.** -/
theorem prefers_run (hne : x ≠ []) : Prefers (.plus (.char s) true) x rest := by
  intro p r goal hp hgoal
  obtain ⟨c, x, rfl⟩ := List.exists_cons_of_ne_nil hne
  have hmoved : (p.past [c]).position ≠ p.position := by simp
  have hpast : (p.past [c]).rest = x ++ rest := Place.past_rest (x := [c]) hp
  have hfuel : x.length ≤ (p.past [c]).rest.length := by
    rw [hpast, List.length_append]
    exact Nat.le_add_right _ _
  show roundsFrom (matcher (.char s)) true p goal = some r
  rw [roundsFrom, matcher_char hp (hx c List.mem_cons_self), if_neg hmoved]
  exact rounds_of_run (fun d hd => hx d (List.mem_cons_of_mem c hd)) hrest hfuel hpast
    (by rwa [← Place.past_cons])

end Runs

/-! ## The matches of a text -/

/-- A search that succeeds where it starts, and finds nothing behind that, finds one match. -/
theorem findAll_eq_singleton {a : Pattern} {text : List Char} {q : Place}
    (hfirst : a.matcher (.start text) some = some q) (hrest : q.rest = [])
    (hend : a.matcher q.fresh some = none) : a.findAll text = [⟨.start text, q⟩] := by
  have hfind : a.findFrom? (.start text) = some ⟨.start text, q⟩ := by
    rw [Place.start] at hfirst
    cases text <;> simp [findFrom?, find?, Place.start, hfirst]
  have hnext : a.findNext? none (.start text) = some ⟨.start text, q⟩ := by
    simp [findNext?, hfind]
  have hfresh : q.fresh = ⟨q.position, q.before, [], []⟩ := by
    rw [Place.fresh, hrest]
  have hnone : a.findFrom? q.fresh = none := by
    rw [hfresh] at hend ⊢
    simpa [findFrom?, find?] using hend
  have hmore : ∀ fuel, a.findAllFrom fuel (some q.position) q.fresh = [] := by
    intro fuel
    cases fuel with
    | zero => rfl
    | succ fuel => simp [findAllFrom, findNext?, hnone]
  simp [findAll, findAllFrom, hnext, hmore]

end Instrument.Pattern
