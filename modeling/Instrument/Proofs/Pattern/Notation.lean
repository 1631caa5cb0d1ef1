/-
# Reading pattern text piece by piece

The reader of patterns keeps a stack of open groups and the items of the current branch.  Pattern
text that the library composes itself needs only few of its forms: literal text, and groups, marked
or not, around text that is known.  `Denotes n cs rest as n' d` says what such a text `cs` comes to
when `rest` follows it: it adds the patterns `as` to the current branch, numbers the marked groups
in it from `n + 1` to `n'`, and nests them no deeper than `d`.  It says so for every state of the
reader, so that texts can be put together (`Denotes.append`) and into groups (`Denotes.unmarked`,
`Denotes.marked`), and a whole text can be read (`read_of_denotes`).
-/
import Instrument.Proofs.Pattern.Language
import Instrument.Pattern.Reader
import Mathlib.Tactic.FinCases

namespace Instrument.Pattern

/-! ## Steps of the reader -/

/-- From `p`, the text `cs` in front of `rest` is read to `q`, in no more steps than it has
characters. -/
def Reads (p q : Progress) (cs rest : List Char) : Prop :=
  ∃ k ≤ cs.length, ∀ fuel, p.run (fuel + k) (cs ++ rest) = q.run fuel rest

theorem Reads.refl (p : Progress) (rest : List Char) : Reads p p [] rest :=
  ⟨0, Nat.le_refl _, fun _ => rfl⟩

theorem Reads.trans {p q r : Progress} {cs cs' rest : List Char} (h : Reads p q cs (cs' ++ rest))
    (h' : Reads q r cs' rest) : Reads p r (cs ++ cs') rest := by
  obtain ⟨k, hk, h⟩ := h
  obtain ⟨k', hk', h'⟩ := h'
  refine ⟨k' + k, by rw [List.length_append]; omega, fun fuel => ?_⟩
  rw [← Nat.add_assoc, List.append_assoc, h, h']

theorem Reads.of_step {p q : Progress} {c : Char} {cs rest : List Char} (hp : p.mode = .replies)
    (h : p.step c (cs ++ rest) = .ok (q, rest)) : Reads p q (c :: cs) rest := by
  refine ⟨1, by simp, fun fuel => ?_⟩
  have hloose : p.mode.loose = false := by rw [hp]; rfl
  simp only [Progress.run, hloose, skip, List.cons_append, h, Bool.false_eq_true, if_false]

theorem run_nil (p : Progress) (fuel : Nat) : p.run fuel [] = .ok p := by
  cases fuel with
  | zero => rfl
  | succ fuel => cases h : p.mode.loose <;> simp [Progress.run, skip, h, skipLoose]

theorem Reads.run_eq {p q : Progress} {cs : List Char} (h : Reads p q cs []) :
    p.run cs.length cs = .ok q := by
  obtain ⟨k, hk, h⟩ := h
  have := h (cs.length - k)
  rwa [Nat.sub_add_cancel hk, List.append_nil, run_nil] at this

/-! ## Branches -/

/-- A state with more items in the current branch and more marked groups. -/
def Progress.adds (p : Progress) (items : List Item) (groups : Nat) : Progress :=
  { p with body := { p.body with items := items.reverse ++ p.body.items }, groups }

@[simp] theorem adds_mode (p : Progress) (items : List Item) (n : Nat) :
    (p.adds items n).mode = p.mode := rfl

@[simp] theorem adds_groups (p : Progress) (items : List Item) (n : Nat) :
    (p.adds items n).groups = n := rfl

theorem adds_adds (p : Progress) (items items' : List Item) (n n' : Nat) :
    (p.adds items n).adds items' n' = p.adds (items ++ items') n' := by
  simp [Progress.adds]

theorem deepest_le {items : List Item} {d : Nat} (h : ∀ i ∈ items, i.depth ≤ d) :
    deepest items ≤ d := by
  have hfold : ∀ (ds : List Nat) (m : Nat), m ≤ d → (∀ x ∈ ds, x ≤ d) → ds.foldl max m ≤ d := by
    intro ds
    induction ds with
    | nil => exact fun m hm _ => hm
    | cons x rest ih =>
      intro m hm hds
      exact ih _ (Nat.max_le.2 ⟨hm, hds x List.mem_cons_self⟩)
        fun y hy => hds y (List.mem_cons_of_mem _ hy)
  refine hfold _ 0 (Nat.zero_le d) fun x hx => ?_
  obtain ⟨i, hi, rfl⟩ := List.mem_map.1 hx
  exact h i hi

theorem pattern_branchOf (items : List Item) :
    (branchOf items.reverse).pattern = seqs (items.map (·.pattern)) := by
  obtain ⟨as, rfl⟩ : ∃ as, items = List.reverse as := ⟨_, (List.reverse_reverse items).symm⟩
  rw [List.reverse_reverse]
  match as with
  | [] => rfl
  | [a] => rfl
  | a :: b :: rest => rfl

theorem depth_branchOf_le {items : List Item} {d : Nat} (h : ∀ i ∈ items, i.depth ≤ d) :
    (branchOf items).depth ≤ d + 1 := by
  match items, h with
  | [], _ => exact Nat.zero_le _
  | [a], h => exact Nat.le_succ_of_le (h a List.mem_cons_self)
  | a :: b :: rest, h => exact Nat.succ_le_succ (deepest_le h)

/-! ## What a text denotes -/

/-- The text `cs`, when `rest` follows it, adds the patterns `as` to the current branch; its marked
groups are those after the `n`-th up to the `n'`-th, and its patterns are not deeper than `d`. -/
def Denotes (n : Nat) (cs rest : List Char) (as : List Pattern) (n' d : Nat) : Prop :=
  ∀ p : Progress, p.mode = .replies → p.groups = n →
    ∃ items : List Item, items.map (·.pattern) = as ∧ (∀ i ∈ items, i.depth ≤ d) ∧
      Reads p (p.adds items n') cs rest

theorem Denotes.nil (n : Nat) (rest : List Char) (d : Nat) : Denotes n [] rest [] n d := by
  rintro p - rfl
  exact ⟨[], rfl, by simp, Reads.refl p rest⟩

theorem Denotes.append {n m k d : Nat} {cs cs' rest : List Char} {as as' : List Pattern}
    (h : Denotes n cs (cs' ++ rest) as m d) (h' : Denotes m cs' rest as' k d) :
    Denotes n (cs ++ cs') rest (as ++ as') k d := by
  intro p hp hn
  obtain ⟨items, rfl, hd, hr⟩ := h p hp hn
  obtain ⟨items', rfl, hd', hr'⟩ := h' (p.adds items m) hp rfl
  rw [adds_adds] at hr'
  refine ⟨items ++ items', List.map_append, fun i hi => ?_, hr.trans hr'⟩
  exact (List.mem_append.1 hi).elim (hd i) (hd' i)

theorem Denotes.mono {n m d d' : Nat} {cs rest : List Char} {as : List Pattern}
    (h : Denotes n cs rest as m d) (hd : d ≤ d') : Denotes n cs rest as m d' := by
  intro p hp hn
  obtain ⟨items, hi, hdepth, hr⟩ := h p hp hn
  exact ⟨items, hi, fun i hi => (hdepth i hi).trans hd, hr⟩

/-- One item is read. -/
theorem Denotes.of_reads {n m d : Nat} {cs rest : List Char} {a : Pattern}
    (h : ∀ p : Progress, p.mode = .replies → p.groups = n →
      ∃ e ≤ d, Reads p (p.adds [⟨a, e, true⟩] m) cs rest) : Denotes n cs rest [a] m d := by
  intro p hp hn
  obtain ⟨e, he, hr⟩ := h p hp hn
  exact ⟨[⟨a, e, true⟩], rfl, by simpa using he, hr⟩

/-! ## Literal text -/

/-- A backslash before a character with a meaning of its own takes that meaning away. -/
theorem readEscape_of_isMeta {c : Char} (h : isMeta c = true) (rest : List Char) :
    readEscape .replies (c :: rest) = .ok (.literal c, rest) := by
  have hc : c ∈ metaChars := List.contains_iff_mem.1 h
  fin_cases hc <;> rfl

/-- A character without a meaning of its own stands for itself. -/
theorem step_of_not_isMeta {c : Char} (h : isMeta c = false) {p : Progress}
    (hp : p.mode = .replies) (rest : List Char) :
    p.step c rest = .ok (p.pushLeaf (.char (.one c)), rest) := by
  have hc : c ∉ metaChars := fun hmem => by simp [isMeta, hmem] at h
  simp only [metaChars, List.mem_cons, not_or] at hc
  have hlit : p.mode.literal c = .char (.one c) := by rw [hp]; rfl
  simp [Progress.step, hc, hlit]

/-- A backslash and what it begins. -/
theorem step_backslash {p : Progress} {cs rest : List Char} {e : Escaped} {a : Pattern}
    (he : readEscape p.mode cs = .ok (e, rest)) (ha : e.pattern p.mode = .ok a) :
    p.step '\\' cs = .ok (p.pushLeaf a, rest) := by
  simp [Progress.step, he, ha, bind, Except.bind, pure, Except.pure]

theorem denotes_escapeChar (n : Nat) (c : Char) (rest : List Char) :
    Denotes n (escapeChar c) rest [.char (.one c)] n 0 := by
  refine .of_reads fun p hp hn => ⟨0, Nat.le_refl 0, ?_⟩
  subst hn
  unfold escapeChar
  split
  · rename_i hc
    have hescape : readEscape p.mode (c :: rest) = .ok (.literal c, rest) := by
      rw [hp]
      exact readEscape_of_isMeta hc rest
    exact Reads.of_step hp (step_backslash hescape (by rw [hp]; rfl))
  · rename_i hc
    exact Reads.of_step hp (step_of_not_isMeta (by simpa using hc) hp rest)

theorem denotes_escape (n : Nat) (cs rest : List Char) :
    Denotes n (escape cs) rest (cs.map fun c => .char (.one c)) n 0 := by
  induction cs with
  | nil => exact .nil n rest 0
  | cons c cs ih => exact (denotes_escapeChar n c (escape cs ++ rest)).append ih

/-! ## Groups -/

/-- The end of a group gives its branch back to the one around it. -/
theorem close_adds (p : Progress) (index : Option Nat) (items : List Item) (n : Nat) :
    ((p.open index p.mode).adds items n).close =
      .ok (p.adds [⟨match index with
        | some i => .group i (seqs (items.map (·.pattern)))
        | none => seqs (items.map (·.pattern)), (branchOf items.reverse).depth + 1, true⟩] n) := by
  rw [← pattern_branchOf]
  simp only [Progress.adds, Progress.open, Body.none, List.append_nil]
  cases index <;> rfl

theorem Denotes.unmarked {n m d : Nat} {cs rest : List Char} {as : List Pattern}
    (h : Denotes n cs (')' :: rest) as m d) :
    Denotes n ('(' :: '?' :: ':' :: cs ++ [')']) rest [seqs as] m (d + 2) := by
  refine .of_reads fun p hp hn => ?_
  obtain ⟨items, rfl, hd, hr⟩ := h (p.open none p.mode) hp hn
  refine ⟨(branchOf items.reverse).depth + 1,
    Nat.succ_le_succ (depth_branchOf_le (by simpa using hd)), ?_⟩
  have hopen : Reads p (p.open none p.mode) ['(', '?', ':'] (cs ++ ')' :: rest) := by
    refine Reads.of_step hp ?_
    obtain ⟨body, frames, mode, groups, names⟩ := p
    cases hp
    rfl
  have hclose : Reads ((p.open none p.mode).adds items m) _ [')'] rest :=
    Reads.of_step hp (congrArg (Except.map (·, rest)) (close_adds p none items m))
  exact (hopen.trans hr).trans hclose

theorem Denotes.marked {n m d : Nat} {cs rest : List Char} {as : List Pattern}
    (h : Denotes (n + 1) ('(' :: cs) (')' :: rest) as m d) :
    Denotes n ('(' :: '(' :: cs ++ [')']) rest [.group (n + 1) (seqs as)] m (d + 2) := by
  refine .of_reads fun p hp hn => ?_
  subst hn
  obtain ⟨items, rfl, hd, hr⟩ := h p.openMarked hp rfl
  refine ⟨(branchOf items.reverse).depth + 1,
    Nat.succ_le_succ (depth_branchOf_le (by simpa using hd)), ?_⟩
  have hopen : Reads p p.openMarked ['('] ('(' :: cs ++ ')' :: rest) := by
    refine Reads.of_step hp ?_
    obtain ⟨body, frames, mode, groups, names⟩ := p
    cases hp
    rfl
  have hclose : Reads (p.openMarked.adds items m) _ [')'] rest :=
    Reads.of_step hp (congrArg (Except.map (·, rest))
      (close_adds { p with groups := p.groups + 1 } (some (p.groups + 1)) items m))
  exact (hopen.trans hr).trans hclose

/-! ## Repetitions -/

/-- A text that does not begin with a question mark leaves a repetition before it as it is. -/
theorem readLazy_of_head {rest : List Char} (h : rest.head? ≠ some '?') :
    readLazy rest = (false, rest) := by
  unfold readLazy
  split
  · exact absurd rfl h
  · rfl

/-- A repetition takes the place of the latest item. -/
def Progress.repeats (p : Progress) (item : Item) (low : Nat) (high : Option Nat) : Progress :=
  p.adds [⟨repetition item.pattern true low high, item.depth + 1, true⟩] p.groups

section Repetitions

variable {p : Progress} {item : Item} {cs rest : List Char} {low : Nat} {high : Option Nat}
  (hp : p.mode = .replies) (hitem : item.repeatable = true) (hrest : rest.head? ≠ some '?')

include hp hitem hrest

theorem step_plus :
    (p.push item).step '+' rest = .ok (p.repeats item 1 none, rest) := by
  obtain ⟨body, frames, mode, groups, names⟩ := p
  cases hp
  simp [Progress.step, Progress.repeatMarked, Progress.repeatLast, Progress.push,
    readLazy_of_head hrest, hitem, bind, Except.bind]
  rfl

theorem step_brace (hcounts : readCounts false cs = .ok ((low, high), rest)) :
    (p.push item).step '\x7b' cs = .ok (p.repeats item low high, rest) := by
  obtain ⟨body, frames, mode, groups, names⟩ := p
  cases hp
  simp [Progress.step, Progress.repeatCounted, Progress.repeatLast, Progress.push,
    readLazy_of_head hrest, hitem, hcounts, skip, bind, Except.bind]
  rfl

end Repetitions

/-! ## Whole texts -/

/-- **A text that denotes patterns is read as their sequence**, unless it nests them too deep. -/
theorem read_of_denotes {n d : Nat} {cs : List Char} {as : List Pattern}
    (h : Denotes 0 cs [] as n d) (hd : d < nestingLimit) : read .replies cs = .ok (seqs as) := by
  obtain ⟨items, rfl, hdepth, hr⟩ := h (.start .replies) rfl rfl
  have hclose : ((Progress.start .replies).adds items n).body.close = branchOf items.reverse := by
    simp [Progress.adds, Progress.start, Body.none, Body.close]
  have hle : ¬ nestingLimit < (branchOf items.reverse).depth := by
    have hdeep : (branchOf items.reverse).depth ≤ d + 1 :=
      depth_branchOf_le (by simpa using hdepth)
    omega
  simp only [read, hr.run_eq, Except.bind, bind, Progress.finish, hclose, if_neg hle,
    pattern_branchOf]
  rfl

end Instrument.Pattern
