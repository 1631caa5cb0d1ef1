/-
# The pattern of a parameter

`Parameter.pattern` is text; this file says which pattern that text is.  Each kind has a fixed one,
and that of a date format is the sequence of the patterns of its segments.  What a template relies
on is said once for all of them: the text is read wherever it stands (`denotes_pattern`), and the
pattern has neither looks nor groups of its own (`plain_fragment`), also where a date format has
parentheses in its literal text.  It takes a character at least (`solid_fragment`).
-/
import Instrument.Proofs.Pattern.Notation
import Instrument.Parameter.Wire

namespace Instrument

open Pattern

/-! ## The patterns -/

namespace Pattern

/-- A pattern or nothing, the former if it can be. -/
def maybe (a : Pattern) : Pattern := repetition a true 0 (some 1)

/-- The sign of a number, if it has one. -/
def signs : Pattern := maybe (.char (.ofList [.one '+', .one '-']))

/-- Decimal digits of any script. -/
def digits : Pattern := .plus (.char .digit) true

/-- A character that is no blank. -/
def nonBlank : Pattern := .char (.outside .blank)

/-- A word in any case of its letters. -/
def anyCase (cs : List Char) : Pattern := seqs (cs.map fun c => .char (.folded (.one c)))

end Pattern

/-- The pattern of the wire texts of a kind other than dates. -/
def Kind.fragment : Kind → Pattern
  | .byte | .int | .long => seqs [signs, digits]
  | .float | .double =>
    seqs [signs,
      alts [seqs [digits, maybe (.char (.one '.')), repetition (.char .digit) true 0 none],
        seqs [.char (.one '.'), digits]],
      maybe (seqs [.char (.ofList [.one 'e', .one 'E']), signs, digits])]
  | .boolean => alts [anyCase ['t', 'r', 'u', 'e'], anyCase ['f', 'a', 'l', 's', 'e']]
  | .char => nonBlank
  | .token => .plus nonBlank true
  | .text | .date => .plus (.char .all) true

/-- The pattern of a part of a date. -/
def DatePart.fragment : DatePart → Pattern
  | .year => times (.char .digit) 4
  | .shortYear | .month | .day | .hour | .hour12 | .minute | .second => times (.char .digit) 2
  | .bareDay | .bareHour | .bareHour12 => between (.char .digit) true 1 (some 2)
  | .millisecond => times (.char .digit) 3
  | .monthName | .monthAbbreviation | .zoneName | .zoneOffset | .halfDay => .plus nonBlank true

/-- The pattern of a segment of a date format. -/
def DateSegment.fragment : DateSegment → Pattern
  | .literal c => .char (.one c)
  | .part p => p.fragment

/-- The pattern of a date format. -/
def DateFormat.fragment (f : DateFormat) : Pattern := seqs (f.segments.map (·.fragment))

/-- The pattern of the wire texts of a parameter. -/
def Parameter.fragment (p : Parameter) : Pattern :=
  match p.encoding with
  | .date f => f.fragment
  | .wire _ => p.kind.fragment

/-! ## They are plain -/

theorem plain_kindFragment (k : Kind) : k.fragment.plain = true := by cases k <;> rfl

theorem plain_segmentFragment (s : DateSegment) : s.fragment.plain = true := by
  cases s with
  | literal c => rfl
  | part p => cases p <;> rfl

theorem DateFormat.plain_fragment (f : DateFormat) : f.fragment.plain = true := by
  refine plain_seqs fun a ha => ?_
  obtain ⟨s, -, rfl⟩ := List.mem_map.1 ha
  exact plain_segmentFragment s

/-- **The pattern of a parameter has neither looks nor groups.** -/
theorem Parameter.plain_fragment (p : Parameter) : p.fragment.plain = true := by
  unfold Parameter.fragment
  split
  · exact DateFormat.plain_fragment _
  · exact plain_kindFragment p.kind

/-! ## They take a character at least -/

theorem solid_kindFragment (k : Kind) : k.fragment.solid = true := by cases k <;> rfl

theorem solid_segmentFragment (s : DateSegment) : s.fragment.solid = true := by
  cases s with
  | literal c => rfl
  | part p => cases p <;> rfl

theorem DateFormat.solid_fragment {f : DateFormat} (h : f.segments ≠ []) :
    f.fragment.solid = true := by
  obtain ⟨s, rest, hs⟩ := List.exists_cons_of_ne_nil h
  refine solid_seqs ?_ (solid_segmentFragment s)
  rw [hs]
  exact List.mem_cons_self

/-- The pattern of a parameter is solid, unless it is that of an empty format of dates. -/
theorem Parameter.solid_fragment (p : Parameter)
    (h : ∀ f, p.encoding = .date f → f.segments ≠ []) : p.fragment.solid = true := by
  unfold Parameter.fragment
  split
  · rename_i f hf
    exact DateFormat.solid_fragment (h f hf)
  · exact solid_kindFragment p.kind

/-! ## They are what the text denotes -/

/-- The pattern text of a segment of a date format. -/
def DateSegment.text : DateSegment → List Char
  | .literal c => escapeChar c
  | .part p => p.pattern.toList

theorem DateFormat.toList_pattern (f : DateFormat) :
    f.pattern.toList = '(' :: '?' :: ':' :: f.segments.flatMap (·.text) ++ [')'] := by
  unfold DateFormat.pattern
  rw [String.toList_ofList]
  rfl

theorem exists_pattern (p : DatePart) : ∃ cs, p.pattern.toList = '\\' :: cs := by
  cases p <;> exact ⟨_, rfl⟩

/-- No segment begins with a question mark, so none makes the one before it stop early. -/
theorem head?_segments (segments : List DateSegment) (rest : List Char) :
    (segments.flatMap (·.text) ++ ')' :: rest).head? ≠ some '?' := by
  match segments with
  | [] => exact fun h => by cases h
  | .literal c :: more =>
    simp only [List.flatMap_cons, DateSegment.text, escapeChar]
    split
    · exact fun h => by cases h
    · rename_i hc
      rintro ⟨⟩
      exact hc rfl
  | .part p :: more =>
    obtain ⟨cs, hcs⟩ := exists_pattern p
    simp only [List.flatMap_cons, DateSegment.text, hcs]
    exact fun h => by cases h

section Parts

variable {n : Nat} {rest : List Char} (hrest : rest.head? ≠ some '?')

include hrest

/-- Digits that are counted. -/
theorem denotes_digits (low : Nat) (high : Option Nat) (cs : List Char)
    (hcounts : readCounts false (cs ++ rest) = .ok ((low, high), rest)) :
    Denotes n ('\\' :: 'd' :: '\x7b' :: cs) rest [repetition (.char .digit) true low high] n 1 := by
  refine .of_reads fun p hp hn => ⟨1, Nat.le_refl 1, ?_⟩
  subst hn
  have hdigit : Reads p (p.pushLeaf (.char .digit)) ['\\', 'd'] ('\x7b' :: cs ++ rest) :=
    Reads.of_step hp (step_backslash (e := .set .digit) (by rw [hp]; rfl) (by rw [hp]; rfl))
  exact hdigit.trans (Reads.of_step hp (step_brace hp rfl hrest hcounts))

/-- A word. -/
theorem denotes_nonBlanks : Denotes n ['\\', 'S', '+'] rest [.plus nonBlank true] n 1 := by
  refine .of_reads fun p hp hn => ⟨1, Nat.le_refl 1, ?_⟩
  subst hn
  have hblank : Reads p (p.pushLeaf nonBlank) ['\\', 'S'] (['+'] ++ rest) :=
    Reads.of_step hp (step_backslash (e := .set (.outside .blank)) (by rw [hp]; rfl)
      (by rw [hp]; rfl))
  exact hblank.trans (Reads.of_step hp (step_plus hp rfl hrest))

theorem denotes_part (p : DatePart) : Denotes n p.pattern.toList rest [p.fragment] n 1 := by
  cases p with
  | year => exact denotes_digits hrest 4 (some 4) ['4', '\x7d'] rfl
  | shortYear | month | day | hour | hour12 | minute | second =>
    exact denotes_digits hrest 2 (some 2) ['2', '\x7d'] rfl
  | bareDay | bareHour | bareHour12 =>
    exact denotes_digits hrest 1 (some 2) ['1', ',', '2', '\x7d'] rfl
  | millisecond => exact denotes_digits hrest 3 (some 3) ['3', '\x7d'] rfl
  | monthName | monthAbbreviation | zoneName | zoneOffset | halfDay =>
    exact denotes_nonBlanks hrest

end Parts

theorem denotes_segments (n : Nat) (segments : List DateSegment) (rest : List Char) :
    Denotes n (segments.flatMap (·.text)) (')' :: rest) (segments.map (·.fragment)) n 1 := by
  induction segments with
  | nil => exact .nil n _ 1
  | cons s more ih =>
    have hs : Denotes n s.text (more.flatMap (·.text) ++ ')' :: rest) [s.fragment] n 1 := by
      cases s with
      | literal c => exact (denotes_escapeChar n c _).mono (Nat.zero_le 1)
      | part p => exact denotes_part (head?_segments more rest) p
    exact hs.append ih

/-- The pattern text of a kind in its brackets. -/
theorem denotes_kindPattern (n : Nat) (k : Kind) (rest : List Char) :
    Denotes n ("(?:" ++ Parameter.kindPattern k ++ ")").toList rest [k.fragment] n 8 := by
  refine .of_reads fun p hp hn => ?_
  obtain ⟨body, frames, mode, groups, names⟩ := p
  cases hp
  cases hn
  -- The text is fixed, so the reader can be run on it as it stands.
  cases k with
  | byte | int | long => exact ⟨5, by decide, 6, by decide, fun _ => rfl⟩
  | float | double => exact ⟨8, by decide, 24, by decide, fun _ => rfl⟩
  | boolean => exact ⟨4, by decide, 14, by decide, fun _ => rfl⟩
  | char => exact ⟨1, by decide, 3, by decide, fun _ => rfl⟩
  | token | text | date => exact ⟨2, by decide, 4, by decide, fun _ => rfl⟩

/-- The pattern text of a date format, in its brackets. -/
theorem DateFormat.denotes_pattern (n : Nat) (f : DateFormat) (rest : List Char) :
    Denotes n f.pattern.toList rest [f.fragment] n 8 := by
  rw [f.toList_pattern]
  exact (denotes_segments n f.segments rest).unmarked.mono (show 1 + 2 ≤ 8 by decide)

/-- **The pattern text of a parameter denotes its pattern**, wherever it stands. -/
theorem Parameter.denotes_pattern (n : Nat) (p : Parameter) (rest : List Char) :
    Denotes n p.pattern.toList rest [p.fragment] n 8 := by
  unfold Parameter.pattern Parameter.fragment
  cases p.encoding with
  | date f => exact f.denotes_pattern n rest
  | wire f => exact denotes_kindPattern n p.kind rest

/-- The pattern text of a parameter is in brackets. -/
theorem Parameter.exists_pattern (p : Parameter) : ∃ cs, p.pattern.toList = '(' :: cs := by
  unfold Parameter.pattern
  cases p.encoding with
  | date f => exact ⟨_, f.toList_pattern⟩
  | wire f =>
    rw [String.toList_append, String.toList_append]
    exact ⟨_, rfl⟩

/-- The pattern text of a parameter, read on its own. -/
theorem Parameter.read_pattern (p : Parameter) :
    Pattern.read .replies p.pattern.toList = .ok p.fragment :=
  read_of_denotes (p.denotes_pattern 0 []) (by decide)

/-! ## The language of a parameter -/

/-- The text `x` is in the language of the parameter's pattern. -/
def Parameter.Spells (p : Parameter) (x : List Char) : Prop :=
  ∃ a, Pattern.read .replies p.pattern.toList = .ok a ∧ a.Spells x

theorem Parameter.spells_iff {p : Parameter} {x : List Char} :
    p.Spells x ↔ p.fragment.Spells x := by
  simp [Parameter.Spells, p.read_pattern]

end Instrument
