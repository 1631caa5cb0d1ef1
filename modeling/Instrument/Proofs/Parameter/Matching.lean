/-
# What is found and what is read

The pattern of a parameter finds the texts of its values in a reply, and `readValue` reads them.  Both know
the same numbers and the same words, but they do not know the same characters: a digit of the pattern
is one of any script, and a letter in it is any that folds to it, while numbers and truth values are
read of ASCII alone.  So an integer, a real number or a truth value that was found is not read if it has
a character of another script in it (`Kind.Misses.foreign`), and an integer is not read either if it
is none of its kind (`Kind.Misses.outOfBounds`).  All else that is found is read.
-/
import Instrument.Proofs.Number.Numerals
import Instrument.Proofs.Parameter.Fragment
import Instrument.Proofs.Parameter.Reading
import Instrument.Proofs.Pattern.Language
import Instrument.Proofs.Text.Case

namespace Instrument

open Pattern Number

/-! ## What the patterns find -/

section Found

variable {x : List Char}

theorem spells_maybe_iff {a : Pattern} (ha : a.isBlankOnly = false) :
    (maybe a).Spells x ↔ a.Spells x ∨ x = [] := by
  have hmaybe : maybe a = .seq .empty (.alt a .empty) := by
    simp [maybe, repetition, ha, between, times, upTo, Pattern.option]
  simp [hmaybe, spells_seq_iff, spells_alt_iff, spells_empty_iff]

theorem spells_signs_iff : signs.Spells x ↔ SignText x := by
  rw [signs, spells_maybe_iff rfl, spells_char_iff]
  constructor
  · rintro (⟨c, hc, rfl⟩ | rfl)
    · rcases Bool.or_eq_true_iff.1 hc with hc | hc
      · rw [(CharSet.has_one '+' c).1 hc]
        exact .plus
      · rw [(CharSet.has_one '-' c).1 hc]
        exact .minus
    · exact .none
  · rintro (_ | _ | _)
    · exact .inr rfl
    · exact .inl ⟨'+', by decide, rfl⟩
    · exact .inl ⟨'-', by decide, rfl⟩

theorem spells_digits_iff : digits.Spells x ↔ DigitsText Text.isDecimalDigit x :=
  spells_plus_char_iff

theorem spells_one_iff {c : Char} : (Pattern.char (.one c)).Spells x ↔ x = [c] := by
  simp [spells_char_iff, CharSet.has_one]

/-- A character of a set, as often as there is one. -/
theorem spells_run_iff {s : CharSet} :
    (repetition (.char s) true 0 none).Spells x ↔ ∀ c ∈ x, s.has c = true := by
  have hrun : repetition (.char s) true 0 none = .alt (.plus (.char s) true) .empty := rfl
  rw [hrun, spells_alt_iff, spells_plus_char_iff, spells_empty_iff]
  constructor
  · rintro (⟨-, h⟩ | rfl)
    · exact h
    · exact nofun
  · intro h
    by_cases hx : x = []
    · exact .inr hx
    · exact .inl ⟨hx, h⟩

theorem spells_mantissa_iff :
    (alts [seqs [digits, maybe (.char (.one '.')), repetition (.char .digit) true 0 none],
      seqs [.char (.one '.'), digits]]).Spells x ↔ MantissaText Text.isDecimalDigit x := by
  simp only [alts, seqs, spells_alt_iff, spells_seq_iff, spells_digits_iff,
    spells_maybe_iff (a := .char (.one '.')) rfl, spells_one_iff, spells_run_iff]
  constructor
  · rintro (⟨ds, y, rfl, hds, point, es, rfl, hpoint, hes⟩ | ⟨point, es, rfl, rfl, hes⟩)
    · rcases hpoint with rfl | rfl
      · exact .point hds.2 hes (List.append_ne_nil_of_left_ne_nil hds.1 _)
      · exact .whole ⟨List.append_ne_nil_of_left_ne_nil hds.1 _,
          List.forall_mem_append.2 ⟨hds.2, hes⟩⟩
    · exact @MantissaText.point _ [] es (List.forall_mem_nil _) hes.2 hes.1
  · rintro (hds | @⟨ds, es, hds, hes, hne⟩)
    · exact .inl ⟨x, [], by simp, hds, [], [], rfl, .inr rfl, List.forall_mem_nil _⟩
    · by_cases hnil : ds = []
      · subst hnil
        exact .inr ⟨['.'], es, rfl, rfl, hne, hes⟩
      · exact .inl ⟨ds, '.' :: es, rfl, ⟨hnil, hds⟩, ['.'], es, rfl, .inl rfl, hes⟩

theorem spells_exponent_iff :
    (maybe (seqs [.char (.ofList [.one 'e', .one 'E']), signs, digits])).Spells x ↔
      ExponentText Text.isDecimalDigit x := by
  have hletter : ∀ c, (CharSet.ofList [.one 'e', .one 'E']).has c = true ↔ c = 'e' ∨ c = 'E' := by
    intro c
    rw [← CharSet.has_one 'e' c, ← CharSet.has_one 'E' c]
    exact Bool.or_eq_true_iff
  rw [spells_maybe_iff rfl]
  simp only [seqs, spells_seq_iff, spells_char_iff, spells_signs_iff, spells_digits_iff, hletter]
  constructor
  · rintro (⟨letter, y, rfl, ⟨c, hc, rfl⟩, sign, ds, rfl, hsign, hds⟩ | rfl)
    · have hexponent := ExponentText.some hc hsign hds
      exact hexponent
    · exact .none
  · rintro (_ | @⟨c, sign, ds, hc, hsign, hds⟩)
    · exact .inr rfl
    · exact .inl ⟨[c], sign ++ ds, rfl, ⟨c, hc, rfl⟩, sign, ds, rfl, hsign, hds⟩

/-- **Numbers as the pattern of the real kinds finds them**: those with digits of any script. -/
theorem spells_double_iff : Kind.double.fragment.Spells x ↔ NumberText Text.isDecimalDigit x := by
  simp only [Kind.fragment, seqs, spells_seq_iff, spells_signs_iff]
  constructor
  · rintro ⟨sign, y, rfl, hsign, mantissa, exponent, rfl, hmantissa, hexponent⟩
    exact .intro hsign (spells_mantissa_iff.1 hmantissa) (spells_exponent_iff.1 hexponent)
  · rintro ⟨hsign, hmantissa, hexponent⟩
    exact ⟨_, _, rfl, hsign, _, _, rfl, spells_mantissa_iff.2 hmantissa,
      spells_exponent_iff.2 hexponent⟩

/-- A word in any case of its letters, those of other scripts that fold to one of them included. -/
theorem spells_anyCase_iff {cs : List Char} : (anyCase cs).Spells x ↔
    List.Forall₂ (fun c d => (CharSet.folded (.one c)).has d = true) cs x := by
  induction cs generalizing x with
  | nil =>
    rw [List.forall₂_nil_left_iff]
    exact spells_empty_iff
  | cons c cs ih =>
    rw [anyCase, List.map_cons, spells_seqs_cons_iff, List.forall₂_cons_left_iff]
    constructor
    · rintro ⟨y, z, rfl, hy, hz⟩
      obtain ⟨d, hd, rfl⟩ := spells_char_iff.1 hy
      exact ⟨d, z, hd, ih.1 hz, rfl⟩
    · rintro ⟨d, z, hd, hz, rfl⟩
      exact ⟨[d], z, rfl, .char hd, ih.2 hz⟩

theorem spells_integer_iff : Kind.int.fragment.Spells x ↔
    ∃ sign ds, x = sign ++ ds ∧ SignText sign ∧ DigitsText Text.isDecimalDigit ds := by
  simp only [Kind.fragment, seqs, spells_seq_iff, spells_signs_iff, spells_digits_iff]

end Found

/-! ## Characters of other scripts -/

namespace Text

variable {c d : Char}

/-- The digits of ASCII are those that are read. -/
theorem isDigit_of_isDecimalDigit (h : isDecimalDigit c = true) (hc : c.toNat < 128) :
    c.isDigit = true := by
  have hrest : ∀ r ∈ CategoryTable.nd, r = (0x30, 0x39) ∨ 128 ≤ r.1 := by decide +kernel
  obtain ⟨r, hr, hlow, hhigh⟩ := exists_of_inRanges h
  rcases hrest r hr with rfl | hforeign
  · exact Char.isDigit_iff_toNat.2 ⟨hlow, hhigh⟩
  · omega

theorem isBlank_of_isDecimalDigit (h : isDecimalDigit c = true) : isBlank c = false := by
  have hapart : ∀ r ∈ CategoryTable.nd, ∀ s ∈ blankRanges, s.2 < r.1 ∨ r.2 < s.1 := by
    decide +kernel
  rw [Bool.eq_false_iff]
  intro hblank
  obtain ⟨r, hr, hlow, hhigh⟩ := exists_of_inRanges h
  obtain ⟨s, hs, hlow', hhigh'⟩ := exists_of_inRanges hblank
  have := hapart r hr s hs
  omega

/-- Lower case is not below. -/
theorem toNat_le_toLower (c : Char) : c.toNat ≤ c.toLower.toNat := by
  rcases toLower_eq_or c with h | h
  · rw [h]
  · omega

/-- The letters of the words for truth values. -/
def truthLetters : List Char := "truefals".toList

theorem eq_toNat_of_ofNat {m : Nat} (hd : d ≠ '\x00') (h : Char.ofNat m = d) : m = d.toNat := by
  by_cases hm : m.isValidChar
  · have hchar : Char.ofNat m = Char.ofNatAux m hm := dif_pos hm
    rw [← h, hchar]
    exact (UInt32.toNat_ofNatLT ..).symm
  · have hnull : Char.ofNat m = '\x00' := dif_neg hm
    exact absurd (h.symm.trans hnull) hd

/-- What a letter of the words is a case variant of folds to that letter, for the letters are folded
themselves. -/
theorem fold_of_mem_caseVariants (hd : d ∈ truthLetters) (h : d ∈ caseVariants c) :
    fold c.toNat = d.toNat := by
  have hzero : ∀ d ∈ truthLetters, d ≠ '\x00' := by decide
  have hfolded : ∀ r ∈ foldRuns, ∀ d ∈ truthLetters, d.toNat < r.1 ∨ r.2.1 < d.toNat := by
    decide +kernel
  obtain ⟨m, hm, hmd⟩ := List.mem_map.1 h
  have hmd := eq_toNat_of_ofNat (hzero d hd) hmd
  rcases List.mem_cons.1 hm with rfl | hm
  · exact hmd
  · obtain ⟨⟨first, last, step, distance⟩, hr, hrun⟩ := List.mem_filterMap.1 hm
    dsimp only at hrun
    split at hrun
    · rename_i hin
      have hrun := Option.some.inj hrun
      simp only [Bool.and_eq_true, hrun, hmd, inRun, decide_eq_true_eq] at hin
      have hapart : d.toNat < first ∨ last < d.toNat := hfolded _ hr d hd
      omega
    · cases hrun

theorem mem_caseVariants_of_folded (h : (CharSet.folded (.one d)).has c = true) :
    d ∈ caseVariants c := by
  obtain ⟨e, he, hed⟩ := List.any_eq_true.1 h
  rwa [(CharSet.has_one d e).1 hed] at he

theorem find?_inRun {runs : List (Nat × Nat × Nat × Int)} {n : Nat}
    (h : ∀ r ∈ runs, n < r.1 ∨ r.2.1 < n) : runs.find? (inRun n) = none := by
  rw [List.find?_eq_none]
  rintro ⟨first, last, step, distance⟩ hr hin
  have hapart : n < first ∨ last < n := h _ hr
  simp only [inRun, Bool.and_eq_true, decide_eq_true_eq] at hin
  omega

theorem fold_eq_self {n : Nat} (h : ∀ r ∈ foldRuns, n < r.1 ∨ r.2.1 < n) : fold n = n := by
  simp [fold, distance, find?_inRun h, shifted]

/-- In ASCII a letter is folded as it is put into lower case. -/
theorem toLower_of_folded (hd : d ∈ truthLetters) (h : (CharSet.folded (.one d)).has c = true)
    (hc : c.toNat < 128) : c.toLower = d := by
  have hfold := fold_of_mem_caseVariants hd (mem_caseVariants_of_folded h)
  have hruns : ∃ rest, foldRuns = (0x41, 0x5A, 1, 32) :: rest ∧ ∀ r ∈ rest, 128 ≤ r.1 := by
    refine ⟨foldRuns.tail, rfl, ?_⟩
    decide +kernel
  obtain ⟨rest, hruns, hrest⟩ := hruns
  refine Char.toNat_inj.1 (Eq.trans ?_ hfold)
  rw [toNat_toLower]
  split
  · rename_i hupper
    have hin : inRun c.toNat (0x41, 0x5A, 1, 32) = true := by
      simpa [inRun, Nat.mod_one] using hupper
    rw [fold, distance, hruns, List.find?_cons_of_pos hin]
    rfl
  · rename_i hupper
    refine (fold_eq_self ?_).symm
    rw [hruns]
    refine List.forall_mem_cons.2 ⟨by dsimp only; omega, fun r hr => .inl ?_⟩
    exact Nat.lt_of_lt_of_le hc (hrest r hr)

theorem isBlank_of_folded (hd : d ∈ truthLetters) (h : (CharSet.folded (.one d)).has c = true) :
    isBlank c = false := by
  have hfold := fold_of_mem_caseVariants hd (mem_caseVariants_of_folded h)
  have hletters : ∀ d ∈ truthLetters, isBlank d = false := by decide
  have hapart : ∀ r ∈ foldRuns, ∀ s ∈ blankRanges, s.2 < r.1 ∨ r.2.1 < s.1 := by
    decide +kernel
  rw [Bool.eq_false_iff]
  intro hblank
  -- A blank folds to itself, so it would be one of the letters.
  have hself : fold c.toNat = c.toNat := by
    obtain ⟨s, hs, hlow, hhigh⟩ := exists_of_inRanges hblank
    refine fold_eq_self fun r hr => ?_
    have := hapart r hr s hs
    omega
  rw [Char.toNat_inj.1 (hself.symm.trans hfold), hletters d hd] at hblank
  cases hblank

end Text

/-! ## What is read of them -/

/-- Why a text that the pattern of a kind finds is not read. -/
inductive Kind.Misses (k : Kind) (x : List Char) : Prop
  /-- It is an integer, but none of the kind. -/
  | outOfBounds {n : Int} : k.isInteger = true → IntegerText x n →
      (Bounds.signed k.bits).has n = false → Misses k x
  /-- It is no text, word or character, and not all of it is ASCII. -/
  | foreign {c : Char} : k.isNumeric = true ∨ k = .boolean → c ∈ x → 128 ≤ c.toNat → Misses k x

/-- Is all of a text ASCII? -/
def IsAscii (x : List Char) : Prop := ∀ c ∈ x, c.toNat < 128

section Kinds

variable {p : Parameter} {input : String}

theorem isAscii_of_not_misses {k : Kind} {x : List Char} (hk : k.isNumeric = true ∨ k = .boolean)
    (h : ¬ k.Misses x) : IsAscii x :=
  fun _ hc => Nat.lt_of_not_le fun hforeign => h (.foreign hk hc hforeign)

theorem lt_of_isDigit {c : Char} (h : c.isDigit = true) : c.toNat < 128 := by
  have hhigh : c.toNat ≤ 57 := (Char.isDigit_iff_toNat.1 h).2
  omega

theorem lt_of_isNumberMark {c : Char} (h : isNumberMark c = true) : c.toNat < 128 := by
  have hmarks : ∀ c ∈ ['+', '-', '.', 'e', 'E'], c.toNat < 128 := by decide
  exact hmarks c (of_decide_eq_true h)

/-! ### Integers -/

theorem integer_read_iff (hk : p.kind.isInteger = true)
    (hx : Kind.int.fragment.Spells input.toList) :
    (∃ v, p.readValue? input = some v) ↔ ¬ p.kind.Misses input.toList := by
  obtain ⟨sign, ds, heq, hsign, hds⟩ := spells_integer_iff.1 hx
  have htrim : Text.trim input.toList = input.toList := by
    refine Text.trim_eq_self fun c hc => ?_
    rw [heq] at hc
    rcases List.mem_append.1 hc with hc | hc
    · exact isBlank_of_isNumberMark (hsign.isNumberMark hc)
    · exact Text.isBlank_of_isDecimalDigit (hds.2 c hc)
  have hnumeric : p.kind.isNumeric = true := Bool.or_eq_true_iff.2 (.inl hk)
  constructor
  · rintro ⟨v, hread⟩ hmisses
    obtain ⟨n, -, hread⟩ := Parameter.readInt?_of_readValue? hk hread
    obtain ⟨htext, -, hhas⟩ := Parameter.readInt?_eq_some_iff.1 hread
    rw [htrim] at htext
    cases hmisses with
    | outOfBounds _ htext' hnot =>
      rw [htext'.unique htext, hhas] at hnot
      cases hnot
    | foreign _ hc hforeign =>
      rcases htext.isDigit_or_sign hc with h | rfl | rfl
      · exact absurd (lt_of_isDigit h) (Nat.not_lt.2 hforeign)
      · exact absurd hforeign (by decide)
      · exact absurd hforeign (by decide)
  · intro hmisses
    have hascii := isAscii_of_not_misses (.inl hnumeric) hmisses
    have hdigits : ∀ c ∈ ds, c.isDigit = true := fun c hc =>
      Text.isDigit_of_isDecimalDigit (hds.2 c hc) (hascii c (heq ▸ List.mem_append_right _ hc))
    obtain ⟨n, htext⟩ : ∃ n, IntegerText input.toList n := by
      rw [heq]
      cases hsign with
      | none => exact ⟨_, .plain hdigits⟩
      | plus => exact ⟨_, .plus hdigits⟩
      | minus => exact ⟨_, .minus hdigits⟩
    have hhas : (Bounds.signed p.kind.bits).has n = true :=
      (Bool.eq_false_or_eq_true _).resolve_right fun hnot => hmisses (.outOfBounds hk htext hnot)
    obtain ⟨v, hv, hn⟩ := Value.exists_of_has hk hhas
    obtain ⟨d, ds, rfl⟩ := List.exists_cons_of_ne_nil hds.1
    rw [← htrim] at htext
    refine ⟨v, Parameter.readValue?_of_integerText hk hv hn htext ⟨d, ?_, hdigits d ?_⟩⟩
    · rw [htrim, heq]
      exact List.mem_append_right _ List.mem_cons_self
    · exact List.mem_cons_self

/-! ### Real numbers -/

theorem Number.NumeralText.isAscii {x : List Char} (h : NumeralText x) : IsAscii x := by
  have hsign : ∀ {sign : List Char}, SignText sign → IsAscii sign :=
    fun h c hc => lt_of_isNumberMark (h.isNumberMark hc)
  cases h with
  | word hsigned hword =>
    have hwords : ∀ w ∈ numeralWords, ∀ c ∈ w, c.toNat < 128 := by decide
    intro c hc
    rcases List.mem_append.1 hc with hc | hc
    · exact hsign hsigned c hc
    · have hlower := hwords _ hword _ (List.mem_map_of_mem hc)
      exact Nat.lt_of_le_of_lt (Text.toNat_le_toLower c) hlower
  | number hnumber =>
    intro c hc
    rcases hnumber.digit_or_mark hc with h | h
    · exact lt_of_isDigit h
    · exact lt_of_isNumberMark h

theorem real_read_iff (hk : p.kind.isFloating = true)
    (hx : Kind.double.fragment.Spells input.toList) :
    (∃ v, p.readValue? input = some v) ↔ ¬ p.kind.Misses input.toList := by
  have hnumber := spells_double_iff.1 hx
  have htrim : Text.trim input.toList = input.toList := by
    refine Text.trim_eq_self fun c hc => ?_
    rcases hnumber.digit_or_mark hc with h | h
    · exact Text.isBlank_of_isDecimalDigit h
    · exact isBlank_of_isNumberMark h
  have hnumeric : p.kind.isNumeric = true := Bool.or_eq_true_iff.2 (.inr hk)
  rw [Parameter.exists_readValue?_iff_numeralText hk, htrim]
  constructor
  · rintro htext (⟨hinteger, -, -⟩ | ⟨-, hc, hforeign⟩)
    · generalize p.kind = k at hk hinteger
      cases k with
      | float | double => cases hinteger
      | byte | int | long | boolean | char | text | token | date => cases hk
    · exact absurd (htext.isAscii _ hc) (Nat.not_lt.2 hforeign)
  · intro hmisses
    have hascii := isAscii_of_not_misses (.inl hnumeric) hmisses
    exact .number (hnumber.mono fun c hc h => Text.isDigit_of_isDecimalDigit h (hascii c hc))

/-! ### Truth values -/

theorem boolean_of_readValue?_iff (hk : p.kind = .boolean) :
    (∃ v, p.readValue? input = some v) ↔
      ∃ b, Text.lowerAscii (Text.trim input.toList) = WireFormat.boolWord b := by
  constructor
  · rintro ⟨v, hread⟩
    obtain ⟨b, -, hb⟩ := Parameter.boolean_of_readValue? hk hread
    exact ⟨b, hb⟩
  · rintro ⟨b, hb⟩
    exact ⟨.boolean b, Parameter.readValue?_of_boolWord hk hb⟩

theorem spells_boolean {x : List Char} (h : Kind.boolean.fragment.Spells x) :
    ∃ b, List.Forall₂ (fun c d => (CharSet.folded (.one c)).has d = true)
      (WireFormat.boolWord b) x := by
  simp only [Kind.fragment, alts, spells_alt_iff, spells_anyCase_iff] at h
  rcases h with h | h
  · exact ⟨true, h⟩
  · exact ⟨false, h⟩

/-- The characters in the place of the letters of a word are no blanks, and in ASCII they are its
letters. -/
theorem lowerAscii_of_folded {cs x : List Char} (hcs : ∀ c ∈ cs, c ∈ Text.truthLetters)
    (h : List.Forall₂ (fun c d => (CharSet.folded (.one c)).has d = true) cs x) :
    (∀ d ∈ x, Text.isBlank d = false) ∧ (IsAscii x → Text.lowerAscii x = cs) := by
  induction h with
  | nil => exact ⟨nofun, fun _ => rfl⟩
  | cons hd _ ih =>
    obtain ⟨hc, hcs⟩ := List.forall_mem_cons.1 hcs
    obtain ⟨hblank, hlower⟩ := ih hcs
    refine ⟨List.forall_mem_cons.2 ⟨Text.isBlank_of_folded hc hd, hblank⟩, fun hascii => ?_⟩
    obtain ⟨hd', hascii⟩ := List.forall_mem_cons.1 hascii
    exact congrArg₂ List.cons (Text.toLower_of_folded hc hd hd') (hlower hascii)

theorem boolean_read_iff (hk : p.kind = .boolean)
    (hx : Kind.boolean.fragment.Spells input.toList) :
    (∃ v, p.readValue? input = some v) ↔ ¬ p.kind.Misses input.toList := by
  obtain ⟨b, hfolds⟩ := spells_boolean hx
  have hletters : ∀ b, ∀ c ∈ WireFormat.boolWord b, c ∈ Text.truthLetters := by decide
  obtain ⟨hblank, hlower⟩ := lowerAscii_of_folded (hletters b) hfolds
  rw [boolean_of_readValue?_iff hk, Text.trim_eq_self hblank]
  constructor
  · rintro ⟨b', hword⟩ (⟨hinteger, -, -⟩ | ⟨-, hc, hforeign⟩)
    · rw [hk] at hinteger
      cases hinteger
    · have hmem : _ ∈ Text.lowerAscii input.toList := List.mem_map_of_mem (f := Char.toLower) hc
      have hascii : ∀ c ∈ Text.truthLetters, c.toNat < 128 := by decide
      rw [hword] at hmem
      have hsmall := hascii _ (hletters b' _ hmem)
      exact absurd (Nat.le_trans hforeign (Text.toNat_le_toLower _)) (Nat.not_le.2 hsmall)
  · intro hmisses
    exact ⟨b, hlower (isAscii_of_not_misses (.inr hk) hmisses)⟩

/-! ### The other kinds -/

theorem text_read (hk : p.kind = .char ∨ p.kind = .text ∨ p.kind = .token)
    (hx : p.kind.fragment.Spells input.toList) : ∃ v, p.readValue? input = some v := by
  have hne : input ≠ "" := by
    rintro rfl
    rcases hk with hk | hk | hk <;> rw [hk] at hx <;> exact hx.ne_nil rfl rfl
  rw [Parameter.readValue?, if_neg hne]
  rcases hk with hk | hk | hk <;> rw [hk] at hx ⊢
  · obtain ⟨c, -, hc⟩ := spells_char_iff.1 hx
    exact ⟨.char c, by simp [hc]⟩
  · exact ⟨.text input, rfl⟩
  · obtain ⟨-, hall⟩ := spells_plus_char_iff.1 hx
    have hblank : ∀ c ∈ input.toList, Text.isBlank c = false := fun c hc => by
      simpa [CharSet.has] using hall c hc
    refine ⟨.text input, ?_⟩
    have hword : isWord input = true := by simpa [isWord, hne] using hblank
    simp [Text.trim_eq_self hblank, hword]

end Kinds

/-- Only dates have a pattern that their format makes. -/
theorem Parameter.fragment_eq {p : Parameter} (hdate : p.kind ≠ .date) :
    p.fragment = p.kind.fragment := by
  have hsuits := p.encoding_suits
  unfold Parameter.fragment
  cases he : p.encoding with
  | wire f => rfl
  | date f =>
    rw [he] at hsuits
    exact absurd (of_decide_eq_true hsuits) hdate

/-- **What the pattern of a parameter finds is read, unless its kind misses it**: an integer that
is none of the kind, or a number or a truth value with a character of another script. -/
theorem found_is_read {p : Parameter} {input : String} (hdate : p.kind ≠ .date)
    (hx : p.Spells input.toList) :
    (∃ v, p.readValue input = .ok v) ↔ ¬ p.kind.Misses input.toList := by
  have hspells : p.kind.fragment.Spells input.toList := by
    rwa [Parameter.spells_iff, Parameter.fragment_eq hdate] at hx
  simp only [Parameter.readValue_eq_ok_iff]
  have hplain : p.kind = .char ∨ p.kind = .text ∨ p.kind = .token →
      ((∃ v, p.readValue? input = some v) ↔ ¬ p.kind.Misses input.toList) := by
    intro hk
    refine iff_of_true (text_read hk hspells) ?_
    rcases hk with hk | hk | hk <;> rw [hk] <;>
      rintro (⟨hinteger, -, -⟩ | ⟨hnumeric | hboolean, -, -⟩)
    all_goals contradiction
  generalize hk : p.kind = k at *
  cases k with
  | byte | int | long => exact hk ▸ integer_read_iff (hk ▸ rfl) hspells
  | float | double => exact hk ▸ real_read_iff (hk ▸ rfl) hspells
  | boolean => exact hk ▸ boolean_read_iff hk hspells
  | char => exact hplain (.inl rfl)
  | text => exact hplain (.inr (.inl rfl))
  | token => exact hplain (.inr (.inr rfl))
  | date => exact absurd rfl hdate

/-- The greatest byte is found and read, and what lies below the least is found and not read. -/
theorem found_is_read_byte :
    let p := Parameter.plain "p" .byte none
    (p.kind ≠ .date ∧ p.Spells "+127".toList ∧ p.readValue "+127" = .ok (.byte 127) ∧
      ¬ p.kind.Misses "+127".toList) ∧
    (p.Spells "-129".toList ∧ p.kind.Misses "-129".toList ∧ ¬ ∃ v, p.readValue "-129" = .ok v) := by
  intro p
  have hdate : p.kind ≠ .date := by decide
  have hinteger : ∀ {x : List Char}, Kind.int.fragment.Spells x → p.Spells x := fun h => by
    rwa [Parameter.spells_iff, Parameter.fragment_eq hdate]
  have hgreatest : p.Spells "+127".toList :=
    hinteger (spells_integer_iff.2 ⟨['+'], ['1', '2', '7'], rfl, .plus, by decide, by decide⟩)
  have hbelow : p.Spells "-129".toList :=
    hinteger (spells_integer_iff.2 ⟨['-'], ['1', '2', '9'], rfl, .minus, by decide, by decide⟩)
  have hread : p.readValue "+127" = .ok (.byte 127) := by rfl
  have hmisses : p.kind.Misses "-129".toList :=
    .outOfBounds rfl (@IntegerText.minus ['1', '2', '9'] (by decide)) (by decide)
  exact ⟨⟨hdate, hgreatest, hread, (found_is_read hdate hgreatest).1 ⟨_, hread⟩⟩,
    hbelow, hmisses, fun h => (found_is_read hdate hbelow).1 h hmisses⟩

/-- **Texts that are found and not read**: a digit of another script for an integer and for a real
number, and a word for a truth value with a letter that is in no alphabet today. -/
theorem found_not_read :
    let count := Parameter.plain "count" .int none
    let level := Parameter.plain "level" .double none
    let ready := Parameter.plain "ready" .boolean none
    (count.Spells "٣".toList ∧ count.readValue "٣" = .error (.parse "count" "٣" .int) ∧
      ∀ n, ¬ IntegerText "٣".toList n) ∧
    (level.Spells "٣".toList ∧ level.readValue "٣" = .error (.parse "level" "٣" .double)) ∧
    (ready.Spells "falſe".toList ∧
      ready.readValue "falſe" = .error (.parse "ready" "falſe" .boolean)) := by
  intro count level ready
  have hdigit : DigitsText Text.isDecimalDigit ['٣'] := ⟨by decide, by decide⟩
  refine ⟨⟨?_, by rfl, ?_⟩, ⟨?_, by rfl⟩, ?_, by rfl⟩
  · rw [Parameter.spells_iff, Parameter.fragment_eq (by decide)]
    exact spells_integer_iff.2 ⟨[], ['٣'], rfl, .none, hdigit⟩
  · intro n h
    have hsign := h.isDigit_or_sign (c := '٣') (by decide)
    revert hsign
    decide
  · rw [Parameter.spells_iff, Parameter.fragment_eq (by decide)]
    exact spells_double_iff.2 (.intro .none (.whole hdigit) .none)
  · rw [Parameter.spells_iff, Parameter.fragment_eq (by decide)]
    refine .right (spells_anyCase_iff.2 ?_)
    exact .cons (by decide) (.cons (by decide) (.cons (by decide) (.cons (by decide +kernel)
      (.cons (by decide) .nil))))

end Instrument
