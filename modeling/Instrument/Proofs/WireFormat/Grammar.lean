/-
# The grammar of wire formats

A specification is an index, flags, a width and a precision, each of which may be left out
(`SpecText`).  What begins a specification is one itself (`SpecText.of_append`), and the reader
takes as much of a text as is one (`exists_readSpec`): it looks at the digits in front before it
knows whether they are an index, a flag or a width, and still reads what is read from left to right
(`readField_digits`).

So a text is read if it is made of plain text and of specifications with their letters
(`FormatText`), and of any other text the fault says where it stops to be the beginning of one
(`Refuses`).
-/
import Instrument.Proofs.Number.Numerals
import Instrument.Proofs.WireFormat.Written

namespace Instrument

open Number

/-! ## What templates are made of -/

/-- Flags, and those of a run. -/
def Flags.extend (f : Flags) (run : List Char) : Flags where
  left := f.left || run.contains '-'
  plus := f.plus || run.contains '+'
  space := f.space || run.contains ' '
  zero := f.zero || run.contains '0'
  alternate := f.alternate || run.contains '#'

namespace WireFormat

/-- Is it the character of a flag? -/
def isFlag (c : Char) : Bool := "-+ 0#".toList.contains c

/-- The letters that end a conversion. -/
def letters : List Char := "dxXofeEgGsScbBn%".toList

/-- Digits with the number that they count for: none without a digit, and none past 64 bits. -/
inductive Counts : List Char → Option Nat → Prop
  | missing : Counts [] none
  | number {ds : List Char} : ds ≠ [] → Digits.value ds < 2 ^ 64 →
      Counts ds (some (Digits.value ds))
  | overlong {ds : List Char} : 2 ^ 64 ≤ Digits.value ds → Counts ds none

/-- The index of an argument, which means nothing: digits and a dollar sign. -/
inductive IndexText : List Char → Prop
  | none : IndexText []
  | some {ds : List Char} : (∀ c ∈ ds, c.isDigit = true) → IndexText (ds ++ ['$'])

/-- A point with the digits of a precision, which is zero if they count for none. -/
inductive PrecisionText : List Char → Option Nat → Prop
  | none : PrecisionText [] none
  | some {ds : List Char} {n : Option Nat} : (∀ c ∈ ds, c.isDigit = true) → Counts ds n →
      PrecisionText ('.' :: ds) (some (n.getD 0))

/-- What stands between the percent sign and the letter of a conversion: an index, a run of flags, a
width and a precision.  Zeros in front of the width are flags. -/
inductive SpecText : List Char → Spec → Prop
  | intro {index run width precision : List Char} {w p : Option Nat} : IndexText index →
      (∀ c ∈ run, isFlag c = true) → (∀ c ∈ width, c.isDigit = true) → width.head? ≠ some '0' →
      Counts width w → PrecisionText precision p →
      SpecText (index ++ (run ++ (width ++ precision))) ⟨Flags.none.extend run, w, p⟩

/-- What stands behind the percent sign of a conversion. -/
inductive ConversionText : List Char → Prop
  | intro {cs : List Char} {s : Spec} {c : Char} : SpecText cs s → c ∈ letters →
      ConversionText (cs ++ [c])

/-- Text of a template that formats no value, and the text that it stands for. -/
inductive PlainText : List Char → List Char → Prop
  | nil : PlainText [] []
  | char {c : Char} {cs ds : List Char} : c ≠ '%' → PlainText cs ds → PlainText (c :: cs) (c :: ds)
  | percent {front cs ds : List Char} {s : Spec} : SpecText front s → PlainText cs ds →
      PlainText ('%' :: (front ++ '%' :: cs)) ('%' :: ds)
  | newline {front cs ds : List Char} {s : Spec} : SpecText front s → PlainText cs ds →
      PlainText ('%' :: (front ++ 'n' :: cs)) ('\n' :: ds)

/-- The texts that are templates, and their pieces: no text is empty, and none stands beside
another. -/
inductive FormatText : List Char → List Piece → Prop
  | nil : FormatText [] []
  | text {cs ds rest : List Char} {pieces : List Piece} : PlainText cs ds → ds ≠ [] →
      (∀ es, pieces.head? ≠ some (.text es)) → FormatText rest pieces →
      FormatText (cs ++ rest) (.text ds :: pieces)
  | conversion {cs rest : List Char} {s : Spec} {pieces : List Piece} (k : Conversion) :
      SpecText cs s → FormatText rest pieces →
      FormatText ('%' :: (cs ++ k.letter :: rest)) (.conversion s k :: pieces)

/-- Is it the beginning of a conversion, and not yet the whole of it? -/
def Begins (cs : List Char) : Prop := ∃ c more, ConversionText (cs ++ c :: more)

/-- The texts that are no templates, and their faults.  Behind what is one there is a conversion
that the text ends in, or that a character cannot continue. -/
inductive Refuses (source : String) : List Char → WireFormatFault → Prop
  | unterminated {front begun : List Char} {pieces : List Piece} : FormatText front pieces →
      Begins begun → Refuses source (front ++ '%' :: begun) (.unterminated source)
  | unsupported {front begun rest : List Char} {c : Char} {pieces : List Piece} :
      FormatText front pieces → Begins begun → (∀ more, ¬ ConversionText (begun ++ c :: more)) →
      Refuses source (front ++ '%' :: (begun ++ c :: rest)) (.unsupported source c)

/-! ## Flags -/

theorem mem_letters_iff {c : Char} :
    c ∈ letters ↔ c = '%' ∨ c = 'n' ∨ ∃ k : Conversion, k.letter = c := by
  constructor
  · intro h
    have hall : ∀ c ∈ letters, c = '%' ∨ c = 'n' ∨ (Conversion.ofLetter? c).isSome = true := by
      decide
    rcases hall c h with rfl | rfl | hsome
    · exact .inl rfl
    · exact .inr (.inl rfl)
    · obtain ⟨k, hk⟩ := Option.isSome_iff_exists.1 hsome
      exact .inr (.inr ⟨k, by simpa using List.find?_some hk⟩)
  · rintro (rfl | rfl | ⟨k, rfl⟩)
    · decide
    · decide
    · have hall : ∀ k ∈ Conversion.all, k.letter ∈ letters := by decide
      refine hall k ?_
      cases k <;> first | decide | (rename_i upper; cases upper <;> decide)

theorem isFlag_cases {c : Char} (h : isFlag c = true) :
    c = '-' ∨ c = '+' ∨ c = ' ' ∨ c = '0' ∨ c = '#' := by
  simpa [isFlag] using h

theorem addFlag?_of_isFlag {c : Char} (h : isFlag c = true) (f : Flags) :
    addFlag? f c = some (f.extend [c]) := by
  rcases isFlag_cases h with rfl | rfl | rfl | rfl | rfl <;> simp [addFlag?, Flags.extend]

theorem addFlag?_of_not_isFlag {c : Char} (h : isFlag c = false) (f : Flags) :
    addFlag? f c = none := by
  unfold addFlag?
  split <;> first | cases h | rfl

theorem extend_cons (f : Flags) (c : Char) (run : List Char) :
    (f.extend [c]).extend run = f.extend (c :: run) := by
  simp [Flags.extend, Bool.or_assoc]

/-- Flags are read up to the end of their run. -/
theorem readFlags_append {run : List Char} (h : ∀ c ∈ run, isFlag c = true) (f : Flags)
    (rest : List Char) : readFlags f (run ++ rest) = readFlags (f.extend run) rest := by
  induction run generalizing f with
  | nil => simp [Flags.extend]
  | cons c run ih =>
    obtain ⟨hc, hrun⟩ := List.forall_mem_cons.1 h
    rw [List.cons_append, readFlags, addFlag?_of_isFlag hc]
    dsimp only
    rw [ih hrun, extend_cons]

theorem readFlags_of_head {rest : List Char} (h : ∀ c ∈ rest.head?, isFlag c = false) (f : Flags) :
    readFlags f rest = (f, rest) := by
  cases rest with
  | nil => rfl
  | cons c rest => rw [readFlags, addFlag?_of_not_isFlag (h c rfl)]

/-! ## Numbers and widths -/

theorem counts_iff {ds : List Char} {n : Option Nat} : Counts ds n ↔ count? ds = n := by
  have hgreatest : greatestCount = 2 ^ 64 - 1 := rfl
  constructor
  · intro h
    cases h with
    | missing => rfl
    | number hne hlt =>
      have hnot : ¬ (ds.isEmpty || decide (greatestCount < Digits.value ds)) = true := by
        simp [hne, hgreatest]
        omega
      exact if_neg hnot
    | overlong hle =>
      have hover : (ds.isEmpty || decide (greatestCount < Digits.value ds)) = true := by
        simp [hgreatest]
        omega
      exact if_pos hover
  · rintro rfl
    unfold count?
    split
    · rename_i h
      rcases Bool.or_eq_true_iff.1 h with hempty | hover
      · rw [List.isEmpty_iff.1 hempty]
        exact .missing
      · refine .overlong ?_
        have hlt := of_decide_eq_true hover
        omega
    · rename_i h
      rw [Bool.or_eq_true, not_or] at h
      refine .number (by simpa using h.1) ?_
      have hle := mt decide_eq_true h.2
      omega

theorem counts_count? (ds : List Char) : Counts ds (count? ds) := counts_iff.2 rfl

/-- A digit that is no zero is no flag. -/
theorem isFlag_of_isDigit {c : Char} (h : c.isDigit = true) (hc : c ≠ '0') : isFlag c = false := by
  refine Bool.eq_false_iff.2 ?_
  intro hflag
  rcases isFlag_cases hflag with rfl | rfl | rfl | rfl | rfl
  · cases h
  · cases h
  · cases h
  · exact hc rfl
  · cases h

/-- Flags and a width are read up to their end. -/
theorem readWidth_append {run width rest : List Char} (hrun : ∀ c ∈ run, isFlag c = true)
    (hwidth : ∀ c ∈ width, c.isDigit = true) (hzero : width.head? ≠ some '0')
    (hdigit : ∀ c ∈ rest.head?, c.isDigit = false)
    (hflag : width = [] → ∀ c ∈ rest.head?, isFlag c = false) (f : Flags) :
    readWidth f [] (run ++ (width ++ rest)) = (f.extend run, count? width, rest) := by
  have hhead : ∀ c ∈ (width ++ rest).head?, isFlag c = false := by
    cases width with
    | nil => exact hflag rfl
    | cons c width =>
      rintro d hd
      obtain rfl : c = d := by simpa using hd
      refine isFlag_of_isDigit (hwidth c List.mem_cons_self) ?_
      rintro rfl
      exact hzero rfl
  rw [readWidth, if_pos List.isEmpty_nil, readFlags_append hrun, readFlags_of_head hhead]
  dsimp only
  rw [span_append_of_isDigit hwidth hdigit]

/-- The characters in front that have a property, and those behind. -/
theorem exists_run (p : Char → Bool) (cs : List Char) : ∃ run rest, cs = run ++ rest ∧
    (∀ c ∈ run, p c = true) ∧ ∀ c ∈ rest.head?, p c = false := by
  refine ⟨_, _, List.takeWhile_append_dropWhile.symm, List.all_eq_true.1 List.all_takeWhile, ?_⟩
  intro c hc
  have hnot := List.head?_dropWhile_not p cs
  rw [hc] at hnot
  exact hnot

/-- The zeros in front of digits, and the digits behind. -/
theorem exists_zeros (digits : List Char) : ∃ zeros width, digits = zeros ++ width ∧
    (∀ c ∈ zeros, c = '0') ∧ width.head? ≠ some '0' := by
  obtain ⟨zeros, width, heq, hzeros, hwidth⟩ := exists_run (· = '0') digits
  refine ⟨zeros, width, heq, fun c hc => of_decide_eq_true (hzeros c hc), ?_⟩
  intro hzero
  exact absurd rfl (of_decide_eq_false (hwidth '0' hzero))

theorem isFlag_of_zeros {zeros : List Char} (h : ∀ c ∈ zeros, c = '0') :
    ∀ c ∈ zeros, isFlag c = true := by
  intro c hc
  rw [h c hc]
  rfl

/-- Of a run of zeros there is one flag, if there is a zero. -/
theorem extend_zeros {zeros : List Char} (h : ∀ c ∈ zeros, c = '0') :
    Flags.none.extend zeros = { Flags.none with zero := zeros.head? = some '0' } := by
  rw [List.eq_replicate_of_mem h]
  cases zeros.length with
  | zero => rfl
  | succ n => simp [Flags.extend, Flags.none, List.replicate_succ]

/-- **The digits in front are read as they would be from left to right**: zeros are flags and the
others a width, unless a dollar sign follows. -/
theorem readField_digits {digits rest : List Char} (hdigits : ∀ c ∈ digits, c.isDigit = true)
    (hrest : ∀ c ∈ rest.head?, c.isDigit = false) (hdollar : rest.head? ≠ some '$') :
    readField (digits ++ rest) = readWidth Flags.none [] (digits ++ rest) := by
  obtain ⟨zeros, width, rfl, hzeros, hhead⟩ := exists_zeros digits
  have hflags : Flags.none.extend zeros =
      { Flags.none with zero := (zeros ++ width).head? = some '0' } := by
    rw [extend_zeros hzeros]
    cases zeros with
    | nil => rw [List.nil_append, List.head?_nil, decide_eq_false hhead, decide_eq_false nofun]
    | cons c zeros => rfl
  have hdrop : (zeros ++ width).dropWhile (· = '0') = width := by
    rw [List.dropWhile_append_of_pos fun c hc => decide_eq_true (hzeros c hc)]
    cases width with
    | nil => rfl
    | cons d width =>
      have hd : d ≠ '0' := fun h => hhead (congrArg some h)
      exact List.dropWhile_cons_of_neg (by simpa using hd)
  have hread : readField (zeros ++ width ++ rest) =
      readWidth (Flags.none.extend zeros) width rest := by
    unfold readField
    rw [span_append_of_isDigit hdigits hrest]
    dsimp only
    split
    · exact absurd rfl hdollar
    · rw [hdrop, hflags]
  have hrun := isFlag_of_zeros hzeros
  rw [hread]
  cases width with
  | nil =>
    rw [List.append_nil, readWidth, readWidth, readFlags_append hrun]
    rfl
  | cons d width =>
    obtain ⟨-, hwidth⟩ := List.forall_mem_append.1 hdigits
    rw [List.append_assoc, readWidth_append hrun hwidth hhead hrest nofun]
    rfl

theorem readField_index {ds : List Char} (h : ∀ c ∈ ds, c.isDigit = true) (rest : List Char) :
    readField (ds ++ '$' :: rest) = readWidth Flags.none [] rest := by
  have hend : ∀ c ∈ ('$' :: rest).head?, c.isDigit = false := by
    intro c hc
    cases hc
    rfl
  unfold readField
  rw [span_append_of_isDigit h hend]
  rfl

/-! ## Specifications -/

theorem SpecText.nil : SpecText [] ⟨Flags.none.extend [], none, none⟩ :=
  @SpecText.intro [] [] [] [] none none .none nofun nofun nofun .missing .none

/-- What is in front of the last character of a specification is one too. -/
theorem SpecText.of_concat {front : List Char} {c : Char} {s : Spec}
    (h : SpecText (front ++ [c]) s) :
    ∃ t, SpecText front t := by
  have hcancel : ∀ (d : Char) {xs ys : List Char}, front ++ [c] = xs → xs = ys ++ [d] →
      front = ys := by
    intro d xs ys hxs hys
    exact (List.append_inj' (hxs.trans hys) rfl).1
  generalize hcs : front ++ [c] = cs at h
  cases h with
  | @intro index run width precision w p hindex hrun hwidth hzero hcount hprecision =>
    cases hprecision with
    | @some ds n hds hn =>
      rcases List.eq_nil_or_concat ds with rfl | ⟨ds, d, rfl⟩
      · obtain rfl : front = index ++ (run ++ (width ++ [])) := hcancel '.' hcs (by simp)
        exact ⟨_, .intro hindex hrun hwidth hzero hcount .none⟩
      · obtain rfl : front = index ++ (run ++ (width ++ '.' :: ds)) := hcancel d hcs (by simp)
        rw [List.concat_eq_append] at hds
        exact ⟨_, .intro hindex hrun hwidth hzero hcount
          (.some (List.forall_mem_append.1 hds).1 (counts_count? ds))⟩
    | none =>
      rcases List.eq_nil_or_concat width with rfl | ⟨width, d, rfl⟩
      · rcases List.eq_nil_or_concat run with rfl | ⟨run, d, rfl⟩
        · cases hindex with
          | none => simp at hcs
          | @some ds hds =>
            obtain rfl : front = ds := hcancel '$' hcs (by simp)
            -- Digits that are no index are zeros and a width.
            obtain ⟨zeros, digits, rfl, hzeros, hhead⟩ := exists_zeros front
            obtain ⟨-, hdigits⟩ := List.forall_mem_append.1 hds
            have hspec := SpecText.intro .none (isFlag_of_zeros hzeros) hdigits hhead
              (counts_count? digits) .none
            rw [List.append_nil] at hspec
            exact ⟨_, hspec⟩
        · obtain rfl : front = index ++ (run ++ ([] ++ [])) := hcancel d hcs (by simp)
          rw [List.concat_eq_append] at hrun
          exact ⟨_, .intro hindex (List.forall_mem_append.1 hrun).1 hwidth hzero hcount .none⟩
      · obtain rfl : front = index ++ (run ++ (width ++ [])) := hcancel d hcs (by simp)
        rw [List.concat_eq_append] at hwidth hzero
        refine ⟨_, .intro hindex hrun (List.forall_mem_append.1 hwidth).1 ?_ (counts_count? width)
          .none⟩
        intro hhead
        rw [List.head?_append, hhead] at hzero
        exact hzero rfl

/-- **What begins a specification is one.** -/
theorem SpecText.of_append {front rest : List Char} {s : Spec} (h : SpecText (front ++ rest) s) :
    ∃ t, SpecText front t := by
  induction rest generalizing front s with
  | nil => exact ⟨s, by simpa using h⟩
  | cons c rest ih =>
    obtain ⟨t, ht⟩ := @ih (front ++ [c]) s (by simpa using h)
    exact ht.of_concat

/-- A precision is read up to its end. -/
theorem readPrecision_append {precision rest : List Char} {p : Option Nat}
    (h : PrecisionText precision p) (hpoint : precision = [] → rest.head? ≠ some '.')
    (hdigit : precision ≠ [] → ∀ c ∈ rest.head?, c.isDigit = false) :
    readPrecision (precision ++ rest) = (p, rest) := by
  cases h with
  | none =>
    rw [List.nil_append]
    unfold readPrecision
    split
    · exact absurd List.head?_cons (hpoint rfl)
    · rfl
  | @some ds n hds hn =>
    rw [List.cons_append, readPrecision, span_append_of_isDigit hds (hdigit nofun)]
    dsimp only
    rw [counts_iff.1 hn]

/-- Index, flags and width are read up to their end. -/
theorem readField_append {index run width rest : List Char} (hindex : IndexText index)
    (hrun : ∀ c ∈ run, isFlag c = true) (hwidth : ∀ c ∈ width, c.isDigit = true)
    (hzero : width.head? ≠ some '0') (hdigit : ∀ c ∈ rest.head?, c.isDigit = false)
    (hflag : width = [] → ∀ c ∈ rest.head?, isFlag c = false)
    (hdollar : index = [] → (∀ c ∈ run, c.isDigit = true) → rest.head? ≠ some '$') :
    readField (index ++ (run ++ (width ++ rest))) =
      (Flags.none.extend run, count? width, rest) := by
  rw [← readWidth_append hrun hwidth hzero hdigit hflag]
  cases hindex with
  | @some ds hds => rw [List.append_assoc, List.singleton_append, readField_index hds]
  | none =>
    -- The digits in front are those of the width too, if the flags are zeros only.
    obtain ⟨digits, others, rfl, hdigits, hothers⟩ := exists_run Char.isDigit run
    cases others with
    | nil =>
      rw [List.append_nil] at hdollar
      have hall := List.forall_mem_append.2 ⟨hdigits, hwidth⟩
      have hread := readField_digits hall hdigit (hdollar rfl hdigits)
      simpa using hread
    | cons f others =>
      have hf : f ≠ '$' := by
        rintro rfl
        exact absurd (hrun '$' (by simp)) (by decide)
      have hread := @readField_digits digits (f :: (others ++ (width ++ rest))) hdigits
        (fun c hc => hothers c hc) (fun h => hf (Option.some.inj h))
      simpa using hread

/-- **A specification is read up to where it cannot be continued.** -/
theorem readSpec_append {front rest : List Char} {s : Spec} (h : SpecText front s)
    (hstop : ∀ c ∈ rest.head?, ¬ ∃ t, SpecText (front ++ [c]) t) :
    readSpec (front ++ rest) = (s, rest) := by
  cases h with
  | @intro index run width precision w p hindex hrun hwidth hzero hcount hprecision =>
    have hno : ∀ {c : Char} {cs : List Char} {t : Spec}, c ∈ rest.head? → SpecText cs t →
        index ++ (run ++ (width ++ precision)) ++ [c] ≠ cs := by
      intro c cs t hc hspec heq
      exact hstop c hc ⟨t, heq ▸ hspec⟩
    -- What could continue a part does not follow behind it.
    have hpoint : precision = [] → rest.head? ≠ some '.' := by
      rintro rfl hhead
      have hnone : PrecisionText ['.'] (some 0) := @PrecisionText.some [] none nofun .missing
      exact hno hhead (.intro hindex hrun hwidth hzero hcount hnone) (by simp)
    have hplace : precision ≠ [] → ∀ c ∈ rest.head?, c.isDigit = false := by
      intro hne c hc
      refine Bool.eq_false_iff.2 fun hdigit => ?_
      cases hprecision with
      | none => exact absurd rfl hne
      | @some ds n hds hn =>
        have hall : ∀ d ∈ ds ++ [c], d.isDigit = true := by
          simpa [or_imp, forall_and, hdigit] using hds
        exact hno hc (.intro hindex hrun hwidth hzero hcount (.some hall (counts_count? _)))
          (by simp)
    have hflag : width = [] → ∀ c ∈ (precision ++ rest).head?, isFlag c = false := by
      rintro rfl c hc
      cases hprecision with
      | some hds hn =>
        cases hc
        rfl
      | none =>
        refine Bool.eq_false_iff.2 fun hc' => ?_
        have hall : ∀ d ∈ run ++ [c], isFlag d = true := by
          simpa [or_imp, forall_and, hc'] using hrun
        exact hno hc (.intro hindex hall hwidth hzero hcount .none) (by simp)
    have hdigit : ∀ c ∈ (precision ++ rest).head?, c.isDigit = false := by
      intro c hc
      cases hprecision with
      | some hds hn =>
        cases hc
        rfl
      | none =>
        refine Bool.eq_false_iff.2 fun hc' => ?_
        have hall : ∀ d ∈ width ++ [c], d.isDigit = true := by
          simpa [or_imp, forall_and, hc'] using hwidth
        have hhead : (width ++ [c]).head? ≠ some '0' := by
          cases width with
          | nil =>
            intro h0
            obtain rfl : c = '0' := Option.some.inj h0
            exact absurd (hflag rfl '0' hc) (by decide)
          | cons d width => exact hzero
        exact hno hc (.intro hindex hrun hall hhead (counts_count? _) .none) (by simp)
    have hdollar : index = [] → (∀ c ∈ run, c.isDigit = true) →
        (precision ++ rest).head? ≠ some '$' := by
      rintro rfl hdigits hhead
      cases hprecision with
      | some hds hn => cases hhead
      | none =>
        have hall : ∀ c ∈ run ++ width, c.isDigit = true :=
          List.forall_mem_append.2 ⟨hdigits, hwidth⟩
        have hspec := @SpecText.intro (run ++ width ++ ['$']) [] [] [] none none (.some hall) nofun
          nofun nofun .missing .none
        exact hno hhead hspec (by simp)
    have hfield := readField_append hindex hrun hwidth hzero hdigit hflag hdollar
    rw [counts_iff.1 hcount] at hfield
    have htext : index ++ (run ++ (width ++ precision)) ++ rest =
        index ++ (run ++ (width ++ (precision ++ rest))) := by simp
    rw [htext, readSpec, hfield]
    dsimp only
    rw [readPrecision_append hprecision hpoint hplace]

/-- **The reader takes the longest beginning of a text that is a specification.** -/
theorem exists_readSpec (cs : List Char) : ∃ front rest s, cs = front ++ rest ∧ SpecText front s ∧
    (∀ c ∈ rest.head?, ¬ ∃ t, SpecText (front ++ [c]) t) ∧ readSpec cs = (s, rest) := by
  have hlongest : ∀ {rest front : List Char} {s : Spec}, SpecText front s → front ++ rest = cs →
      ∃ front rest s, cs = front ++ rest ∧ SpecText front s ∧
        ∀ c ∈ rest.head?, ¬ ∃ t, SpecText (front ++ [c]) t := by
    intro rest
    induction rest with
    | nil => exact fun hspec hcs => ⟨_, [], _, hcs.symm, hspec, nofun⟩
    | cons c rest ih =>
      intro front s hspec hcs
      by_cases hmore : ∃ t, SpecText (front ++ [c]) t
      · obtain ⟨t, ht⟩ := hmore
        exact ih ht (by simpa using hcs)
      · refine ⟨front, c :: rest, s, hcs.symm, hspec, ?_⟩
        intro d hd
        cases hd
        exact hmore
  obtain ⟨front, rest, s, rfl, hspec, hstop⟩ := hlongest .nil rfl
  exact ⟨front, rest, s, rfl, hspec, hstop, readSpec_append hspec hstop⟩

/-! ## Templates -/

theorem readPieces_unterminated {source : String} {cs : List Char} {s : Spec}
    (h : readSpec cs = (s, [])) (text : List Char) :
    readPieces source text ('%' :: cs) = .error (.unterminated source) := by
  rw [readPieces, if_pos rfl]
  split
  · rfl
  · rename_i hrest
    rw [h] at hrest
    cases hrest

/-- No letter stands in a specification. -/
theorem SpecText.not_mem_letters {cs : List Char} {s : Spec} {c : Char} (h : SpecText cs s)
    (hc : c ∈ cs) : c ∉ letters := by
  have hletters : ∀ c ∈ letters, c.isDigit = false ∧ isFlag c = false ∧ c ≠ '$' ∧ c ≠ '.' := by
    decide
  intro hmem
  obtain ⟨hdigit, hflag, hdollar, hpoint⟩ := hletters c hmem
  have hdigits : ∀ {ds : List Char}, (∀ c ∈ ds, c.isDigit = true) → c ∉ ds := by
    intro ds hds hin
    rw [hds c hin] at hdigit
    cases hdigit
  cases h with
  | intro hindex hrun hwidth hzero hcount hprecision =>
    rcases List.mem_append.1 hc with hc | hc
    · cases hindex with
      | none => cases hc
      | some hds =>
        rcases List.mem_append.1 hc with hc | hc
        · exact hdigits hds hc
        · exact hdollar (List.mem_singleton.1 hc)
    rcases List.mem_append.1 hc with hc | hc
    · rw [hrun c hc] at hflag
      cases hflag
    rcases List.mem_append.1 hc with hc | hc
    · exact hdigits hwidth hc
    cases hprecision with
    | none => cases hc
    | some hds hn =>
      rcases List.mem_cons.1 hc with hc | hc
      · exact hpoint hc
      · exact hdigits hds hc

theorem readSpec_letter {front : List Char} {s : Spec} {c : Char} (h : SpecText front s)
    (hc : c ∈ letters) (rest : List Char) : readSpec (front ++ c :: rest) = (s, c :: rest) := by
  refine readSpec_append h ?_
  rintro d hd ⟨t, ht⟩
  obtain rfl : c = d := Option.some.inj hd
  exact ht.not_mem_letters (by simp) hc

/-- Plain text is gathered as the text that it stands for. -/
theorem readPieces_plainText {cs ds : List Char} (h : PlainText cs ds) (source : String)
    (text rest : List Char) :
    readPieces source text (cs ++ rest) = readPieces source (text ++ ds) rest := by
  induction h generalizing text with
  | nil => rw [List.nil_append, List.append_nil]
  | @char c cs ds hc _ ih =>
    rw [List.cons_append, readPieces, if_neg hc, ih, List.append_assoc, List.singleton_append]
  | @percent front cs ds s hspec _ ih =>
    rw [List.cons_append, List.append_assoc, List.cons_append,
      readPieces_spec (readSpec_letter hspec (by decide) _), if_pos rfl, ih, List.append_assoc,
      List.singleton_append]
  | @newline front cs ds s hspec _ ih =>
    rw [List.cons_append, List.append_assoc, List.cons_append,
      readPieces_spec (readSpec_letter hspec (by decide) _), if_neg (by decide), if_pos rfl, ih,
      List.append_assoc, List.singleton_append]

theorem flush_of_ne_nil {text : List Char} (h : text ≠ []) (pieces : List Piece) :
    flush text pieces = .text text :: pieces :=
  if_neg (by simpa using h)

theorem flush_append (text : List Char) (head tail : List Piece) :
    flush text (head ++ tail) = flush text head ++ tail := by
  unfold flush
  split <;> rfl

/-- **A template is read as its pieces**, whatever is behind it: the last of them may be text that
is still gathered.  The induction is on the template, with text in front that is gathered already;
that text goes into a piece of its own, so no piece of text may follow it. -/
theorem exists_readPieces {cs : List Char} {pieces : List Piece} (h : FormatText cs pieces)
    (source : String) {text : List Char}
    (htext : text = [] ∨ ∀ es, pieces.head? ≠ some (.text es)) :
    ∃ head last, flush text pieces = head ++ flush last [] ∧ ∀ rest,
      readPieces source text (cs ++ rest) = (readPieces source last rest).map (head ++ ·) := by
  induction h generalizing text with
  | nil =>
    refine ⟨[], text, rfl, ?_⟩
    intro rest
    cases hrest : readPieces source text rest <;> simp [hrest, Except.map]
  | @text cs ds more pieces hplain hne hhead _ ih =>
    obtain rfl := htext.resolve_right fun hfirst => hfirst ds rfl
    obtain ⟨head, last, hpieces, hread⟩ := ih (.inr hhead)
    refine ⟨head, last, ?_, ?_⟩
    · rw [← hpieces, flush_of_ne_nil hne]
      rfl
    · intro rest
      rw [List.append_assoc, readPieces_plainText hplain, List.nil_append, hread]
  | @conversion cs more s pieces k hspec _ ih =>
    obtain ⟨head, last, hpieces, hread⟩ := ih (.inl rfl)
    have hletter : k.letter ∈ letters := mem_letters_iff.2 (.inr (.inr ⟨k, rfl⟩))
    refine ⟨flush text (.conversion s k :: head), last, ?_, ?_⟩
    · rw [← flush_append, List.cons_append, ← hpieces]
      rfl
    · intro rest
      rw [List.cons_append, List.append_assoc, List.cons_append,
        readPieces_conversion (readSpec_letter hspec hletter _) (Conversion.ofLetter?_letter k),
        hread]
      cases readPieces source last rest with
      | error e => rfl
      | ok tail => exact congrArg Except.ok (flush_append text (.conversion s k :: head) tail)

theorem readPieces_formatText {cs : List Char} {pieces : List Piece} (h : FormatText cs pieces)
    (source : String) : readPieces source [] cs = .ok pieces := by
  obtain ⟨head, last, hpieces, hread⟩ := exists_readPieces h source (.inl rfl)
  have hnil := hread []
  rw [List.append_nil, readPieces_nil] at hnil
  rw [hnil]
  exact congrArg Except.ok hpieces.symm

theorem PlainText.append {cs ds cs' ds' : List Char} (h : PlainText cs ds)
    (h' : PlainText cs' ds') : PlainText (cs ++ cs') (ds ++ ds') := by
  induction h with
  | nil => exact h'
  | char hc _ ih => exact .char hc ih
  | percent hspec _ ih =>
    rw [List.cons_append, List.append_assoc, List.cons_append]
    exact .percent hspec ih
  | newline hspec _ ih =>
    rw [List.cons_append, List.append_assoc, List.cons_append]
    exact .newline hspec ih

/-- Text in front of a template is joined to the text that it begins with. -/
theorem FormatText.plain_append {cs ds rest : List Char} {pieces : List Piece}
    (hplain : PlainText cs ds) (hne : ds ≠ []) (h : FormatText rest pieces) :
    ∃ joined, FormatText (cs ++ rest) joined := by
  cases h with
  | nil => exact ⟨_, .text hplain hne (by simp) .nil⟩
  | @text cs' ds' rest pieces hplain' _ hhead h =>
    have hjoined : ds ++ ds' ≠ [] := List.append_ne_nil_of_left_ne_nil hne ds'
    rw [← List.append_assoc]
    exact ⟨_, .text (hplain.append hplain') hjoined hhead h⟩
  | conversion k hspec h => exact ⟨_, .text hplain hne (by simp) (.conversion k hspec h)⟩

/-- Can a text stand in front of any template? -/
def Leads (cs : List Char) : Prop :=
  ∀ rest pieces, FormatText rest pieces → ∃ joined, FormatText (cs ++ rest) joined

theorem Refuses.append {source : String} {cs rest : List Char} {e : WireFormatFault}
    (hcs : Leads cs) (h : Refuses source rest e) : Refuses source (cs ++ rest) e := by
  cases h with
  | unterminated hfront hbegins =>
    obtain ⟨joined, hjoined⟩ := hcs _ _ hfront
    rw [← List.append_assoc]
    exact .unterminated hjoined hbegins
  | unsupported hfront hbegins hno =>
    obtain ⟨joined, hjoined⟩ := hcs _ _ hfront
    rw [← List.append_assoc]
    exact .unsupported hjoined hbegins hno

theorem leads_letter {front : List Char} {s : Spec} {c : Char} (hspec : SpecText front s)
    (hc : c ∈ letters) : Leads ('%' :: (front ++ [c])) := by
  rcases mem_letters_iff.1 hc with rfl | rfl | ⟨k, rfl⟩
  · exact fun rest pieces h => h.plain_append (.percent hspec .nil) (by simp)
  · exact fun rest pieces h => h.plain_append (.newline hspec .nil) (by simp)
  · intro rest pieces h
    have hconversion := FormatText.conversion k hspec h
    exact ⟨_, by simpa using hconversion⟩

/-- What begins a conversion is a specification. -/
theorem Begins.specText {cs : List Char} (h : Begins cs) : ∃ s, SpecText cs s := by
  obtain ⟨c, more, h⟩ := h
  generalize hcs : cs ++ c :: more = text at h
  cases h with
  | @intro front s d hspec _ =>
    rcases List.eq_nil_or_concat (c :: more) with hnil | ⟨init, last, hconcat⟩
    · cases hnil
    · rw [hconcat, List.concat_eq_append, ← List.append_assoc] at hcs
      obtain ⟨rfl, -⟩ := List.append_inj' hcs rfl
      exact hspec.of_append

/-- A character that goes on with no specification and ends no conversion cannot stand in one. -/
theorem not_conversionText {front : List Char} {c : Char}
    (hstop : ¬ ∃ t, SpecText (front ++ [c]) t) (hc : c ∉ letters) (more : List Char) :
    ¬ ConversionText (front ++ c :: more) := by
  intro h
  generalize hcs : front ++ c :: more = text at h
  cases h with
  | @intro cs s d hspec hd =>
    rcases List.eq_nil_or_concat more with rfl | ⟨init, last, rfl⟩
    · obtain ⟨-, hlast⟩ := List.append_inj' hcs rfl
      exact hc (List.singleton_inj.1 hlast ▸ hd)
    · rw [List.concat_eq_append, ← List.cons_append, ← List.append_assoc] at hcs
      obtain ⟨rfl, -⟩ := List.append_inj' hcs rfl
      rw [List.append_cons] at hspec
      exact hstop hspec.of_append

/-- **A text is a template, or there is a fault in it.** -/
theorem formatText_or_refuses (source : String) (cs : List Char) :
    (∃ pieces, FormatText cs pieces) ∨ ∃ e, Refuses source cs e := by
  have hlead : ∀ {front rest : List Char}, Leads front →
      ((∃ pieces, FormatText rest pieces) ∨ ∃ e, Refuses source rest e) →
      (∃ pieces, FormatText (front ++ rest) pieces) ∨ ∃ e, Refuses source (front ++ rest) e := by
    rintro front rest hfront (⟨pieces, h⟩ | ⟨e, h⟩)
    · exact .inl (hfront rest pieces h)
    · exact .inr ⟨e, h.append hfront⟩
  induction hn : cs.length using Nat.strongRecOn generalizing cs with
  | ind n ih =>
    subst hn
    cases cs with
    | nil => exact .inl ⟨[], .nil⟩
    | cons c rest =>
      by_cases hpercent : c = '%'
      · subst hpercent
        obtain ⟨front, more, s, rfl, hspec, hstop, -⟩ := exists_readSpec rest
        have hbegins : Begins front := ⟨'d', [], .intro hspec (by decide)⟩
        cases more with
        | nil =>
          rw [List.append_nil]
          exact .inr ⟨_, .unterminated .nil hbegins⟩
        | cons c more =>
          by_cases hc : c ∈ letters
          · have hrest := ih more.length (by simp; omega) more rfl
            simpa using hlead (leads_letter hspec hc) hrest
          · exact .inr ⟨_, .unsupported .nil hbegins (not_conversionText (hstop c rfl) hc)⟩
      · have hplain : Leads [c] :=
          fun rest pieces h => h.plain_append (.char hpercent .nil) (by simp)
        exact hlead hplain (ih rest.length (by simp) rest rfl)

/-- A fault in a text is the one that is met. -/
theorem readPieces_of_refuses {source : String} {cs : List Char} {e : WireFormatFault}
    (h : Refuses source cs e) : readPieces source [] cs = .error e := by
  cases h with
  | @unterminated front begun pieces hfront hbegins =>
    obtain ⟨s, hspec⟩ := hbegins.specText
    have hread : readSpec (begun ++ []) = (s, []) := readSpec_append hspec (by simp)
    rw [List.append_nil] at hread
    obtain ⟨head, last, -, hpieces⟩ := exists_readPieces hfront source (.inl rfl)
    rw [hpieces, readPieces_unterminated hread]
    rfl
  | @unsupported front begun rest c pieces hfront hbegins hno =>
    obtain ⟨s, hspec⟩ := hbegins.specText
    have hc : c ∉ letters := fun hc => hno [] (.intro hspec hc)
    have hstop : ∀ d ∈ (c :: rest).head?, ¬ ∃ t, SpecText (begun ++ [d]) t := by
      rintro d hd ⟨t, ht⟩
      obtain rfl : c = d := Option.some.inj hd
      have hmore : ConversionText (begun ++ [c] ++ ['d']) := .intro ht (by decide)
      exact hno ['d'] (by simpa using hmore)
    have hletter : Conversion.ofLetter? c = none := by
      refine Option.eq_none_iff_forall_ne_some.2 ?_
      intro k hk
      have hk' : k.letter = c := by simpa using List.find?_some hk
      exact hc (mem_letters_iff.2 (.inr (.inr ⟨k, hk'⟩)))
    have hpercent : c ≠ '%' := fun h => hc (mem_letters_iff.2 (.inl h))
    have hn : c ≠ 'n' := fun h => hc (mem_letters_iff.2 (.inr (.inl h)))
    obtain ⟨head, last, -, hpieces⟩ := exists_readPieces hfront source (.inl rfl)
    rw [hpieces, readPieces_spec (readSpec_append hspec hstop), if_neg hpercent, if_neg hn, hletter]
    rfl

/-- **A text is read if it is a template**, piece by piece, and a fault says where it is none. -/
theorem format_read (source : String) :
    (∀ f, read source = .ok f ↔ f.source = source ∧ FormatText source.toList f.pieces) ∧
    ∀ e, read source = .error e ↔ Refuses source source.toList e := by
  have htemplate : ∀ {pieces}, FormatText source.toList pieces →
      read source = .ok ⟨source, pieces⟩ := by
    intro pieces h
    rw [read, readPieces_formatText h]
    rfl
  have hfault : ∀ {e}, Refuses source source.toList e → read source = .error e := by
    intro e h
    rw [read, readPieces_of_refuses h]
    rfl
  constructor
  · intro f
    constructor
    · intro h
      rcases formatText_or_refuses source source.toList with ⟨pieces, hpieces⟩ | ⟨e, he⟩
      · rw [htemplate hpieces] at h
        cases h
        exact ⟨rfl, hpieces⟩
      · rw [hfault he] at h
        cases h
    · rintro ⟨rfl, hpieces⟩
      exact htemplate hpieces
  · intro e
    constructor
    · intro h
      rcases formatText_or_refuses source source.toList with ⟨pieces, hpieces⟩ | ⟨d, hd⟩
      · rw [htemplate hpieces] at h
        cases h
      · rw [hfault hd] at h
        cases h
        exact hd
    · exact hfault

end WireFormat

end Instrument
