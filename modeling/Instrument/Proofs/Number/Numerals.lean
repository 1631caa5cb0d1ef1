/-
# Which texts are numerals

`Numeral.read?` goes through a text from left to right; `NumeralText` is the grammar of what it accepts,
without an order in which it is looked at: a sign or none, and behind it a word for what is no number, or
digits with at most one point among them and an exponent (`isSome_read?_iff`).

The grammar of numbers does not say what a digit is.  The reader of numerals knows those from `0` to `9`,
and a pattern that finds numbers in a reply those of every script; what holds of both is said once, and
fewer digits make fewer numbers (`NumberText.mono`).
-/
import Instrument.Number.Numeral
import Instrument.Proofs.Number.Digits
import Instrument.Proofs.Text.Case

namespace Instrument.Number

/-! ## The grammar -/

/-- A sign, or none. -/
inductive SignText : List Char → Prop
  | none : SignText []
  | plus : SignText ['+']
  | minus : SignText ['-']

section Grammar

variable (digit : Char → Bool)

/-- A digit at least. -/
def DigitsText (cs : List Char) : Prop := cs ≠ [] ∧ ∀ c ∈ cs, digit c = true

/-- Digits, at most one point among them, and a digit beside it. -/
inductive MantissaText : List Char → Prop
  | whole {ds : List Char} : DigitsText digit ds → MantissaText ds
  | point {ds es : List Char} : (∀ c ∈ ds, digit c = true) → (∀ c ∈ es, digit c = true) →
      ds ++ es ≠ [] → MantissaText (ds ++ '.' :: es)

/-- An `e` with a signed number behind it, or nothing. -/
inductive ExponentText : List Char → Prop
  | none : ExponentText []
  | some {c : Char} {sign ds : List Char} : c = 'e' ∨ c = 'E' → SignText sign →
      DigitsText digit ds → ExponentText (c :: (sign ++ ds))

/-- A number with a sign, a point and an exponent, none of which need be there. -/
inductive NumberText : List Char → Prop
  | intro {sign mantissa exponent : List Char} : SignText sign → MantissaText digit mantissa →
      ExponentText digit exponent → NumberText (sign ++ (mantissa ++ exponent))

end Grammar

/-- The words for what is no number. -/
def numeralWords : List (List Char) := ["inf".toList, "infinity".toList, "nan".toList]

/-- The texts that are read as numerals. -/
inductive NumeralText : List Char → Prop
  | word {sign word : List Char} : SignText sign → Text.lowerAscii word ∈ numeralWords →
      NumeralText (sign ++ word)
  | number {cs : List Char} : NumberText Char.isDigit cs → NumeralText cs

/-! ## What the digits are -/

section Mono

variable {p q : Char → Bool} {cs ds : List Char}

theorem DigitsText.mono (h : DigitsText p cs) (hpq : ∀ c ∈ cs, p c = true → q c = true) :
    DigitsText q cs :=
  ⟨h.1, fun c hc => hpq c hc (h.2 c hc)⟩

theorem MantissaText.mono (h : MantissaText p cs) (hpq : ∀ c ∈ cs, p c = true → q c = true) :
    MantissaText q cs := by
  cases h with
  | whole h => exact .whole (h.mono hpq)
  | point hds hes hne =>
    exact .point (fun c hc => hpq c (List.mem_append_left _ hc) (hds c hc))
      (fun c hc => hpq c (List.mem_append_right _ (List.mem_cons_of_mem _ hc)) (hes c hc)) hne

theorem ExponentText.mono (h : ExponentText p cs) (hpq : ∀ c ∈ cs, p c = true → q c = true) :
    ExponentText q cs := by
  cases h with
  | none => exact .none
  | some hc hsign h =>
    exact .some hc hsign
      (h.mono fun c hc => hpq c (List.mem_cons_of_mem _ (List.mem_append_right _ hc)))

/-- A number is one for all that take its digits for digits. -/
theorem NumberText.mono (h : NumberText p cs) (hpq : ∀ c ∈ cs, p c = true → q c = true) :
    NumberText q cs := by
  obtain ⟨hsign, hmantissa, hexponent⟩ := h
  exact .intro hsign
    (hmantissa.mono fun c hc => hpq c (List.mem_append_right _ (List.mem_append_left _ hc)))
    (hexponent.mono fun c hc => hpq c (List.mem_append_right _ (List.mem_append_right _ hc)))

/-- The other characters of a number. -/
def isNumberMark (c : Char) : Bool := c ∈ ['+', '-', '.', 'e', 'E']

theorem isBlank_of_isNumberMark {c : Char} (h : isNumberMark c = true) :
    Text.isBlank c = false := by
  have hmarks : ∀ c ∈ ['+', '-', '.', 'e', 'E'], Text.isBlank c = false := by decide
  exact hmarks c (of_decide_eq_true h)

theorem SignText.isNumberMark (h : SignText cs) {c : Char} (hc : c ∈ cs) :
    isNumberMark c = true := by
  cases h with
  | none => cases hc
  | plus | minus =>
    rw [List.mem_singleton.1 hc]
    decide

theorem NumberText.digit_or_mark (h : NumberText p cs) {c : Char} (hc : c ∈ cs) :
    p c = true ∨ isNumberMark c = true := by
  obtain ⟨hsign, hmantissa, hexponent⟩ := h
  rcases List.mem_append.1 hc with hc | hc
  · exact .inr (hsign.isNumberMark hc)
  rcases List.mem_append.1 hc with hc | hc
  · cases hmantissa with
    | whole h => exact .inl (h.2 c hc)
    | point hds hes =>
      rcases List.mem_append.1 hc with hc | hc
      · exact .inl (hds c hc)
      rcases List.mem_cons.1 hc with rfl | hc
      · exact .inr (by decide)
      · exact .inl (hes c hc)
  · cases hexponent with
    | none => cases hc
    | some he hsign h =>
      rcases List.mem_cons.1 hc with rfl | hc
      · rcases he with rfl | rfl <;> exact .inr (by decide)
      rcases List.mem_append.1 hc with hc | hc
      · exact .inr (hsign.isNumberMark hc)
      · exact .inl (h.2 c hc)

end Mono

/-! ## The reader -/

section Reader

variable {cs ds rest : List Char}

theorem isDigit_of_mem_span {c : Char} (h : c ∈ (Digits.span cs).1) : c.isDigit = true :=
  List.all_eq_true.1 List.all_takeWhile c h

/-- A run of digits ends where no digit follows. -/
theorem span_append_of_isDigit (hds : ∀ c ∈ ds, c.isDigit = true)
    (hrest : ∀ c ∈ rest.head?, c.isDigit = false) : Digits.span (ds ++ rest) = (ds, rest) := by
  have hend : rest.takeWhile Digits.isDigit = [] ∧ rest.dropWhile Digits.isDigit = rest := by
    cases rest with
    | nil => exact ⟨rfl, rfl⟩
    | cons c rest =>
      have hc : ¬ Digits.isDigit c = true := by
        have hnot := hrest c rfl
        intro hdigit
        rw [show c.isDigit = true from hdigit] at hnot
        cases hnot
      exact ⟨List.takeWhile_cons_of_neg hc, List.dropWhile_cons_of_neg hc⟩
  have hall : ∀ c ∈ ds, Digits.isDigit c = true := hds
  rw [Digits.span, List.takeWhile_append_of_pos hall, List.dropWhile_append_of_pos hall, hend.1,
    hend.2, List.append_nil]

/-- Does a text go on without a sign? -/
def Unsigned (cs : List Char) : Prop := ∀ c ∈ cs.head?, c ≠ '+' ∧ c ≠ '-'

theorem readSign_append {sign : List Char} (h : SignText sign) (hrest : Unsigned rest) :
    Numeral.readSign (sign ++ rest) = (decide (sign = ['-']), rest) := by
  cases h with
  | plus | minus => rfl
  | none =>
    cases rest with
    | nil => rfl
    | cons c rest =>
      obtain ⟨hplus, hminus⟩ := hrest c rfl
      simp [Numeral.readSign, hplus, hminus]

theorem exists_readSign (cs : List Char) :
    ∃ sign, SignText sign ∧ cs = sign ++ (Numeral.readSign cs).2 := by
  unfold Numeral.readSign
  split
  · exact ⟨['+'], .plus, rfl⟩
  · exact ⟨['-'], .minus, rfl⟩
  · exact ⟨[], .none, rfl⟩

theorem unsigned_of_isDigit (hds : ∀ c ∈ ds.head?, c.isDigit = true) : Unsigned ds := by
  intro c hc
  constructor <;> rintro rfl <;> exact absurd (hds _ hc) (by decide)

theorem DigitsText.unsigned (h : DigitsText Char.isDigit ds) (rest : List Char) :
    Unsigned (ds ++ rest) := by
  obtain ⟨c, ds, rfl⟩ := List.exists_cons_of_ne_nil h.1
  exact unsigned_of_isDigit fun d hd => by
    cases hd
    exact h.2 c List.mem_cons_self

theorem isSome_readExponent?_iff :
    (Numeral.readExponent? cs).isSome = true ↔ ExponentText Char.isDigit cs := by
  constructor
  · intro h
    cases cs with
    | nil => exact .none
    | cons c rest =>
      unfold Numeral.readExponent? at h
      simp only at h
      split at h
      · rename_i hc
        obtain ⟨sign, hsign, hrest⟩ := exists_readSign rest
        split at h
        · cases h
        · rename_i hdigits
          rw [hrest]
          refine .some (by simpa using hc) hsign ⟨?_, ?_⟩
          · rintro hnil
            simp [hnil] at hdigits
          · have hall : (Numeral.readSign rest).2.all Digits.isDigit = true := by
              simp only [Bool.or_eq_true, not_or, Bool.not_eq_true', Bool.not_eq_false] at hdigits
              exact hdigits.2
            exact List.all_eq_true.1 hall
      · cases h
  · rintro (_ | @⟨c, sign, ds, hc, hsign, hds⟩)
    · rfl
    · have hunsigned : Unsigned ds := by simpa using hds.unsigned []
      have hall : ds.all Digits.isDigit = true := List.all_eq_true.2 hds.2
      have hletter : (decide (c = 'e') || decide (c = 'E')) = true := by simpa using hc
      simp only [Numeral.readExponent?, hletter, if_true, readSign_append hsign hunsigned, hall,
        Bool.not_true, Bool.or_false]
      rw [if_neg (by simpa using hds.1)]
      split <;> rfl

/-- What stands behind the mantissa does not go on with it. -/
theorem ExponentText.head (h : ExponentText Char.isDigit cs) :
    ∀ c ∈ cs.head?, c.isDigit = false ∧ c ≠ '.' := by
  cases h with
  | none => exact nofun
  | some hc hsign hds =>
    rintro c ⟨⟩
    rcases hc with rfl | rfl <;> decide

theorem readMagnitude?_whole (hds : DigitsText Char.isDigit ds)
    (hrest : ∀ c ∈ rest.head?, c.isDigit = false ∧ c ≠ '.') :
    Numeral.readMagnitude? (ds ++ rest) =
      (Numeral.readExponent? rest).map fun e => (Digits.value ds, e) := by
  have hspan := span_append_of_isDigit hds.2 fun c hc => (hrest c hc).1
  have hne : ¬ (ds.isEmpty && [].isEmpty (α := Char)) = true := by simpa using hds.1
  unfold Numeral.readMagnitude?
  simp only [hspan]
  split
  · exact absurd rfl (hrest '.' rfl).2
  · rw [if_neg hne]
    simp

theorem readMagnitude?_point {es : List Char} (hds : ∀ c ∈ ds, c.isDigit = true)
    (hes : ∀ c ∈ es, c.isDigit = true) (hne : ds ++ es ≠ [])
    (hrest : ∀ c ∈ rest.head?, c.isDigit = false) :
    Numeral.readMagnitude? (ds ++ '.' :: (es ++ rest)) =
      (Numeral.readExponent? rest).map fun e : Int =>
        (Digits.value (ds ++ es), e - es.length) := by
  have hwhole : Digits.span (ds ++ '.' :: (es ++ rest)) = (ds, '.' :: (es ++ rest)) :=
    span_append_of_isDigit hds (by rintro c ⟨⟩; decide)
  have hplaces := span_append_of_isDigit hes hrest
  simp only [Numeral.readMagnitude?, hwhole, hplaces]
  rw [if_neg (by simpa using hne)]

/-- A magnitude is a mantissa with an exponent. -/
theorem isSome_readMagnitude?_iff :
    (Numeral.readMagnitude? cs).isSome = true ↔ ∃ mantissa exponent, cs = mantissa ++ exponent ∧
      MantissaText Char.isDigit mantissa ∧ ExponentText Char.isDigit exponent := by
  constructor
  · intro h
    have hcs := Digits.span_append cs
    have hdigits : ∀ c ∈ (Digits.span cs).1, c.isDigit = true := fun c hc => isDigit_of_mem_span hc
    unfold Numeral.readMagnitude? at h
    generalize Digits.span cs = whole at h hcs hdigits
    obtain ⟨ds, rest⟩ := whole
    subst hcs
    simp only at h hdigits ⊢
    split at h
    · rename_i more
      have hmore := Digits.span_append more
      have hdigits' : ∀ c ∈ (Digits.span more).1, c.isDigit = true :=
        fun c hc => isDigit_of_mem_span hc
      generalize Digits.span more = places at h hmore hdigits'
      obtain ⟨es, rest⟩ := places
      subst hmore
      split at h
      · cases h
      · rename_i hne
        rw [Option.isSome_map] at h
        exact ⟨ds ++ '.' :: es, rest, by simp, .point hdigits hdigits' (by simpa using hne),
          isSome_readExponent?_iff.1 h⟩
    · split at h
      · cases h
      · rename_i hne
        rw [Option.isSome_map] at h
        exact ⟨ds, rest, rfl, .whole ⟨by simpa using hne, hdigits⟩, isSome_readExponent?_iff.1 h⟩
  · rintro ⟨mantissa, exponent, rfl, hmantissa, hexponent⟩
    have hsome := isSome_readExponent?_iff.2 hexponent
    cases hmantissa with
    | whole hds => rwa [readMagnitude?_whole hds hexponent.head, Option.isSome_map]
    | point hds hes hne =>
      rw [List.append_assoc, List.cons_append,
        readMagnitude?_point hds hes hne fun c hc => (hexponent.head c hc).1, Option.isSome_map]
      exact hsome

theorem MantissaText.unsigned (h : MantissaText Char.isDigit cs) (rest : List Char) :
    Unsigned (cs ++ rest) := by
  cases h with
  | whole hds => exact hds.unsigned rest
  | @point ds es hds =>
    cases ds with
    | nil =>
      rintro c ⟨⟩
      decide
    | cons d ds =>
      refine unsigned_of_isDigit ?_
      rintro c ⟨⟩
      exact hds d List.mem_cons_self

theorem unsigned_of_mem_numeralWords {word : List Char}
    (h : Text.lowerAscii word ∈ numeralWords) : Unsigned word := by
  have hletters : ∀ word ∈ numeralWords, ∀ c ∈ word, c ≠ '+' ∧ c ≠ '-' := by decide
  intro c hc
  have hlower : c.toLower ∈ Text.lowerAscii word := List.mem_map_of_mem (List.mem_of_mem_head? hc)
  obtain ⟨hplus, hminus⟩ := hletters _ h _ hlower
  constructor <;> rintro rfl
  · exact hplus rfl
  · exact hminus rfl

theorem mem_numeralWords {cs : List Char} : cs ∈ numeralWords ↔
    (decide (cs = "inf".toList) || decide (cs = "infinity".toList)) = true ∨ cs = "nan".toList := by
  rw [numeralWords, List.mem_cons, List.mem_cons, List.mem_singleton, Bool.or_eq_true,
    decide_eq_true_eq, decide_eq_true_eq, or_assoc]

/-- **The texts that are read as numerals.** -/
theorem isSome_read?_iff : (Numeral.read? cs).isSome = true ↔ NumeralText cs := by
  constructor
  · intro h
    obtain ⟨sign, hsign, hcs⟩ := exists_readSign cs
    unfold Numeral.read? at h
    simp only at h
    rw [hcs]
    generalize (Numeral.readSign cs).2 = rest at h
    split at h
    · rename_i hword
      exact .word hsign (mem_numeralWords.2 (.inl hword))
    · split at h
      · rename_i hword
        exact .word hsign (mem_numeralWords.2 (.inr hword))
      · rw [Option.isSome_map] at h
        obtain ⟨mantissa, exponent, rfl, hmantissa, hexponent⟩ := isSome_readMagnitude?_iff.1 h
        exact .number (.intro hsign hmantissa hexponent)
  · intro h
    obtain ⟨sign, rest, hsign, hunsigned, rfl, hrest⟩ : ∃ sign rest, SignText sign ∧
        Unsigned rest ∧ cs = sign ++ rest ∧ (Text.lowerAscii rest ∈ numeralWords ∨
          (Numeral.readMagnitude? rest).isSome = true) := by
      rcases h with ⟨hsign, hword⟩ | ⟨hsign, hmantissa, hexponent⟩
      · exact ⟨_, _, hsign, unsigned_of_mem_numeralWords hword, rfl, .inl hword⟩
      · exact ⟨_, _, hsign, hmantissa.unsigned _, rfl,
          .inr (isSome_readMagnitude?_iff.2 ⟨_, _, rfl, hmantissa, hexponent⟩)⟩
    simp only [Numeral.read?, readSign_append hsign hunsigned]
    split
    · rfl
    · rename_i hinfinite
      split
      · rfl
      · rename_i hnan
        rw [Option.isSome_map]
        exact hrest.resolve_left fun hword => (mem_numeralWords.1 hword).elim hinfinite hnan

/-- No word begins with a digit or a point. -/
theorem MantissaText.not_mem_numeralWords (h : MantissaText Char.isDigit cs) :
    Text.lowerAscii cs ∉ numeralWords := by
  have hletters : ∀ word ∈ numeralWords, ∀ c ∈ word, 57 < c.toNat := by decide
  have hlow : ∀ c : Char, c.isDigit = true → c.toNat ≤ 57 :=
    fun c hc => (Char.isDigit_iff_toNat.1 hc).2
  obtain ⟨c, rest, rfl, hc⟩ : ∃ c rest, cs = c :: rest ∧ c.toNat ≤ 57 := by
    cases h with
    | whole h =>
      obtain ⟨c, rest, rfl⟩ := List.exists_cons_of_ne_nil h.1
      exact ⟨c, rest, rfl, hlow c (h.2 c List.mem_cons_self)⟩
    | @point ds es hds =>
      cases ds with
      | nil => exact ⟨'.', es, rfl, by decide⟩
      | cons d ds => exact ⟨d, _, rfl, hlow d (hds d List.mem_cons_self)⟩
  intro hword
  have hletter := hletters _ hword c.toLower List.mem_cons_self
  rw [Text.toNat_toLower, if_neg (by omega)] at hletter
  omega

/-- A mantissa is read as the number that its digits denote, with the sign in front of it. -/
theorem MantissaText.read? {sign : List Char} {n : Nat} {e : Int}
    (h : MantissaText Char.isDigit cs) (hsign : SignText sign)
    (hread : Numeral.readMagnitude? cs = some (n, e)) :
    Numeral.read? (sign ++ cs) = some (.finite (sign = ['-']) n e) := by
  have hunsigned : Unsigned cs := by simpa using h.unsigned []
  have hword := not_or.1 (mt mem_numeralWords.2 h.not_mem_numeralWords)
  simp only [Numeral.read?, readSign_append hsign hunsigned]
  refine (if_neg hword.1).trans ((if_neg hword.2).trans ?_)
  rw [hread]
  rfl

/-- The text of an integer is a sign, or none, with a digit at least behind it. -/
theorem IntegerText.exists_sign {n : Int} (h : IntegerText cs n)
    (hdigit : ∃ c ∈ cs, c.isDigit = true) :
    ∃ sign ds, SignText sign ∧ DigitsText Char.isDigit ds ∧ cs = sign ++ ds ∧
      n = signedNat (sign = ['-']) (Digits.value ds) := by
  obtain ⟨c, hc, hcdigit⟩ := hdigit
  have hne : ∀ {sign : Char} {ds : List Char}, sign.isDigit = false → c ∈ sign :: ds → ds ≠ [] := by
    rintro sign ds hsign hc rfl
    rw [List.mem_singleton.1 hc, hsign] at hcdigit
    cases hcdigit
  cases h with
  | plain hds => exact ⟨[], cs, .none, ⟨List.ne_nil_of_mem hc, hds⟩, rfl, rfl⟩
  | plus hds => exact ⟨['+'], _, .plus, ⟨hne rfl hc, hds⟩, rfl, rfl⟩
  | minus hds => exact ⟨['-'], _, .minus, ⟨hne rfl hc, hds⟩, rfl, rfl⟩

/-- **An integer is read as the numeral of it**, without places and without an exponent. -/
theorem IntegerText.exists_read? {n : Int} (h : IntegerText cs n)
    (hdigit : ∃ c ∈ cs, c.isDigit = true) :
    ∃ s m, n = signedNat s m ∧ Numeral.read? cs = some (.finite s m 0) := by
  obtain ⟨sign, ds, hsign, hds, rfl, rfl⟩ := h.exists_sign hdigit
  have hmagnitude : Numeral.readMagnitude? ds = some (Digits.value ds, 0) := by
    simpa [Numeral.readExponent?] using @readMagnitude?_whole _ [] hds nofun
  exact ⟨_, _, rfl, MantissaText.read? (.whole hds) hsign hmagnitude⟩

end Reader

end Instrument.Number
