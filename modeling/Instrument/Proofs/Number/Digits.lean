/-
# What digits denote

A run of digits denotes a number, zeros in front do not count, and the digits of a number denote it.
The text that an integer is read from is such a run behind a sign, if there is one
(`IntegerText`); so the integer is known once the digits in the text are, and whether there is a minus
sign (`IntegerText.eq_of_carries`).  Such a text is read if it has a digit and the bounds admit the
integer, and no other text is (`readInteger_eq_ok_iff`).
-/
import Instrument.Proofs.Number.Integer
import Instrument.Proofs.Text.Blank
import Mathlib.Data.List.Basic
import Mathlib.Data.List.Induction
import Mathlib.Tactic.Ring

namespace Instrument.Number

/-! ## Runs of digits -/

theorem isDigit_of_digit? {c : Char} {d : Nat} (h : Digits.digit? c = some d) :
    c.isDigit = true := by
  unfold Digits.digit? at h
  split at h
  · assumption
  · cases h

theorem exists_digit? {c : Char} (h : c.isDigit = true) : ∃ d < 10, Digits.digit? c = some d := by
  have hhigh : c.toNat ≤ 57 := (Char.isDigit_iff_toNat.1 h).2
  have hzero : '0'.toNat = 48 := rfl
  exact ⟨c.toNat - '0'.toNat, by omega, if_pos h⟩

/-- What stands behind shifts what stands in front. -/
theorem value_append (cs ds : List Char) :
    Digits.value (cs ++ ds) = Digits.value cs * 10 ^ ds.length + Digits.value ds := by
  have hfold : ∀ (ds : List Char) (n : Nat),
      ds.foldl (fun n c => 10 * n + (Digits.digit? c).getD 0) n =
        n * 10 ^ ds.length + Digits.value ds := by
    intro ds
    induction ds with
    | nil => intro n; simp [Digits.value]
    | cons d ds ih =>
      intro n
      rw [Digits.value, List.foldl_cons, ih, List.foldl_cons, ih, List.length_cons]
      ring
  rw [Digits.value, List.foldl_append]
  exact hfold ds _

/-- A digit more at the end. -/
theorem value_concat {c : Char} {d : Nat} (h : Digits.digit? c = some d) (cs : List Char) :
    Digits.value (cs ++ [c]) = Digits.value cs * 10 + d := by
  rw [value_append]
  simp [Digits.value, h]

theorem value_eq_ofDigitChars {cs : List Char} (h : ∀ c ∈ cs, c.isDigit = true) :
    Digits.value cs = Nat.ofDigitChars 10 cs 0 := by
  rw [Nat.ofDigitChars_eq_foldl, Digits.value]
  refine List.foldl_ext _ _ _ fun n c hc => ?_
  have hdigit : Digits.isDigit c = true := h c hc
  rw [Digits.digit?, if_pos hdigit]
  rfl

theorem value_lt {cs : List Char} (h : ∀ c ∈ cs, Digits.isDigit c = true) :
    Digits.value cs < 10 ^ cs.length := by
  induction cs with
  | nil => decide
  | cons c cs ih =>
    obtain ⟨hdigit, hcs⟩ := List.forall_mem_cons.1 h
    have hc : Digits.value [c] ≤ 9 := by
      have hhigh : c.toNat ≤ 57 := (Char.isDigit_iff_toNat.1 hdigit).2
      have hvalue : Digits.value [c] = c.toNat - 48 := by
        simp [Digits.value, Digits.digit?, hdigit]
      omega
    have hshift := Nat.mul_le_mul_right (10 ^ cs.length) hc
    have hrest := ih hcs
    rw [← List.singleton_append, value_append, List.singleton_append, List.length_cons,
      Nat.pow_succ]
    omega

theorem isDigit_of_mem_zeros {zeros n : Nat} {c : Char}
    (h : c ∈ List.replicate zeros '0' ++ Digits.text n) : c.isDigit = true := by
  rcases List.mem_append.1 h with h | h
  · rw [List.eq_of_mem_replicate h]
    rfl
  · exact isDigit_of_mem_text h

/-- **Zeros and the digits of a number denote the number.** -/
theorem value_zeros_text (zeros n : Nat) :
    Digits.value (List.replicate zeros '0' ++ Digits.text n) = n := by
  rw [value_eq_ofDigitChars fun c hc => isDigit_of_mem_zeros hc, Nat.ofDigitChars_append,
    Nat.ofDigitChars_replicate_zero, Nat.mul_zero]
  exact Nat.ofDigitChars_ten_toDigits

theorem isDigit_of_mem_padded {width n : Nat} {c : Char} (h : c ∈ Digits.padded width n) :
    c.isDigit = true :=
  isDigit_of_mem_zeros h

theorem value_padded (width n : Nat) : Digits.value (Digits.padded width n) = n :=
  value_zeros_text _ n

theorem value_text (n : Nat) : Digits.value (Digits.text n) = n :=
  value_zeros_text 0 n

theorem length_text_le {width n : Nat} (hwidth : 0 < width) (hn : n < 10 ^ width) :
    (Digits.text n).length ≤ width :=
  (Nat.length_toDigits_le_iff (by decide) hwidth).2 hn

theorem length_padded_of_lt {width n : Nat} (hwidth : 0 < width) (hn : n < 10 ^ width) :
    (Digits.padded width n).length = width := by
  have hle := length_text_le hwidth hn
  rw [Digits.padded, Digits.padZeros, List.length_append, List.length_replicate]
  omega

/-! ## Digits and signs anywhere -/

/-- A text that has the digits of an integer, maybe with zeros in front, and a minus sign just if the
integer is negative. -/
structure Carries (cs : List Char) (n : Int) : Prop where
  digits : ∃ zeros, cs.filter Char.isDigit = List.replicate zeros '0' ++ Digits.text n.natAbs
  minus : '-' ∈ cs ↔ n < 0

/-- A minus sign if there is one to write, zeros, and digits. -/
theorem carries_signed (n : Int) (zeros : Nat) :
    Carries ((if n < 0 then ['-'] else []) ++
      (List.replicate zeros '0' ++ Digits.text n.natAbs)) n := by
  have hdigits : ∀ c ∈ List.replicate zeros '0' ++ Digits.text n.natAbs, c.isDigit = true :=
    fun c hc => isDigit_of_mem_zeros hc
  have hnot : '-' ∉ List.replicate zeros '0' ++ Digits.text n.natAbs :=
    fun hmem => absurd (hdigits _ hmem) (by decide)
  split
  · rename_i hn
    refine ⟨⟨zeros, ?_⟩, fun _ => hn, fun _ => List.mem_cons_self⟩
    rw [List.filter_append, List.filter_eq_self.2 hdigits]
    rfl
  · rename_i hn
    refine ⟨⟨zeros, ?_⟩, fun hmem => absurd hmem hnot, fun hneg => absurd hneg hn⟩
    rw [List.filter_append, List.filter_eq_self.2 hdigits]
    rfl

theorem carries_writeInteger (n : Int) : Carries (writeInteger n) n := by
  have h := carries_signed n 0
  unfold writeInteger
  split <;> simp_all

namespace Carries

variable {cs : List Char} {n : Int}

/-- Zeros and characters without a meaning may stand in front, and the latter also behind. -/
theorem between (h : Carries cs n) {before after : List Char}
    (hbefore : ∀ c ∈ before, c ≠ '-' ∧ (c.isDigit = true → c = '0'))
    (hafter : ∀ c ∈ after, c ≠ '-' ∧ c.isDigit = false) : Carries (before ++ (cs ++ after)) n := by
  obtain ⟨⟨zeros, hdigits⟩, hminus⟩ := h
  have hfront : before.filter Char.isDigit =
      List.replicate (before.filter Char.isDigit).length '0' := by
    refine List.eq_replicate_of_mem fun c hc => ?_
    obtain ⟨hmem, hdigit⟩ := List.mem_filter.1 hc
    exact (hbefore c hmem).2 hdigit
  have hback : after.filter Char.isDigit = [] :=
    List.filter_eq_nil_iff.2 fun c hc => by simp [(hafter c hc).2]
  refine ⟨⟨(before.filter Char.isDigit).length + zeros, ?_⟩, ?_⟩
  · rw [List.filter_append, List.filter_append, hback, hdigits, List.append_nil,
      ← List.append_assoc, List.replicate_add, ← hfront]
  · rw [List.mem_append, List.mem_append, ← hminus]
    refine ⟨?_, fun hmem => .inr (.inl hmem)⟩
    rintro (hmem | hmem | hmem)
    · exact absurd rfl (hbefore _ hmem).1
    · exact hmem
    · exact absurd rfl (hafter _ hmem).1

/-- The text has a digit, so it is not blank. -/
theorem isSolid (h : Carries cs n) : Text.IsSolid cs := by
  obtain ⟨⟨zeros, hdigits⟩, -⟩ := h
  obtain ⟨c, rest, htext, -⟩ := exists_text n.natAbs
  have hc : c ∈ cs.filter Char.isDigit := by
    rw [hdigits, htext]
    exact List.mem_append_right _ List.mem_cons_self
  obtain ⟨hmem, hdigit⟩ := List.mem_filter.1 hc
  exact ⟨c, hmem, Text.isBlank_of_isDigit hdigit⟩

theorem trim (h : Carries cs n) : Carries (Text.trim cs) n := by
  obtain ⟨before, after, hbefore, hafter, hcs⟩ := Text.exists_trim cs
  obtain ⟨⟨zeros, hdigits⟩, hminus⟩ := h
  have hblank : ∀ ds : List Char, (∀ c ∈ ds, Text.isBlank c = true) →
      ds.filter Char.isDigit = [] := by
    intro ds hds
    refine List.filter_eq_nil_iff.2 fun c hc hdigit => ?_
    have hnot := Text.isBlank_of_isDigit hdigit
    rw [hds c hc] at hnot
    cases hnot
  refine ⟨⟨zeros, ?_⟩, ?_⟩
  · rw [hcs, List.filter_append, List.filter_append, hblank before hbefore, hblank after hafter,
      List.nil_append, List.append_nil] at hdigits
    exact hdigits
  · rw [← hminus]
    refine ⟨fun hmem => ?_, fun hmem => Text.mem_trim hmem (by decide)⟩
    rw [hcs]
    exact List.mem_append_right _ (List.mem_append_left _ hmem)

end Carries

/-! ## Integers -/

/-- The texts that an integer is read from: digits behind a sign, or without one. -/
inductive IntegerText : List Char → Int → Prop
  | plain {ds : List Char} : (∀ c ∈ ds, c.isDigit = true) → IntegerText ds (Digits.value ds)
  | plus {ds : List Char} : (∀ c ∈ ds, c.isDigit = true) → IntegerText ('+' :: ds) (Digits.value ds)
  | minus {ds : List Char} : (∀ c ∈ ds, c.isDigit = true) →
      IntegerText ('-' :: ds) (-(Digits.value ds))

/-- What is read of a run of digits is the number that they denote. -/
theorem readDigits_eq_ok {b : Bounds} {negative : Bool} {acc n : Int} {cs : List Char}
    (h : readDigits b negative acc cs = .ok n) :
    (∀ c ∈ cs, c.isDigit = true) ∧
      n = acc * 10 ^ cs.length + signedNat negative (Digits.value cs) := by
  induction cs generalizing acc with
  | nil =>
    cases h
    cases negative <;> simp [signedNat, Digits.value]
  | cons c cs ih =>
    simp only [readDigits] at h
    split at h
    · cases h
    · rename_i d hd
      have hrest : readDigits b negative (appendDigit negative acc d) cs = .ok n := by
        split at h
        · cases h
        · split at h
          · cases h
          · exact h
      obtain ⟨hdigits, hn⟩ := ih hrest
      refine ⟨List.forall_mem_cons.2 ⟨isDigit_of_digit? hd, hdigits⟩, ?_⟩
      have hvalue : Digits.value (c :: cs) = d * 10 ^ cs.length + Digits.value cs := by
        rw [← List.singleton_append, value_append]
        simp [Digits.value, hd]
      rw [hn, hvalue, List.length_cons]
      cases negative <;> simp only [appendDigit, signedNat, if_true, Bool.false_eq_true, if_false] <;>
        push_cast <;> ring

theorem integerText_of_readInteger {b : Bounds} {n : Int} {cs : List Char}
    (h : readInteger b cs = .ok n) : IntegerText cs n := by
  have hread : ∀ {negative : Bool} {ds : List Char}, readDigits b negative 0 ds = .ok n →
      (∀ c ∈ ds, c.isDigit = true) ∧ n = signedNat negative (Digits.value ds) := by
    intro negative ds hds
    simpa using readDigits_eq_ok hds
  unfold readInteger at h
  split at h
  · cases h
  · cases h
  · cases h
  · obtain ⟨hdigits, rfl⟩ := hread h
    exact .plus hdigits
  · split at h
    · obtain ⟨hdigits, rfl⟩ := hread h
      exact .minus hdigits
    · cases h
  · obtain ⟨hdigits, rfl⟩ := hread h
    exact .plain hdigits

namespace IntegerText

variable {cs ds : List Char} {n m : Int}

theorem isDigit_or_sign (h : IntegerText cs n) {c : Char} (hc : c ∈ cs) :
    c.isDigit = true ∨ c = '+' ∨ c = '-' := by
  cases h with
  | plain hdigits => exact .inl (hdigits c hc)
  | plus hdigits =>
    rcases List.mem_cons.1 hc with rfl | hc
    · exact .inr (.inl rfl)
    · exact .inl (hdigits c hc)
  | minus hdigits =>
    rcases List.mem_cons.1 hc with rfl | hc
    · exact .inr (.inr rfl)
    · exact .inl (hdigits c hc)

/-- A text spells one integer at most. -/
theorem unique (hn : IntegerText cs n) (hm : IntegerText cs m) : n = m := by
  have hplus : ∀ ds : List Char, ¬ ∀ c ∈ '+' :: ds, c.isDigit = true :=
    fun ds h => absurd (h '+' List.mem_cons_self) (by decide)
  have hminus : ∀ ds : List Char, ¬ ∀ c ∈ '-' :: ds, c.isDigit = true :=
    fun ds h => absurd (h '-' List.mem_cons_self) (by decide)
  cases hn with
  | plain hds =>
    cases hm with
    | plain _ => rfl
    | plus _ => exact absurd hds (hplus _)
    | minus _ => exact absurd hds (hminus _)
  | plus _ =>
    cases hm with
    | plain hds => exact absurd hds (hplus _)
    | plus _ => rfl
  | minus _ =>
    cases hm with
    | plain hds => exact absurd hds (hminus _)
    | minus _ => rfl

/-- Behind the first character there are digits only. -/
theorem isDigit_of_mem_append (h : IntegerText (cs ++ ds) n) (hcs : cs ≠ []) {c : Char}
    (hc : c ∈ ds) : c.isDigit = true := by
  obtain ⟨first, rest, rfl⟩ := List.exists_cons_of_ne_nil hcs
  have hmem : c ∈ rest ++ ds := List.mem_append_right rest hc
  cases h with
  | plain hdigits => exact hdigits c (List.mem_cons_of_mem first hmem)
  | plus hdigits => exact hdigits c hmem
  | minus hdigits => exact hdigits c hmem

/-- **The digits and the minus sign say which integer it is.** -/
theorem eq_of_carries (h : IntegerText cs n) (hm : Carries cs m) : n = m := by
  obtain ⟨⟨zeros, hdigits⟩, hminus⟩ := hm
  have hvalue : ∀ {ds : List Char}, (∀ c ∈ ds, c.isDigit = true) →
      ds.filter Char.isDigit = List.replicate zeros '0' ++ Digits.text m.natAbs →
      Digits.value ds = m.natAbs := by
    intro ds hds hfilter
    rw [List.filter_eq_self.2 hds] at hfilter
    rw [hfilter, value_zeros_text]
  have hnot : ∀ {ds : List Char}, (∀ c ∈ ds, c.isDigit = true) → '-' ∉ ds :=
    fun hds hmem => absurd (hds _ hmem) (by decide)
  cases h with
  | plain hds =>
    have hsign : ¬ m < 0 := fun hneg => hnot hds (hminus.2 hneg)
    rw [hvalue hds hdigits]
    omega
  | plus hds =>
    have hsign : ¬ m < 0 := fun hneg =>
      (List.mem_cons.1 (hminus.2 hneg)).elim (by decide) (hnot hds)
    rw [hvalue hds hdigits]
    omega
  | minus hds =>
    have hsign : m < 0 := hminus.1 List.mem_cons_self
    rw [hvalue hds hdigits]
    omega

end IntegerText

/-! ## Which texts are read -/

/-- **A run of digits is read as the number that it denotes**, if the bounds admit it and zero. -/
theorem readDigits_of_isDigit {b : Bounds} (negative : Bool) (hzero : b.has 0 = true)
    {ds : List Char} (hds : ∀ c ∈ ds, c.isDigit = true)
    (hn : b.has (signedNat negative (Digits.value ds)) = true) :
    readDigits b negative 0 ds = .ok (signedNat negative (Digits.value ds)) := by
  induction ds using List.reverseRecOn with
  | nil => cases negative <;> rfl
  | append_singleton ds c ih =>
    obtain ⟨hds, hc⟩ := List.forall_mem_append.1 hds
    obtain ⟨d, hd, hdigit⟩ := exists_digit? (hc c List.mem_cons_self)
    rw [value_concat hdigit] at hn ⊢
    obtain ⟨hleast, hgreatest⟩ := Bounds.has_iff.1 hn
    obtain ⟨hleast', hgreatest'⟩ := Bounds.has_iff.1 hzero
    -- The number without its last digit lies between zero and the whole.
    have hhas : b.has (signedNat negative (Digits.value ds)) = true := by
      refine Bounds.has_iff.2 ?_
      cases negative <;> simp only [signedNat, if_true, Bool.false_eq_true, if_false] at * <;> omega
    have hstep : appendDigit negative (signedNat negative (Digits.value ds)) d =
        signedNat negative (Digits.value ds * 10 + d) := by
      cases negative <;>
        simp only [appendDigit, signedNat, if_true, Bool.false_eq_true, if_false] <;> omega
    rw [readDigits_append (ih hds hhas)]
    simp only [readDigits, hdigit, hstep]
    rw [if_neg (by omega), if_neg (by omega)]

/-- Zeros and the digits of a number are read as the number. -/
theorem readDigits_zeros_text {b : Bounds} (negative : Bool) (hzero : b.has 0 = true) (zeros : Nat)
    {n : Nat} (hn : b.has (signedNat negative n) = true) :
    readDigits b negative 0 (List.replicate zeros '0' ++ Digits.text n) =
      .ok (signedNat negative n) := by
  have hdigits : ∀ c ∈ List.replicate zeros '0' ++ Digits.text n, c.isDigit = true :=
    fun _ hc => isDigit_of_mem_zeros hc
  have hread := readDigits_of_isDigit negative hzero hdigits
  rw [value_zeros_text] at hread
  exact hread hn

/-- **An integer within bounds is read back from its text.** -/
theorem readInteger_writeInteger {b : Bounds} (hzero : b.has 0 = true) {n : Int}
    (hn : b.has n = true) : readInteger b (writeInteger n) = .ok n := by
  obtain ⟨c, rest, htext, hc⟩ := exists_text n.natAbs
  have hread : ∀ negative, n = signedNat negative n.natAbs →
      readDigits b negative 0 (c :: rest) = .ok n := by
    intro negative hsign
    have hdigits := readDigits_zeros_text negative hzero 0 (hsign ▸ hn)
    rw [← hsign] at hdigits
    rw [← htext]
    exact hdigits
  unfold writeInteger
  rw [htext]
  split
  · rename_i hneg
    have hleast : b.least < 0 := by
      simp only [Bounds.has, Bool.and_eq_true, decide_eq_true_eq] at hn
      omega
    simp only [readInteger, if_pos hleast]
    exact hread true (by simp only [signedNat, if_true]; omega)
  · rename_i hpos
    rw [readInteger_of_isDigit b hc]
    exact hread false (by simp only [signedNat, Bool.false_eq_true, if_false]; omega)

namespace IntegerText

/-- **The texts of integers are read**, if there is a digit and the bounds admit the integer. -/
theorem readInteger_eq {b : Bounds} {cs : List Char} {n : Int} (h : IntegerText cs n)
    (hdigit : ∃ c ∈ cs, c.isDigit = true) (hleast : b.least < 0) (hgreatest : 0 ≤ b.greatest)
    (hn : b.has n = true) : readInteger b cs = .ok n := by
  have hzero : b.has 0 = true := Bounds.has_iff.2 ⟨by omega, hgreatest⟩
  obtain ⟨e, he, hedigit⟩ := hdigit
  cases h with
  | plain hds =>
    obtain ⟨c, rest, rfl⟩ := List.exists_cons_of_ne_nil (List.ne_nil_of_mem he)
    rw [readInteger_of_isDigit b (hds c List.mem_cons_self)]
    exact readDigits_of_isDigit false hzero hds hn
  | @plus ds hds =>
    cases ds with
    | nil =>
      rw [List.mem_singleton.1 he] at hedigit
      cases hedigit
    | cons d ds => exact readDigits_of_isDigit false hzero hds hn
  | @minus ds hds =>
    cases ds with
    | nil =>
      rw [List.mem_singleton.1 he] at hedigit
      cases hedigit
    | cons d ds =>
      simp only [readInteger, if_pos hleast]
      exact readDigits_of_isDigit true hzero hds hn

end IntegerText

/-- What is read as an integer has a digit. -/
theorem exists_isDigit_of_readInteger {b : Bounds} {cs : List Char} {n : Int}
    (h : readInteger b cs = .ok n) : ∃ c ∈ cs, c.isDigit = true := by
  have hfirst : ∀ (c : Char) (rest : List Char), IntegerText (c :: rest) n → rest ≠ [] →
      ∃ d ∈ c :: rest, d.isDigit = true := by
    intro c rest htext hne
    obtain ⟨d, more, rfl⟩ := List.exists_cons_of_ne_nil hne
    have hmem : d ∈ d :: more := List.mem_cons_self
    have hsplit : IntegerText ([c] ++ d :: more) n := htext
    exact ⟨d, List.mem_cons_of_mem c hmem,
      hsplit.isDigit_of_mem_append (List.cons_ne_nil c []) hmem⟩
  have htext := integerText_of_readInteger h
  match cs, htext with
  | [], _ => cases h
  | [c], .plain hds => exact ⟨c, List.mem_cons_self, hds c List.mem_cons_self⟩
  | ['+'], .plus _ => cases h
  | ['-'], .minus _ => cases h
  | c :: d :: rest, htext => exact hfirst c (d :: rest) htext (List.cons_ne_nil _ _)

/-- **Which texts are read as an integer.** -/
theorem readInteger_eq_ok_iff {b : Bounds} (hleast : b.least < 0) (hgreatest : 0 ≤ b.greatest)
    {cs : List Char} {n : Int} :
    readInteger b cs = .ok n ↔
      IntegerText cs n ∧ (∃ c ∈ cs, c.isDigit = true) ∧ b.has n = true := by
  constructor
  · intro h
    have hzero : b.has 0 = true := Bounds.has_iff.2 ⟨by omega, hgreatest⟩
    exact ⟨integerText_of_readInteger h, exists_isDigit_of_readInteger h, readInteger_has hzero h⟩
  · rintro ⟨htext, hdigit, hn⟩
    exact htext.readInteger_eq hdigit hleast hgreatest hn

end Instrument.Number
