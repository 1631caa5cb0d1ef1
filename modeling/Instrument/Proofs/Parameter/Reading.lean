/-
# What is read of a text

For the kinds that a template writes, what a text must be for a value to be read of it, and which
value that is: an integer is known by the text without the blanks around it, a word is that text, a
truth value is that text in lower case, a character or any text is just what was given, and a date is
what its template reads.  For integers, words and truth values the converse is here as well, what is
such a text is read, and of real numbers it is said which texts are read and not which number is.
-/
import Instrument.Proofs.Number.Numerals
import Instrument.Proofs.Parameter.Admission

namespace Instrument

open Number

/-- How many bits the integers of a kind have. -/
def Kind.bits : Kind → Nat
  | .byte => 8
  | .int => 32
  | .long => 64
  | _ => 0

theorem Value.eq_of_asInt? {k : Kind} {v w : Value} (hk : k.isInteger = true)
    (hv : v.isOf k = true) (hw : w.isOf k = true) (h : w.asInt? = v.asInt?) : w = v := by
  cases k with
  | float | double | boolean | char | text | token | date => cases hk
  | byte | int | long =>
    cases v <;> cases hv
    cases w <;> cases hw
    have htoInt := Option.some.inj h
    first
    | rw [Int8.toInt_inj.1 htoInt]
    | rw [Int32.toInt_inj.1 htoInt]
    | rw [Int64.toInt_inj.1 htoInt]

theorem Value.exists_asInt? {k : Kind} {v : Value} (hk : k.isInteger = true)
    (hv : v.isOf k = true) : ∃ n, v.asInt? = some n := by
  cases k with
  | float | double | boolean | char | text | token | date => cases hk
  | byte | int | long =>
    cases v <;> cases hv
    exact ⟨_, rfl⟩

theorem Value.has_of_asInt? {k : Kind} {v : Value} {n : Int} (hk : k.isInteger = true)
    (hv : v.isOf k = true) (hn : v.asInt? = some n) : (Bounds.signed k.bits).has n = true := by
  cases k with
  | float | double | boolean | char | text | token | date => cases hk
  | byte | int | long =>
    cases v <;> cases hv
    cases hn
    rename_i m
    exact Bounds.has_iff.2 ⟨m.le_toInt, Int.le_sub_one_of_lt m.toInt_lt⟩

/-- Every integer of the size of a kind is the integer of a value. -/
theorem Value.exists_of_has {k : Kind} {n : Int} (hk : k.isInteger = true)
    (hn : (Bounds.signed k.bits).has n = true) :
    ∃ v : Value, v.isOf k = true ∧ v.asInt? = some n := by
  obtain ⟨hleast, hgreatest⟩ := Bounds.has_iff.1 hn
  have hlt := Int.lt_of_le_sub_one hgreatest
  cases k with
  | float | double | boolean | char | text | token | date => cases hk
  | byte => exact ⟨.byte (Int8.ofInt n), rfl, congrArg some (Int8.toInt_ofInt_of_le hleast hlt)⟩
  | int => exact ⟨.int (Int32.ofInt n), rfl, congrArg some (Int32.toInt_ofInt_of_le hleast hlt)⟩
  | long => exact ⟨.long (Int64.ofInt n), rfl, congrArg some (Int64.toInt_ofInt_of_le hleast hlt)⟩

namespace Parameter

variable {p : Parameter} {v w : Value} {input : String}

/-! ## Integers -/

theorem readInt?_eq_some_iff {bits : Nat} {cs : List Char} {n : Int} :
    readInt? bits cs = some n ↔
      IntegerText cs n ∧ (∃ c ∈ cs, c.isDigit = true) ∧ (Bounds.signed bits).has n = true := by
  have hpos : 0 < Nat.pow 2 (bits - 1) := Nat.pow_pos (by decide)
  have hleast : (Bounds.signed bits).least < 0 := by
    simp only [Bounds.signed]
    omega
  have hgreatest : 0 ≤ (Bounds.signed bits).greatest := by
    simp only [Bounds.signed]
    omega
  rw [← readInteger_eq_ok_iff hleast hgreatest, readInt?]
  cases readInteger (.signed bits) cs with
  | ok m => exact ⟨fun h => congrArg _ (Option.some.inj h), fun h => congrArg _ (Except.ok.inj h)⟩
  | error e => constructor <;> rintro ⟨⟩

/-- **A value of an integer kind is read of the text of its integer.** -/
theorem readValue?_of_readInt? {n : Int} (hk : p.kind.isInteger = true) (hv : v.isOf p.kind = true)
    (hn : v.asInt? = some n) (hread : readInt? p.kind.bits (Text.trim input.toList) = some n) :
    p.readValue? input = some v := by
  have hne : input ≠ "" := by
    rintro rfl
    cases hread
  unfold readValue?
  rw [if_neg hne]
  generalize p.kind = kind at hk hv hread
  cases kind with
  | float | double | boolean | char | text | token | date => cases hk
  | byte | int | long =>
    cases v <;> cases hv
    cases hn
    rw [Kind.bits] at hread
    simp [hread]

/-- **What is read for an integer kind is the value of the integer in the text.** -/
theorem readInt?_of_readValue? (hk : p.kind.isInteger = true) (h : p.readValue? input = some v) :
    ∃ n, v.asInt? = some n ∧ readInt? p.kind.bits (Text.trim input.toList) = some n := by
  have hbounds : ∀ {bits n}, readInt? bits (Text.trim input.toList) = some n →
      (Bounds.signed bits).least ≤ n ∧ n < (Bounds.signed bits).greatest + 1 := by
    intro bits n hn
    obtain ⟨hleast, hgreatest⟩ := Bounds.has_iff.1 (readInt?_eq_some_iff.1 hn).2.2
    exact ⟨hleast, Int.lt_add_one_of_le hgreatest⟩
  unfold readValue? at h
  split at h
  · cases h
  · generalize p.kind = kind at hk h
    cases kind with
    | float | double | boolean | char | text | token | date => cases hk
    | byte =>
      obtain ⟨n, hn, rfl⟩ := Option.map_eq_some_iff.1 h
      exact ⟨n, congrArg some (Int8.toInt_ofInt_of_le (hbounds hn).1 (hbounds hn).2), hn⟩
    | int =>
      obtain ⟨n, hn, rfl⟩ := Option.map_eq_some_iff.1 h
      exact ⟨n, congrArg some (Int32.toInt_ofInt_of_le (hbounds hn).1 (hbounds hn).2), hn⟩
    | long =>
      obtain ⟨n, hn, rfl⟩ := Option.map_eq_some_iff.1 h
      exact ⟨n, congrArg some (Int64.toInt_ofInt_of_le (hbounds hn).1 (hbounds hn).2), hn⟩

theorem integer_of_readValue? (hk : p.kind.isInteger = true) (h : p.readValue? input = some w) :
    ∃ n, w.asInt? = some n ∧ IntegerText (Text.trim input.toList) n := by
  obtain ⟨n, hn, hread⟩ := readInt?_of_readValue? hk h
  exact ⟨n, hn, (readInt?_eq_some_iff.1 hread).1⟩

theorem readValue?_of_integerText {n : Int} (hk : p.kind.isInteger = true)
    (hv : v.isOf p.kind = true) (hn : v.asInt? = some n)
    (htext : IntegerText (Text.trim input.toList) n)
    (hdigit : ∃ c ∈ Text.trim input.toList, c.isDigit = true) : p.readValue? input = some v :=
  readValue?_of_readInt? hk hv hn
    (readInt?_eq_some_iff.2 ⟨htext, hdigit, Value.has_of_asInt? hk hv hn⟩)

/-! ## The other kinds -/

theorem word_of_readValue? (hk : p.kind = .token) (h : p.readValue? input = some w) :
    w = .text (String.ofList (Text.trim input.toList)) ∧
      ∀ c ∈ Text.trim input.toList, Text.isBlank c = false := by
  unfold readValue? at h
  rw [hk] at h
  split at h
  · cases h
  · simp only at h
    split at h
    · rename_i hword
      cases h
      refine ⟨rfl, fun c hc => not_isBlank_of_isWord hword c ?_⟩
      rwa [String.toList_ofList]
    · cases h

theorem readValue?_of_isWord {s : String} (hk : p.kind = .token) (hs : isWord s = true)
    (h : Text.trim input.toList = s.toList) : p.readValue? input = some (.text s) := by
  have hne : input ≠ "" := by
    rintro rfl
    exact ne_empty_of_isWord hs (String.toList_eq_nil_iff.1 h.symm)
  unfold readValue?
  rw [if_neg hne, hk]
  simp [h, hs]

/-- **A real number is read of the numerals.** -/
theorem exists_readValue?_iff_numeralText (hk : p.kind.isFloating = true) :
    (∃ v, p.readValue? input = some v) ↔ NumeralText (Text.trim input.toList) := by
  rw [← isSome_read?_iff, ← Option.isSome_iff_exists]
  by_cases hne : input = ""
  · subst hne
    simp [readValue?]
    decide
  · rw [readValue?, if_neg hne]
    generalize p.kind = k at hk
    cases k with
    | byte | int | long | boolean | char | text | token | date => cases hk
    | float | double => simp [readFloat32?, readFloat?]

theorem text_of_readValue? (hk : p.kind = .text) (h : p.readValue? input = some w) :
    w = .text input := by
  unfold readValue? at h
  rw [hk] at h
  split at h <;> cases h
  rfl

theorem char_of_readValue? (hk : p.kind = .char) (h : p.readValue? input = some w) :
    ∃ c, w = .char c ∧ input.toList = [c] := by
  unfold readValue? at h
  rw [hk] at h
  split at h
  · cases h
  · simp only at h
    split at h
    · rename_i c hc
      cases h
      exact ⟨c, rfl, hc⟩
    · cases h

theorem boolean_of_readValue? (hk : p.kind = .boolean) (h : p.readValue? input = some w) :
    ∃ b, w = .boolean b ∧ Text.lowerAscii (Text.trim input.toList) = WireFormat.boolWord b := by
  unfold readValue? at h
  rw [hk] at h
  split at h
  · cases h
  · obtain ⟨b, hb, rfl⟩ := Option.map_eq_some_iff.1 h
    refine ⟨b, rfl, ?_⟩
    unfold readBool? at hb
    split at hb
    · rename_i htrue
      cases hb
      exact (of_decide_eq_true htrue).trans (by decide)
    · split at hb
      · rename_i hfalse
        cases hb
        exact (of_decide_eq_true hfalse).trans (by decide)
      · cases hb

theorem readValue?_of_boolWord {b : Bool} (hk : p.kind = .boolean)
    (h : Text.lowerAscii (Text.trim input.toList) = WireFormat.boolWord b) :
    p.readValue? input = some (.boolean b) := by
  have hne : input ≠ "" := by
    rintro rfl
    cases b <;> cases h
  have hread : readBool? (Text.trim input.toList) = some b := by
    have hword : ∀ b : Bool, (WireFormat.boolWord b = Text.lowerAscii "true".toList ↔ b = true) ∧
        (WireFormat.boolWord b = Text.lowerAscii "false".toList ↔ b = false) := by decide
    simp only [readBool?, Text.eqIgnoreAsciiCase, h, decide_eq_true_eq, (hword b).1, (hword b).2]
    cases b <;> rfl
  unfold readValue?
  rw [if_neg hne, hk]
  simp [hread]

theorem date_of_readValue? {f : DateFormat} (hf : p.encoding = .date f)
    (h : p.readValue? input = some w) : ∃ m, w = .date m ∧ f.readMoment? input = some m := by
  have hk : p.kind = .date := by simpa [Encoding.suits, hf] using p.encoding_suits
  unfold readValue? at h
  rw [hk, hf] at h
  split at h
  · cases h
  · obtain ⟨m, hm, rfl⟩ := Option.map_eq_some_iff.1 h
    exact ⟨m, rfl, hm⟩

end Parameter

theorem Parameter.readValue_eq_ok_iff {p : Parameter} {input : String} {v : Value} :
    p.readValue input = .ok v ↔ p.readValue? input = some v := by
  unfold readValue
  cases p.readValue? input with
  | none => exact ⟨nofun, nofun⟩
  | some w => exact ⟨fun h => congrArg some (Except.ok.inj h), fun h => congrArg _ (Option.some.inj h)⟩

end Instrument
