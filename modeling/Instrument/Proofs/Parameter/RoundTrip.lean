/-
# Wire texts read back

For some kinds of parameters a value that is written in the standard format can be found in a reply
again and is read back as it was.  `Kind.Writes` lists the texts: integers in decimal, truth values
as words, characters and tokens as they are.  Two things are proved of each, and with them all that
a reply needs:

* it is read back as the value it was written for (`Writes.readValue?_eq`);
* the pattern of the kind takes just this text, if what stands behind it does not go on with the
  characters of its last run (`Writes.prefers`).
-/
import Instrument.Proofs.Number.Digits
import Instrument.Proofs.Parameter.Admission
import Instrument.Proofs.Parameter.Fragment
import Instrument.Proofs.Pattern.Preference
import Instrument.Proofs.Text.Blank

namespace Instrument

open Pattern

/-! ## Blanks and digits -/

namespace Text

theorem isDecimalDigit_of_isDigit {c : Char} (h : c.isDigit = true) : isDecimalDigit c = true := by
  obtain ⟨hlow, hhigh⟩ := Char.isDigit_iff_toNat.1 h
  have hrange : 0x30 ≤ c.toNat ∧ c.toNat ≤ 0x39 := ⟨hlow, hhigh⟩
  rw [isDecimalDigit, CategoryTable.nd, inRanges, if_neg (by omega)]
  simp [hrange.2]

end Text

namespace Number

theorem isBlank_of_mem_writeInteger {n : Int} {c : Char} (h : c ∈ writeInteger n) :
    Text.isBlank c = false := by
  unfold writeInteger at h
  split at h
  · rcases List.mem_cons.1 h with rfl | h
    · rfl
    · exact Text.isBlank_of_isDigit (isDigit_of_mem_text h)
  · exact Text.isBlank_of_isDigit (isDigit_of_mem_text h)

end Number

/-! ## The kinds -/

namespace Kind

/-- The kinds whose values a reply gives back as they were. -/
def isRestored : Kind → Bool
  | .byte | .int | .long | .boolean | .char | .token => true
  | .float | .double | .text | .date => false

/-- The characters with which a wire text of the kind could go on. -/
def tail : Kind → CharSet
  | .byte | .int | .long => .digit
  | .token => .outside .blank
  | _ => .empty

/-- The text that the standard format of a kind writes for a value. -/
inductive Writes : Kind → Value → List Char → Prop
  | byte (n : Int8) : Writes .byte (.byte n) (Number.writeInteger n.toInt)
  | int (n : Int32) : Writes .int (.int n) (Number.writeInteger n.toInt)
  | long (n : Int64) : Writes .long (.long n) (Number.writeInteger n.toInt)
  | boolean (b : Bool) : Writes .boolean (.boolean b) (WireFormat.boolWord b)
  | char (c : Char) : Writes .char (.char c) [c]
  | token {s : String} : isWord s = true → Writes .token (.text s) s.toList

end Kind

/-! ## Written -/

namespace Parameter

theorem exists_writes {p : Parameter} {v : Value} (hkind : p.kind.isRestored = true)
    (hv : v.isOf p.kind = true) (hword : p.checkWord v = .ok ()) : ∃ x, p.kind.Writes v x := by
  unfold checkWord at hword
  cases hk : p.kind with
  | float | double | text | date => rw [hk] at hkind; cases hkind
  | byte | int | long | boolean | char =>
    rw [hk] at hv
    cases v <;> cases hv
    exact ⟨_, by constructor⟩
  | token =>
    rw [hk] at hv hword
    cases v <;> cases hv
    rename_i s
    by_cases hs : isWord s = true
    · exact ⟨_, .token hs⟩
    · simp [hs] at hword

/-- The standard format writes these texts. -/
theorem render_of_writes {p : Parameter} {v : Value} {x : List Char} (h : p.kind.Writes v x)
    (hformat : p.encoding = .standard p.kind) : p.render v = .ok (String.ofList x) := by
  generalize hk : p.kind = k at h hformat
  unfold render
  rw [hformat]
  cases h with
  | byte n | int n | long n =>
    by_cases hn : n.toInt < 0 <;>
      simp [Encoding.standard, Encoding.conversion, WireFormat.apply, WireFormat.applyPieces,
        WireFormat.applyPiece, WireFormat.convert?, Value.asInt?, WireFormat.number,
        WireFormat.fill, WireFormat.sign, Flags.none, Number.writeInteger, Except.map, hn]
  | boolean b | char c | token h =>
    simp [Encoding.standard, Encoding.conversion, WireFormat.apply, WireFormat.applyPieces,
      WireFormat.applyPiece, WireFormat.convert?, WireFormat.cut, WireFormat.fill, Flags.none,
      Value.display, WireFormat.boolWord, Except.map]

/-! ## Read back -/

/-- An integer that fits into a number of bits is read back from its text. -/
theorem readInt?_writeInteger {bits : Nat} {n : Int}
    (hn : (Number.Bounds.signed bits).has n = true) :
    readInt? bits (Text.trim (Number.writeInteger n)) = some n := by
  rw [Text.trim_eq_self fun _ h => Number.isBlank_of_mem_writeInteger h, readInt?,
    Number.readInteger_writeInteger (Number.Bounds.has_zero_signed bits) hn]
  rfl

end Parameter

theorem Kind.Writes.ne_nil {k : Kind} {v : Value} {x : List Char} (h : k.Writes v x) : x ≠ [] := by
  cases h with
  | byte n | int n | long n => exact Number.writeInteger_ne_nil _
  | boolean b => cases b <;> exact List.cons_ne_nil _ _
  | char c => exact List.cons_ne_nil _ _
  | token h =>
    intro hnil
    rw [String.toList_eq_nil_iff] at hnil
    subst hnil
    cases h

/-- **The text of a value is read back as that value.** -/
theorem Kind.Writes.readValue?_eq {p : Parameter} {v : Value} {x : List Char}
    (h : p.kind.Writes v x) : p.readValue? (String.ofList x) = some v := by
  have hne : String.ofList x ≠ "" := by
    intro hnil
    rw [← String.toList_eq_nil_iff, String.toList_ofList] at hnil
    exact h.ne_nil hnil
  unfold Parameter.readValue?
  rw [if_neg hne, String.toList_ofList]
  generalize p.kind = k at h
  cases h with
  | byte n =>
    have hn : (Number.Bounds.signed 8).has n.toInt = true :=
      Number.Bounds.has_iff.2 ⟨n.le_toInt, Int.le_sub_one_of_lt n.toInt_lt⟩
    simp [Parameter.readInt?_writeInteger hn]
  | int n =>
    have hn : (Number.Bounds.signed 32).has n.toInt = true :=
      Number.Bounds.has_iff.2 ⟨n.le_toInt, Int.le_sub_one_of_lt n.toInt_lt⟩
    simp [Parameter.readInt?_writeInteger hn]
  | long n =>
    have hn : (Number.Bounds.signed 64).has n.toInt = true :=
      Number.Bounds.has_iff.2 ⟨n.le_toInt, Int.le_sub_one_of_lt n.toInt_lt⟩
    simp [Parameter.readInt?_writeInteger hn]
  | boolean b =>
    have hb : Parameter.readBool? (Text.trim (WireFormat.boolWord b)) = some b := by
      revert b
      decide
    simp [hb]
  | char c => rfl
  | @token s hs =>
    simp [Text.trim_eq_self (not_isBlank_of_isWord hs), hs]

/-- What a parameter writes for a value, it reads back. -/
theorem Parameter.decode_of_encode {p : Parameter} {v : Value} {a : Argument}
    (hkind : p.kind.isRestored = true) (hformat : p.encoding = .standard p.kind)
    (h : p.encode v = .ok a) :
    a.value = v ∧ p.kind.Writes v a.wire.toList ∧ p.decode a.wire = .ok a := by
  obtain ⟨hv, hword, hchecked⟩ := encode_eq_ok h
  obtain ⟨x, hx⟩ := exists_writes hkind hv hword
  obtain ⟨hvalue, hwire⟩ := checked_eq_ok hchecked
  rw [render_of_writes hx hformat] at hwire
  obtain hwire : String.ofList x = a.wire := Except.ok.inj hwire
  refine ⟨hvalue, by rwa [← hwire, String.toList_ofList], ?_⟩
  rw [← hwire, decode, readValue, hx.readValue?_eq]
  exact hchecked

/-! ## Found in a reply -/

theorem prefers_signs_minus (rest : List Char) : signs.Prefers ['-'] rest :=
  (prefers_empty _).seq ((prefers_char rfl rest).left .empty)

theorem prefers_signs_nil {rest : List Char}
    (h : ∀ c ∈ rest.head?, (CharSet.ofList [.one '+', .one '-']).has c = false) :
    signs.Prefers [] rest :=
  (prefers_empty _).seq (.right (refuses_char h) (prefers_empty rest))

theorem not_isSign_of_isDigit {c : Char} (h : c.isDigit = true) :
    (CharSet.ofList [.one '+', .one '-']).has c = false := by
  rw [Bool.eq_false_iff]
  intro hsign
  rcases Bool.or_eq_true_iff.1 hsign with hplus | hminus
  · obtain rfl := (CharSet.has_one '+' c).1 hplus
    cases h
  · obtain rfl := (CharSet.has_one '-' c).1 hminus
    cases h

/-- **The pattern of integers takes the whole of an integer**, sign and digits, if no digit stands
behind it. -/
theorem prefers_writeInteger (n : Int) {rest : List Char}
    (hrest : ∀ c ∈ rest.head?, Text.isDecimalDigit c = false) :
    (seqs [signs, digits]).Prefers (Number.writeInteger n) rest := by
  obtain ⟨c, more, htext, hc⟩ := Number.exists_text n.natAbs
  have hdigits : digits.Prefers (Number.Digits.text n.natAbs) rest :=
    prefers_run (s := .digit)
      (fun d hd => Text.isDecimalDigit_of_isDigit (Number.isDigit_of_mem_text hd)) hrest
      (by rw [htext]; exact List.cons_ne_nil _ _)
  unfold Number.writeInteger
  split
  · exact (prefers_signs_minus _).seq hdigits
  · have hsigns : signs.Prefers [] (Number.Digits.text n.natAbs ++ rest) := by
      refine prefers_signs_nil fun d hd => ?_
      rw [htext] at hd
      cases hd
      exact not_isSign_of_isDigit hc
    exact hsigns.seq hdigits

/-- A word stands for itself in any case of its letters. -/
theorem prefers_anyCase {cs : List Char}
    (h : cs.all (fun c => (CharSet.folded (.one c)).has c) = true) (rest : List Char) :
    (anyCase cs).Prefers cs rest := by
  induction cs with
  | nil => exact prefers_empty rest
  | cons c cs ih =>
    rw [List.all_cons, Bool.and_eq_true] at h
    intro p r goal hp hgoal
    rw [anyCase, List.map_cons, matcher_seqs_cons]
    rw [Place.past_cons] at hgoal
    exact prefers_char h.1 (cs ++ rest) hp (ih h.2 (Place.past_rest (x := [c]) hp) hgoal)

theorem prefers_boolWord (b : Bool) (rest : List Char) :
    Kind.boolean.fragment.Prefers (WireFormat.boolWord b) rest := by
  cases b with
  | true => exact (prefers_anyCase (by decide) rest).left _
  | false =>
    refine .right ?_ (prefers_anyCase (by decide) rest)
    refine (refuses_char fun c hc => ?_).seq _
    cases hc
    decide

/-- **The pattern of a kind takes the text of a value**, and not less or more of what is there. -/
theorem Kind.Writes.prefers {k : Kind} {v : Value} {x rest : List Char} (h : k.Writes v x)
    (hchar : ∀ c, v = .char c → Text.isBlank c = false)
    (hrest : ∀ c ∈ rest.head?, k.tail.has c = false) : k.fragment.Prefers x rest := by
  cases h with
  | byte n | int n | long n => exact prefers_writeInteger _ hrest
  | boolean b => exact prefers_boolWord b rest
  | char c =>
    refine prefers_char ?_ rest
    simp [CharSet.has, hchar c rfl]
  | token h =>
    refine prefers_run (fun c hc => ?_) hrest (Writes.token h).ne_nil
    simp [CharSet.has, not_isBlank_of_isWord h c hc]

end Instrument
