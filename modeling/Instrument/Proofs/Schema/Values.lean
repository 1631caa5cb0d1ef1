/-
# Values under every spelling

The laws of the fields: each value of a schema is read back from any form of what is written of it.
Numerals are read up to the number, past zeros that leave it at zero; tags and parities are compared
in lower case, so it is enough that every word for one is in lower case and stands for it as it is;
tables are read entry by entry.  The laws say nothing about the record that a field is in: names and
the order of members are settled in `openRecord_bind`.
-/
import Instrument.Proofs.Number.Digits
import Instrument.Proofs.Schema.Opening
import Instrument.Schema.Reader
import Instrument.Schema.Writer
import Mathlib.Algebra.Group.Nat.Defs

namespace Instrument

open Number Shape Spelling

/-! ## Numerals -/

namespace Spelling

theorem Padded.trim_eq {cs : List Char} {s : String} (h : Padded cs s) :
    Text.trim s.toList = Text.trim cs := by
  obtain ⟨before, after, hbefore, hafter, hs⟩ := h
  rw [hs, Text.trim_between hbefore hafter]

variable {n : Nat} {cs : List Char} {s : String}

theorem exists_zeros (zeros n : Nat) :
    ∃ c rest, List.replicate zeros '0' ++ Digits.text n = c :: rest ∧ c.isDigit = true := by
  have hne : List.replicate zeros '0' ++ Digits.text n ≠ [] := by
    simp [Digits.text, Nat.toDigits_ne_nil]
  obtain ⟨c, rest, hcs⟩ := List.exists_cons_of_ne_nil hne
  exact ⟨c, rest, hcs, isDigit_of_mem_zeros (hcs ▸ List.mem_cons_self)⟩

theorem NumeralOf.trim_eq (h : NumeralOf n cs) : Text.trim cs = cs := by
  refine Text.trim_eq_self fun c hc => ?_
  cases h with
  | plain zeros => exact Text.isBlank_of_isDigit (isDigit_of_mem_zeros hc)
  | signed zeros =>
    rcases List.mem_cons.1 hc with rfl | hc
    · rfl
    · exact Text.isBlank_of_isDigit (isDigit_of_mem_zeros hc)

theorem NumeralOf.ne_nil (h : NumeralOf n cs) : cs ≠ [] := by
  cases h with
  | plain zeros =>
    obtain ⟨c, rest, hcs, -⟩ := exists_zeros zeros n
    exact hcs ▸ List.cons_ne_nil c rest
  | signed zeros => exact List.cons_ne_nil _ _

end Spelling

/-- Every numeral of a number within bounds is read as that number. -/
theorem Number.readInteger_numeral {b : Bounds} (hzero : b.has 0 = true) {n : Nat}
    (hn : b.has n = true) {cs : List Char} (h : NumeralOf n cs) : readInteger b cs = .ok n := by
  have hread : ∀ zeros, readDigits b false 0 (List.replicate zeros '0' ++ Digits.text n) = .ok n :=
    fun zeros => readDigits_zeros_text false hzero zeros hn
  cases h with
  | plain zeros =>
    obtain ⟨c, rest, hcs, hc⟩ := exists_zeros zeros n
    rw [hcs, readInteger_of_isDigit b hc, ← hcs, hread]
  | signed zeros =>
    obtain ⟨c, rest, hcs, -⟩ := exists_zeros zeros n
    rw [hcs, readInteger, ← hcs, hread]
    intro hempty
    cases hempty

/-! ## Words -/

namespace Spelling

variable {w : Width} {n : Nat} {v : Json}

/-- What is given for a number is that number or one of its numerals. -/
theorem NumberForm.cases_integer (h : NumberForm (.integer n) v) :
    v = .integer n ∨ ∃ cs s, NumeralOf n cs ∧ Padded cs s ∧ v = .text s := by
  generalize hj : Json.integer (n : Int) = j at h
  cases h with
  | same v => exact .inl rfl
  | numeral hcs hs =>
    obtain rfl : n = _ := Int.ofNat.inj (Json.integer.inj hj)
    exact .inr ⟨_, _, hcs, hs, rfl⟩

theorem has_unsigned (h : n < 2 ^ w.bits) : (Bounds.unsigned w.bits).has n = true := by
  have hpow : Nat.pow 2 w.bits = 2 ^ w.bits := rfl
  simp only [Bounds.has_iff, Bounds.unsigned, hpow]
  omega

theorem numeral_eq {cs : List Char} {s : String} (hn : n < 2 ^ w.bits) (hcs : NumeralOf n cs)
    (hs : Padded cs s) : numeral w s = .ok n := by
  have hzero : (Bounds.unsigned w.bits).has 0 = true := has_unsigned (n := 0) (Nat.two_pow_pos _)
  rw [numeral, hs.trim_eq, hcs.trim_eq, readInteger_numeral hzero (has_unsigned hn) hcs]
  rfl

theorem word_eq (hn : n < 2 ^ w.bits) : word w (.integer n) = .ok n := by
  rw [word, if_pos (has_unsigned hn)]
  rfl

/-- A number that fits is read from any form of it. -/
theorem lenientWord_eq (hn : n < 2 ^ w.bits) (h : NumberForm (.integer n) v) :
    lenientWord w v = .ok n := by
  rcases h.cases_integer with rfl | ⟨cs, s, hcs, hs, rfl⟩
  · exact word_eq hn
  · exact numeral_eq hn hcs hs

theorem lenientOption_eq (hn : n < 2 ^ w.bits) (h : NumberForm (.integer n) v) :
    lenientOption w v = .ok (some n) := by
  rcases h.cases_integer with rfl | ⟨cs, s, hcs, hs, rfl⟩
  · rw [lenientOption, word_eq hn]
    · rfl
    · exact nofun
    · exact nofun
  · rw [lenientOption, hs.trim_eq, hcs.trim_eq, numeral_eq hn hcs hs, if_neg]
    · rfl
    · simpa using hcs.ne_nil

end Spelling

/-! ## Tags and parities -/

namespace Spelling

/-- Is a letter found again in lower case from either case? -/
def isLower (c : Char) : Bool := c.toLower = c && c.toUpper.toLower = c

/-- Is a letter no blank in either case? -/
def isSolid (c : Char) : Bool := !Text.isBlank c && !Text.isBlank c.toUpper

theorem Recased.refl (word : String) : Recased word word.toList :=
  List.forall₂_same.2 fun _ _ => .inl rfl

theorem map_toLower_eq {ws cs : List Char}
    (h : List.Forall₂ (fun c d => d = c ∨ d = c.toUpper) ws cs)
    (hws : ws.all isLower = true) : cs.map Char.toLower = ws := by
  induction h with
  | nil => rfl
  | @cons c d ws ds hd _ ih =>
    simp only [List.all_cons, isLower, Bool.and_eq_true, decide_eq_true_eq] at hws
    obtain ⟨⟨hlower, hupper⟩, hrest⟩ := hws
    rw [List.map_cons, ih hrest]
    rcases hd with rfl | rfl
    · rw [hlower]
    · rw [hupper]

theorem Recased.lowerAscii_eq {word : String} {cs : List Char} (h : Recased word cs)
    (hword : word.toList.all isLower = true) : String.ofList (Text.lowerAscii cs) = word := by
  rw [Text.lowerAscii, map_toLower_eq h hword, String.ofList_toList]

theorem Recased.trim_eq {word : String} {cs : List Char} (h : Recased word cs)
    (hword : word.toList.all isSolid = true) : Text.trim cs = cs := by
  refine Text.trim_eq_self fun d hd => ?_
  obtain ⟨c, hc, hcase⟩ := exists_left_of_forall₂ h hd
  have hsolid := List.all_eq_true.1 hword c hc
  simp only [isSolid, Bool.and_eq_true, Bool.not_eq_true'] at hsolid
  rcases hcase with rfl | rfl
  · exact hsolid.1
  · exact hsolid.2

/-- Every tag of a type stands for it in any case of its letters. -/
theorem ofTag?_eq {type : ConnectionType} {word s : String} (hword : word ∈ type.tags)
    (hs : Recased word s.toList) : ConnectionType.ofTag? s = some type := by
  have htags : ∀ word ∈ type.tags,
      word.toList.all isLower = true ∧ ConnectionType.ofTag? word = some type := by
    cases type <;> decide
  obtain ⟨hlower, htag⟩ := htags word hword
  have hsame : ConnectionType.ofTag? s = ConnectionType.ofTag? word := by
    rw [ConnectionType.ofTag?, hs.lowerAscii_eq hlower, ConnectionType.ofTag?,
      (Recased.refl word).lowerAscii_eq hlower]
  rw [hsame, htag]

/-- Every word for a parity stands for it in any case of its letters, with blanks around it. -/
theorem ofText?_eq {p : Parity} {word s : String} {cs : List Char} (hword : word ∈ p.words)
    (hcs : Recased word cs) (hs : Padded cs s) : Parity.ofText? s = some p := by
  have hwords : ∀ word ∈ p.words, word.toList.all isLower = true ∧
      word.toList.all isSolid = true ∧ Parity.ofText? word = some p := by
    cases p <;> decide
  obtain ⟨hlower, hsolid, hparity⟩ := hwords word hword
  have hkey : parityKey s = word := by
    rw [parityKey, hs.trim_eq, hcs.trim_eq hsolid, hcs.lowerAscii_eq hlower]
  have hself : parityKey word = word := by
    rw [parityKey, (Recased.refl word).trim_eq hsolid, (Recased.refl word).lowerAscii_eq hlower]
  have hsame : Parity.ofText? s = Parity.ofText? word := by
    rw [Parity.ofText?, hkey, Parity.ofText?, hself]
  rw [hsame, hparity]

theorem TagForm.exists_tag {type : ConnectionType} {v : Json} (h : TagForm (.text type.name) v) :
    ∃ tag, v = .text tag ∧ ConnectionType.ofTag? tag = some type := by
  generalize hj : Json.text type.name = j at h
  cases h with
  | @tag given word s hword hs =>
    have hname : type.name = given.name := Json.text.inj hj
    have hsame : some given = some type := by
      rw [← ConnectionType.ofTag?_name given, ← hname, ConnectionType.ofTag?_name]
    exact ⟨s, rfl, (ofTag?_eq hword hs).trans hsame⟩

theorem eq_of_name {p q : Parity} (h : p.name = q.name) : p = q := by
  revert h
  cases p <;> cases q <;> decide

theorem readParity_eq {p : Parity} {v : Json} (h : ParityForm (.text p.name) v) :
    Fields.readParity v = .ok p := by
  generalize hj : Json.text p.name = j at h
  cases h with
  | word hword hcs hs =>
    obtain rfl := eq_of_name (Json.text.inj hj)
    rw [Fields.readParity, Fields.readParityText, ofText?_eq hword hcs hs]
  | code q =>
    obtain rfl := eq_of_name (Json.text.inj hj)
    have hcode : Parity.ofText? (Json.integer p.code).compact = some p := by
      cases p <;> decide
    rw [Fields.readParity, Fields.readParityText, hcode]

end Spelling

/-! ## Fields -/

namespace Shape

open Fields

section

variable {α : Type} {R : Form} {form : String → Form} {n : String} {older : Option String}

/-- A form under which a text is given as it is. -/
def KeepsText (R : Form) : Prop := ∀ s v, R (.text s) v → v = .text s

theorem keepsText_eq : KeepsText Eq := fun _ _ h => h.symm

theorem keepsText_number : KeepsText NumberForm := by
  rintro s v ⟨⟩
  rfl

theorem textField_gives (hR : KeepsText (form n)) (s : String) {default : Option String} :
    (⟨n, older, text⟩ : Shape.Field String).Gives form (some (.text s)) default s :=
  gives_some fun v hv => by
    rw [hR s v hv]
    rfl

/-- What may be null is read as what is written, which is not null. -/
theorem nullable_gives {read : Reader α} {write : α → Json}
    (hread : ∀ a v, form n (write a) v → read v = .ok a) (hnull : ∀ a, read .null ≠ .ok a)
    (value : Option α) :
    (⟨n, older, nullable read⟩ : Shape.Field (Option α)).Gives form (value.map write) (some none)
      value where
  read := by
    intro w v hw hv
    obtain ⟨a, rfl, rfl⟩ := Option.map_eq_some_iff.1 hw
    have ha := hread a v hv
    have hv : v ≠ .null := by
      rintro rfl
      exact hnull a ha
    show nullable read v = .ok (some a)
    rw [nullable, ha]
    · rfl
    · exact hv
  default := by
    intro hnone
    rw [Option.map_eq_none_iff.1 hnone]

theorem optionField_gives (hR : KeepsText (form n)) (s : Option String) :
    (optionField n older).Gives form (optionText s) (some none) s :=
  nullable_gives (fun a v hv => by rw [hR a v hv]; rfl) nofun s

theorem word_gives {w : Width} {ofNat : Nat → α} {k : Nat} {a : α} {default : Option α}
    (hform : form n = NumberForm) (hk : k < 2 ^ w.bits) (ha : ofNat k = a) :
    (⟨n, older, fun v => (lenientWord w v).map ofNat⟩ : Shape.Field α).Gives form
      (some (.integer k)) default a :=
  gives_some fun v hv => by
    replace hv : NumberForm (.integer k) v := hform ▸ hv
    exact map_eq_ok_iff.2 ⟨k, lenientWord_eq hk hv, ha⟩

theorem optionSize_gives (hform : form n = NumberForm) (size : Option UInt64) :
    (optionSize n).Gives form (optionWord size) (some none) size where
  read := by
    intro w v hw hv
    obtain ⟨k, rfl, rfl⟩ := Option.map_eq_some_iff.1 hw
    replace hv : NumberForm (.integer k.toNat) v := hform ▸ hv
    have hk : k.toNat < 2 ^ Width.size.bits := k.toNat_lt
    refine map_eq_ok_iff.2 ⟨_, lenientOption_eq hk hv, ?_⟩
    rw [Option.map_some, UInt64.ofNat_toNat]
  default := by
    intro hnone
    rw [Option.map_eq_none_iff.1 hnone]

end

/-! ## Tables -/

variable {β : Type} {R : Form} {read : Reader β} {write : β → Json}

theorem members_eq (hread : ∀ b v, R (write b) v → read v = .ok b) {l : List (String × β)}
    {given : List (String × Json)}
    (h : List.Forall₂ (fun w m => m.1 = w.1 ∧ R w.2 m.2) (l.map fun (n, b) => (n, write b)) given) :
    members read given = .ok l := by
  induction l generalizing given with
  | nil =>
    cases h
    rfl
  | cons first rest ih =>
    obtain ⟨n, b⟩ := first
    cases h with
    | cons hfirst hrest =>
      rename_i m ms
      obtain ⟨n', v⟩ := m
      obtain ⟨rfl, hR⟩ := hfirst
      rw [members, hread b v hR, ih hrest]
      rfl

/-- A table is read entry by entry. -/
theorem table_eq (hread : ∀ b v, R (write b) v → read v = .ok b) {l : List (String × β)} {v : Json}
    (h : TableForm R (.object (l.map fun (n, b) => (n, write b))) v) : table read v = .ok l := by
  cases h with
  | table h => exact members_eq hread h

end Shape

end Instrument
