/-
# What a parameter admits

A value gets to the wire as it is (`Parameter.encode`) or out of a text (`Parameter.decode`), and
the two functions check what they are given in different places.  That makes no difference:

* to decode a text is to read it and to encode what was read, and the first fault is the same
  (`decode_eq_bind_encode`), since a value that was read is of the parameter's type and, if it is a
  token, a word;
* so what is proved of encoding holds of both: an argument that comes out fits the parameter
  (`Parameter.Fits`), and a fault is one of its type, its spelling or its range
  (`Parameter.Rejects`).
-/
import Instrument.Parameter.Wire
import Instrument.Proofs.Outcome

namespace Instrument

theorem not_isBlank_of_isWord {s : String} (h : isWord s = true) :
    ∀ c ∈ s.toList, Text.isBlank c = false := by
  simp only [isWord, Bool.and_eq_true, List.all_eq_true, Bool.not_eq_true'] at h
  exact h.2

theorem ne_empty_of_isWord {s : String} (h : isWord s = true) : s ≠ "" := by
  rintro rfl
  cases h

namespace Parameter

/-- The values of a parameter: of its type, in its range and, if it is a token, one word. -/
structure Admits (p : Parameter) (v : Value) : Prop where
  isOf : v.isOf p.kind = true
  range : p.checkRange v = .ok ()
  word : p.kind = .token →
    ∃ s, v = .text s ∧ s ≠ "" ∧ ∀ c ∈ s.toList, Text.isBlank c = false

/-- The arguments of a parameter: a value that it admits, with the text that it renders for it. -/
structure Fits (p : Parameter) (a : Argument) : Prop extends p.Admits a.value where
  wire : p.render a.value = .ok a.wire

/-- The faults of what is given for a parameter: another type, no spelling of a value, or a value
out of range. -/
inductive Rejects (p : Parameter) : ParameterFault → Prop
  | typeMismatch (actual : String) : p.Rejects (.typeMismatch p.name p.kind actual)
  | parse (input : String) : p.Rejects (.parse p.name input p.kind)
  | outOfRange {r : RangeClause} (value : String) :
      p.range = some r → p.Rejects (.outOfRange p.name value r.text)

variable {p : Parameter} {v : Value} {a : Argument} {e : ParameterFault}

/-! ## Encoding -/

theorem checked_eq_ok (h : p.checked v = .ok a) : a.value = v ∧ p.render v = .ok a.wire := by
  obtain ⟨-, -, h⟩ := bind_eq_ok_iff.1 h
  obtain ⟨wire, hwire, h⟩ := bind_eq_ok_iff.1 h
  cases h
  exact ⟨rfl, hwire⟩

theorem encode_eq_ok (h : p.encode v = .ok a) :
    v.isOf p.kind = true ∧ p.checkWord v = .ok () ∧ p.checked v = .ok a := by
  unfold encode at h
  split at h
  · rename_i hv
    obtain ⟨u, hword, h⟩ := bind_eq_ok_iff.1 h
    exact ⟨hv, hword, h⟩
  · cases h

theorem word_of_checkWord (hv : v.isOf p.kind = true) (h : p.checkWord v = .ok ())
    (hk : p.kind = .token) :
    ∃ s, v = .text s ∧ s ≠ "" ∧ ∀ c ∈ s.toList, Text.isBlank c = false := by
  unfold checkWord at h
  rw [hk] at hv h
  cases v <;> cases hv
  rename_i s
  by_cases hs : isWord s = true
  · exact ⟨s, rfl, ne_empty_of_isWord hs, not_isBlank_of_isWord hs⟩
  · simp [hs] at h

/-- **What is encoded fits.** -/
theorem fits_of_encode (h : p.encode v = .ok a) : p.Fits a := by
  obtain ⟨hv, hword, hchecked⟩ := encode_eq_ok h
  obtain ⟨rfl, hwire⟩ := checked_eq_ok hchecked
  obtain ⟨u, hrange, -⟩ := bind_eq_ok_iff.1 hchecked
  exact ⟨⟨hv, hrange, word_of_checkWord hv hword⟩, hwire⟩

theorem rejects_of_checkWord (h : p.checkWord v = .error e) : p.Rejects e := by
  unfold checkWord at h
  split at h
  · split at h
    · cases h
    · cases h
      exact .parse _
  · cases h

theorem rejects_of_checkRange (h : p.checkRange v = .error e) : p.Rejects e := by
  unfold checkRange at h
  split at h
  · cases h
  · rename_i r hr
    split at h
    · cases h
    · cases h
      exact .outOfRange _ hr

theorem rejects_of_render (h : p.render v = .error e) : p.Rejects e := by
  unfold render at h
  split at h
  · cases h
  · split at h
    · cases h
    · cases h
      exact .typeMismatch _
  · cases h
    exact .typeMismatch _

theorem rejects_of_checked (h : p.checked v = .error e) : p.Rejects e := by
  rcases bind_eq_error_iff.1 h with hrange | ⟨u, -, h⟩
  · exact rejects_of_checkRange hrange
  · rcases bind_eq_error_iff.1 h with hrender | ⟨wire, -, h⟩
    · exact rejects_of_render hrender
    · cases h

/-- **What is not encoded is rejected** for its type, its spelling or its range. -/
theorem rejects_of_encode (h : p.encode v = .error e) : p.Rejects e := by
  unfold encode at h
  split at h
  · rcases bind_eq_error_iff.1 h with hword | ⟨u, -, h⟩
    · exact rejects_of_checkWord hword
    · exact rejects_of_checked h
  · cases h
    exact .typeMismatch _

/-! ## Decoding -/

/-- A value that was read is of the type of the parameter. -/
theorem isOf_of_readValue? {input : String} (h : p.readValue? input = some v) :
    v.isOf p.kind = true := by
  unfold readValue? at h
  split at h
  · cases h
  · cases hk : p.kind <;> simp only [hk] at h
    case byte | int | long | float | double | boolean =>
      obtain ⟨x, -, rfl⟩ := Option.map_eq_some_iff.1 h
      rfl
    case char =>
      split at h
      · cases h
        rfl
      · cases h
    case text =>
      cases h
      rfl
    case token =>
      split at h
      · cases h
        rfl
      · cases h
    case date =>
      split at h
      · obtain ⟨x, -, rfl⟩ := Option.map_eq_some_iff.1 h
        rfl
      · cases h

/-- A token that was read is one word. -/
theorem checkWord_of_readValue? {input : String} (h : p.readValue? input = some v) :
    p.checkWord v = .ok () := by
  unfold checkWord
  split
  · rename_i s hk
    unfold readValue? at h
    simp only [hk] at h
    split at h
    · cases h
    · split at h
      · rename_i hword
        cases h
        exact if_pos hword
      · cases h
  · rfl

/-- **To decode is to read and to encode.** -/
theorem decode_eq_bind_encode (p : Parameter) (input : String) :
    p.decode input = p.readValue input >>= p.encode := by
  unfold decode readValue
  cases h : p.readValue? input with
  | none => rfl
  | some v =>
    have hencode : p.encode v = p.checked v := by
      rw [encode, if_pos (isOf_of_readValue? h), checkWord_of_readValue? h]
      rfl
    exact hencode.symm

theorem decode_of_readValue {input : String} (h : p.readValue input = .ok v) :
    p.decode input = p.encode v := by
  rw [decode_eq_bind_encode, h]
  rfl

/-- **What is decoded fits.** -/
theorem fits_of_decode {input : String} (h : p.decode input = .ok a) : p.Fits a := by
  rw [decode_eq_bind_encode] at h
  obtain ⟨v, -, h⟩ := bind_eq_ok_iff.1 h
  exact fits_of_encode h

/-- **What is not decoded is rejected** for its spelling or its range. -/
theorem rejects_of_decode {input : String} (h : p.decode input = .error e) : p.Rejects e := by
  rw [decode_eq_bind_encode] at h
  rcases bind_eq_error_iff.1 h with hread | ⟨v, -, h⟩
  · unfold readValue at hread
    split at hread
    · cases hread
    · cases hread
      exact .parse input
  · exact rejects_of_encode h

end Parameter

end Instrument
