/-
# Values and templates that suit each other

Whether a template suits a kind is checked once, conversion by conversion, and whether a value can
be formatted shows when it is.  The two agree: under a template that suits the kind every value of
the kind has a text, and under any other one no value has (`WireFormat.apply_of_unsuited?`), and the
first conversion that does not suit the kind is the one that the value fails at.

So what a parameter admits it can also write (`Parameter.exists_encode_iff`), and a value is refused
for its type just if it is of another one.
-/
import Instrument.Proofs.Parameter.Admission
import Instrument.Proofs.Profile.ParameterEntries

namespace Instrument

/-- Every kind has a value. -/
theorem Kind.exists_isOf (k : Kind) : ∃ v : Value, v.isOf k = true := by
  cases k with
  | byte => exact ⟨.byte 0, rfl⟩
  | int => exact ⟨.int 0, rfl⟩
  | long => exact ⟨.long 0, rfl⟩
  | float => exact ⟨.float default, rfl⟩
  | double => exact ⟨.double default, rfl⟩
  | boolean => exact ⟨.boolean true, rfl⟩
  | char => exact ⟨.char 'a', rfl⟩
  | text | token => exact ⟨.text "a", rfl⟩
  | date => exact ⟨.date ⟨⟨2024, 1, 1, by decide⟩, ⟨0, 0, 0, 0⟩, 0⟩, rfl⟩

/-! ## Values of a kind under a template -/

namespace WireFormat

variable {v : Value} {k : Kind}

/-- A conversion has a text for every value of the kinds that it suits. -/
theorem exists_convert? {c : Conversion} (s : Spec) (hc : c.suits k = true) (hv : v.isOf k = true) :
    ∃ cs, convert? s c v = some cs := by
  cases c with
  | decimal | hexadecimal upper | octal =>
    cases k <;> cases hc <;> cases v <;> cases hv <;> exact ⟨_, rfl⟩
  | fixed | scientific upper | general upper =>
    cases k <;> cases hc <;> cases v <;> cases hv <;> exact ⟨_, rfl⟩
  | char | boolean upper =>
    obtain rfl := of_decide_eq_true hc
    cases v <;> cases hv
    exact ⟨_, rfl⟩
  | text upper => exact ⟨_, rfl⟩

/-- A conversion has no text for a value of a kind that it does not suit. -/
theorem convert?_eq_none {c : Conversion} (s : Spec) (hc : c.suits k = false)
    (hv : v.isOf k = true) : convert? s c v = none := by
  cases c with
  | decimal | hexadecimal upper | octal =>
    cases k <;> cases hc <;> cases v <;> cases hv <;> rfl
  | fixed | scientific upper | general upper =>
    cases k <;> cases hc <;> cases v <;> cases hv <;> rfl
  | char | boolean upper =>
    cases k <;> cases hc <;> cases v <;> cases hv <;> rfl
  | text upper => cases hc

theorem exists_applyPieces {pieces : List Piece}
    (hsuits : ∀ s c, .conversion s c ∈ pieces → c.suits k = true) (hv : v.isOf k = true) :
    ∃ cs, applyPieces v pieces = .ok cs := by
  induction pieces with
  | nil => exact ⟨[], rfl⟩
  | cons piece pieces ih =>
    obtain ⟨cs, hcs⟩ := ih fun s c hc => hsuits s c (List.mem_cons_of_mem _ hc)
    cases piece with
    | text ds => exact ⟨ds ++ cs, by simp [applyPieces, applyPiece, hcs, Except.map]⟩
    | conversion s c =>
      obtain ⟨ds, hds⟩ := exists_convert? s (hsuits s c List.mem_cons_self) hv
      exact ⟨ds ++ cs, by simp [applyPieces, applyPiece, hds, hcs, Except.map]⟩

theorem applyPieces_of_unsuited? {source : String} {pieces : List Piece} {c : Conversion}
    (h : unsuited? ⟨source, pieces⟩ k = some c) (hv : v.isOf k = true) :
    applyPieces v pieces = .error (.incompatible c.letter v.typeName) := by
  unfold unsuited? at h
  induction pieces with
  | nil => cases h
  | cons piece pieces ih =>
    rw [List.findSome?_cons] at h
    cases piece with
    | text ds =>
      rw [applyPieces, ih h]
      rfl
    | conversion s d =>
      by_cases hd : d.suits k = true
      · simp only [hd, if_true] at h
        obtain ⟨ds, hds⟩ := exists_convert? s hd hv
        rw [applyPieces, applyPiece, hds]
        dsimp only
        rw [ih h]
        rfl
      · simp only [hd] at h
        obtain rfl : d = c := Option.some.inj h
        rw [applyPieces, applyPiece, convert?_eq_none s (Bool.eq_false_iff.2 hd) hv]

/-- **The first conversion that does not suit a kind fails for every value of the kind.** -/
theorem apply_of_unsuited? {f : WireFormat} {c : Conversion} (h : f.unsuited? k = some c)
    (hv : v.isOf k = true) : f.apply v = .error (.incompatible c.letter v.typeName) := by
  rw [apply, applyPieces_of_unsuited? h hv]
  rfl

/-- **A template that suits a kind has a text for every value of the kind.** -/
theorem exists_apply {f : WireFormat} (h : f.unsuited? k = none) (hv : v.isOf k = true) :
    ∃ s, f.apply v = .ok s := by
  obtain ⟨cs, hcs⟩ := exists_applyPieces (unsuited?_eq_none_iff.1 h) hv
  exact ⟨String.ofList cs, by rw [apply, hcs]; rfl⟩

theorem checkKind_eq_ok_iff {f : WireFormat} : f.checkKind k = .ok () ↔ f.unsuited? k = none := by
  unfold checkKind
  cases f.unsuited? k <;> simp

theorem checkKind_eq_error_iff {f : WireFormat} {e : WireFormatFault} : f.checkKind k = .error e ↔
    ∃ c, f.unsuited? k = some c ∧ e = .incompatible c.letter k.name := by
  unfold checkKind
  cases f.unsuited? k <;> simp [eq_comm]

end WireFormat

namespace Parameter

variable {p : Parameter} {v : Value}

/-- **A value of the parameter's type can be written.** -/
theorem exists_render (hv : v.isOf p.kind = true) : ∃ wire, p.render v = .ok wire := by
  have hsuits := p.encoding_suits
  unfold render
  cases he : p.encoding with
  | date f =>
    rw [he] at hsuits
    rw [of_decide_eq_true hsuits] at hv
    cases v <;> cases hv
    exact ⟨_, rfl⟩
  | wire f =>
    rw [he, Encoding.suits, Bool.and_eq_true, Option.isNone_iff_eq_none] at hsuits
    obtain ⟨text, htext⟩ := WireFormat.exists_apply hsuits.2 hv
    exact ⟨text, by simp [htext]⟩

/-- **The values that are encoded are those that the parameter admits.** -/
theorem exists_encode_iff : (∃ a, p.encode v = .ok a) ↔ p.Admits v := by
  constructor
  · rintro ⟨a, h⟩
    obtain ⟨rfl, -⟩ := checked_eq_ok (encode_eq_ok h).2.2
    exact (fits_of_encode h).toAdmits
  · rintro ⟨hv, hrange, hword⟩
    obtain ⟨wire, hwire⟩ := exists_render hv
    have hcheck : p.checkWord v = .ok () := by
      unfold checkWord
      split
      · rename_i s hk
        obtain ⟨t, ht, hne, hblank⟩ := hword hk
        cases ht
        exact if_pos (by simpa [isWord, hne] using hblank)
      · rfl
    have hchecked : p.checked v = .ok ⟨v, wire⟩ :=
      bind_eq_ok_iff.2 ⟨(), hrange, bind_eq_ok_iff.2 ⟨wire, hwire, rfl⟩⟩
    refine ⟨⟨v, wire⟩, ?_⟩
    rw [encode, if_pos hv]
    exact bind_eq_ok_iff.2 ⟨(), hcheck, hchecked⟩

/-- A value is refused for its type if it is of another one, and for that reason only. -/
theorem encode_eq_typeMismatch_iff {name actual : String} {expected : Kind} :
    p.encode v = .error (.typeMismatch name expected actual) ↔
      v.isOf p.kind = false ∧ name = p.name ∧ expected = p.kind ∧ actual = v.typeName := by
  constructor
  · intro h
    unfold encode at h
    split at h
    · rename_i hv
      rcases bind_eq_error_iff.1 h with hword | ⟨u, -, hchecked⟩
      · unfold checkWord at hword
        split at hword
        · split at hword <;> cases hword
        · cases hword
      · obtain ⟨wire, hwire⟩ := exists_render hv
        rcases bind_eq_error_iff.1 hchecked with hrange | ⟨u, -, hrender⟩
        · unfold checkRange at hrange
          split at hrange
          · cases hrange
          · split at hrange <;> cases hrange
        · rw [hwire] at hrender
          cases hrender
    · rename_i hv
      cases h
      exact ⟨Bool.eq_false_iff.2 hv, rfl, rfl, rfl⟩
  · rintro ⟨hv, rfl, rfl, rfl⟩
    rw [encode, if_neg (Bool.eq_false_iff.1 hv)]
    rfl

end Parameter

/-- **What is checked of a template is what it can format.**  The check of a kind succeeds just if
every value of the kind has a text, and otherwise every value of the kind fails, for the letter that
the check reports.  So a parameter refuses a value for its type just if it is of another type. -/
theorem format_checked :
    (∀ (f : WireFormat) (k : Kind),
      (f.checkKind k = .ok () ↔ ∀ v : Value, v.isOf k = true → ∃ s, f.apply v = .ok s) ∧
      ∀ e, f.checkKind k = .error e ↔ ∃ c, e = .incompatible c k.name ∧
        ∀ v : Value, v.isOf k = true → f.apply v = .error (.incompatible c v.typeName)) ∧
    ∀ (p : Parameter) (v : Value) (name : String) (expected : Kind) (actual : String),
      p.encode v = .error (.typeMismatch name expected actual) ↔
        v.isOf p.kind = false ∧ name = p.name ∧ expected = p.kind ∧ actual = v.typeName := by
  refine ⟨fun f k => ⟨?_, fun e => ?_⟩, fun p v name expected actual =>
    Parameter.encode_eq_typeMismatch_iff⟩
  · rw [WireFormat.checkKind_eq_ok_iff]
    constructor
    · exact fun h v hv => WireFormat.exists_apply h hv
    · intro h
      obtain ⟨v, hv⟩ := k.exists_isOf
      obtain ⟨text, htext⟩ := h v hv
      refine Option.eq_none_iff_forall_ne_some.2 ?_
      intro c hc
      rw [WireFormat.apply_of_unsuited? hc hv] at htext
      cases htext
  · rw [WireFormat.checkKind_eq_error_iff]
    constructor
    · rintro ⟨c, hc, rfl⟩
      exact ⟨c.letter, rfl, fun v hv => WireFormat.apply_of_unsuited? hc hv⟩
    · rintro ⟨letter, rfl, h⟩
      obtain ⟨v, hv⟩ := k.exists_isOf
      cases hc : f.unsuited? k with
      | none =>
        obtain ⟨text, htext⟩ := WireFormat.exists_apply hc hv
        rw [h v hv] at htext
        cases htext
      | some c =>
        have hfault := h v hv
        rw [WireFormat.apply_of_unsuited? hc hv] at hfault
        cases hfault
        exact ⟨c, rfl, rfl⟩

end Instrument
