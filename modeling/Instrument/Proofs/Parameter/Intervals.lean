/-
# Integers in an interval

The bounds of an interval are written in decimal and kept as `binary64` numbers, and an integer becomes
one before it is compared with them.  Integers of more than 53 binary digits are rounded on the way, so
what is decided is whether the rounded integer lies between the rounded bounds (`encode_iff_within`).
For a `byte` or an `int` that is the question itself, since rounding takes no bound past a number that
is short enough to be kept.  A `long` that is just outside may be rounded to the bound, and is let in
(`long_beyond_bound`).

That it is let in is all there is to it: what a parameter admits it can also write, for the format
suits the kind (`Parameter.exists_encode_iff`).
-/
import Instrument.Proofs.Number.Rounding
import Instrument.Proofs.Parameter.Encoding
import Instrument.Proofs.Parameter.Reading

namespace Instrument

open Number

namespace Parameter

variable {p : Parameter} {v : Value}

/-- The range of a parameter is what its text is read as. -/
theorem read_range {key : String} {e : ParameterEntry} {text : String} (h : ofEntry key e = .ok p)
    (hrange : e.range = some text) (hsolid : Text.IsSolid text.toList) :
    ∃ r, p.range = some r ∧ r.text = text ∧ Range.read text = .ok r.range := by
  obtain ⟨-, kind, -, q, hq, hp⟩ := ofEntry_eq_ok_iff.1 h
  rw [rangeText?_eq_some_iff.2 ⟨hrange, hsolid⟩] at hq
  obtain ⟨r, hr, htext, hread, rfl⟩ := withRange_eq_ok hq
  refine ⟨r, ?_, htext, hread⟩
  unfold withOption at hp
  split at hp
  · obtain ⟨f, hf, rfl⟩ := withFormat_eq_ok hp
    rfl
  · cases hp
    rfl

end Parameter

/-! ## Intervals between integers -/

/-- Does an integer lie between two others, each of which counts as inside if its end is closed? -/
def Within (lowerClosed upperClosed : Bool) (lower upper n : Int) : Prop :=
  (if lowerClosed then lower ≤ n else lower < n) ∧ (if upperClosed then n ≤ upper else n < upper)

instance {lowerClosed upperClosed : Bool} {lower upper n : Int} :
    Decidable (Within lowerClosed upperClosed lower upper n) :=
  inferInstanceAs (Decidable (_ ∧ _))

/-- The text of an integer, with blanks around it. -/
structure BoundText (cs : List Char) (n : Int) : Prop where
  text : IntegerText (Text.trim cs) n
  digit : ∃ c ∈ Text.trim cs, c.isDigit = true

/-- The text of an interval between two integers. -/
inductive IntervalText (lowerClosed upperClosed : Bool) (lower upper : Int) : List Char → Prop
  | intro {ls us : List Char} : BoundText ls lower → BoundText us upper →
      IntervalText lowerClosed upperClosed lower upper
        ((if lowerClosed then '[' else '(') ::
          (ls ++ ',' :: us ++ [if upperClosed then ']' else ')']))

theorem boundText_text (n : Nat) : BoundText (Digits.text n) n := by
  have htrim : Text.trim (Digits.text n) = Digits.text n :=
    Text.trim_eq_self fun _ hc => Text.isBlank_of_isDigit (isDigit_of_mem_text hc)
  obtain ⟨c, rest, htext, hc⟩ := exists_text n
  refine ⟨?_, c, ?_, hc⟩
  · have hplain := @IntegerText.plain (Digits.text n) fun _ hc => isDigit_of_mem_text hc
    rwa [value_text, ← htrim] at hplain
  · rw [htrim, htext]
    exact List.mem_cons_self

theorem BoundText.not_comma {cs : List Char} {n : Int} (h : BoundText cs n) : ',' ∉ cs := by
  intro hcomma
  rcases h.text.isDigit_or_sign (Text.mem_trim hcomma (by decide)) with hc | hc | hc <;> cases hc

theorem IntervalText.isSolid {lowerClosed upperClosed : Bool} {lower upper : Int} {cs : List Char}
    (h : IntervalText lowerClosed upperClosed lower upper (Text.trim cs)) : Text.IsSolid cs := by
  refine Text.isSolid_of_trim_ne_nil ?_
  generalize Text.trim cs = ds at h
  cases h
  exact List.cons_ne_nil _ _

namespace Range

theorem readInterval_eq {first last : Char} {ls us : List Char} {x y : Float}
    (hfirst : isOpening first = true) (hlast : isClosing last = true) (hls : ',' ∉ ls)
    (hus : ',' ∉ us) (hx : readFloat? (Text.trim ls) = some x)
    (hy : readFloat? (Text.trim us) = some y) :
    readInterval (first :: (ls ++ ',' :: us ++ [last])) =
      if y < x then .error (.reversed (String.ofList (first :: (ls ++ ',' :: us ++ [last]))))
      else .ok (.interval x y (first = '[') (last = ']')) := by
  have hend : (first :: (ls ++ ',' :: us ++ [last])).getLast? = some last := by
    rw [← List.cons_append]
    exact List.getLast?_concat
  have hinner : inner (first :: (ls ++ ',' :: us ++ [last])) = ls ++ ',' :: us :=
    List.dropLast_concat
  have hsplit : Text.splitOn ',' (ls ++ ',' :: us) = [ls, us] := by
    rw [Text.splitOn_append hls, Text.splitOn_of_not_mem hus]
  unfold readInterval
  simp only [List.head?_cons, hend, hinner, hsplit, hfirst, hlast, hx, hy]
  rw [if_neg (by simp)]

/-- **How an interval is read**, once its bounds are. -/
theorem read_interval_eq {lowerClosed upperClosed : Bool} {text : String} {ls us : List Char}
    {x y : Float}
    (h : Text.trim text.toList = (if lowerClosed then '[' else '(') ::
      (ls ++ ',' :: us ++ [if upperClosed then ']' else ')']))
    (hls : ',' ∉ ls) (hus : ',' ∉ us) (hx : readFloat? (Text.trim ls) = some x)
    (hy : readFloat? (Text.trim us) = some y) :
    Range.read text = if y < x then .error (.reversed (Text.trimmed text))
      else .ok (.interval x y lowerClosed upperClosed) := by
  have hopening : isOpening (if lowerClosed then '[' else '(') = true := by
    cases lowerClosed <;> rfl
  have hclosing : isClosing (if upperClosed then ']' else ')') = true := by
    cases upperClosed <;> rfl
  have hlowerClosed : decide ((if lowerClosed then '[' else '(') = '[') = lowerClosed := by
    cases lowerClosed <;> rfl
  have hupperClosed : decide ((if upperClosed then ']' else ')') = ']') = upperClosed := by
    cases upperClosed <;> rfl
  have hread := readInterval_eq hopening hclosing hls hus hx hy
  rw [hlowerClosed, hupperClosed] at hread
  unfold Range.read Text.trimmed
  rw [h]
  simp only [List.any_cons, hopening, Bool.true_or, if_true]
  exact hread

variable {lowerClosed upperClosed : Bool} {lower upper n : Int}

/-- **How an interval between two integers is read.**  The bounds become the numbers nearest to them,
and it is these that must not be the wrong way round. -/
theorem read_of_intervalText {text : String}
    (h : IntervalText lowerClosed upperClosed lower upper (Text.trim text.toList))
    (hlower : lower.natAbs < 2 ^ 63) (hupper : upper.natAbs < 2 ^ 63) :
    ∃ x y, IsNearest x lower ∧ IsNearest y upper ∧
      Range.read text = if y < x then .error (.reversed (Text.trimmed text))
        else .ok (.interval x y lowerClosed upperClosed) := by
  generalize hcs : Text.trim text.toList = cs at h
  obtain @⟨ls, us, hls, hus⟩ := h
  obtain ⟨x, hx, hxlower⟩ := hls.text.exists_readFloat? hls.digit hlower
  obtain ⟨y, hy, hyupper⟩ := hus.text.exists_readFloat? hus.digit hupper
  exact ⟨x, y, hxlower, hyupper, read_interval_eq hcs hls.not_comma hus.not_comma hx hy⟩

/-- The number nearest to an integer is in an interval if the rounded integer lies between the rounded
bounds. -/
theorem hasNumber_iff {x y z : Float} (hx : IsNearest x lower) (hy : IsNearest y upper)
    (hz : IsNearest z n) : (interval x y lowerClosed upperClosed).hasNumber z = true ↔
      Within lowerClosed upperClosed (roundInt lower) (roundInt upper) (roundInt n) := by
  cases lowerClosed <;> cases upperClosed <;>
    simp [hasNumber, Within, hx.le_iff hz, hx.lt_iff hz, hz.le_iff hy, hz.lt_iff hy]

end Range

/-- Integers of up to 53 digits lie between the rounded bounds if they lie between the bounds. -/
theorem within_roundInt_iff {lowerClosed upperClosed : Bool} {lower upper n : Int}
    (h : n.natAbs < 2 ^ 53 ∨ lower.natAbs < 2 ^ 53 ∧ upper.natAbs < 2 ^ 53) :
    Within lowerClosed upperClosed (roundInt lower) (roundInt upper) (roundInt n) ↔
      Within lowerClosed upperClosed lower upper n := by
  have hlower : lower.natAbs < 2 ^ 53 ∨ n.natAbs < 2 ^ 53 := h.elim .inr fun h => .inl h.1
  have hupper : n.natAbs < 2 ^ 53 ∨ upper.natAbs < 2 ^ 53 := h.imp_right And.right
  simp only [Within, ← not_lt, roundInt_lt_iff hlower, roundInt_lt_iff hlower.symm,
    roundInt_lt_iff hupper, roundInt_lt_iff hupper.symm]

/-! ## Parameters -/

theorem Value.rangeNumber?_of_asInt? {v : Value} {n : Int} (h : v.asInt? = some n) :
    v.rangeNumber? = some (nearestFloat n) := by
  cases v <;> cases h <;> rfl

theorem Value.isInteger_of_asInt? {v : Value} {k : Kind} {n : Int} (hv : v.isOf k = true)
    (h : v.asInt? = some n) : k.isInteger = true := by
  cases v <;> cases h <;> cases k <;> cases hv <;> rfl

/-- Integers have 63 digits at most, and those that are no `long` far fewer. -/
theorem Value.natAbs_of_asInt? {v : Value} {k : Kind} {n : Int} (hv : v.isOf k = true)
    (h : v.asInt? = some n) : n.natAbs ≤ 2 ^ 63 ∧ (k ≠ .long → n.natAbs < 2 ^ 53) := by
  have hinteger := isInteger_of_asInt? hv h
  obtain ⟨hleast, hgreatest⟩ := Bounds.has_iff.1 (has_of_asInt? hinteger hv h)
  cases k with
  | float | double | boolean | char | text | token | date => cases hinteger
  | byte =>
    have hbounds : -128 ≤ n ∧ n ≤ 127 := ⟨hleast, hgreatest⟩
    omega
  | int =>
    have hbounds : -2147483648 ≤ n ∧ n ≤ 2147483647 := ⟨hleast, hgreatest⟩
    omega
  | long =>
    have hbounds : -9223372036854775808 ≤ n ∧ n ≤ 9223372036854775807 := ⟨hleast, hgreatest⟩
    exact ⟨by omega, fun hlong => absurd rfl hlong⟩

namespace Parameter

variable {p : Parameter} {v : Value} {n : Int}

/-- Of an integer a parameter asks nothing but that it is in range. -/
theorem admits_iff_of_asInt? (hv : v.isOf p.kind = true) (hn : v.asInt? = some n) :
    p.Admits v ↔ p.checkRange v = .ok () := by
  refine ⟨Admits.range, fun hrange => ⟨hv, hrange, fun hk => ?_⟩⟩
  have hinteger := Value.isInteger_of_asInt? hv hn
  rw [hk] at hinteger
  cases hinteger

theorem checkRange_eq_ok_iff {r : RangeClause} (hr : p.range = some r)
    (hinterval : r.range.isInterval = true) (hn : v.asInt? = some n) :
    p.checkRange v = .ok () ↔ r.range.hasNumber (nearestFloat n) = true := by
  have hinRange : p.inRange r.range v = r.range.hasNumber (nearestFloat n) := by
    rw [inRange, hinterval, Bool.true_or, if_pos rfl, Value.rangeNumber?_of_asInt? hn]
    rfl
  rw [checkRange, hr]
  simp only [hinRange]
  cases r.range.hasNumber (nearestFloat n) with
  | true => exact iff_of_true rfl rfl
  | false => exact iff_of_false nofun nofun

end Parameter

/-- **An integer is encoded if it lies between the bounds once all three are rounded.**  Rounding makes
no difference if the integer or both bounds have no more than 53 digits; only a `long` can have
more. -/
theorem encode_iff_within {key text : String} {e : ParameterEntry} {p : Parameter} {v : Value}
    {lowerClosed upperClosed : Bool} {lower upper n : Int}
    (h : Parameter.ofEntry key e = .ok p) (hrange : e.range = some text)
    (htext : IntervalText lowerClosed upperClosed lower upper (Text.trim text.toList))
    (hlower : lower.natAbs < 2 ^ 63) (hupper : upper.natAbs < 2 ^ 63)
    (hv : v.isOf p.kind = true) (hn : v.asInt? = some n) :
    ((∃ a, p.encode v = .ok a) ↔
      Within lowerClosed upperClosed (roundInt lower) (roundInt upper) (roundInt n)) ∧
    ((p.kind = .long → n.natAbs < 2 ^ 53 ∨ lower.natAbs < 2 ^ 53 ∧ upper.natAbs < 2 ^ 53) →
      ((∃ a, p.encode v = .ok a) ↔ Within lowerClosed upperClosed lower upper n)) := by
  obtain ⟨r, hr, -, hread⟩ := Parameter.read_range h hrange htext.isSolid
  obtain ⟨x, y, hx, hy, hinterval⟩ := Range.read_of_intervalText htext hlower hupper
  have heq : r.range = .interval x y lowerClosed upperClosed := by
    rw [hinterval] at hread
    split at hread
    · cases hread
    · exact (Except.ok.inj hread).symm
  obtain ⟨hsize, hsmall⟩ := Value.natAbs_of_asInt? hv hn
  have hrounded : (∃ a, p.encode v = .ok a) ↔
      Within lowerClosed upperClosed (roundInt lower) (roundInt upper) (roundInt n) := by
    rw [Parameter.exists_encode_iff, Parameter.admits_iff_of_asInt? hv hn,
      Parameter.checkRange_eq_ok_iff hr (heq ▸ rfl) hn, heq,
      Range.hasNumber_iff hx hy (isNearest_nearestFloat (by omega))]
  refine ⟨hrounded, fun hlong => hrounded.trans (within_roundInt_iff ?_)⟩
  by_cases hk : p.kind = .long
  · exact hlong hk
  · exact .inl (hsmall hk)

namespace Odometer

/-- What the odometer shows, up to `2^53`. -/
def total : Parameter :=
  { Parameter.plain "p" .long none with
    range := some ⟨"[0,9007199254740992]",
      .interval (floatOfWord 0) (floatOfWord 0x4340000000000000) true true⟩
    range_suits := rfl }

theorem ofEntry_total :
    Parameter.ofEntry "p" ⟨none, "long", some "[0,9007199254740992]", none, none⟩ = .ok total := by
  rfl

theorem intervalText_total :
    IntervalText true true 0 9007199254740992 (Text.trim "[0,9007199254740992]".toList) := by
  have htext : Text.trim "[0,9007199254740992]".toList =
      '[' :: (Digits.text 0 ++ ',' :: Digits.text 9007199254740992 ++ [']']) := by decide +kernel
  rw [htext]
  exact .intro (boundText_text 0) (boundText_text 9007199254740992)

end Odometer

/-- A distance that is shown, and one that is less than none. -/
theorem encode_iff_within_odometer :
    (Within true true 0 9007199254740992 42 ∧ ∃ a, Odometer.total.encode (.long 42) = .ok a) ∧
      ¬ Within true true 0 9007199254740992 (-1) ∧
      ¬ ∃ a, Odometer.total.encode (.long (-1)) = .ok a := by
  have hsmall := @encode_iff_within _ _ _ _ (.long 42) _ _ _ _ 42 Odometer.ofEntry_total rfl
    Odometer.intervalText_total (by decide) (by decide) rfl rfl
  have hnegative := @encode_iff_within _ _ _ _ (.long (-1)) _ _ _ _ (-1) Odometer.ofEntry_total rfl
    Odometer.intervalText_total (by decide) (by decide) rfl rfl
  exact ⟨⟨by decide, (hsmall.2 fun _ => .inl (by decide)).2 (by decide)⟩, by decide,
    mt (hnegative.2 fun _ => .inl (by decide)).1 (by decide)⟩

/-- **A `long` just outside is rounded to the bound, and let in.** -/
theorem long_beyond_bound :
    Parameter.ofEntry "p" ⟨none, "long", some "[0,9007199254740992]", none, none⟩ =
        .ok Odometer.total ∧
      IntervalText true true 0 9007199254740992 (Text.trim "[0,9007199254740992]".toList) ∧
      ¬ Within true true 0 9007199254740992 9007199254740993 ∧
      Odometer.total.encode (.long 9007199254740993) =
        .ok ⟨.long 9007199254740993, "9007199254740993"⟩ :=
  ⟨Odometer.ofEntry_total, Odometer.intervalText_total, by decide, by rfl⟩

end Instrument
