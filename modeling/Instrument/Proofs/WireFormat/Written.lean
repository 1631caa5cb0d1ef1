/-
# What a template writes

A template is read from one conversion to the next, and the text in front of a conversion is
gathered (`readPieces_append`, `readPieces_conversion`).  What a conversion writes for a value depends
on its precision and its letter: it shows the value whole (`Conversion.Shows`), or at least something
of it (`Segment.Solid`).  Of an integer that is shown the digits and the sign are there
(`carries_of_shows`), and of any other value its text is, between blanks (`exists_of_shows`).
-/
import Instrument.Proofs.Number.Digits
import Instrument.Proofs.WireFormat.Segments

namespace Instrument

open Number

/-! ## Conversions that show a value -/

namespace Conversion

/-- How many characters of a value the conversion writes at most; those for numbers and characters
heed no precision. -/
def limit? (k : Conversion) (s : Spec) : Option Nat :=
  match k with
  | .boolean _ | .text _ => s.precision
  | _ => none

/-- Does the conversion leave the text of a value as it is, where it asks for upper case? -/
def Leaves (k : Conversion) (v : Value) : Prop :=
  k = .text true → ∀ c ∈ v.display.toList, Text.upperChar c = [c]

/-- Does the conversion write the whole text of a value, and in the notation in which the value is
shown? -/
structure Shows (k : Conversion) (s : Spec) (v : Value) : Prop where
  plain : k = .decimal ∨ ∃ upper, k = .text upper
  uncut : ∀ n ∈ k.limit? s, v.display.toList.length ≤ n
  leaves : k.Leaves v

end Conversion

/-- Is it a character that is no blank, or a conversion that writes one at least for a value without
blanks? -/
def Segment.Solid (v : Value) : Segment → Prop
  | .literal c => Text.isBlank c = false
  | .conversion s k => k.limit? s ≠ some 0 ∧ k.Leaves v

namespace WireFormat

/-! ## Templates that are read -/

theorem readPieces_nil (source : String) (text : List Char) :
    readPieces source text [] = .ok (flush text []) := by
  rw [readPieces]

/-- Text up to a percent sign is gathered as it is. -/
theorem readPieces_append {source : String} {cs : List Char} (h : '%' ∉ cs)
    (text rest : List Char) :
    readPieces source text (cs ++ rest) = readPieces source (text ++ cs) rest := by
  induction cs generalizing text with
  | nil => rw [List.nil_append, List.append_nil]
  | cons c cs ih =>
    obtain ⟨hc, hcs⟩ := not_or.1 (mt List.mem_cons.2 h)
    rw [List.cons_append, readPieces, if_neg (Ne.symm hc), ih hcs, List.append_assoc,
      List.singleton_append]

/-- What a specification is followed by decides what is read. -/
theorem readPieces_spec {source : String} {cs rest : List Char} {s : Spec} {c : Char}
    (h : readSpec cs = (s, c :: rest)) (text : List Char) : readPieces source text ('%' :: cs) =
      if c = '%' then readPieces source (text ++ ['%']) rest
      else if c = 'n' then readPieces source (text ++ ['\n']) rest
      else
        match Conversion.ofLetter? c with
        | some k =>
          (readPieces source [] rest).map fun pieces => flush text (.conversion s k :: pieces)
        | none => .error (.unsupported source c) := by
  rw [readPieces, if_pos rfl]
  split
  · rename_i hrest
    rw [h] at hrest
    cases hrest
  · rename_i d more hrest
    rw [h] at hrest
    obtain ⟨rfl, rfl⟩ := List.cons.inj hrest
    obtain rfl : (readSpec cs).1 = s := congrArg Prod.fst h
    rfl

/-- A specification and a letter are a conversion, and a piece ends in front of it. -/
theorem readPieces_conversion {source : String} {s : Spec} {k : Conversion} {c : Char}
    {cs rest : List Char} (hspec : readSpec cs = (s, c :: rest))
    (hk : Conversion.ofLetter? c = some k) (text : List Char) :
    readPieces source text ('%' :: cs) =
      (readPieces source [] rest).map fun pieces => flush text (.conversion s k :: pieces) := by
  have hpercent : c ≠ '%' := by
    rintro rfl
    cases hk
  have hn : c ≠ 'n' := by
    rintro rfl
    cases hk
  rw [readPieces_spec hspec, if_neg hpercent, if_neg hn, hk]

/-- A template with one conversion in it. -/
theorem readPieces_between {source : String} {s : Spec} {k : Conversion} {c : Char}
    {before cs after : List Char} (hbefore : '%' ∉ before) (hafter : '%' ∉ after)
    (hspec : readSpec cs = (s, c :: after)) (hk : Conversion.ofLetter? c = some k) :
    readPieces source [] (before ++ '%' :: cs) =
      .ok (flush before (.conversion s k :: flush after [])) := by
  have hrest : readPieces source [] after = .ok (flush after []) := by
    have happend := @readPieces_append source after hafter [] []
    rwa [List.append_nil, List.nil_append, readPieces_nil] at happend
  rw [readPieces_append hbefore, List.nil_append, readPieces_conversion hspec hk, hrest]
  rfl

variable {v : Value}

/-! ## Filling, cutting and upper case -/

theorem exists_fill (s : Spec) (cs : List Char) :
    ∃ before after, (∀ c ∈ before, c = ' ') ∧ (∀ c ∈ after, c = ' ') ∧
      fill s cs = before ++ (cs ++ after) := by
  have hblanks : ∀ c ∈ List.replicate (s.width.getD 0 - cs.length) ' ', c = ' ' :=
    fun c hc => List.eq_of_mem_replicate hc
  unfold fill
  split
  · exact ⟨[], _, fun c hc => absurd hc List.not_mem_nil, hblanks, rfl⟩
  · exact ⟨_, [], hblanks, fun c hc => absurd hc List.not_mem_nil, by rw [List.append_nil]⟩

theorem fill_eq_self {s : Spec} {cs : List Char} (h : s.width.getD 0 ≤ cs.length) :
    fill s cs = cs := by
  simp [fill, Nat.sub_eq_zero_of_le h]

theorem cut_eq_self {s : Spec} {cs : List Char} (h : ∀ n ∈ s.precision, cs.length ≤ n) :
    cut s cs = cs := by
  unfold cut
  split
  · rename_i n hn
    exact List.take_of_length_le (h n hn)
  · rfl

theorem upper_eq_self {cs : List Char} (h : ∀ c ∈ cs, Text.upperChar c = [c]) :
    Text.upper cs = cs := by
  induction cs with
  | nil => rfl
  | cons c cs ih =>
    obtain ⟨hc, hcs⟩ := List.forall_mem_cons.1 h
    rw [Text.upper, List.flatMap_cons, hc]
    exact congrArg (c :: ·) (ih hcs)

/-- A cut that leaves something leaves the first character. -/
theorem mem_cut {s : Spec} (h : s.precision ≠ some 0) (c : Char) (cs : List Char) :
    c ∈ cut s (c :: cs) := by
  unfold cut
  split
  · rename_i n hn
    cases n with
    | zero => exact absurd hn h
    | succ n => exact List.mem_cons_self
  · exact List.mem_cons_self

theorem mem_of_mem_cut {s : Spec} {c : Char} {cs : List Char} (h : c ∈ cut s cs) : c ∈ cs := by
  unfold cut at h
  split at h
  · exact List.mem_of_mem_take h
  · exact h

theorem mem_fill {s : Spec} {c : Char} {cs : List Char} (h : c ∈ cs) : c ∈ fill s cs := by
  obtain ⟨before, after, -, -, hfill⟩ := exists_fill s cs
  rw [hfill]
  exact List.mem_append_right _ (List.mem_append_left _ h)

/-- What a conversion for texts writes, if it leaves the text of the value as it is. -/
theorem convert?_text {s : Spec} {upper : Bool} (h : (Conversion.text upper).Leaves v) :
    convert? s (.text upper) v = some (fill s (cut s v.display.toList)) := by
  cases upper with
  | false => rfl
  | true =>
    have hupper : Text.upper (cut s v.display.toList) = cut s v.display.toList :=
      upper_eq_self fun c hc => h rfl c (mem_of_mem_cut hc)
    simp only [convert?, hupper, if_true]

/-! ## What is shown -/

/-- **A text that is shown stands between blanks.** -/
theorem exists_of_shows {s : Spec} {k : Conversion} {cs : List Char} (h : k.Shows s v)
    (hk : k ≠ .decimal) (hcs : convert? s k v = some cs) : cs = fill s v.display.toList := by
  obtain ⟨hplain, huncut, hleaves⟩ := h
  obtain ⟨upper, rfl⟩ := hplain.resolve_left hk
  rw [convert?_text hleaves, cut_eq_self huncut] at hcs
  exact (Option.some.inj hcs).symm

theorem carries_fill {s : Spec} {cs : List Char} {n : Int} (h : Carries cs n) :
    Carries (fill s cs) n := by
  obtain ⟨before, after, hbefore, hafter, hfill⟩ := exists_fill s cs
  rw [hfill]
  refine h.between (fun c hc => ?_) fun c hc => ?_
  · rw [hbefore c hc]
    decide
  · rw [hafter c hc]
    decide

theorem carries_sign (f : Flags) (n : Int) (zeros : Nat) :
    Carries (sign f (n < 0) ++ (List.replicate zeros '0' ++ Digits.text n.natAbs)) n := by
  have hsigned := carries_signed n zeros
  by_cases hn : n < 0
  · simpa [sign, hn] using hsigned
  · -- A plus sign or a blank has no meaning.
    have hsign : ∀ c ∈ sign f (n < 0), c ≠ '-' ∧ (c.isDigit = true → c = '0') := by
      unfold sign
      intro c hc
      split at hc <;> rename_i hneg
      · exact absurd (of_decide_eq_true hneg) hn
      · split at hc
        · rw [List.mem_singleton.1 hc]
          decide
        · split at hc
          · rw [List.mem_singleton.1 hc]
            decide
          · cases hc
    rw [if_neg hn, List.nil_append] at hsigned
    simpa using hsigned.between hsign
      (fun c (hc : c ∈ ([] : List Char)) => absurd hc List.not_mem_nil)

/-- A decimal number carries the integer, filled up with zeros or with blanks. -/
theorem carries_number (s : Spec) (n : Int) :
    Carries (number s (n < 0) [] (Digits.text n.natAbs)) n := by
  unfold number
  simp only [List.append_nil]
  split
  · rw [List.append_assoc]
    exact carries_sign _ n _
  · exact carries_fill (carries_sign _ n 0)

theorem display_of_asInt? {n : Int} (h : v.asInt? = some n) :
    v.display.toList = writeInteger n := by
  cases v with
  | byte m | int m | long m =>
    cases h
    exact String.toList_ofList
  | float x | double x | boolean b | char c | text s | date m | raw j => cases h

/-- **An integer that is shown is carried by the text.** -/
theorem carries_of_shows {s : Spec} {k : Conversion} {cs : List Char} {n : Int}
    (h : k.Shows s v) (hv : v.asInt? = some n) (hcs : convert? s k v = some cs) :
    Carries cs n := by
  by_cases hk : k = .decimal
  · subst hk
    simp only [convert?, hv, Option.map_some, Option.some.injEq] at hcs
    exact hcs ▸ carries_number s n
  · rw [exists_of_shows h hk hcs, display_of_asInt? hv]
    exact carries_fill (carries_writeInteger n)

/-! ## What is solid -/

theorem isSolid_fill {s : Spec} {cs : List Char} (h : Text.IsSolid cs) :
    Text.IsSolid (fill s cs) := by
  obtain ⟨c, hc, hblank⟩ := h
  exact ⟨c, mem_fill hc, hblank⟩

/-- The body of a number is there. -/
theorem mem_number {s : Spec} {negative : Bool} {mark body : List Char} {c : Char}
    (h : c ∈ body) : c ∈ number s negative mark body := by
  unfold number
  split
  · exact List.mem_append_right _ h
  · exact mem_fill (List.mem_append_right _ h)

/-- The mark of a number is there. -/
theorem mem_number_of_mem_mark {s : Spec} {negative : Bool} {mark body : List Char} {c : Char}
    (h : c ∈ mark) : c ∈ number s negative mark body := by
  unfold number
  split
  · exact List.mem_append_left _ (List.mem_append_left _ (List.mem_append_right _ h))
  · exact mem_fill (List.mem_append_left _ (List.mem_append_right _ h))

theorem isBlank_digitChar {d : Nat} (hd : d < 16) :
    Text.isBlank d.digitChar = false ∧ Text.isBlank d.digitChar.toUpper = false := by
  revert d
  decide

/-- The last digit of a number. -/
theorem mem_toDigits {b : Nat} (hb : 1 < b) (n : Nat) : (n % b).digitChar ∈ Nat.toDigits b n := by
  rw [Nat.toDigits_eq_if hb]
  split
  · rename_i hlt
    rw [Nat.mod_eq_of_lt hlt]
    exact List.mem_singleton.2 rfl
  · exact List.mem_append_right _ (List.mem_singleton.2 rfl)

/-- Every digit of a number is one of its base. -/
theorem exists_of_mem_toDigits {b : Nat} (hb : 1 < b) {n : Nat} {c : Char}
    (h : c ∈ Nat.toDigits b n) : ∃ d < b, c = d.digitChar := by
  induction n using Nat.strongRecOn with
  | ind n ih =>
    rw [Nat.toDigits_eq_if hb] at h
    split at h
    · rename_i hlt
      exact ⟨n, hlt, List.mem_singleton.1 h⟩
    · rcases List.mem_append.1 h with h | h
      · exact ih (n / b) (Nat.div_lt_self (by omega) hb) h
      · exact ⟨n % b, Nat.mod_lt n (by omega), List.mem_singleton.1 h⟩

theorem isSolid_hexDigits (upper : Bool) (n : Nat) : Text.IsSolid (hexDigits upper n) := by
  have hmem := mem_toDigits (b := 16) (by decide) n
  have hblank := isBlank_digitChar (Nat.mod_lt n (by decide : 0 < 16))
  cases upper with
  | false => exact ⟨_, hmem, hblank.1⟩
  | true => exact ⟨_, List.mem_map_of_mem hmem, hblank.2⟩

theorem isSolid_number {s : Spec} {negative : Bool} {mark body : List Char}
    (h : Text.IsSolid body) : Text.IsSolid (number s negative mark body) := by
  obtain ⟨c, hc, hblank⟩ := h
  exact ⟨c, mem_number hc, hblank⟩

/-- An integer or a text is no number with places, no character and no truth value. -/
theorem none_of_plain (hv : (∃ n, v.asInt? = some n) ∨ ∃ s, v = .text s) :
    datum? v = none ∧ v.asChar? = none ∧ v.asBool? = none := by
  rcases hv with ⟨n, hn⟩ | ⟨s, rfl⟩
  · cases v with
    | byte m | int m | long m => exact ⟨rfl, rfl, rfl⟩
    | float x | double x | boolean b | char c | text s | date m | raw j => cases hn
  · exact ⟨rfl, rfl, rfl⟩

/-- **What is solid writes a character that is no blank**, for an integer and for a text that does
not begin with a blank. -/
theorem isSolid_of_solid {x : Segment} {cs : List Char}
    (hv : (∃ n, v.asInt? = some n) ∨ ∃ s, v = .text s)
    (hfirst : ∃ c rest, v.display.toList = c :: rest ∧ Text.isBlank c = false)
    (h : x.Solid v) (hcs : applySegment v x = .ok cs) : Text.IsSolid cs := by
  match x with
  | .literal c =>
    cases hcs
    exact ⟨c, List.mem_singleton.2 rfl, h⟩
  | .conversion s k =>
    have hconvert := convert?_of_applySegment hcs
    obtain ⟨hlimit, hleaves⟩ := h
    cases k with
    | decimal =>
      obtain ⟨n, -, rfl⟩ := Option.map_eq_some_iff.1 hconvert
      exact (carries_number s n).isSolid
    | hexadecimal upper =>
      obtain ⟨n, -, rfl⟩ := Option.map_eq_some_iff.1 hconvert
      exact isSolid_number (isSolid_hexDigits upper n)
    | octal =>
      obtain ⟨n, -, rfl⟩ := Option.map_eq_some_iff.1 hconvert
      have hdigit : n % 8 < 16 := Nat.lt_trans (Nat.mod_lt n (by decide)) (by decide)
      exact isSolid_number ⟨_, mem_toDigits (by decide) n, (isBlank_digitChar hdigit).1⟩
    | fixed | scientific upper | general upper =>
      rw [convert?, (none_of_plain hv).1] at hconvert
      cases hconvert
    | char =>
      rw [convert?, (none_of_plain hv).2.1] at hconvert
      cases hconvert
    | boolean upper =>
      rw [convert?, (none_of_plain hv).2.2] at hconvert
      cases hconvert
    | text upper =>
      obtain ⟨c, rest, hdisplay, hblank⟩ := hfirst
      rw [convert?_text hleaves, hdisplay] at hconvert
      cases hconvert
      exact isSolid_fill ⟨c, mem_cut hlimit c rest, hblank⟩

end WireFormat

end Instrument
