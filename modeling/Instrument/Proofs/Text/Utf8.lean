/-
# Every text survives its octets

To decode the octets of a text gives the text back (`decode_encode`).  Decoding goes octet by octet,
and so does the proof, for characters of one to four octets: the first octet says how many are to
come and within which bounds the next one is, and the narrower of these bounds leave out no
character.
-/
import Instrument.Text.Utf8
import Mathlib.Tactic.SplitIfs

namespace Instrument.Text

/-- The numbers of characters. -/
abbrev IsCharNumber (v : Nat) : Prop := v < 0xD800 ∨ 0xDFFF < v ∧ v < 0x110000

/-! ## Single octets -/

theorem toNat_ofNat_octet {n : Nat} (h : n < 0x100) : (UInt8.ofNat n).toNat = n := by
  rw [UInt8.toNat_ofNat']
  omega

theorem decodeFrom_cons (state : Utf8State) (b : UInt8) (rest : List UInt8) :
    decodeFrom state (b :: rest) =
      (nextOctet state b).1 ++ decodeFrom (nextOctet state b).2 rest := by
  cases state <;> rfl

/-- The first octet of a character, by its number. -/
theorem firstOctet_ofNat {n : Nat} (h : n < 0x100) :
    firstOctet (.ofNat n) =
      if n < 0x80 then ([Char.ofNat n], .start)
      else if n < 0xC2 then ([replacement], .start)
      else if n < 0xE0 then ([], .inside 0 0x80 0xBF (n % 0x20))
      else if n = 0xE0 then ([], .inside 1 0xA0 0xBF 0)
      else if n = 0xED then ([], .inside 1 0x80 0x9F 0xD)
      else if n < 0xF0 then ([], .inside 1 0x80 0xBF (n % 0x10))
      else if n = 0xF0 then ([], .inside 2 0x90 0xBF 0)
      else if n < 0xF4 then ([], .inside 2 0x80 0xBF (n % 0x08))
      else if n = 0xF4 then ([], .inside 2 0x80 0x8F 4)
      else ([replacement], .start) := by
  simp [firstOctet, UInt8.lt_iff_toNat_lt, ← UInt8.toNat_inj, toNat_ofNat_octet h]

/-- An octet within the bounds goes on with a character. -/
theorem nextOctet_inside {low high n : Nat} (hlow : low ≤ n) (hhigh : n ≤ high)
    (hoctet : high < 0x100) (owed bits : Nat) :
    nextOctet (.inside owed (.ofNat low) (.ofNat high) bits) (.ofNat n) =
      match owed with
      | 0 => ([Char.ofNat (bits * 0x40 + n % 0x40)], .start)
      | owed + 1 => ([], .inside owed 0x80 0xBF (bits * 0x40 + n % 0x40)) := by
  have hn := toNat_ofNat_octet (Nat.lt_of_le_of_lt hhigh hoctet)
  have hl := toNat_ofNat_octet (Nat.lt_of_le_of_lt (Nat.le_trans hlow hhigh) hoctet)
  have hh := toNat_ofNat_octet hoctet
  cases owed <;> simp [nextOctet, UInt8.le_iff_toNat_le, hn, hl, hh, hlow, hhigh]

/-! ## Characters -/

section Character

variable {v : Nat} (rest : List UInt8)

theorem decodeFrom_one (h : v ≤ 0x7F) :
    decodeFrom .start (.ofNat v :: rest) = Char.ofNat v :: decodeFrom .start rest := by
  rw [decodeFrom_cons, nextOctet, firstOctet_ofNat (by omega), if_pos (by omega)]
  rfl

/-- The last octet of a character. -/
theorem decodeFrom_last (low high : Nat) {n bits : Nat} (hlow : low ≤ n) (hhigh : n ≤ high)
    (hoctet : high < 0x100) (hbits : bits * 0x40 + n % 0x40 = v) :
    decodeFrom (.inside 0 (.ofNat low) (.ofNat high) bits) (.ofNat n :: rest) =
      Char.ofNat v :: decodeFrom .start rest := by
  rw [decodeFrom_cons, nextOctet_inside hlow hhigh hoctet, hbits]
  rfl

/-- An octet that is not the last of a character. -/
theorem decodeFrom_more (low high : Nat) {n bits bits' : Nat} (hlow : low ≤ n) (hhigh : n ≤ high)
    (hoctet : high < 0x100) (hbits : bits * 0x40 + n % 0x40 = bits') (owed : Nat) :
    decodeFrom (.inside (owed + 1) (.ofNat low) (.ofNat high) bits) (.ofNat n :: rest) =
      decodeFrom (.inside owed 0x80 0xBF bits') rest := by
  rw [decodeFrom_cons, nextOctet_inside hlow hhigh hoctet, hbits]
  rfl

theorem decodeFrom_two (hlow : 0x7F < v) (hhigh : v ≤ 0x7FF) :
    decodeFrom .start (.ofNat (v / 64 % 0x20 + 0xC0) :: .ofNat (v % 64 + 0x80) :: rest) =
      Char.ofNat v :: decodeFrom .start rest := by
  rw [decodeFrom_cons, nextOctet, firstOctet_ofNat (by omega), if_neg (by omega),
    if_neg (by omega), if_pos (by omega)]
  exact decodeFrom_last rest 0x80 0xBF (by omega) (by omega) (by decide) (by omega)

theorem decodeFrom_three (hv : IsCharNumber v) (hlow : 0x7FF < v) (hhigh : v ≤ 0xFFFF) :
    decodeFrom .start (.ofNat (v / 4096 % 0x10 + 0xE0) :: .ofNat (v / 64 % 0x40 + 0x80) ::
        .ofNat (v % 0x40 + 0x80) :: rest) =
      Char.ofNat v :: decodeFrom .start rest := by
  rw [decodeFrom_cons, nextOctet, firstOctet_ofNat (by omega), if_neg (by omega),
    if_neg (by omega), if_neg (by omega)]
  have hlast : decodeFrom (.inside 0 0x80 0xBF (v / 64)) (.ofNat (v % 0x40 + 0x80) :: rest) =
      Char.ofNat v :: decodeFrom .start rest :=
    decodeFrom_last rest 0x80 0xBF (by omega) (by omega) (by decide) (by omega)
  -- The next octet has narrower bounds where the number would be too small or that of no character.
  rw [← hlast]
  split_ifs
  · exact decodeFrom_more _ 0xA0 0xBF (by omega) (by omega) (by decide) (by omega) 0
  · exact decodeFrom_more _ 0x80 0x9F (by omega) (by omega) (by decide) (by omega) 0
  · exact decodeFrom_more _ 0x80 0xBF (by omega) (by omega) (by decide) (by omega) 0
  all_goals omega

theorem decodeFrom_four (hv : IsCharNumber v) (hlow : 0xFFFF < v) :
    decodeFrom .start (.ofNat (v / 262144 % 0x08 + 0xF0) :: .ofNat (v / 4096 % 0x40 + 0x80) ::
        .ofNat (v / 64 % 0x40 + 0x80) :: .ofNat (v % 0x40 + 0x80) :: rest) =
      Char.ofNat v :: decodeFrom .start rest := by
  rw [decodeFrom_cons, nextOctet, firstOctet_ofNat (by omega), if_neg (by omega),
    if_neg (by omega), if_neg (by omega), if_neg (by omega), if_neg (by omega), if_neg (by omega)]
  have hlast : decodeFrom (.inside 0 0x80 0xBF (v / 64)) (.ofNat (v % 0x40 + 0x80) :: rest) =
      Char.ofNat v :: decodeFrom .start rest :=
    decodeFrom_last rest 0x80 0xBF (by omega) (by omega) (by decide) (by omega)
  have hthird : decodeFrom (.inside 1 0x80 0xBF (v / 4096))
      (.ofNat (v / 64 % 0x40 + 0x80) :: .ofNat (v % 0x40 + 0x80) :: rest) =
        Char.ofNat v :: decodeFrom .start rest :=
    (decodeFrom_more _ 0x80 0xBF (by omega) (by omega) (by decide) (by omega) 0).trans hlast
  rw [← hthird]
  split_ifs
  · exact decodeFrom_more _ 0x90 0xBF (by omega) (by omega) (by decide) (by omega) 1
  · exact decodeFrom_more _ 0x80 0xBF (by omega) (by omega) (by decide) (by omega) 1
  · exact decodeFrom_more _ 0x80 0x8F (by omega) (by omega) (by decide) (by omega) 1
  all_goals omega

end Character

theorem decodeFrom_utf8EncodeChar (c : Char) (rest : List UInt8) :
    decodeFrom .start (String.utf8EncodeChar c ++ rest) = c :: decodeFrom .start rest := by
  have hc : IsCharNumber c.toNat := c.valid
  suffices h : decodeFrom .start (String.utf8EncodeChar c ++ rest) =
      Char.ofNat c.toNat :: decodeFrom .start rest by rwa [Char.ofNat_toNat] at h
  unfold String.utf8EncodeChar
  dsimp only
  split_ifs with hone htwo hthree
  · exact decodeFrom_one rest hone
  · exact decodeFrom_two rest (Nat.not_le.1 hone) htwo
  · exact decodeFrom_three rest hc (Nat.not_le.1 htwo) hthree
  · exact decodeFrom_four rest hc (Nat.not_le.1 hthree)

theorem encode_append (cs ds : List Char) : encode (cs ++ ds) = encode cs ++ encode ds :=
  List.flatMap_append

/-- **Every text survives its octets.** -/
theorem decode_encode (cs : List Char) : decode (encode cs) = cs := by
  induction cs with
  | nil => rfl
  | cons c cs ih =>
    rw [decode, encode, List.flatMap_cons, decodeFrom_utf8EncodeChar]
    exact congrArg (c :: ·) ih

/-! ## Characters of one octet -/

theorem utf8EncodeChar_of_ascii {c : Char} (h : c.toNat < 0x80) :
    String.utf8EncodeChar c = [.ofNat c.toNat] := by
  unfold String.utf8EncodeChar
  exact if_pos (Nat.le_of_lt_succ h)

/-- The octets of a character are its number, if it is small, or none of them is small. -/
theorem toNat_of_mem_utf8EncodeChar {c : Char} {b : UInt8} (h : b ∈ String.utf8EncodeChar c) :
    b.toNat = c.toNat ∨ 0x80 ≤ b.toNat := by
  have hc : IsCharNumber c.val.toNat := c.valid
  show b.toNat = c.val.toNat ∨ _
  unfold String.utf8EncodeChar at h
  dsimp only at h
  split_ifs at h
  all_goals
    simp only [List.mem_cons, List.not_mem_nil, or_false] at h
    rcases h with rfl | rfl | rfl | rfl <;> rw [UInt8.toNat_ofNat'] <;> omega

/-- The octets below `80` are those of characters of one octet. -/
theorem exists_of_mem_encode {cs : List Char} {b : UInt8} (hb : b.toNat < 0x80)
    (h : b ∈ encode cs) : ∃ c ∈ cs, c.toNat = b.toNat := by
  obtain ⟨c, hc, hbc⟩ := List.mem_flatMap.1 h
  rcases toNat_of_mem_utf8EncodeChar hbc with heq | hlarge
  · exact ⟨c, hc, heq.symm⟩
  · omega

/-! ## Octets cut in two -/

/-- Does an octet go on with a character? -/
def GoesOn (b : UInt8) : Prop := 0x80 ≤ b.toNat ∧ b.toNat < 0xC0

/-- Only the first octet of a character does not go on with one. -/
theorem exists_utf8EncodeChar (c : Char) :
    ∃ b rest, String.utf8EncodeChar c = b :: rest ∧ ¬ GoesOn b ∧ ∀ x ∈ rest, GoesOn x := by
  have hc : IsCharNumber c.val.toNat := c.valid
  unfold String.utf8EncodeChar
  dsimp only
  split_ifs with hone htwo hthree
  · refine ⟨_, [], rfl, ?_, fun x hx => absurd hx List.not_mem_nil⟩
    rw [GoesOn, UInt8.toNat_ofNat']
    omega
  all_goals
    refine ⟨_, _, rfl, ?_, fun x hx => ?_⟩
    · rw [GoesOn, UInt8.toNat_ofNat']
      omega
    · simp only [List.mem_cons, List.not_mem_nil, or_false] at hx
      rcases hx with rfl | rfl | rfl
      all_goals
        rw [GoesOn, UInt8.toNat_ofNat']
        omega

theorem encode_eq_nil_iff {cs : List Char} : encode cs = [] ↔ cs = [] := by
  constructor
  · intro h
    rw [← decode_encode cs, h]
    rfl
  · rintro rfl
    rfl

/-- **The octets of a text are cut between characters** wherever the octets of a text are behind the
cut. -/
theorem exists_append_of_encode {cs ds : List Char} {octets : List UInt8}
    (h : encode cs = octets ++ encode ds) : ∃ front, cs = front ++ ds ∧ encode front = octets := by
  induction cs generalizing octets with
  | nil =>
    obtain ⟨rfl, hds⟩ := List.append_eq_nil_iff.1 h.symm
    exact ⟨[], (encode_eq_nil_iff.1 hds).symm, rfl⟩
  | cons c cs ih =>
    have hcons : encode (c :: cs) = String.utf8EncodeChar c ++ encode cs := List.flatMap_cons
    rw [hcons] at h
    cases octets with
    | nil =>
      refine ⟨[], ?_, rfl⟩
      rw [← decode_encode (c :: cs), ← decode_encode ds, hcons, h]
      rfl
    | cons b octets =>
      rcases List.append_eq_append_iff.1 h with ⟨more, hmore, hrest⟩ | ⟨more, hmore, hrest⟩
      · obtain ⟨front, rfl, rfl⟩ := ih hrest
        exact ⟨c :: front, rfl, hmore.symm⟩
      · cases more with
        | nil =>
          have hcs : encode cs = [] ++ encode ds := hrest.symm
          obtain ⟨front, rfl, hfront⟩ := ih hcs
          obtain rfl := encode_eq_nil_iff.1 hfront
          exact ⟨[c], rfl, by simpa [encode] using hmore⟩
        | cons x more =>
          -- The cut is within a character, and no text begins with an octet that goes on with one.
          obtain ⟨b', rest, hchar, -, hrest'⟩ := exists_utf8EncodeChar c
          have hx : GoesOn x := by
            rw [hchar] at hmore
            obtain ⟨-, rfl⟩ := List.cons.inj hmore
            exact hrest' x (List.mem_append_right octets List.mem_cons_self)
          cases ds with
          | nil => cases hrest
          | cons d ds =>
            obtain ⟨b'', rest', hchar', hstart, -⟩ := exists_utf8EncodeChar d
            have hds : encode (d :: ds) = b'' :: (rest' ++ encode ds) := by
              rw [encode, List.flatMap_cons, hchar']
              rfl
            obtain ⟨rfl, -⟩ := List.cons.inj (hds.symm.trans hrest)
            exact absurd hx hstart

end Instrument.Text
