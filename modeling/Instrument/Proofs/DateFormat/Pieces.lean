/-
# Pieces of a written date

A date is read piece by piece, and each piece was written by one part of the template.
`DatePart.record` says what fields a part sets on its own piece, and `DatePart.read?_write` that it
sets these and takes the piece, no less and no more.  What stands behind the piece must let it: a
number whose width is not fixed goes on with a digit (`DatePart.isOpen`), and the name of a zone with
all up to the next blank.

Nothing is said here of whether a text is read at all, for a field may be set already, and to
something else.
-/
import Instrument.DateFormat.Writer
import Instrument.Proofs.DateFormat.Fields
import Mathlib.Data.List.Find

namespace Instrument

open Calendar Number

/-! ## What a part sets -/

/-- An offset to the minute. -/
def roundedOffset (offset : Int) : Int :=
  if offset < 0 then -((offset.natAbs + 30) / 60 * 60 : Nat)
  else ((offset.natAbs + 30) / 60 * 60 : Nat)

namespace DatePart

/-- The fields after a part was read from what it writes. -/
def record (m : Moment) (f : DateFields) : DatePart → DateFields
  | .year => { f with year := some m.date.year }
  | .shortYear => { f with shortYear := some (m.date.year.emod 100).toNat }
  | .monthName | .monthAbbreviation | .month => { f with month := some m.date.month }
  | .day | .bareDay => { f with day := some m.date.day }
  | .hour | .bareHour =>
    { f with half := some (m.time.hour / 12), hour12 := some (m.time.hour % 12) }
  | .hour12 | .bareHour12 => { f with hour12 := some (m.time.hour % 12) }
  | .minute => { f with minute := some m.time.minute }
  | .second => { f with second := some m.time.shownSecond }
  | .millisecond => { f with nanosecond := some (m.time.fraction / 1000000 * 1000000) }
  | .zoneName => f
  | .zoneOffset => { f with offset := some (roundedOffset m.offset) }
  | .halfDay => { f with half := some (m.time.hour / 12) }

end DatePart

/-! ## Numbers -/

/-- Is the first character of a text, if there is one, no digit? -/
def startsWithoutDigit (cs : List Char) : Bool := cs.head?.all (!Digits.isDigit ·)

/-- A run of digits of which a reader of at most `most` digits takes all, and no more. -/
structure DigitRun (most : Nat) (ds rest : List Char) : Prop where
  digits : ∀ c ∈ ds, Digits.isDigit c = true
  nonempty : ds ≠ []
  ends : ds.length = most ∨ ds.length ≤ most ∧ startsWithoutDigit rest = true

theorem takeWhile_take_of_startsWithoutDigit {rest : List Char}
    (h : startsWithoutDigit rest = true) (k : Nat) :
    (rest.take k).takeWhile Digits.isDigit = [] := by
  cases rest with
  | nil => simp
  | cons c cs =>
    cases k with
    | zero => rfl
    | succ k =>
      have hc : Digits.isDigit c = false := by simpa [startsWithoutDigit] using h
      rw [List.take_succ_cons, List.takeWhile_cons_of_neg (by simp [hc])]

theorem padded_ne_nil {width n : Nat} (h : 0 < width) : Digits.padded width n ≠ [] :=
  List.ne_nil_of_length_pos (Nat.lt_of_lt_of_le h (Digits.length_padded width n))

namespace DigitRun

variable {most n : Nat} {ds rest cs : List Char}

theorem padded (hmost : 0 < most) (hn : n < 10 ^ most) (rest : List Char) :
    DigitRun most (Digits.padded most n) rest :=
  ⟨fun _ hc => isDigit_of_mem_padded hc, padded_ne_nil hmost, .inl (length_padded_of_lt hmost hn)⟩

theorem text (hn : n < 100) (h : 10 ≤ n ∨ startsWithoutDigit rest = true) :
    DigitRun 2 (Digits.text n) rest := by
  have hle : (Digits.text n).length ≤ 2 := length_text_le (by decide) hn
  refine ⟨fun c hc => isDigit_of_mem_text hc, Nat.toDigits_ne_nil, ?_⟩
  rcases h with h | h
  · have hlong : ¬ (Digits.text n).length ≤ 1 := fun hshort =>
      absurd ((Nat.length_toDigits_le_iff (by decide) (by decide)).1 hshort) (by omega)
    exact .inl (by omega)
  · exact .inr ⟨hle, h⟩

theorem takeWhile_take (h : DigitRun most ds rest) :
    ((ds ++ rest).take most).takeWhile Digits.isDigit = ds := by
  have hfit : ds.length ≤ most := h.ends.elim (·.le) (·.1)
  have hrest : (rest.take (most - ds.length)).takeWhile Digits.isDigit = [] := by
    rcases h.ends with hlength | ⟨-, hrest⟩
    · simp [hlength]
    · exact takeWhile_take_of_startsWithoutDigit hrest _
  rw [List.take_append, List.take_of_length_le hfit, List.takeWhile_append_of_pos h.digits, hrest,
    List.append_nil]

theorem eq_of_readCount? (h : DigitRun most ds rest)
    (hread : readCount? most (ds ++ rest) = some (n, cs)) : n = Digits.value ds ∧ cs = rest := by
  unfold readCount? at hread
  rw [h.takeWhile_take] at hread
  simp only [List.drop_left] at hread
  split at hread
  · cases hread
  · cases hread
    exact ⟨rfl, rfl⟩

/-- What is no digit is not dropped in front of one. -/
theorem dropWhile (h : DigitRun most ds rest) {p : Char → Bool}
    (hp : ∀ c, Digits.isDigit c = true → p c = false) : (ds ++ rest).dropWhile p = ds ++ rest := by
  obtain ⟨d, ds', hds⟩ := List.exists_cons_of_ne_nil h.nonempty
  have hd : p d = false := hp d (h.digits d (hds ▸ List.mem_cons_self))
  rw [hds, List.cons_append, List.dropWhile_cons_of_neg (by simp [hd])]

theorem trimStart (h : DigitRun most ds rest) : Text.trimStart (ds ++ rest) = ds ++ rest :=
  h.dropWhile fun _ => Text.isBlank_of_isDigit

theorem eq_of_readNumber? (h : DigitRun most ds rest)
    (hread : readNumber? most (ds ++ rest) = some (n, cs)) : n = Digits.value ds ∧ cs = rest := by
  rw [readNumber?, h.trimStart] at hread
  exact h.eq_of_readCount? hread

/-- The number that is read may be given a sign. -/
theorem eq_of_map_readCount? {k : Int} (h : DigitRun most ds rest) (sign : Nat → Int)
    (hread : (readCount? most (ds ++ rest)).map (fun (n, rest) => (sign n, rest)) = some (k, cs)) :
    k = sign (Digits.value ds) ∧ cs = rest := by
  obtain ⟨⟨n, cs'⟩, hcount, heq⟩ := Option.map_eq_some_iff.1 hread
  cases heq
  obtain ⟨rfl, rfl⟩ := h.eq_of_readCount? hcount
  exact ⟨rfl, rfl⟩

end DigitRun

/-! ## Years -/

/-- Before digits there is no sign, so a year has four of them at most. -/
theorem DigitRun.readYear?_eq {most : Nat} {ds rest : List Char} (h : DigitRun most ds rest) :
    readYear? (ds ++ rest) = (readCount? 4 (ds ++ rest)).map fun (n, rest) => ((n : Int), rest) := by
  have hdigit : ∀ {c cs}, ds ++ rest = c :: cs → Digits.isDigit c = true := by
    intro c cs hcons
    obtain ⟨d, ds', hds⟩ := List.exists_cons_of_ne_nil h.nonempty
    rw [hds] at hcons
    cases hcons
    exact h.digits c (hds ▸ List.mem_cons_self)
  rw [readYear?, h.trimStart]
  split
  · rename_i hcons
    exact absurd (hdigit hcons) (by decide)
  · rename_i hcons
    exact absurd (hdigit hcons) (by decide)
  · rfl

/-- A year of four digits ends after them; one with a sign takes all digits that there are. -/
theorem eq_of_readYear? {year n : Int} {rest cs : List Char}
    (hyear : 0 ≤ year ∧ year ≤ 9999 ∨ startsWithoutDigit rest = true)
    (h : readYear? (yearText year ++ rest) = some (n, cs)) : n = year ∧ cs = rest := by
  by_cases hplain : 0 ≤ year ∧ year ≤ 9999
  · have hrun : DigitRun 4 (Digits.padded 4 year.natAbs) rest :=
      .padded (by decide) (by omega) rest
    rw [yearText, if_pos hplain, hrun.readYear?_eq] at h
    obtain ⟨rfl, rfl⟩ := hrun.eq_of_map_readCount? (fun k => k) h
    rw [value_padded]
    exact ⟨by omega, rfl⟩
  · have hrun : DigitRun (Digits.padded 4 year.natAbs ++ rest).length
        (Digits.padded 4 year.natAbs) rest := by
      refine ⟨fun c hc => isDigit_of_mem_padded hc, padded_ne_nil (by decide),
        .inr ⟨?_, hyear.resolve_left hplain⟩⟩
      rw [List.length_append]
      exact Nat.le_add_right _ _
    rw [yearText, if_neg hplain, readYear?] at h
    by_cases hneg : year < 0
    · rw [if_pos hneg, List.cons_append, Text.trimStart_cons (by decide)] at h
      obtain ⟨rfl, rfl⟩ := hrun.eq_of_map_readCount? (fun k => -k) h
      rw [value_padded]
      exact ⟨by omega, rfl⟩
    · rw [if_neg hneg, List.cons_append, Text.trimStart_cons (by decide)] at h
      obtain ⟨rfl, rfl⟩ := hrun.eq_of_map_readCount? (fun k => k) h
      rw [value_padded]
      exact ⟨by omega, rfl⟩

/-! ## Names -/

theorem beginsWith_append (word cs : List Char) : beginsWith word (word ++ cs) = true := by
  simp [beginsWith]

theorem beginsWith_append_of_le {word cs : List Char} (h : word.length ≤ cs.length)
    (rest : List Char) : beginsWith word (cs ++ rest) = beginsWith word cs := by
  have hlength : word.length ≤ (cs ++ rest).length := by
    rw [List.length_append]
    omega
  simp only [beginsWith, h, hlength, List.take_append_of_le_length h]

theorem length_monthAbbreviation : ∀ i < 12, (monthAbbreviation (i + 1)).length = 3 := by
  decide

theorem find?_monthAbbreviation : ∀ i < 12, (List.range 12).find? (fun j =>
    beginsWith (monthAbbreviation (j + 1)) (monthAbbreviation (i + 1))) = some i := by
  decide

theorem readMonthAbbreviation?_write {month : Nat} (hleast : 1 ≤ month) (hgreatest : month ≤ 12)
    (rest : List Char) :
    readMonthAbbreviation? (monthAbbreviation month ++ rest) = some (month, rest) := by
  obtain ⟨i, rfl⟩ : ∃ i, month = i + 1 := ⟨month - 1, by omega⟩
  have hi : i < 12 := by omega
  have hlength := length_monthAbbreviation i hi
  have hfind : (List.range 12).find? (fun j =>
      beginsWith (monthAbbreviation (j + 1)) (monthAbbreviation (i + 1) ++ rest)) = some i := by
    rw [← find?_monthAbbreviation i hi]
    refine List.find?_congr fun j hj => ?_
    have hj := length_monthAbbreviation j (List.mem_range.1 hj)
    rw [beginsWith_append_of_le (by omega)]
  rw [readMonthAbbreviation?, hfind]
  simp [← hlength]

theorem readMonthName?_write {month : Nat} (hleast : 1 ≤ month) (hgreatest : month ≤ 12)
    (rest : List Char) : readMonthName? (monthName month ++ rest) = some (month, rest) := by
  have hname : monthName month ++ rest =
      monthAbbreviation month ++ ((monthName month).drop 3 ++ rest) := by
    rw [← List.append_assoc, monthAbbreviation, List.take_append_drop]
  rw [readMonthName?, hname, readMonthAbbreviation?_write hleast hgreatest]
  simp [beginsWith_append]

theorem readHalf?_write {hour : Nat} (h : hour < 24) (rest : List Char) :
    readHalf? ((if hour < 12 then "am" else "pm").toList ++ rest) = some (hour / 12, rest) := by
  have ham : "am".toList = ['a', 'm'] := by decide
  have hpm : "pm".toList = ['p', 'm'] := by decide
  by_cases hnoon : hour < 12
  · rw [if_pos hnoon, ham, readHalf?, if_pos (beginsWith_append _ rest), Nat.div_eq_of_lt hnoon]
    rfl
  · have hhalf : hour / 12 = 1 := by omega
    rw [if_neg hnoon, hpm, readHalf?, beginsWith_append_of_le (by decide), if_neg (by decide),
      if_pos (beginsWith_append _ rest), hhalf]
    rfl

/-! ## Offsets -/

theorem readTwo?_padded {n : Nat} (hn : n < 100) (rest : List Char) :
    readTwo? (Digits.padded 2 n ++ rest) = some (n, rest) := by
  have hvalue := value_padded 2 n
  have hdigits : ∀ c ∈ Digits.padded 2 n, Digits.isDigit c = true :=
    (DigitRun.padded (by decide) hn rest).digits
  obtain ⟨a, b, hab⟩ := List.length_eq_two.1 (length_padded_of_lt (by decide) hn)
  rw [hab] at hvalue hdigits ⊢
  have ha : Digits.isDigit a = true := hdigits a (by simp)
  have hb : Digits.isDigit b = true := hdigits b (by simp)
  simp [readTwo?, ha, hb, hvalue]

theorem isOffset_iff {offset : Int} :
    isOffset offset = true ↔ -86400 < offset ∧ offset < 86400 := by
  rw [isOffset, Bool.and_eq_true_iff, decide_eq_true_iff, decide_eq_true_iff]
  rfl

theorem readOffsetSign?_write (negative : Prop) [Decidable negative] (cs : List Char) :
    readOffsetSign? (Text.trimStart ((if negative then '-' else '+') :: cs)) =
      some (decide negative, cs) := by
  split
  · rename_i h
    rw [Text.trimStart_cons (by decide), decide_eq_true h]
    rfl
  · rename_i h
    rw [Text.trimStart_cons (by decide), decide_eq_false h]
    rfl

theorem readOffset?_write {offset : Int} (h : isOffset offset = true) (rest : List Char) :
    readOffset? (offsetText [] offset ++ rest) = some (roundedOffset offset, rest) := by
  obtain ⟨hleast, hgreatest⟩ := isOffset_iff.1 h
  generalize hminutes : (offset.natAbs + 30) / 60 = minutes
  have hhours : minutes / 60 < 100 := by omega
  have hrest : minutes % 60 < 100 := by omega
  have hdrop : (Digits.padded 2 (minutes % 60) ++ rest).dropWhile
      (fun c => c = ':' || Text.isBlank c) = Digits.padded 2 (minutes % 60) ++ rest := by
    refine (DigitRun.padded (by decide) hrest rest).dropWhile fun c hc => ?_
    have hcolon : c ≠ ':' := fun hcolon => absurd (hcolon ▸ hc) (by decide)
    simp [Text.isBlank_of_isDigit hc, hcolon]
  have hless : minutes % 60 < 60 := by omega
  have hseconds : (minutes / 60 : Nat) * 3600 + (minutes % 60 : Nat) * 60 = minutes * 60 := by omega
  rw [offsetText, roundedOffset, hminutes, List.append_nil, List.append_assoc, List.cons_append,
    readOffset?, readOffsetSign?_write]
  simp only [Option.bind_eq_bind, Option.bind_some, readTwo?_padded hhours, hdrop,
    readTwo?_padded hrest, if_pos hless]
  norm_cast
  rw [hseconds]
  simp

/-! ## Numbers that set fields -/

/-- A number of two digits sets its field. -/
theorem eq_of_readInto?_padded {set : DateFields → Nat → Option DateFields} {n : Nat}
    {f f' : DateFields} {rest cs : List Char} (hn : n < 100)
    (h : readInto? set (readNumber? 2 (Digits.padded 2 n ++ rest)) f = some (f', cs)) :
    set f n = some f' ∧ cs = rest := by
  obtain ⟨k, hread, hset⟩ := readInto?_eq_some h
  obtain ⟨rfl, rfl⟩ := (DigitRun.padded (by decide) hn rest).eq_of_readNumber? hread
  rw [value_padded] at hset
  exact ⟨hset, rfl⟩

/-- A number of one digit or two sets its field, if no other digit is behind a single one. -/
theorem eq_of_readInto?_text {set : DateFields → Nat → Option DateFields} {n : Nat}
    {f f' : DateFields} {rest cs : List Char} (hn : n < 100)
    (hends : 10 ≤ n ∨ startsWithoutDigit rest = true)
    (h : readInto? set (readNumber? 2 (Digits.text n ++ rest)) f = some (f', cs)) :
    set f n = some f' ∧ cs = rest := by
  obtain ⟨k, hread, hset⟩ := readInto?_eq_some h
  obtain ⟨rfl, rfl⟩ := (DigitRun.text hn hends).eq_of_readNumber? hread
  rw [value_text] at hset
  exact ⟨hset, rfl⟩

/-! ## Written pieces hold no blanks -/

theorem isBlank_of_mem_padded {width n : Nat} {c : Char} (h : c ∈ Digits.padded width n) :
    Text.isBlank c = false :=
  Text.isBlank_of_isDigit (isDigit_of_mem_padded h)

theorem isBlank_of_mem_text {n : Nat} {c : Char} (h : c ∈ Digits.text n) :
    Text.isBlank c = false :=
  Text.isBlank_of_isDigit (isDigit_of_mem_text h)

theorem isBlank_of_mem_yearText {year : Int} {c : Char} (h : c ∈ yearText year) :
    Text.isBlank c = false := by
  unfold yearText at h
  split at h
  · exact isBlank_of_mem_padded h
  · rcases List.mem_cons.1 h with rfl | h
    · split <;> decide
    · exact isBlank_of_mem_padded h

theorem isBlank_of_mem_zoneName {offset : Int} {c : Char} (h : c ∈ zoneName offset) :
    Text.isBlank c = false := by
  simp only [zoneName, List.mem_append, List.mem_cons] at h
  rcases h with ((rfl | h) | rfl | h) | h
  · split <;> decide
  · exact isBlank_of_mem_padded h
  · decide
  · exact isBlank_of_mem_padded h
  · split at h
    · cases h
    · rcases List.mem_cons.1 h with rfl | h
      · decide
      · exact isBlank_of_mem_padded h

theorem isBlank_of_mem_offsetText {offset : Int} {c : Char} (h : c ∈ offsetText [] offset) :
    Text.isBlank c = false := by
  simp only [offsetText, List.mem_append, List.mem_cons, List.append_nil] at h
  rcases h with (rfl | h) | h
  · split <;> decide
  · exact isBlank_of_mem_padded h
  · exact isBlank_of_mem_padded h

theorem isBlank_of_mem_all {cs : List Char} (h : cs.all (!Text.isBlank ·) = true) {c : Char}
    (hc : c ∈ cs) : Text.isBlank c = false := by
  simpa using List.all_eq_true.1 h c hc

theorem isBlank_of_mem_monthName {month : Nat} (h : month ≤ 12) {c : Char}
    (hc : c ∈ monthName month) : Text.isBlank c = false := by
  have hall : ∀ month ≤ 12, (monthName month).all (!Text.isBlank ·) = true := by decide
  exact isBlank_of_mem_all (hall month h) hc

theorem DatePart.isBlank_of_mem_write {m : Moment} {p : DatePart} {c : Char}
    (h : c ∈ p.write m) : Text.isBlank c = false := by
  have hmonth : m.date.month ≤ 12 := m.date.isDay.2.2.2.1
  cases p with
  | year => exact isBlank_of_mem_yearText h
  | monthName => exact isBlank_of_mem_monthName hmonth h
  | monthAbbreviation => exact isBlank_of_mem_monthName hmonth (List.mem_of_mem_take h)
  | shortYear | month | day | hour | hour12 | minute | second | millisecond =>
    exact isBlank_of_mem_padded h
  | bareDay | bareHour | bareHour12 => exact isBlank_of_mem_text h
  | zoneName => exact isBlank_of_mem_zoneName h
  | zoneOffset => exact isBlank_of_mem_offsetText h
  | halfDay =>
    simp only [write] at h
    split at h
    · exact isBlank_of_mem_all (by decide) h
    · exact isBlank_of_mem_all (by decide) h

theorem DatePart.write_ne_nil (m : Moment) (p : DatePart) : p.write m ≠ [] := by
  obtain ⟨-, -, hleast, hgreatest, -, -⟩ := m.date.isDay
  have hname : ∀ month ≤ 12, 1 ≤ month →
      Calendar.monthName month ≠ [] ∧ Calendar.monthAbbreviation month ≠ [] := by decide
  cases p with
  | year =>
    simp only [write, yearText]
    split
    · exact padded_ne_nil (by decide)
    · exact List.cons_ne_nil _ _
  | monthName => exact (hname _ hgreatest hleast).1
  | monthAbbreviation => exact (hname _ hgreatest hleast).2
  | shortYear | month | day | hour | hour12 | minute | second | millisecond =>
    exact padded_ne_nil (by decide)
  | bareDay | bareHour | bareHour12 => exact Nat.toDigits_ne_nil
  | zoneName | zoneOffset => exact List.cons_ne_nil _ _
  | halfDay =>
    simp only [write]
    split <;> decide

/-- A piece behind which there may be more is not trimmed. -/
theorem DatePart.trimStart_write (m : Moment) (p : DatePart) (rest : List Char) :
    Text.trimStart (p.write m ++ rest) = p.write m ++ rest := by
  obtain ⟨c, cs, hcs⟩ := List.exists_cons_of_ne_nil (p.write_ne_nil m)
  have hc : Text.isBlank c = false := isBlank_of_mem_write (hcs ▸ List.mem_cons_self)
  rw [hcs, List.cons_append, Text.trimStart_cons hc]

/-! ## Parts -/

theorem clockHour_mod (hour : Nat) : clockHour hour % 12 = hour % 12 := by
  unfold clockHour
  split <;> omega

theorem clockHour_lt (hour : Nat) : clockHour hour < 100 := by
  unfold clockHour
  split <;> omega

theorem Calendar.Date.day_le (d : Date) : d.day ≤ 31 := by
  obtain ⟨-, -, -, -, -, hday⟩ := d.isDay
  have hdays : daysInMonth d.year d.month ≤ 31 := by
    unfold daysInMonth
    split_ifs <;> decide
  omega

theorem Calendar.Date.day_lt (d : Date) : d.day < 100 := by
  have hday := d.day_le
  omega

theorem Calendar.Moment.WellFormed.shownSecond_le {m : Moment} (h : m.WellFormed) :
    m.time.shownSecond ≤ 60 := by
  have hsecond := h.second
  have hleap := h.nanosecond
  unfold TimeOfDay.shownSecond
  omega

theorem Calendar.Moment.WellFormed.shownSecond_lt {m : Moment} (h : m.WellFormed) :
    m.time.shownSecond < 100 := by
  have hsecond := h.shownSecond_le
  omega

namespace DatePart

/-- Is a part written as a number that would go on with a digit behind it?  The count of its digits
is not fixed then: a number without zeros in front that has one digit, or a year with a sign. -/
def isOpen (m : Moment) : DatePart → Bool
  | .year => m.date.year < 0 || 9999 < m.date.year
  | .bareDay => m.date.day < 10
  | .bareHour => m.time.hour < 10
  | .bareHour12 => clockHour m.time.hour < 10
  | _ => false

/-- A part that is read from what it writes sets what it records and takes just that. -/
theorem read?_write {m : Moment} {f f' : DateFields} {rest cs : List Char} (hm : m.WellFormed)
    {p : DatePart} (hnumber : p.isOpen m = true → startsWithoutDigit rest = true)
    (hname : p = .zoneName → rest.head?.all Text.isBlank = true)
    (h : p.read? f (p.write m ++ rest) = some (f', cs)) : f' = p.record m f ∧ cs = rest := by
  obtain ⟨-, -, hleast, hgreatest, -, -⟩ := m.date.isDay
  have hmonth : m.date.month < 100 := by omega
  have hhour : m.time.hour < 100 := by have := hm.hour; omega
  have hminute : m.time.minute < 100 := by have := hm.minute; omega
  have hends : ∀ {n : Nat}, (n < 10 → p.isOpen m = true) →
      10 ≤ n ∨ startsWithoutDigit rest = true :=
    fun hopen => or_iff_not_imp_left.2 fun hn => hnumber (hopen (by omega))
  cases p with
  | year =>
    obtain ⟨n, hread, hset⟩ := readInto?_eq_some h
    have hends : 0 ≤ m.date.year ∧ m.date.year ≤ 9999 ∨ startsWithoutDigit rest = true :=
      or_iff_not_imp_left.2 fun hplain => hnumber (by simp [isOpen]; omega)
    obtain ⟨rfl, rfl⟩ := eq_of_readYear? hends hread
    exact ⟨DateFields.eq_of_setYear? hset, rfl⟩
  | shortYear =>
    have hyear : (m.date.year.emod 100).toNat < 100 := by
      change (m.date.year % 100).toNat < 100
      omega
    obtain ⟨hset, rfl⟩ := eq_of_readInto?_padded hyear h
    exact ⟨DateFields.eq_of_setShortYear? hset, rfl⟩
  | monthName =>
    obtain ⟨n, hread, hset⟩ := readInto?_eq_some h
    rw [write, readMonthName?_write hleast hgreatest] at hread
    cases hread
    exact ⟨DateFields.eq_of_setMonth? hset, rfl⟩
  | monthAbbreviation =>
    obtain ⟨n, hread, hset⟩ := readInto?_eq_some h
    rw [write, readMonthAbbreviation?_write hleast hgreatest] at hread
    cases hread
    exact ⟨DateFields.eq_of_setMonth? hset, rfl⟩
  | month =>
    obtain ⟨hset, rfl⟩ := eq_of_readInto?_padded hmonth h
    exact ⟨DateFields.eq_of_setMonth? hset, rfl⟩
  | day =>
    obtain ⟨hset, rfl⟩ := eq_of_readInto?_padded m.date.day_lt h
    exact ⟨DateFields.eq_of_setDay? hset, rfl⟩
  | bareDay =>
    obtain ⟨hset, rfl⟩ := eq_of_readInto?_text m.date.day_lt (hends (by simp [isOpen])) h
    exact ⟨DateFields.eq_of_setDay? hset, rfl⟩
  | hour =>
    obtain ⟨hset, rfl⟩ := eq_of_readInto?_padded hhour h
    exact ⟨(DateFields.eq_of_setHour? hset).2, rfl⟩
  | bareHour =>
    obtain ⟨hset, rfl⟩ := eq_of_readInto?_text hhour (hends (by simp [isOpen])) h
    exact ⟨(DateFields.eq_of_setHour? hset).2, rfl⟩
  | hour12 =>
    obtain ⟨hset, rfl⟩ := eq_of_readInto?_padded (clockHour_lt m.time.hour) h
    rw [DateFields.eq_of_setClockHour? hset, clockHour_mod]
    exact ⟨rfl, rfl⟩
  | bareHour12 =>
    have hhour12 := hends (n := clockHour m.time.hour) (by simp [isOpen])
    obtain ⟨hset, rfl⟩ := eq_of_readInto?_text (clockHour_lt m.time.hour) hhour12 h
    rw [DateFields.eq_of_setClockHour? hset, clockHour_mod]
    exact ⟨rfl, rfl⟩
  | minute =>
    obtain ⟨hset, rfl⟩ := eq_of_readInto?_padded hminute h
    exact ⟨(DateFields.eq_of_setMinute? hset).2, rfl⟩
  | second =>
    obtain ⟨hset, rfl⟩ := eq_of_readInto?_padded hm.shownSecond_lt h
    exact ⟨(DateFields.eq_of_setSecond? hset).2, rfl⟩
  | millisecond =>
    have hmillisecond : m.time.fraction / 1000000 < 10 ^ 3 := by
      unfold TimeOfDay.fraction
      omega
    have hlength := length_padded_of_lt (by decide) hmillisecond
    have htake : (Digits.padded 3 (m.time.fraction / 1000000) ++ rest).take 3 = _ :=
      List.take_left' hlength
    have hdrop : (Digits.padded 3 (m.time.fraction / 1000000) ++ rest).drop 3 = rest :=
      List.drop_left' hlength
    simp only [read?, write, htake, hdrop, value_padded] at h
    split at h
    · obtain ⟨g, hset, heq⟩ := Option.map_eq_some_iff.1 h
      cases heq
      exact ⟨DateFields.eq_of_map_setField? hset, rfl⟩
    · cases h
  | zoneName =>
    have htake : ∀ c ∈ Calendar.zoneName m.offset, (!Text.isBlank c) = true :=
      fun c hc => by simp [isBlank_of_mem_zoneName hc]
    have hrest : rest.dropWhile (!Text.isBlank ·) = rest := by
      cases rest with
      | nil => rfl
      | cons c rest =>
        have hc : Text.isBlank c = true := by simpa using hname rfl
        exact List.dropWhile_cons_of_neg (by simp [hc])
    simp only [read?, write, List.dropWhile_append_of_pos htake, hrest] at h
    cases h
    exact ⟨rfl, rfl⟩
  | zoneOffset =>
    obtain ⟨n, hread, hset⟩ := readInto?_eq_some h
    rw [write, readOffset?_write hm.offset] at hread
    cases hread
    exact ⟨DateFields.eq_of_map_setField? hset, rfl⟩
  | halfDay =>
    obtain ⟨n, hread, hset⟩ := readInto?_eq_some h
    rw [write, readHalf?_write hm.hour] at hread
    cases hread
    exact ⟨DateFields.eq_of_map_setField? hset, rfl⟩

end DatePart

end Instrument
