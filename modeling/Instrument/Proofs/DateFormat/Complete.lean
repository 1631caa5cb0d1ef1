/-
# Complete templates

A template is complete if its parts tell a date and a time to the second, in some way, and each of them
is of fixed width or is read to its own end (`DateFormat.Complete`).  Such a template reads every moment
that it writes whole: parts may be repeated and stand in any order, next to each other or with text of
any kind between them.

That a field is set twice does no harm, since it is set to the same.  So a part always reads what it
wrote (`DatePart.isSome_read?`), and what it sets then is known already (`DatePart.read?_write`); the
fields that are set in the end are those of the moment, and they make it up again
(`DateFields.Of.moment?_eq`, `date_restored`).
-/
import Instrument.Proofs.DateFormat.Rendering

namespace Instrument

open Calendar Number

/-! ## Fields set again -/

namespace DateFields

/-- A field can be set to what it was set to before. -/
theorem isSome_setField? {α : Type} [DecidableEq α] {old : Option α} {new : α}
    (h : ∀ v ∈ old, v = new) : (setField? old new).isSome = true := by
  cases old with
  | none => rfl
  | some v => rw [setField?, if_pos (h v rfl)]; rfl

theorem isSome_guarded_setField? {α β : Type} [DecidableEq α] {P : Prop} [Decidable P]
    {old : Option α} {new : α} {g : Option α → β} (hP : P) (h : ∀ v ∈ old, v = new) :
    (if P then (setField? old new).map g else Option.none).isSome = true := by
  rw [if_pos hP, Option.isSome_map]
  exact isSome_setField? h

end DateFields

theorem isSome_readInto? {α : Type} {set : DateFields → α → Option DateFields} {n : α}
    {rest : List Char} {read : Option (α × List Char)} {f : DateFields}
    (hread : read = some (n, rest)) (hset : (set f n).isSome = true) :
    (readInto? set read f).isSome = true := by
  obtain ⟨g, hg⟩ := Option.isSome_iff_exists.1 hset
  rw [hread, readInto?]
  simp [hg]

/-! ## Numbers -/

namespace DigitRun

variable {most : Nat} {ds rest : List Char}

theorem readCount?_eq (h : DigitRun most ds rest) (hlength : ds.length ≤ 18) :
    readCount? most (ds ++ rest) = some (Digits.value ds, rest) := by
  have hvalue : Digits.value ds < 10 ^ 18 :=
    lt_of_lt_of_le (value_lt h.digits) (Nat.pow_le_pow_right (by decide) hlength)
  have hhas : (Bounds.signed 64).has (Digits.value ds) = true := by
    refine Bounds.has_iff.2 ⟨?_, ?_⟩
    · have hleast : (Bounds.signed 64).least = -9223372036854775808 := rfl
      omega
    · have hgreatest : (Bounds.signed 64).greatest = 9223372036854775807 := rfl
      omega
  have hne : ds.isEmpty = false := by simpa using h.nonempty
  rw [readCount?, h.takeWhile_take]
  simp only [hne, hhas, List.drop_left]
  rfl

theorem readNumber?_eq (h : DigitRun most ds rest) (hlength : ds.length ≤ 18) :
    readNumber? most (ds ++ rest) = some (Digits.value ds, rest) := by
  rw [readNumber?, h.trimStart, h.readCount?_eq hlength]

end DigitRun

theorem readNumber?_padded {n : Nat} (hn : n < 100) (rest : List Char) :
    readNumber? 2 (Digits.padded 2 n ++ rest) = some (n, rest) := by
  have hlength : (Digits.padded 2 n).length ≤ 18 := by
    rw [length_padded_of_lt (by decide) hn]
    decide
  rw [(DigitRun.padded (by decide) hn rest).readNumber?_eq hlength, value_padded]

theorem readYear?_write {year : Int} (hleast : 0 ≤ year) (hgreatest : year ≤ 9999)
    (rest : List Char) : readYear? (yearText year ++ rest) = some (year, rest) := by
  have hrun : DigitRun 4 (Digits.padded 4 year.natAbs) rest := .padded (by decide) (by omega) rest
  have hlength : (Digits.padded 4 year.natAbs).length ≤ 18 := by
    rw [length_padded_of_lt (by decide) (by omega)]
    decide
  have hyear : (year.natAbs : Int) = year := by omega
  rw [yearText, if_pos ⟨hleast, hgreatest⟩, hrun.readYear?_eq, hrun.readCount?_eq hlength,
    value_padded, Option.map_some]
  exact congrArg (fun n => some (n, rest)) hyear

theorem clockHour_mem (hour : Nat) : 1 ≤ clockHour hour ∧ clockHour hour ≤ 12 := by
  unfold clockHour
  split <;> omega

namespace DatePart

/-- Is a part of fixed width, or read to its own end, and set a field? -/
def isDefinite : DatePart → Bool
  | .bareDay | .bareHour | .bareHour12 | .zoneName => false
  | _ => true

/-- **A part reads what it wrote**, whatever stands behind it. -/
theorem isSome_read? {m : Moment} {f : DateFields} (hm : m.WellFormed) (hof : f.Of m)
    (hleast : 0 ≤ m.date.year) (hgreatest : m.date.year ≤ 9999) {p : DatePart}
    (hp : p.isDefinite = true) (rest : List Char) :
    (p.read? f (p.write m ++ rest)).isSome = true := by
  obtain ⟨-, -, hmonth, hmonth', hday, -⟩ := m.date.isDay
  cases p with
  | year =>
    have hhas : (Bounds.signed 32).has m.date.year = true := by
      have hsigned : Bounds.signed 32 = ⟨-2147483648, 2147483647⟩ := rfl
      rw [hsigned, Bounds.has_iff]
      constructor <;> dsimp only <;> omega
    exact isSome_readInto? (readYear?_write hleast hgreatest rest)
      (DateFields.isSome_guarded_setField? hhas hof.year)
  | shortYear =>
    have hyear : (m.date.year.emod 100).toNat < 100 := by
      change (m.date.year % 100).toNat < 100
      omega
    exact isSome_readInto? (readNumber?_padded hyear rest)
      (DateFields.isSome_guarded_setField? hyear hof.shortYear)
  | monthName =>
    exact isSome_readInto? (readMonthName?_write hmonth hmonth' rest)
      (DateFields.isSome_guarded_setField? ⟨hmonth, hmonth'⟩ hof.month)
  | monthAbbreviation =>
    exact isSome_readInto? (readMonthAbbreviation?_write hmonth hmonth' rest)
      (DateFields.isSome_guarded_setField? ⟨hmonth, hmonth'⟩ hof.month)
  | month =>
    exact isSome_readInto? (readNumber?_padded (by omega) rest)
      (DateFields.isSome_guarded_setField? ⟨hmonth, hmonth'⟩ hof.month)
  | day =>
    exact isSome_readInto? (readNumber?_padded m.date.day_lt rest)
      (DateFields.isSome_guarded_setField? ⟨hday, m.date.day_le⟩ hof.day)
  | hour =>
    have hhour := hm.hour
    refine isSome_readInto? (readNumber?_padded (by omega) rest) ?_
    obtain ⟨v, hv⟩ := Option.isSome_iff_exists.1 (DateFields.isSome_setField? hof.half)
    rw [DateFields.setHour?, if_pos hhour, DateFields.setHalf?, hv]
    exact (Option.isSome_map ..).trans (DateFields.isSome_setField? hof.hour12)
  | hour12 =>
    refine isSome_readInto? (readNumber?_padded (clockHour_lt m.time.hour) rest) ?_
    rw [DateFields.setClockHour?, clockHour_mod, if_pos (clockHour_mem m.time.hour),
      DateFields.setHourOfHalf?, Option.isSome_map]
    exact DateFields.isSome_setField? hof.hour12
  | minute =>
    have hminute := hm.minute
    exact isSome_readInto? (readNumber?_padded (by omega) rest)
      (DateFields.isSome_guarded_setField? hminute hof.minute)
  | second =>
    exact isSome_readInto? (readNumber?_padded hm.shownSecond_lt rest)
      (DateFields.isSome_guarded_setField? hm.shownSecond_le hof.second)
  | millisecond =>
    have hmillisecond : m.time.fraction / 1000000 < 10 ^ 3 := by
      unfold TimeOfDay.fraction
      omega
    have hlength := length_padded_of_lt (by decide) hmillisecond
    have htake : (Digits.padded 3 (m.time.fraction / 1000000) ++ rest).take 3 = _ :=
      List.take_left' hlength
    have hdigits : (Digits.padded 3 (m.time.fraction / 1000000)).all Digits.isDigit = true :=
      List.all_eq_true.2 fun c hc => isDigit_of_mem_padded hc
    simp only [read?, write, htake, hlength, hdigits, value_padded, decide_true, Bool.and_self,
      if_true, Option.isSome_map, DateFields.setNanosecond?]
    exact DateFields.isSome_setField? hof.nanosecond
  | zoneOffset =>
    refine isSome_readInto? (readOffset?_write hm.offset rest) ?_
    rw [DateFields.setOffset?, Option.isSome_map]
    exact DateFields.isSome_setField? hof.offset
  | halfDay =>
    refine isSome_readInto? (readHalf?_write hm.hour rest) ?_
    rw [DateFields.setHalf?, Option.isSome_map]
    exact DateFields.isSome_setField? hof.half
  | bareDay | bareHour | bareHour12 | zoneName => cases hp

/-- A part takes what it wrote, and sets the field to what the moment has there. -/
theorem read?_write_eq {m : Moment} {f : DateFields} (hm : m.WellFormed) (hof : f.Of m)
    (hleast : 0 ≤ m.date.year) (hgreatest : m.date.year ≤ 9999) {p : DatePart}
    (hp : p.isDefinite = true) (rest : List Char) :
    p.read? f (p.write m ++ rest) = some (p.record m f, rest) := by
  obtain ⟨⟨f', cs⟩, hread⟩ :=
    Option.isSome_iff_exists.1 (isSome_read? hm hof hleast hgreatest hp rest)
  have hclosed : p.isOpen m = true → startsWithoutDigit rest = true := by
    intro hopen
    cases p with
    | year =>
      simp only [isOpen, Bool.or_eq_true, decide_eq_true_eq] at hopen
      omega
    | bareDay | bareHour | bareHour12 => cases hp
    | _ => cases hopen
  have hname : p = .zoneName → rest.head?.all Text.isBlank = true := by
    rintro rfl
    cases hp
  obtain ⟨rfl, rfl⟩ := read?_write hm hclosed hname hread
  exact hread

end DatePart

/-! ## Templates -/

namespace DateFormat

/-- What a complete template writes is read to the end, and each part sets what it records. -/
theorem readSegments?_write_eq {m : Moment} (hm : m.WellFormed) (hleast : 0 ≤ m.date.year)
    (hgreatest : m.date.year ≤ 9999) {segments : List DateSegment}
    (hparts : ∀ p, .part p ∈ segments → p.isDefinite = true) {f : DateFields} (hof : f.Of m) :
    readSegments? segments f (segments.flatMap (·.write m)) = some (record m segments f) := by
  induction segments generalizing f with
  | nil => rfl
  | cons s rest ih =>
    have hrest : ∀ p, .part p ∈ rest → p.isDefinite = true :=
      fun p hp => hparts p (List.mem_cons_of_mem s hp)
    rw [List.flatMap_cons]
    cases s with
    | literal c =>
      rw [DateSegment.write, List.singleton_append]
      by_cases hc : Text.isBlank c = true
      · have htrim : Text.trimStart (c :: rest.flatMap (·.write m)) =
            Text.trimStart (rest.flatMap (·.write m)) := List.dropWhile_cons_of_pos hc
        rw [readSegments?_blank hc, htrim, readSegments?_trimStart]
        exact ih hrest hof
      · simp only [readSegments?, DateSegment.read?, if_neg hc]
        exact ih hrest hof
    | part p =>
      simp only [readSegments?, DateSegment.read?, DateSegment.write,
        DatePart.read?_write_eq hm hof hleast hgreatest (hparts p List.mem_cons_self)]
      exact ih hrest (hof.record p)

/-- Does a template have a part for everything that makes up a moment to the second?  Its parts are of
fixed width or read to their own end; they may be repeated. -/
structure Complete (f : DateFormat) : Prop where
  definite : ∀ p, f.Has p → p.isDefinite = true
  year : f.Has .year
  month : f.Has .month ∨ f.Has .monthName ∨ f.Has .monthAbbreviation
  day : f.Has .day
  hour : f.Has .hour ∨ f.Has .hour12 ∧ f.Has .halfDay
  minute : f.Has .minute
  second : f.Has .second

/-- Does a complete template write all of a moment?  What is below a second or beside universal time
takes a part of its own, and no part writes more than milliseconds and minutes of these. -/
structure WritesAll (f : DateFormat) (m : Moment) : Prop where
  year : 0 ≤ m.date.year ∧ m.date.year ≤ 9999
  noLeap : m.time.nanosecond < 1000000000
  fraction : m.time.nanosecond = 0 ∨ f.Has .millisecond ∧ 1000000 ∣ m.time.nanosecond
  offset : m.offset = 0 ∨ f.Has .zoneOffset ∧ 60 ∣ m.offset

end DateFormat

/-! ## The moment again -/

/-- A date of four digits is far from the ends of the calendar, in universal time as well. -/
theorem ofLocal?_self {m : Moment} (hm : m.WellFormed) (hleast : 0 ≤ m.date.year)
    (hgreatest : m.date.year ≤ 9999) : Moment.ofLocal? m.date m.time m.offset = some m := by
  obtain ⟨hhour, hminute, hsecond, -, hoffset⟩ := hm
  obtain ⟨-, -, hmonth, hmonth', hday, -⟩ := m.date.isDay
  have hday' := m.date.day_le
  obtain ⟨hoffset, hoffset'⟩ := isOffset_iff.1 hoffset
  have hdays : -1000000 ≤ m.date.dayNumber ∧ m.date.dayNumber ≤ 4000000 := by
    have hbefore : daysBeforeMonth m.date.month ≤ 400 := by
      unfold daysBeforeMonth
      omega
    simp only [Date.dayNumber, Int.fdiv_eq_ediv_of_nonneg _ (by decide : (0 : Int) ≤ 4),
      Int.fdiv_eq_ediv_of_nonneg _ (by decide : (0 : Int) ≤ 100),
      Int.fdiv_eq_ediv_of_nonneg _ (by decide : (0 : Int) ≤ 400)]
    split <;> omega
  have hleastDay : leastDay = -96465292 := by decide
  have hgreatestDay : greatestDay = 95026236 := by decide
  have huniversal : leastDay ≤ m.universalDay ∧ m.universalDay ≤ greatestDay := by
    rw [hleastDay, hgreatestDay, Moment.universalDay, secondsPerDay,
      Int.fdiv_eq_ediv_of_nonneg _ (by decide)]
    omega
  exact if_pos huniversal

namespace DateFields.Of

variable {f : DateFields} {m : Moment}

/-- Year, month and day that are set are the date. -/
theorem date?_eq (hof : f.Of m) (hyear : f.year = some m.date.year)
    (hmonth : f.month = some m.date.month) (hday : f.day = some m.date.day)
    (hleast : 0 ≤ m.date.year) : f.date? = some m.date := by
  have hresolve : f.resolveYear? = some m.date.year := by
    unfold resolveYear?
    rw [hyear]
    cases hcases : f.shortYear with
    | none => rfl
    | some r =>
      have hr : r = (m.date.year % 100).toNat := hof.shortYear r hcases
      exact if_pos ⟨hleast, by omega⟩
  rw [date?, hresolve, hmonth, hday]
  exact m.date.ofParts?_self

/-- A time that is told is the time, if the second and what is below it are set. -/
theorem time?_eq (hof : f.Of m) (hm : m.WellFormed) (hleap : m.time.nanosecond < 1000000000)
    (htime : f.time?.isSome = true) (hsecond : f.second = some m.time.shownSecond)
    (hnano : f.nanosecond.getD 0 = m.time.nanosecond) : f.time? = some m.time := by
  obtain ⟨t, ht⟩ := Option.isSome_iff_exists.1 htime
  obtain ⟨hhour, hminute, -, -⟩ := hof.eq_of_time? ht
  obtain ⟨-, -, -, -, -, -, hseconds⟩ := time?_eq_some ht
  have hshown : m.time.shownSecond = m.time.second := by
    rw [TimeOfDay.shownSecond]
    omega
  have hsmall := hm.second
  rw [hsecond, hshown, Option.getD_some, if_neg (by omega), hnano] at hseconds
  have heq : t = m.time := calc
    t = ⟨t.hour, t.minute, t.second, t.nanosecond⟩ := rfl
    _ = ⟨m.time.hour, m.time.minute, m.time.second, m.time.nanosecond⟩ := by
      rw [hhour, hminute, hseconds.1, hseconds.2]
    _ = m.time := rfl
  rw [ht, heq]

/-- An offset that is set to the minute is the offset, and none is needed for universal time. -/
theorem offsetOrZero_eq (hof : f.Of m) (hm : m.WellFormed)
    (hoffset : m.offset = 0 ∨ f.offset = some (roundedOffset m.offset) ∧ 60 ∣ m.offset) :
    f.offsetOrZero = m.offset := by
  have hwhole : 60 ∣ m.offset := hoffset.elim (fun hzero => hzero ▸ Int.dvd_zero _) And.right
  rw [offsetOrZero]
  cases hcases : f.offset with
  | none =>
    refine (hoffset.resolve_right fun hset => ?_).symm
    rw [hcases] at hset
    cases hset.1
  | some n =>
    have hn : n = m.offset := by rw [hof.offset n hcases, roundedOffset_of_dvd hwhole]
    rw [hn]
    exact if_pos hm.offset

end DateFields.Of

namespace DateFormat

/-- A complete template sets the fields of a time. -/
theorem Complete.tellsTime {f : DateFormat} (h : f.Complete) : f.TellsTime where
  hour := h.hour.imp_right fun h => .inr ⟨.inl h.1, h.2⟩
  minute := h.minute
  second _ := h.second

/-- **The fields that a complete template sets make up the moment again.** -/
theorem moment?_record {f : DateFormat} {m : Moment} (hm : m.WellFormed) (hf : f.Complete)
    (h : f.WritesAll m) : (record m f.segments .none).moment? = some m := by
  have hset : ∀ {p}, f.Has p → p.record m (record m f.segments .none) =
      record m f.segments .none := fun hp => record_of_mem hp .none
  have hof := (DateFields.Of.none m).recordAll f.segments
  have htells := hf.tellsTime.isSome_time? m
  have hnone : ¬ f.Has .millisecond → (record m f.segments .none).nanosecond = none :=
    fun hp => nanosecond_record hp .none
  generalize record m f.segments .none = fields at hset hof htells hnone ⊢
  have hdate : fields.date? = some m.date := by
    refine hof.date?_eq (congrArg DateFields.year (hset hf.year).symm) ?_
      (congrArg DateFields.day (hset hf.day).symm) h.year.1
    rcases hf.month with hp | hp | hp <;> exact congrArg DateFields.month (hset hp).symm
  have hnano : fields.nanosecond.getD 0 = m.time.nanosecond := by
    have hleap := h.noLeap
    by_cases hp : f.Has .millisecond
    · have hrecord : fields.nanosecond = some (m.time.fraction / 1000000 * 1000000) :=
        congrArg DateFields.nanosecond (hset hp).symm
      have hwhole : 1000000 ∣ m.time.nanosecond :=
        h.fraction.elim (fun hzero => hzero ▸ Nat.dvd_zero _) And.right
      rw [hrecord, Option.getD_some, TimeOfDay.fraction]
      omega
    · rw [hnone hp, h.fraction.resolve_right fun hfraction => hp hfraction.1]
      rfl
  have htime : fields.time? = some m.time :=
    hof.time?_eq hm h.noLeap htells (congrArg DateFields.second (hset hf.second).symm) hnano
  have hoffset : fields.offsetOrZero = m.offset := by
    refine hof.offsetOrZero_eq hm (h.offset.imp_right fun hoffset => ⟨?_, hoffset.2⟩)
    exact congrArg DateFields.offset (hset hoffset.1).symm
  rw [DateFields.moment?, hdate, htime, hoffset]
  exact ofLocal?_self hm h.year.1 h.year.2

end DateFormat

/-- **Dates come back through every complete template.**  What is written of a moment is read as that
moment, with its offset. -/
theorem date_restored {f : DateFormat} {m : Moment} (hm : m.WellFormed) (hf : f.Complete)
    (h : f.WritesAll m) : f.readMoment (f.write m) = .ok m := by
  have hread : f.readMoment? (f.write m) = some m := by
    rw [DateFormat.readMoment?, DateFormat.write, String.toList_ofList,
      DateFormat.readSegments?_write_eq hm h.year.1 h.year.2 (fun p hp => hf.definite p hp) (.none m)]
    exact DateFormat.moment?_record hm hf h
  rw [DateFormat.readMoment, hread]

namespace Logbook

/-- A template without separators, with parts that say the same twice and text that looks like
digits. -/
def dense : DateFormat where
  source := "%tp%tI7%tL%tB%tb%td%ty%tY%tz %%%tm%tM%tS-%tH"
  segments :=
    [.part .halfDay, .part .hour12, .literal '7', .part .millisecond, .part .monthName,
     .part .monthAbbreviation, .part .day, .part .shortYear, .part .year, .part .zoneOffset,
     .literal ' ', .literal '%', .part .month, .part .minute, .part .second, .literal '-',
     .part .hour]

/-- A moment with milliseconds, west of universal time. -/
def dusk : Moment := ⟨⟨9, 5, 1, by decide⟩, ⟨19, 3, 0, 250000000⟩, -12600⟩

end Logbook

/-- A date through a template without separators. -/
theorem date_restored_dense :
    DateFormat.read Logbook.dense.source = .ok Logbook.dense ∧ Logbook.dusk.WellFormed ∧
      Logbook.dense.Complete ∧ Logbook.dense.WritesAll Logbook.dusk ∧
      Logbook.dense.write Logbook.dusk = "pm077250MayMay01090009-0330 %050300-19" ∧
      Logbook.dense.readMoment "pm077250MayMay01090009-0330 %050300-19" = .ok Logbook.dusk := by
  have hformed : Logbook.dusk.WellFormed := by decide
  have hcomplete : Logbook.dense.Complete := by
    refine ⟨?_, by decide, by decide, by decide, by decide, by decide, by decide⟩
    intro p hp
    cases p <;> first | rfl | exact absurd hp (by decide)
  have hall : Logbook.dense.WritesAll Logbook.dusk :=
    ⟨by decide, by decide, by decide, by decide⟩
  have htext : Logbook.dense.write Logbook.dusk = "pm077250MayMay01090009-0330 %050300-19" := by
    decide
  exact ⟨rfl, hformed, hcomplete, hall, htext, htext ▸ date_restored hformed hcomplete hall⟩

end Instrument
