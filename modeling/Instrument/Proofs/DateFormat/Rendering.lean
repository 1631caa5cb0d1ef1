/-
# Dates written again

A date that is written by a template, read again and written once more gives the same text if the
template tells what it writes (`DateFormat.Tells`, `date_rerendered`).  A template may leave parts of
a date out, and what it leaves out is midnight or universal time when the text is read.  So it must
tell enough of the time, or a date must be written as it is at midnight; the name of a zone is passed
over when it is read, so the offset must be written as well, or be zero; and an offset is written to the
minute, so it must not be rounded to a whole day, or to zero from below.

Each of these is needed: `date_misrendered` has a date for each that is written in another way after
it was read.  Nothing is asked of the date: year, month and day must be told for a text to be read.
-/
import Instrument.Proofs.DateFormat.Reading
import Instrument.Proofs.Parameter.Reading

namespace Instrument

open Calendar Number

/-! ## Offsets -/

theorem natAbs_roundedOffset (offset : Int) :
    (roundedOffset offset).natAbs = (offset.natAbs + 30) / 60 * 60 := by
  unfold roundedOffset
  split <;> omega

theorem isOffset_roundedOffset {offset : Int} (hleast : -86370 < offset)
    (hgreatest : offset < 86370) : isOffset (roundedOffset offset) = true := by
  have habs := natAbs_roundedOffset offset
  exact isOffset_iff.2 ⟨by omega, by omega⟩

theorem roundedOffset_of_dvd {offset : Int} (h : 60 ∣ offset) : roundedOffset offset = offset := by
  unfold roundedOffset
  split <;> omega

/-- A rounded offset is written as the offset is, if no minus sign is lost. -/
theorem offsetText_roundedOffset {offset : Int} (h : ¬ (-30 < offset ∧ offset < 0))
    (colon : List Char) : offsetText colon (roundedOffset offset) = offsetText colon offset := by
  have hminutes : ((roundedOffset offset).natAbs + 30) / 60 = (offset.natAbs + 30) / 60 := by
    rw [natAbs_roundedOffset]
    omega
  have hsign : roundedOffset offset < 0 ↔ offset < 0 := by
    unfold roundedOffset
    split <;> omega
  unfold offsetText
  rw [hminutes]
  simp only [hsign]

/-! ## What the fields of a moment make up -/

namespace DateFields

variable {f : DateFields} {m : Moment} {t : TimeOfDay}

namespace Of

theorem eq_of_time? (hof : f.Of m) (h : f.time? = some t) :
    t.hour = m.time.hour ∧ t.minute = m.time.minute ∧ t.shownSecond = f.second.getD 0 ∧
      t.fraction = f.nanosecond.getD 0 := by
  obtain ⟨half, hour, hhalf, hhour, hminute, heq, hseconds⟩ := time?_eq_some h
  have hhour : t.hour = m.time.hour := by
    rw [heq, hof.half half hhalf, hof.hour12 hour hhour]
    omega
  have hnano : f.nanosecond.getD 0 < 1000000000 := by
    cases hcases : f.nanosecond with
    | none => decide
    | some n =>
      rw [Option.getD_some, hof.nanosecond n hcases, TimeOfDay.fraction]
      omega
  refine ⟨hhour, hof.minute _ hminute, ?_⟩
  unfold TimeOfDay.shownSecond TimeOfDay.fraction
  split at hseconds <;> omega

theorem eq_of_date? {d : Date} (hof : f.Of m) (h : f.date? = some d) :
    d.month = m.date.month ∧ d.day = m.date.day := by
  obtain ⟨-, hmonth, hday⟩ := date?_eq_some h
  exact ⟨hof.month _ hmonth, hof.day _ hday⟩

end Of

end DateFields

/-! ## Parts -/

namespace DatePart

variable {m m' : Moment} {f : DateFields}

/-- Is a part one of the time of day? -/
def isTime : DatePart → Bool
  | .hour | .bareHour | .hour12 | .bareHour12 | .minute | .second | .millisecond | .halfDay => true
  | _ => false

/-- Is a part one of the date? -/
def isDate : DatePart → Bool
  | .year | .shortYear | .monthName | .monthAbbreviation | .month | .day | .bareDay => true
  | _ => false

/-- The time alone decides what a part of it writes. -/
theorem write_congr_time {p : DatePart} (hp : p.isTime = true) (h : m'.time = m.time) :
    p.write m' = p.write m := by
  cases p with
  | hour | bareHour | hour12 | bareHour12 | minute | second | millisecond | halfDay =>
    simp only [write, h]
  | _ => cases hp

/-- A part of the time that was recorded is written again if there is a time, or it was
midnight. -/
theorem write_time {p : DatePart} (hp : p.isTime = true) (hof : f.Of m) (hset : p.record m f = f)
    (hread : f.moment? = some m')
    (htime : f.time?.isSome = true ∨ p.write { m with time := .midnight } = p.write m) :
    p.write m' = p.write m := by
  obtain ⟨-, heq, -⟩ := DateFields.moment?_eq_some hread
  cases ht : f.time? with
  | none =>
    rw [ht] at htime heq
    rw [← htime.resolve_left (by decide)]
    exact write_congr_time hp heq
  | some t =>
    rw [ht] at heq
    have hm' : m'.time = t := heq
    obtain ⟨hhour, hminute, hsecond, hfraction⟩ := hof.eq_of_time? ht
    cases p with
    | hour | bareHour | hour12 | bareHour12 | halfDay => simp only [write, hm', hhour]
    | minute => simp only [write, hm', hminute]
    | second =>
      have hrecord : f.second = some m.time.shownSecond := congrArg DateFields.second hset.symm
      simp only [write, hm', hsecond, hrecord, Option.getD_some]
    | millisecond =>
      have hrecord : f.nanosecond = some (m.time.fraction / 1000000 * 1000000) :=
        congrArg DateFields.nanosecond hset.symm
      have hmilliseconds : m.time.fraction / 1000000 * 1000000 / 1000000 =
          m.time.fraction / 1000000 := by omega
      simp only [write, hm', hfraction, hrecord, Option.getD_some, hmilliseconds]
    | _ => cases hp

/-- A part of the date that was recorded is written again. -/
theorem write_date {p : DatePart} (hp : p.isDate = true) (hof : f.Of m) (hset : p.record m f = f)
    (hread : f.moment? = some m') : p.write m' = p.write m := by
  obtain ⟨hdate, -, -⟩ := DateFields.moment?_eq_some hread
  obtain ⟨hresolve, -, -⟩ := DateFields.date?_eq_some hdate
  obtain ⟨hmonth, hday⟩ := hof.eq_of_date? hdate
  cases p with
  | year =>
    have hrecord : f.year = some m.date.year := congrArg DateFields.year hset.symm
    simp only [write, DateFields.eq_of_resolveYear? hresolve hrecord]
  | shortYear =>
    have hrecord : f.shortYear = some (m.date.year.emod 100).toNat :=
      congrArg DateFields.shortYear hset.symm
    have hlast : m'.date.year % 100 = ((m.date.year % 100).toNat : Int) :=
      DateFields.mod_of_resolveYear? hresolve hrecord (by omega)
    have hmod : m'.date.year.emod 100 = m.date.year.emod 100 := by
      change m'.date.year % 100 = m.date.year % 100
      omega
    simp only [write, hmod]
  | monthName | monthAbbreviation | month => simp only [write, hmonth]
  | day | bareDay => simp only [write, hday]
  | _ => cases hp

/-- An offset that was recorded is written again if it rounds to less than a day and no minus sign is
lost. -/
theorem write_zoneOffset (hset : zoneOffset.record m f = f) (hread : f.moment? = some m')
    (hleast : -86370 < m.offset) (hgreatest : m.offset < 86370)
    (hsign : ¬ (-30 < m.offset ∧ m.offset < 0)) :
    zoneOffset.write m' = zoneOffset.write m := by
  obtain ⟨-, -, hoffset⟩ := DateFields.moment?_eq_some hread
  have hrecord : f.offset = some (roundedOffset m.offset) := congrArg DateFields.offset hset.symm
  have heq : m'.offset = roundedOffset m.offset := by
    rw [hoffset, DateFields.offsetOrZero, hrecord]
    exact if_pos (isOffset_roundedOffset hleast hgreatest)
  simp only [write, heq, offsetText_roundedOffset hsign]

/-- The name of a zone is written again if the offset is zero, or written to the minute beside
it. -/
theorem write_zoneName (hm : m.WellFormed) (hof : f.Of m) (hread : f.moment? = some m')
    (hzone : m.offset = 0 ∨ zoneOffset.record m f = f ∧ 60 ∣ m.offset) :
    zoneName.write m' = zoneName.write m := by
  obtain ⟨-, -, hoffset⟩ := DateFields.moment?_eq_some hread
  have heq : m'.offset = m.offset := by
    rw [hoffset, DateFields.offsetOrZero]
    rcases hzone with hzero | ⟨hset, hwhole⟩
    · cases hcases : f.offset with
      | none => exact hzero.symm
      | some n =>
        have hn : n = m.offset := by
          rw [hof.offset n hcases, roundedOffset_of_dvd ⟨0, hzero⟩]
        rw [hn]
        exact if_pos hm.offset
    · have hrecord : f.offset = some (roundedOffset m.offset) :=
        congrArg DateFields.offset hset.symm
      rw [hrecord, roundedOffset_of_dvd hwhole]
      exact if_pos hm.offset
  simp only [write, heq]

end DatePart

/-! ## Templates -/

namespace DateFormat

variable {f : DateFormat} {m m' : Moment}

/-- Has a template a part? -/
def Has (f : DateFormat) (p : DatePart) : Prop := .part p ∈ f.segments

instance (f : DateFormat) (p : DatePart) : Decidable (f.Has p) :=
  inferInstanceAs (Decidable (_ ∈ _))

/-- Do the parts of a template tell a time of day?  It takes an hour, in full or with the half of the
day, and a minute; and milliseconds take a second. -/
structure TellsTime (f : DateFormat) : Prop where
  hour : f.Has .hour ∨ f.Has .bareHour ∨ (f.Has .hour12 ∨ f.Has .bareHour12) ∧ f.Has .halfDay
  minute : f.Has .minute
  second : f.Has .millisecond → f.Has .second

/-- Does a template tell what it writes of a moment?  Its pieces can be told apart, and what it
leaves out is what is taken in its place. -/
structure Tells (f : DateFormat) (m : Moment) : Prop where
  separates : Separates m f.segments
  time : f.TellsTime ∨ ∀ p, f.Has p → p.write { m with time := .midnight } = p.write m
  offset : f.Has .zoneOffset →
    -86370 < m.offset ∧ m.offset < 86370 ∧ ¬ (-30 < m.offset ∧ m.offset < 0)
  zone : f.Has .zoneName → m.offset = 0 ∨ f.Has .zoneOffset ∧ 60 ∣ m.offset

/-- A template that tells a time sets what a time takes. -/
theorem TellsTime.isSome_time? (h : f.TellsTime) (m : Moment) :
    (record m f.segments .none).time?.isSome = true := by
  have hset : ∀ {p}, f.Has p → p.record m (record m f.segments .none) =
      record m f.segments .none := fun hp => record_of_mem hp .none
  generalize hfields : record m f.segments .none = fields at hset ⊢
  obtain ⟨hhalf, hhour⟩ : fields.half.isSome = true ∧ fields.hour12.isSome = true := by
    rcases h.hour with hp | hp | ⟨hp | hp, hhalf⟩
    · rw [← hset hp]; exact ⟨rfl, rfl⟩
    · rw [← hset hp]; exact ⟨rfl, rfl⟩
    · exact ⟨by rw [← hset hhalf]; rfl, by rw [← hset hp]; rfl⟩
    · exact ⟨by rw [← hset hhalf]; rfl, by rw [← hset hp]; rfl⟩
  refine DateFields.isSome_time? hhalf hhour (by rw [← hset h.minute]; rfl) fun hnano => ?_
  have hp : f.Has .millisecond := by
    by_contra hp
    have hnone := nanosecond_record (m := m) hp .none
    rw [hfields] at hnone
    rw [hnone] at hnano
    cases hnano
  rw [← hset (h.second hp)]
  rfl

/-- **What a template tells is written again as it was.** -/
theorem Tells.write_eq (htells : f.Tells m) (hm : m.WellFormed)
    (hread : f.readMoment? (f.write m) = some m') : f.write m' = f.write m := by
  obtain ⟨fields, hfields, hmoment⟩ := Option.bind_eq_some_iff.1 hread
  rw [write, String.toList_ofList] at hfields
  cases readSegments?_write hm htells.separates hfields
  have hof := (DateFields.Of.none m).recordAll f.segments
  have hset : ∀ {p}, f.Has p → p.record m (record m f.segments .none) =
      record m f.segments .none := fun hp => record_of_mem hp .none
  -- each part is written from its own fields; only those of the time need all of them
  have hpart : ∀ p, f.Has p → p.write m' = p.write m := by
    intro p hp
    cases p with
    | year | shortYear | monthName | monthAbbreviation | month | day | bareDay =>
      exact DatePart.write_date rfl hof (hset hp) hmoment
    | hour | bareHour | hour12 | bareHour12 | minute | second | millisecond | halfDay =>
      refine DatePart.write_time rfl hof (hset hp) hmoment ?_
      exact htells.time.imp (fun h => h.isSome_time? m) fun h => h _ hp
    | zoneName =>
      refine DatePart.write_zoneName hm hof hmoment ?_
      exact (htells.zone hp).imp_right fun h => ⟨hset h.1, h.2⟩
    | zoneOffset =>
      obtain ⟨hleast, hgreatest, hsign⟩ := htells.offset hp
      exact DatePart.write_zoneOffset (hset hp) hmoment hleast hgreatest hsign
  have hsegments : ∀ s ∈ f.segments, s.write m' = s.write m := by
    intro s hs
    cases s with
    | literal c => rfl
    | part p => exact hpart p hs
  rw [write, write, List.flatMap_congr hsegments]

end DateFormat

/-- **Writing a date again never changes it, if its template tells it.**  A moment is written, the
text is read, and what was read is written as that text; so a parameter that takes the text from the
wire has it for its wire text. -/
theorem date_rerendered {f : DateFormat} {m : Moment} (hm : m.WellFormed) (htells : f.Tells m) :
    (∀ m', f.readMoment? (f.write m) = some m' → f.write m' = f.write m) ∧
      ∀ (p : Parameter) (a : Argument), p.encoding = .date f → p.decode (f.write m) = .ok a →
        a.wire = f.write m := by
  refine ⟨fun m' hread => htells.write_eq hm hread, fun p a hencoding hdecode => ?_⟩
  obtain ⟨v, hvalue, hchecked⟩ := bind_eq_ok_iff.1 hdecode
  obtain ⟨m', rfl, hread⟩ :=
    Parameter.date_of_readValue? hencoding (Parameter.readValue_eq_ok_iff.1 hvalue)
  obtain ⟨-, hrender⟩ := Parameter.checked_eq_ok hchecked
  have hwire : p.render (.date m') = .ok (f.write m') := by
    simp only [Parameter.render, hencoding]
  rw [← htells.write_eq hm hread]
  exact Except.ok.inj (hrender.symm.trans hwire)

/-- A parameter without a range takes a date from the wire if its template reads one. -/
theorem Parameter.decode_date {p : Parameter} {f : DateFormat} {input : String} {m : Moment}
    (hencoding : p.encoding = .date f) (hrange : p.range = none) (hne : input ≠ "")
    (hread : f.readMoment? input = some m) : p.decode input = .ok ⟨.date m, f.write m⟩ := by
  have hkind : p.kind = .date := by simpa [Encoding.suits, hencoding] using p.encoding_suits
  have hvalue : p.readValue? input = some (.date m) := by
    simp only [readValue?, hkind, hencoding, if_neg hne, hread]
    rfl
  simp only [decode, readValue, hvalue, checked, checkRange, hrange, render, hencoding]
  rfl

namespace Logbook

/-- Dates as they are spoken, with the offset behind them. -/
def template : DateFormat where
  source := "%tb %te %tY, %tl:%tM:%tS.%tL %tp %tz"
  segments :=
    [.part .monthAbbreviation, .literal ' ', .part .bareDay, .literal ' ', .part .year, .literal ',',
     .literal ' ', .part .bareHour12, .literal ':', .part .minute, .literal ':', .part .second,
     .literal '.', .part .millisecond, .literal ' ', .part .halfDay, .literal ' ',
     .part .zoneOffset]

/-- An hour past noon, with more of a second than is written. -/
def moment : Moment := ⟨⟨2024, 3, 7, by decide⟩, ⟨13, 5, 9, 250499000⟩, 7200⟩

/-- The date of an entry. -/
def stamp : Parameter where
  name := "stamp"
  kind := .date
  range := none
  encoding := .date template
  format := some template.source
  description := none
  encoding_suits := rfl
  range_suits := rfl

end Logbook

/-- An entry of a log: what is below a millisecond is not read back, but never was written. -/
theorem date_rerendered_logbook :
    let text := "Mar 7 2024, 1:05:09.250 pm +0200"
    let read : Moment := { Logbook.moment with time := ⟨13, 5, 9, 250000000⟩ }
    DateFormat.read Logbook.template.source = .ok Logbook.template ∧
      Logbook.moment.WellFormed ∧ Logbook.template.Tells Logbook.moment ∧
      Logbook.template.write Logbook.moment = text ∧
      Logbook.template.readMoment? text = some read ∧ Logbook.template.write read = text ∧
      Logbook.stamp.decode text = .ok ⟨.date read, text⟩ := by
  intro text read
  have hformed : Logbook.moment.WellFormed := by decide
  have htells : Logbook.template.Tells Logbook.moment :=
    ⟨by decide, .inl ⟨by decide, by decide, by decide⟩, by decide, by decide⟩
  have hwritten : Logbook.template.write Logbook.moment = text := by decide
  have hread : Logbook.template.readMoment? text = some read := by decide +kernel
  obtain ⟨hwrite, -⟩ := date_rerendered hformed htells
  rw [hwritten] at hwrite
  have hagain := hwrite read hread
  have hdecode := Parameter.decode_date (p := Logbook.stamp) rfl rfl (by decide) hread
  rw [hagain] at hdecode
  exact ⟨rfl, hformed, htells, hwritten, hread, hagain, hdecode⟩

/-- A moment is written under a template, read again, and written in another way then. -/
def Misrendered (source : String) (m : Moment) : Prop :=
  ∃ f m', DateFormat.read source = .ok f ∧ m.WellFormed ∧ f.readMoment? (f.write m) = some m' ∧
    f.write m' ≠ f.write m

theorem misrendered_of {m : Moment} (f : DateFormat) (m' : Moment)
    (hsource : DateFormat.read f.source = .ok f) (hm : m.WellFormed)
    (hread : f.readMoment? (f.write m) = some m') (hne : f.write m' ≠ f.write m) :
    Misrendered f.source m :=
  ⟨f, m', hsource, hm, hread, hne⟩

namespace Logbook

/-- The start of a day in universal time. -/
def day : Moment := ⟨⟨2024, 3, 7, by decide⟩, .midnight, 0⟩

/-- The template of a day, and what is behind it. -/
def dated (source : String) (rest : List DateSegment) : DateFormat :=
  ⟨"%tY-%tm-%td " ++ source,
    [.part .year, .literal '-', .part .month, .literal '-', .part .day, .literal ' '] ++ rest⟩

end Logbook

/-- **Dates that change when they are written again**: the name of a zone alone, and beside an
offset of half a minute; a time without a minute; an offset that rounds to a day, and one that rounds
to zero from below; and pieces that cannot be told apart, a digit behind a day of one digit, one
behind a year with a sign, and a day behind a zone. -/
theorem date_misrendered :
    Misrendered "%tY-%tm-%td %tZ" { Logbook.day with offset := 7200 } ∧
    Misrendered "%tY-%tm-%td %tz %tZ" { Logbook.day with offset := 90 } ∧
    Misrendered "%tY-%tm-%td %tH" { Logbook.day with time := ⟨14, 0, 0, 0⟩ } ∧
    Misrendered "%tY-%tm-%td %tz" { Logbook.day with offset := 86399 } ∧
    Misrendered "%tY-%tm-%td %tz" { Logbook.day with offset := -20 } ∧
    Misrendered "%tY %te%tm" { Logbook.day with date := ⟨2024, 12, 1, by decide⟩ } ∧
    Misrendered "%tm %tY%te 2 %tH:%tM"
      { Logbook.day with date := ⟨-5, 3, 7, by decide⟩, time := ⟨23, 0, 0, 0⟩ } ∧
    Misrendered "%tZ%te %tY-%tm" Logbook.day := by
  refine ⟨?_, ?_, ?_, ?_, ?_, ?_, ?_, ?_⟩
  · exact misrendered_of (Logbook.dated "%tZ" [.part .zoneName]) Logbook.day
      rfl (by decide) (by decide +kernel) (by decide)
  · exact misrendered_of
      (Logbook.dated "%tz %tZ" [.part .zoneOffset, .literal ' ', .part .zoneName])
      { Logbook.day with offset := 120 } rfl (by decide) (by decide +kernel) (by decide)
  · exact misrendered_of (Logbook.dated "%tH" [.part .hour]) Logbook.day
      rfl (by decide) (by decide +kernel) (by decide)
  · exact misrendered_of (Logbook.dated "%tz" [.part .zoneOffset]) Logbook.day
      rfl (by decide) (by decide +kernel) (by decide)
  · exact misrendered_of (Logbook.dated "%tz" [.part .zoneOffset]) Logbook.day
      rfl (by decide) (by decide +kernel) (by decide)
  · exact misrendered_of
      ⟨"%tY %te%tm", [.part .year, .literal ' ', .part .bareDay, .part .month]⟩
      { Logbook.day with date := ⟨2024, 2, 11, by decide⟩ }
      rfl (by decide) (by decide +kernel) (by decide)
  · exact misrendered_of
      ⟨"%tm %tY%te 2 %tH:%tM",
        [.part .month, .literal ' ', .part .year, .part .bareDay, .literal ' ', .literal '2',
         .literal ' ', .part .hour, .literal ':', .part .minute]⟩
      { Logbook.day with date := ⟨-57, 3, 2, by decide⟩, time := ⟨3, 0, 0, 0⟩ }
      rfl (by decide) (by decide +kernel) (by decide)
  · exact misrendered_of
      ⟨"%tZ%te %tY-%tm",
        [.part .zoneName, .part .bareDay, .literal ' ', .part .year, .literal '-', .part .month]⟩
      { Logbook.day with date := ⟨24, 3, 20, by decide⟩ }
      rfl (by decide) (by decide +kernel) (by decide)

end Instrument
