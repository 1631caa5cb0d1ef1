/-
# Fields of dates

A part that is read sets fields, and the fields that are set in the end make up a moment.  What each
setter does is said once here, and so is what a moment has of the fields; nothing else opens them.

Every moment that is read keeps the bounds of a clock (`DateFormat.wellFormed_of_readMoment?`), of
whatever text and by whatever template: they hold of the fields that each part sets.
-/
import Instrument.DateFormat.Reader
import Instrument.Proofs.Number.Digits

namespace Instrument

open Calendar Number

/-! ## Moments -/

/-- The bounds that every moment of the clock keeps. -/
structure Calendar.Moment.WellFormed (m : Moment) : Prop where
  hour : m.time.hour < 24
  minute : m.time.minute < 60
  second : m.time.second < 60
  nanosecond : m.time.nanosecond < 2000000000
  offset : isOffset m.offset = true

instance (m : Moment) : Decidable m.WellFormed :=
  decidable_of_iff (m.time.hour < 24 ∧ m.time.minute < 60 ∧ m.time.second < 60 ∧
      m.time.nanosecond < 2000000000 ∧ isOffset m.offset = true)
    ⟨fun ⟨hhour, hminute, hsecond, hnanosecond, hoffset⟩ =>
      ⟨hhour, hminute, hsecond, hnanosecond, hoffset⟩,
     fun h => ⟨h.hour, h.minute, h.second, h.nanosecond, h.offset⟩⟩

/-! ## Fields -/

namespace DateFields

variable {f f' : DateFields}

/-- A field that could be set has the value that it was set to. -/
theorem eq_of_map_setField? {α β : Type} [DecidableEq α] {old : Option α} {new : α}
    {g : Option α → β} {b : β} (h : (setField? old new).map g = some b) : b = g (some new) := by
  obtain ⟨v, hv, rfl⟩ := Option.map_eq_some_iff.1 h
  unfold setField? at hv
  split at hv
  · cases hv
    rfl
  · split at hv
    · rename_i heq
      cases hv
      rw [heq]
    · cases hv

/-- The same, of a field that takes only some values. -/
theorem of_guarded_setField? {α β : Type} [DecidableEq α] {P : Prop} [Decidable P]
    {old : Option α} {new : α} {g : Option α → β} {b : β}
    (h : (if P then (setField? old new).map g else Option.none) = some b) :
    P ∧ b = g (some new) :=
  (Option.ite_none_right_eq_some.1 h).imp_right eq_of_map_setField?

theorem eq_of_setYear? {n : Int} (h : f.setYear? n = some f') : f' = { f with year := some n } :=
  (of_guarded_setField? h).2

theorem eq_of_setShortYear? {n : Nat} (h : f.setShortYear? n = some f') :
    f' = { f with shortYear := some n } :=
  (of_guarded_setField? h).2

theorem eq_of_setMonth? {n : Nat} (h : f.setMonth? n = some f') :
    f' = { f with month := some n } :=
  (of_guarded_setField? h).2

theorem eq_of_setDay? {n : Nat} (h : f.setDay? n = some f') : f' = { f with day := some n } :=
  (of_guarded_setField? h).2

theorem eq_of_setClockHour? {n : Nat} (h : f.setClockHour? n = some f') :
    f' = { f with hour12 := some (n % 12) } :=
  (of_guarded_setField? h).2

theorem eq_of_setMinute? {n : Nat} (h : f.setMinute? n = some f') :
    n < 60 ∧ f' = { f with minute := some n } :=
  of_guarded_setField? h

theorem eq_of_setSecond? {n : Nat} (h : f.setSecond? n = some f') :
    n ≤ 60 ∧ f' = { f with second := some n } :=
  of_guarded_setField? h

/-- The hour of the day sets the half of the day and the hour of the half. -/
theorem eq_of_setHour? {n : Nat} (h : f.setHour? n = some f') :
    n < 24 ∧ f' = { f with half := some (n / 12), hour12 := some (n % 12) } := by
  obtain ⟨hn, h⟩ := Option.ite_none_right_eq_some.1 h
  obtain ⟨f₁, hhalf, hhour⟩ := Option.bind_eq_some_iff.1 h
  rw [eq_of_map_setField? hhour, eq_of_map_setField? hhalf]
  exact ⟨hn, rfl⟩

end DateFields

theorem readInto?_eq_some {α : Type} {set : DateFields → α → Option DateFields}
    {read : Option (α × List Char)} {f f' : DateFields} {cs : List Char}
    (h : readInto? set read f = some (f', cs)) :
    ∃ n, read = some (n, cs) ∧ set f n = some f' := by
  obtain ⟨⟨n, rest⟩, hread, h⟩ := Option.bind_eq_some_iff.1 h
  obtain ⟨f₁, hset, h⟩ := Option.bind_eq_some_iff.1 h
  cases h
  exact ⟨n, hread, hset⟩

/-! ## What the fields make up -/

namespace DateFields

variable {f : DateFields} {m m' : Moment} {t : TimeOfDay}

theorem moment?_eq_some (h : f.moment? = some m) :
    f.date? = some m.date ∧ m.time = f.time?.getD .midnight ∧ m.offset = f.offsetOrZero := by
  obtain ⟨d, hdate, h⟩ := Option.bind_eq_some_iff.1 h
  simp only [Moment.ofLocal?] at h
  split at h
  · cases h
    exact ⟨hdate, rfl, rfl⟩
  · cases h

theorem date?_eq_some {d : Date} (h : f.date? = some d) :
    f.resolveYear? = some d.year ∧ f.month = some d.month ∧ f.day = some d.day := by
  obtain ⟨year, hyear, h⟩ := Option.bind_eq_some_iff.1 h
  obtain ⟨month, hmonth, h⟩ := Option.bind_eq_some_iff.1 h
  obtain ⟨day, hday, h⟩ := Option.bind_eq_some_iff.1 h
  obtain ⟨rfl, rfl, rfl⟩ := Date.ofParts?_eq_some h
  exact ⟨hyear, hmonth, hday⟩

/-- A year that is set is the year. -/
theorem eq_of_resolveYear? {year n : Int} (h : f.resolveYear? = some n)
    (hyear : f.year = some year) : n = year := by
  unfold resolveYear? at h
  rw [hyear] at h
  split at h
  · exact (Option.some.inj h).symm
  · rename_i heq _
    cases heq
  · rename_i heq _
    split at h
    · cases heq
      exact (Option.some.inj h).symm
    · cases h

/-- Two digits that are set are the last ones of the year. -/
theorem mod_of_resolveYear? {n : Int} {r : Nat} (h : f.resolveYear? = some n)
    (hshort : f.shortYear = some r) (hr : r < 100) : n % 100 = r := by
  unfold resolveYear? at h
  rw [hshort] at h
  split at h
  · rename_i heq
    cases heq
  · rename_i heq
    cases heq
    have hn := Option.some.inj h
    split at hn <;> omega
  · rename_i heq
    cases heq
    split at h
    · rename_i hagree
      cases h
      exact hagree.2
    · cases h

/-- The time that the fields make up; a second of 60 is a leap second. -/
theorem time?_eq_some (h : f.time? = some t) :
    ∃ half hour, f.half = some half ∧ f.hour12 = some hour ∧ f.minute = some t.minute ∧
      t.hour = half * 12 + hour ∧
      if f.second.getD 0 = 60 then t.second = 59 ∧ t.nanosecond = 1000000000 + f.nanosecond.getD 0
      else t.second = f.second.getD 0 ∧ t.nanosecond = f.nanosecond.getD 0 := by
  obtain ⟨half, hhalf, h⟩ := Option.bind_eq_some_iff.1 h
  obtain ⟨hour, hhour, h⟩ := Option.bind_eq_some_iff.1 h
  obtain ⟨minute, hminute, h⟩ := Option.bind_eq_some_iff.1 h
  have hmake : ∀ n, (if f.second.getD 0 = 60 then
        some (⟨half * 12 + hour, minute, 59, 1000000000 + n⟩ : TimeOfDay)
      else some ⟨half * 12 + hour, minute, f.second.getD 0, n⟩) = some t →
      t.minute = minute ∧ t.hour = half * 12 + hour ∧
        if f.second.getD 0 = 60 then t.second = 59 ∧ t.nanosecond = 1000000000 + n
        else t.second = f.second.getD 0 ∧ t.nanosecond = n := by
    intro n h
    split at h
    · rename_i hleap
      cases h
      exact ⟨rfl, rfl, by rw [if_pos hleap]; exact ⟨rfl, rfl⟩⟩
    · rename_i hleap
      cases h
      exact ⟨rfl, rfl, by rw [if_neg hleap]; exact ⟨rfl, rfl⟩⟩
  refine ⟨half, hour, hhalf, hhour, ?_⟩
  cases hcases : f.nanosecond with
  | none =>
    simp only [hcases] at h
    obtain ⟨rfl, hrest⟩ := hmake 0 h
    exact ⟨hminute, hrest⟩
  | some n =>
    simp only [hcases] at h
    split at h
    · obtain ⟨rfl, hrest⟩ := hmake n h
      exact ⟨hminute, hrest⟩
    · cases h

/-- There is a time if hour and minute are set, and a second behind which a fraction counts. -/
theorem isSome_time? (hhalf : f.half.isSome = true) (hhour : f.hour12.isSome = true)
    (hminute : f.minute.isSome = true)
    (hnano : f.nanosecond.isSome = true → f.second.isSome = true) : f.time?.isSome = true := by
  obtain ⟨half, hhalf⟩ := Option.isSome_iff_exists.1 hhalf
  obtain ⟨hour, hhour⟩ := Option.isSome_iff_exists.1 hhour
  obtain ⟨minute, hminute⟩ := Option.isSome_iff_exists.1 hminute
  unfold time?
  cases hcases : f.nanosecond with
  | none =>
    simp only [hhalf, hhour, hminute, Option.bind_eq_bind, Option.bind_some]
    split <;> rfl
  | some n =>
    have hsecond := hnano (by rw [hcases]; rfl)
    simp only [hhalf, hhour, hminute, hsecond, if_true, Option.bind_eq_bind, Option.bind_some]
    split <;> rfl

end DateFields

/-! ## Bounds -/

/-- The fields that are set are such as a clock can show. -/
structure DateFields.InRange (f : DateFields) : Prop where
  half : ∀ n ∈ f.half, n < 2
  hour12 : ∀ n ∈ f.hour12, n < 12
  minute : ∀ n ∈ f.minute, n < 60
  second : ∀ n ∈ f.second, n ≤ 60
  nanosecond : ∀ n ∈ f.nanosecond, n < 1000000000

theorem DateFields.InRange.none : DateFields.none.InRange := by
  constructor <;> rintro n ⟨⟩

theorem lt_of_readHalf? {cs rest : List Char} {n : Nat} (h : readHalf? cs = some (n, rest)) :
    n < 2 := by
  unfold readHalf? at h
  split at h
  · cases h
    decide
  · split at h
    · cases h
      decide
    · cases h

/-- What a part reads, of any text, is such as a clock can show. -/
theorem DatePart.inRange_read? {p : DatePart} {f f' : DateFields} {cs rest : List Char}
    (hf : f.InRange) (h : p.read? f cs = some (f', rest)) : f'.InRange := by
  obtain ⟨hhalf, hhour, hminute, hsecond, hnano⟩ := hf
  cases p with
  | year =>
    obtain ⟨n, -, hset⟩ := readInto?_eq_some h
    rw [DateFields.eq_of_setYear? hset]
    exact ⟨hhalf, hhour, hminute, hsecond, hnano⟩
  | shortYear =>
    obtain ⟨n, -, hset⟩ := readInto?_eq_some h
    rw [DateFields.eq_of_setShortYear? hset]
    exact ⟨hhalf, hhour, hminute, hsecond, hnano⟩
  | monthName | monthAbbreviation | month =>
    obtain ⟨n, -, hset⟩ := readInto?_eq_some h
    rw [DateFields.eq_of_setMonth? hset]
    exact ⟨hhalf, hhour, hminute, hsecond, hnano⟩
  | day | bareDay =>
    obtain ⟨n, -, hset⟩ := readInto?_eq_some h
    rw [DateFields.eq_of_setDay? hset]
    exact ⟨hhalf, hhour, hminute, hsecond, hnano⟩
  | hour | bareHour =>
    obtain ⟨n, -, hset⟩ := readInto?_eq_some h
    obtain ⟨hn, rfl⟩ := DateFields.eq_of_setHour? hset
    refine ⟨?_, ?_, hminute, hsecond, hnano⟩ <;> (rintro k ⟨⟩; omega)
  | hour12 | bareHour12 =>
    obtain ⟨n, -, hset⟩ := readInto?_eq_some h
    rw [DateFields.eq_of_setClockHour? hset]
    refine ⟨hhalf, ?_, hminute, hsecond, hnano⟩
    rintro k ⟨⟩
    omega
  | minute =>
    obtain ⟨n, -, hset⟩ := readInto?_eq_some h
    obtain ⟨hn, rfl⟩ := DateFields.eq_of_setMinute? hset
    exact ⟨hhalf, hhour, by rintro k ⟨⟩; exact hn, hsecond, hnano⟩
  | second =>
    obtain ⟨n, -, hset⟩ := readInto?_eq_some h
    obtain ⟨hn, rfl⟩ := DateFields.eq_of_setSecond? hset
    exact ⟨hhalf, hhour, hminute, by rintro k ⟨⟩; exact hn, hnano⟩
  | millisecond =>
    obtain ⟨hdigits, hread⟩ := Option.ite_none_right_eq_some.1 h
    obtain ⟨hlength, hall⟩ := Bool.and_eq_true_iff.1 hdigits
    have hvalue := value_lt (List.all_eq_true.1 hall)
    rw [of_decide_eq_true hlength] at hvalue
    obtain ⟨g, hset, heq⟩ := Option.map_eq_some_iff.1 hread
    cases heq
    rw [DateFields.eq_of_map_setField? hset]
    refine ⟨hhalf, hhour, hminute, hsecond, ?_⟩
    rintro k ⟨⟩
    omega
  | zoneName =>
    cases h
    exact ⟨hhalf, hhour, hminute, hsecond, hnano⟩
  | zoneOffset =>
    obtain ⟨n, -, hset⟩ := readInto?_eq_some h
    rw [DateFields.eq_of_map_setField? hset]
    exact ⟨hhalf, hhour, hminute, hsecond, hnano⟩
  | halfDay =>
    obtain ⟨n, hread, hset⟩ := readInto?_eq_some h
    rw [DateFields.eq_of_map_setField? hset]
    exact ⟨by rintro k ⟨⟩; exact lt_of_readHalf? hread, hhour, hminute, hsecond, hnano⟩

/-- A character of a template sets nothing. -/
theorem eq_of_read?_literal {c : Char} {f f' : DateFields} {cs rest : List Char}
    (h : (DateSegment.literal c).read? f cs = some (f', rest)) : f' = f := by
  simp only [DateSegment.read?] at h
  split at h
  · cases h
    rfl
  · split at h
    · obtain ⟨-, h⟩ := Option.ite_none_right_eq_some.1 h
      cases h
      rfl
    · cases h

theorem inRange_readSegments? {segments : List DateSegment} {f g : DateFields} {cs : List Char}
    (hf : f.InRange) (h : readSegments? segments f cs = some g) : g.InRange := by
  induction segments generalizing f cs with
  | nil =>
    simp only [readSegments?] at h
    split at h
    · cases h
      exact hf
    · cases h
  | cons s rest ih =>
    obtain ⟨⟨f', cs'⟩, hread, hrest⟩ := Option.bind_eq_some_iff.1 h
    refine ih ?_ hrest
    cases s with
    | part p => exact DatePart.inRange_read? hf hread
    | literal c =>
      rw [eq_of_read?_literal hread]
      exact hf

/-- Fields in range make up a moment of the clock. -/
theorem DateFields.InRange.wellFormed {f : DateFields} {m : Moment} (hf : f.InRange)
    (h : f.moment? = some m) : m.WellFormed := by
  obtain ⟨-, htime, hoffset⟩ := DateFields.moment?_eq_some h
  have hoff : isOffset m.offset = true := by
    rw [hoffset, DateFields.offsetOrZero]
    split
    · split
      · assumption
      · decide
    · decide
  cases ht : f.time? with
  | none =>
    rw [ht] at htime
    have hm : m.time = .midnight := htime
    exact ⟨by rw [hm]; decide, by rw [hm]; decide, by rw [hm]; decide, by rw [hm]; decide, hoff⟩
  | some t =>
    rw [ht] at htime
    have hm : m.time = t := htime
    obtain ⟨half, hour, hhalf, hhour, hminute, heq, hseconds⟩ := DateFields.time?_eq_some ht
    have hhalf := hf.half half hhalf
    have hhour := hf.hour12 hour hhour
    have hminute := hf.minute _ hminute
    have hsecond : f.second.getD 0 ≤ 60 := by
      cases hcases : f.second with
      | none => decide
      | some n => exact hf.second n hcases
    have hnano : f.nanosecond.getD 0 < 1000000000 := by
      cases hcases : f.nanosecond with
      | none => decide
      | some n => exact hf.nanosecond n hcases
    refine ⟨?_, ?_, ?_, ?_, hoff⟩ <;> rw [hm] <;> split at hseconds <;> omega

/-- **Every moment that is read is a moment of the clock.** -/
theorem DateFormat.wellFormed_of_readMoment? {f : DateFormat} {input : String} {m : Moment}
    (h : f.readMoment? input = some m) : m.WellFormed := by
  obtain ⟨fields, hfields, hmoment⟩ := Option.bind_eq_some_iff.1 h
  exact (inRange_readSegments? .none hfields).wellFormed hmoment

end Instrument
