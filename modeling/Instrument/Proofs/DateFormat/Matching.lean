/-
# Written dates are found

One template gives the text of a date and the pattern that finds dates in a reply, the one from the parts
that are written and the other from a table of its own.  The two agree: what a part writes is in the
language of its pattern (`DatePart.spells_write`), so the text of a date is in the language of the
whole (`date_matched`), whatever is written between the parts.

Only a year that is written with a sign is not found; all else that a clock can show is, a leap second and
an offset of seconds included.
-/
import Instrument.Proofs.DateFormat.Pieces
import Instrument.Proofs.Parameter.RoundTrip

namespace Instrument

open Calendar Number Pattern

/-! ## Digits -/

section Digits

variable {x : List Char}

/-- Digits, as many as are counted. -/
theorem spells_times_digit {n : Nat} (hlength : x.length = n)
    (hdigits : ∀ c ∈ x, c.isDigit = true) : (times (.char .digit) n).Spells x :=
  spells_times_char_iff.2
    ⟨hlength, fun c hc => Text.isDecimalDigit_of_isDigit (hdigits c hc)⟩

theorem spells_padded {width n : Nat} (hwidth : 0 < width) (hn : n < 10 ^ width) :
    (times (.char .digit) width).Spells (Digits.padded width n) :=
  spells_times_digit (length_padded_of_lt hwidth hn) fun _ hc => isDigit_of_mem_padded hc

/-- A number of one digit or two. -/
theorem spells_text {n : Nat} (hn : n < 100) :
    (between (.char .digit) true 1 (some 2)).Spells (Digits.text n) := by
  have hshape : between (.char .digit) true 1 (some 2) =
      .seq (times (.char .digit) 1) (.alt (times (.char .digit) 1) .empty) := rfl
  have hdigits : ∀ c ∈ Digits.text n, c.isDigit = true := fun c hc => isDigit_of_mem_text hc
  have hlength : (Digits.text n).length ≤ 2 := length_text_le (by decide) hn
  rw [hshape, spells_seq_iff]
  match hcs : Digits.text n with
  | [] => exact absurd hcs Nat.toDigits_ne_nil
  | [c] =>
    rw [hcs] at hdigits
    exact ⟨[c], [], rfl, spells_times_digit rfl hdigits, .right .empty⟩
  | [c, d] =>
    rw [hcs] at hdigits
    obtain ⟨hc, hd⟩ := List.forall_mem_cons.1 hdigits
    exact ⟨[c], [d], rfl, spells_times_digit rfl (List.forall_mem_singleton.2 hc),
      .left (spells_times_digit rfl hd)⟩
  | _ :: _ :: _ :: _ =>
    rw [hcs] at hlength
    simp at hlength

end Digits

/-! ## Parts -/

/-- **What a part writes is in the language of its pattern.** -/
theorem DatePart.spells_write {m : Moment} (hm : m.WellFormed) (hleast : 0 ≤ m.date.year)
    (hgreatest : m.date.year ≤ 9999) (p : DatePart) : p.fragment.Spells (p.write m) := by
  have hhour := hm.hour
  have hminute := hm.minute
  obtain ⟨-, -, -, hmonth, -, -⟩ := m.date.isDay
  have hword : (Pattern.plus nonBlank true).Spells (p.write m) := by
    refine spells_plus_char_iff.2 ⟨p.write_ne_nil m, fun c hc => ?_⟩
    rw [CharSet.has, CharSet.has, isBlank_of_mem_write hc]
    rfl
  cases p with
  | year =>
    rw [write, yearText, if_pos ⟨hleast, hgreatest⟩]
    exact spells_padded (by decide) (by omega)
  | shortYear =>
    have hyear : (m.date.year.emod 100).toNat < 100 := by
      change (m.date.year % 100).toNat < 100
      omega
    exact spells_padded (by decide) hyear
  | month => exact spells_padded (by decide) (by omega)
  | day => exact spells_padded (by decide) m.date.day_lt
  | hour => exact spells_padded (by decide) (by omega)
  | hour12 => exact spells_padded (by decide) (clockHour_lt _)
  | minute => exact spells_padded (by decide) (by omega)
  | second => exact spells_padded (by decide) hm.shownSecond_lt
  | millisecond =>
    refine spells_padded (by decide) ?_
    rw [TimeOfDay.fraction]
    omega
  | bareDay => exact spells_text m.date.day_lt
  | bareHour => exact spells_text (by omega)
  | bareHour12 => exact spells_text (clockHour_lt _)
  | monthName | monthAbbreviation | zoneName | zoneOffset | halfDay => exact hword

/-! ## Templates -/

theorem spells_segments {m : Moment} (hm : m.WellFormed) (hleast : 0 ≤ m.date.year)
    (hgreatest : m.date.year ≤ 9999) (segments : List DateSegment) :
    (seqs (segments.map (·.fragment))).Spells (segments.flatMap (·.write m)) := by
  induction segments with
  | nil => exact .empty
  | cons s rest ih =>
    rw [List.map_cons, List.flatMap_cons, spells_seqs_cons_iff]
    refine ⟨_, _, rfl, ?_, ih⟩
    cases s with
    | literal c => exact .char ((CharSet.has_one c c).2 rfl)
    | part p => exact p.spells_write hm hleast hgreatest

/-- **The pattern of a template finds every date that the template writes.**  It has no groups of its
own, also where there are brackets in the template. -/
theorem date_matched (f : DateFormat) :
    ∃ a, Pattern.read .replies f.pattern.toList = .ok a ∧ a.groupCount = 0 ∧
      ∀ m : Moment, m.WellFormed → 0 ≤ m.date.year → m.date.year ≤ 9999 →
        a.Spells (f.write m).toList := by
  have hread := read_of_denotes (f.denotes_pattern 0 []) (by decide : 8 < nestingLimit)
  refine ⟨f.fragment, hread, groupCount_of_plain f.plain_fragment, fun m hm hleast hgreatest => ?_⟩
  rw [DateFormat.write, String.toList_ofList]
  exact spells_segments hm hleast hgreatest f.segments

namespace Logbook

/-- A template with characters that mean something in patterns. -/
def bracketed : DateFormat where
  source := "(?:%tY) %tB%te|%tl:%tM:%tS.%tL(%tp)+ %tZ*"
  segments :=
    [.literal '(', .literal '?', .literal ':', .part .year, .literal ')', .literal ' ',
     .part .monthName, .part .bareDay, .literal '|', .part .bareHour12, .literal ':', .part .minute,
     .literal ':', .part .second, .literal '.', .part .millisecond, .literal '(', .part .halfDay,
     .literal ')', .literal '+', .literal ' ', .part .zoneName, .literal '*']

/-- A leap second, on a clock that is ahead by some seconds. -/
def leap : Moment := ⟨⟨2016, 12, 31, by decide⟩, ⟨23, 59, 59, 1250000000⟩, 19815⟩

end Logbook

/-- A leap second is found, between brackets that are text. -/
theorem date_matched_leap :
    DateFormat.read Logbook.bracketed.source = .ok Logbook.bracketed ∧ Logbook.leap.WellFormed ∧
      Logbook.bracketed.write Logbook.leap =
        "(?:2016) December31|11:59:60.250(pm)+ +05:30:15*" ∧
      ∃ a, Pattern.read .replies Logbook.bracketed.pattern.toList = .ok a ∧ a.groupCount = 0 ∧
        a.Spells "(?:2016) December31|11:59:60.250(pm)+ +05:30:15*".toList := by
  have hformed : Logbook.leap.WellFormed := by decide
  have htext : Logbook.bracketed.write Logbook.leap =
      "(?:2016) December31|11:59:60.250(pm)+ +05:30:15*" := by decide
  obtain ⟨a, hread, hgroups, hspells⟩ := date_matched Logbook.bracketed
  have hfound := hspells Logbook.leap hformed (by decide) (by decide)
  rw [htext] at hfound
  exact ⟨rfl, hformed, htext, a, hread, hgroups, hfound⟩

end Instrument
