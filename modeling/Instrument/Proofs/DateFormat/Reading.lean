/-
# Written dates read back

A template that is read from what it writes sets just the fields that its parts record
(`readSegments?_write`), if its pieces can be told apart (`DateFormat.Separates`).  Two kinds of
pieces cannot: a number whose width is not fixed goes on with a digit directly behind it, and the name
of a zone is read up to the next blank, so no other part may be directly behind it.  A name before a
character that is no blank is no danger, for then nothing is read at all.

Parts record fields independently of each other: what each one sets stays set (`record_of_mem`), and
no field is set to anything but what the moment has there (`DateFields.Of`).
-/
import Instrument.Proofs.DateFormat.Pieces
import Mathlib.Data.List.DropRight

namespace Instrument

open Calendar Number

/-! ## Recording -/

namespace DatePart

theorem record_record (m : Moment) (f : DateFields) (p : DatePart) :
    p.record m (p.record m f) = p.record m f := by
  cases p <;> rfl

theorem record_comm (m : Moment) (f : DateFields) (p q : DatePart) :
    p.record m (q.record m f) = q.record m (p.record m f) := by
  cases p <;> cases q <;> rfl

end DatePart

namespace DateFormat

/-- The fields after a template was read from what it writes. -/
def record (m : Moment) : List DateSegment → DateFields → DateFields
  | [], f => f
  | .literal _ :: rest, f => record m rest f
  | .part p :: rest, f => record m rest (p.record m f)

theorem record_part (m : Moment) (p : DatePart) (segments : List DateSegment) (f : DateFields) :
    p.record m (record m segments f) = record m segments (p.record m f) := by
  induction segments generalizing f with
  | nil => rfl
  | cons s rest ih =>
    cases s with
    | literal c => exact ih f
    | part q => rw [record, record, ih, DatePart.record_comm]

/-- What a part sets stays set. -/
theorem record_of_mem {m : Moment} {p : DatePart} {segments : List DateSegment}
    (h : .part p ∈ segments) (f : DateFields) :
    p.record m (record m segments f) = record m segments f := by
  induction segments generalizing f with
  | nil => cases h
  | cons s rest ih =>
    rcases List.mem_cons.1 h with rfl | hrest
    · rw [record_part, record, record, DatePart.record_record]
    · cases s with
      | literal c => exact ih hrest f
      | part q => exact ih hrest _

/-- No other part sets the nanoseconds. -/
theorem nanosecond_record {m : Moment} {segments : List DateSegment}
    (h : .part .millisecond ∉ segments) (f : DateFields) :
    (record m segments f).nanosecond = f.nanosecond := by
  induction segments generalizing f with
  | nil => rfl
  | cons s rest ih =>
    have hrest : DateSegment.part .millisecond ∉ rest := fun hmem => h (List.mem_cons_of_mem s hmem)
    cases s with
    | literal c => exact ih hrest f
    | part p =>
      rw [record, ih hrest]
      cases p with
      | millisecond => exact absurd List.mem_cons_self h
      | _ => rfl

end DateFormat

/-- The fields that are set are set to what a moment has there. -/
structure DateFields.Of (m : Moment) (f : DateFields) : Prop where
  year : ∀ n ∈ f.year, n = m.date.year
  shortYear : ∀ n ∈ f.shortYear, n = (m.date.year.emod 100).toNat
  month : ∀ n ∈ f.month, n = m.date.month
  day : ∀ n ∈ f.day, n = m.date.day
  half : ∀ n ∈ f.half, n = m.time.hour / 12
  hour12 : ∀ n ∈ f.hour12, n = m.time.hour % 12
  minute : ∀ n ∈ f.minute, n = m.time.minute
  second : ∀ n ∈ f.second, n = m.time.shownSecond
  nanosecond : ∀ n ∈ f.nanosecond, n = m.time.fraction / 1000000 * 1000000
  offset : ∀ n ∈ f.offset, n = roundedOffset m.offset

namespace DateFields.Of

variable {m : Moment} {f : DateFields}

theorem none (m : Moment) : DateFields.none.Of m := by
  constructor <;> rintro n ⟨⟩

theorem record (h : f.Of m) (p : DatePart) : (p.record m f).Of m := by
  obtain ⟨hyear, hshort, hmonth, hday, hhalf, hhour, hminute, hsecond, hnano, hoffset⟩ := h
  cases p <;> constructor <;> first | assumption | (rintro n ⟨⟩; rfl)

theorem recordAll (h : f.Of m) (segments : List DateSegment) :
    (DateFormat.record m segments f).Of m := by
  induction segments generalizing f with
  | nil => exact h
  | cons s rest ih =>
    cases s with
    | literal c => exact ih h
    | part p => exact ih (h.record p)

end DateFields.Of

/-! ## Reading -/

/-- Does a template begin with a part? -/
def startsWithPart : List DateSegment → Bool
  | .part _ :: _ => true
  | _ => false

namespace DateFormat

/-- Can the pieces that a template writes be told apart? -/
def Separates (m : Moment) : List DateSegment → Prop
  | [] => True
  | .literal _ :: rest => Separates m rest
  | .part p :: rest =>
    (p.isOpen m = true → startsWithoutDigit (rest.flatMap (·.write m)) = true) ∧
      (p = .zoneName → startsWithPart rest = false) ∧ Separates m rest

instance decSeparates (m : Moment) : (segments : List DateSegment) →
    Decidable (Separates m segments)
  | [] => .isTrue trivial
  | .literal _ :: rest => decSeparates m rest
  | .part _ :: rest => @instDecidableAnd _ _ _ (@instDecidableAnd _ _ _ (decSeparates m rest))

end DateFormat

/-- A blank of a template takes the blanks that there are. -/
theorem readSegments?_blank {c : Char} (hc : Text.isBlank c = true) (rest : List DateSegment)
    (f : DateFields) (cs : List Char) :
    readSegments? (.literal c :: rest) f cs = readSegments? rest f (Text.trimStart cs) := by
  simp only [readSegments?, DateSegment.read?, if_pos hc]
  rfl

/-- Blanks in front are of no account to the template that wrote them. -/
theorem readSegments?_trimStart (m : Moment) (f : DateFields) (segments : List DateSegment) :
    readSegments? segments f (Text.trimStart (segments.flatMap (·.write m))) =
      readSegments? segments f (segments.flatMap (·.write m)) := by
  cases segments with
  | nil => rfl
  | cons s rest =>
    cases s with
    | part p => rw [List.flatMap_cons, DateSegment.write, DatePart.trimStart_write]
    | literal c =>
      rw [List.flatMap_cons, DateSegment.write, List.singleton_append]
      by_cases hc : Text.isBlank c = true
      · have htwice : ∀ cs, Text.trimStart (Text.trimStart cs) = Text.trimStart cs :=
          List.dropWhile_idempotent Text.isBlank
        rw [readSegments?_blank hc, readSegments?_blank hc, htwice]
      · rw [Text.trimStart_cons (by simpa using hc)]

/-- A character of a template that is no blank is taken as it is. -/
theorem exists_of_readSegments?_literal {c : Char} {rest : List DateSegment} {f g : DateFields}
    {cs : List Char} (hc : Text.isBlank c = false)
    (h : readSegments? (.literal c :: rest) f cs = some g) :
    ∃ ds, cs = c :: ds ∧ readSegments? rest f ds = some g := by
  obtain ⟨⟨f', ds⟩, hread, hrest⟩ := Option.bind_eq_some_iff.1 h
  simp only [DateSegment.read?, hc, Bool.false_eq_true, if_false] at hread
  split at hread
  · split at hread
    · rename_i heq
      cases hread
      exact ⟨_, congrArg (· :: _) heq, hrest⟩
    · cases hread
  · cases hread

theorem head_isBlank (cs : List Char) :
    (cs.dropWhile (!Text.isBlank ·)).head?.all Text.isBlank = true := by
  have h := List.head?_dropWhile_not (!Text.isBlank ·) cs
  split at h
  · rename_i c hc
    rw [hc]
    simpa using h
  · rename_i hnone
    rw [hnone]
    rfl

/-- What is read behind the name of a zone begins with a blank, if there is anything. -/
theorem head_isBlank_of_zoneName {m : Moment} {rest : List DateSegment} {f f' g : DateFields}
    {cs ds : List Char} (hzone : startsWithPart rest = false)
    (hread : DatePart.zoneName.read? f ds = some (f', cs))
    (h : readSegments? rest f' cs = some g) :
    (rest.flatMap (·.write m)).head?.all Text.isBlank = true := by
  cases rest with
  | nil => rfl
  | cons s rest =>
    cases s with
    | part p => cases hzone
    | literal c =>
      have hblank : Text.isBlank c = true := by
        by_contra hc
        obtain ⟨es, rfl, -⟩ := exists_of_readSegments?_literal (by simpa using hc) h
        have hcs : ds.dropWhile (!Text.isBlank ·) = c :: es :=
          congrArg Prod.snd (Option.some.inj hread)
        have hhead := head_isBlank ds
        rw [hcs] at hhead
        exact hc (by simpa using hhead)
      exact hblank

/-- **What a template writes sets what its parts record.** -/
theorem readSegments?_write {m : Moment} (hm : m.WellFormed) {segments : List DateSegment}
    (hsep : DateFormat.Separates m segments) {f g : DateFields}
    (h : readSegments? segments f (segments.flatMap (·.write m)) = some g) :
    g = DateFormat.record m segments f := by
  induction segments generalizing f with
  | nil =>
    cases h
    rfl
  | cons s rest ih =>
    rw [List.flatMap_cons] at h
    cases s with
    | literal c =>
      by_cases hc : Text.isBlank c = true
      · have htrim : Text.trimStart (c :: rest.flatMap (·.write m)) =
            Text.trimStart (rest.flatMap (·.write m)) := List.dropWhile_cons_of_pos hc
        rw [readSegments?_blank hc, DateSegment.write, List.singleton_append, htrim,
          readSegments?_trimStart] at h
        exact ih hsep h
      · obtain ⟨ds, hds, hrest⟩ := exists_of_readSegments?_literal (by simpa using hc) h
        cases hds
        exact ih hsep hrest
    | part p =>
      obtain ⟨hnumber, hzone, hsep⟩ := hsep
      obtain ⟨⟨f', cs⟩, hread, hrest⟩ := Option.bind_eq_some_iff.1 h
      have hname : p = .zoneName → (rest.flatMap (·.write m)).head?.all Text.isBlank = true := by
        rintro rfl
        exact head_isBlank_of_zoneName (hzone rfl) hread hrest
      obtain ⟨rfl, rfl⟩ := DatePart.read?_write hm hnumber hname hread
      exact ih hsep hrest

end Instrument
