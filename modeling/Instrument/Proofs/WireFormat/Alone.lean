/-
# A conversion alone

A template with one conversion and nothing but blanks around it writes what the conversion writes, and
the blanks do not count where the text is trimmed.  Of a number that leaves a sign, zeros and the body
of the number, with no blank in it (`trim_number`): the width is filled up with zeros that stand
there, or with blanks that do not, and the blank that may stand for a sign does not stand there
either.
-/
import Instrument.Proofs.WireFormat.Written

namespace Instrument.WireFormat

open Number

/-- One conversion, with blanks before and behind it. -/
inductive Alone (s : Spec) (k : Conversion) : List Segment → Prop
  | intro {before after : List Char} : (∀ c ∈ before, Text.isBlank c = true) →
      (∀ c ∈ after, Text.isBlank c = true) →
      Alone s k (before.map .literal ++ .conversion s k :: after.map .literal)

/-- Trimmed, the text is what the conversion writes. -/
theorem Alone.exists_convert {s : Spec} {k : Conversion} {segments : List Segment} {v : Value}
    {cs : List Char} (h : Alone s k segments) (hcs : applySegments v segments = .ok cs) :
    ∃ mid, convert? s k v = some mid ∧ Text.trim cs = Text.trim mid := by
  obtain ⟨hbefore, hafter⟩ := h
  obtain ⟨mid, hmid, rfl⟩ := exists_of_between hcs
  exact ⟨mid, hmid, Text.trim_between hbefore hafter mid⟩

/-- What fills a text up is blank. -/
theorem trim_fill (s : Spec) (cs : List Char) : Text.trim (fill s cs) = Text.trim cs := by
  obtain ⟨before, after, hbefore, hafter, hfill⟩ := exists_fill s cs
  have hspace : Text.isBlank ' ' = true := by decide
  rw [hfill]
  exact Text.trim_between (fun c hc => hbefore c hc ▸ hspace) (fun c hc => hafter c hc ▸ hspace) cs

/-! ## Numbers -/

/-- How many zeros fill a number up that has `length` characters without them. -/
def zeroFill (s : Spec) (length : Nat) : Nat :=
  if s.flags.zero && !s.flags.left then s.width.getD 0 - length else 0

/-- The sign of a number, if it is not a blank. -/
def shownSign (f : Flags) (negative : Bool) : List Char :=
  if negative then ['-'] else if f.plus then ['+'] else []

theorem sign_eq (f : Flags) (negative : Bool) :
    ∃ blanks, (∀ c ∈ blanks, Text.isBlank c = true) ∧
      sign f negative = blanks ++ shownSign f negative := by
  unfold sign shownSign
  cases negative with
  | true => exact ⟨[], by simp, rfl⟩
  | false =>
    cases f.plus with
    | true => exact ⟨[], by simp, rfl⟩
    | false =>
      cases f.space with
      | true => exact ⟨[' '], by decide, rfl⟩
      | false => exact ⟨[], by simp, rfl⟩

theorem shownSign_cases (f : Flags) (negative : Bool) :
    negative = true ∧ shownSign f negative = ['-'] ∨
      negative = false ∧ (shownSign f negative = ['+'] ∨ shownSign f negative = []) := by
  unfold shownSign
  cases negative with
  | true => exact .inl ⟨rfl, rfl⟩
  | false =>
    cases f.plus with
    | true => exact .inr ⟨rfl, .inl rfl⟩
    | false => exact .inr ⟨rfl, .inr rfl⟩

/-- **A number without the blanks around it** is a sign, zeros and the body. -/
theorem trim_number (s : Spec) (negative : Bool) {body : List Char}
    (hbody : ∀ c ∈ body, Text.isBlank c = false) :
    Text.trim (number s negative [] body) = shownSign s.flags negative ++
      (List.replicate (zeroFill s ((sign s.flags negative).length + body.length)) '0' ++ body) := by
  obtain ⟨blanks, hblanks, hsign⟩ := sign_eq s.flags negative
  -- The number is filled up by zeros, or by blanks that are trimmed away.
  have hfilled : Text.trim (number s negative [] body) = Text.trim (sign s.flags negative ++
      (List.replicate (zeroFill s ((sign s.flags negative).length + body.length)) '0' ++ body)) := by
    unfold number zeroFill
    split
    · simp [*]
    · rw [trim_fill]
      simp
  have hsolid : ∀ c ∈ shownSign s.flags negative ++
      (List.replicate (zeroFill s ((sign s.flags negative).length + body.length)) '0' ++ body),
      Text.isBlank c = false := by
    intro c hc
    rcases List.mem_append.1 hc with hc | hc
    · rcases shownSign_cases s.flags negative with ⟨-, h⟩ | ⟨-, h | h⟩ <;> rw [h] at hc
      · rw [List.mem_singleton.1 hc]
        decide
      · rw [List.mem_singleton.1 hc]
        decide
      · cases hc
    · rcases List.mem_append.1 hc with hc | hc
      · rw [List.eq_of_mem_replicate hc]
        decide
      · exact hbody c hc
  rw [hfilled, hsign, List.append_assoc, Text.trim_of_isBlank_append hblanks, ← hsign,
    Text.trim_eq_self hsolid]

end Instrument.WireFormat
