/-
# The translation of templates

A template is read if it is made of characters other than the percent sign, of percent signs that are
doubled, and of parts (`TemplateText`); any other text is refused (`read_eq_ok_iff`).

What was read is joined to one text of conversions again, for `strftime`, which takes that text apart in
its own way.  How it does so is all that is asked of it here (`IsStrftime`): a character that is no
percent sign is copied, and of the conversions that could begin at a percent sign the longest one is
taken.  No conversion of a part is the beginning of a longer one, and the percent signs of the template
are doubled again; so each part is taken for what it is, whatever is written beside it, and the date is
written as it is written part by part (`date_translated`).
-/
import Instrument.DateFormat.Writer
import Instrument.Proofs.Outcome

namespace Instrument

open Calendar

/-! ## Which texts are templates -/

/-- The texts that are templates, and their segments. -/
inductive TemplateText : List Char → List DateSegment → Prop
  | nil : TemplateText [] []
  /-- A character that stands for itself. -/
  | plain {c : Char} {cs : List Char} {segments : List DateSegment} : c ≠ '%' →
      TemplateText cs segments → TemplateText (c :: cs) (.literal c :: segments)
  /-- A percent sign. -/
  | percent {cs : List Char} {segments : List DateSegment} : TemplateText cs segments →
      TemplateText ('%' :: '%' :: cs) (.literal '%' :: segments)
  /-- A part by its letter. -/
  | part {t : Char} {cs : List Char} {segments : List DateSegment} (p : DatePart) :
      t = 't' ∨ t = 'T' → TemplateText cs segments →
      TemplateText ('%' :: t :: p.letter :: cs) (.part p :: segments)

namespace DateFormat

theorem letter_of_ofLetter? {c : Char} {p : DatePart} (h : DatePart.ofLetter? c = some p) :
    p.letter = c := by
  simpa using List.find?_some h

theorem readSegments_of_templateText {cs : List Char} {segments : List DateSegment}
    (h : TemplateText cs segments) (source : String) : readSegments source cs = .ok segments := by
  induction h with
  | nil => rfl
  | @plain c cs segments hc _ ih =>
    rw [readSegments, ih]
    · rfl
    all_goals
      intros
      contradiction
  | percent _ ih =>
    rw [readSegments, ih]
    rfl
  | part p ht _ ih =>
    rcases ht with rfl | rfl <;>
    · rw [readSegments, DatePart.ofLetter?_letter]
      simp only [ih]
      rfl

theorem templateText_of_readSegments {source : String} {cs : List Char}
    {segments : List DateSegment} (h : readSegments source cs = .ok segments) :
    TemplateText cs segments := by
  induction cs using readSegments.induct generalizing segments with
  | case1 =>
    cases h
    exact .nil
  | case2 rest ih =>
    rw [readSegments] at h
    obtain ⟨more, hmore, rfl⟩ := map_eq_ok_iff.1 h
    exact .percent (ih hmore)
  | case3 | case4 => cases h
  | case5 c rest p hp ih =>
    rw [readSegments, hp] at h
    obtain ⟨more, hmore, rfl⟩ := map_eq_ok_iff.1 h
    exact letter_of_ofLetter? hp ▸ .part p (.inl rfl) (ih hmore)
  | case6 c rest hnone =>
    rw [readSegments, hnone] at h
    cases h
  | case7 c rest p hp ih =>
    rw [readSegments, hp] at h
    obtain ⟨more, hmore, rfl⟩ := map_eq_ok_iff.1 h
    exact letter_of_ofLetter? hp ▸ .part p (.inr rfl) (ih hmore)
  | case8 c rest hnone =>
    rw [readSegments, hnone] at h
    cases h
  | case9 tail h₁ h₂ h₃ h₄ h₅ =>
    rw [readSegments] at h
    · cases h
    all_goals assumption
  | case10 c rest h₁ h₂ h₃ h₄ h₅ hc ih =>
    rw [readSegments] at h
    · obtain ⟨more, hmore, rfl⟩ := map_eq_ok_iff.1 h
      exact .plain hc (ih hmore)
    all_goals assumption

/-- **The texts that are read as templates.** -/
theorem read_eq_ok_iff {source : String} {f : DateFormat} :
    read source = .ok f ↔ f.source = source ∧ TemplateText source.toList f.segments := by
  rw [read, map_eq_ok_iff]
  constructor
  · rintro ⟨segments, hread, rfl⟩
    exact ⟨rfl, templateText_of_readSegments hread⟩
  · rintro ⟨rfl, h⟩
    exact ⟨f.segments, readSegments_of_templateText h f.source, rfl⟩

end DateFormat

/-! ## What `strftime` does -/

namespace Strftime

/-- The letters of the conversions. -/
def letters : List Char := "YCyqmbBhdeaAwuUWGgVjDxFvHkIlPpMSfRTXrZzc+stn".toList

/-- The letters of those that write a number, which may be padded in another way. -/
def numberLetters : List Char := "YCyqmdewuUWGgVjHkIlMSfs".toList

/-- The conversions: the letters alone and padded, fractions of a second and offsets in other forms, and
the percent sign. -/
def conversions : List (List Char) :=
  letters.map (fun c => ['%', c]) ++
    ['-', '_', '0'].flatMap (fun pad => numberLetters.map fun c => ['%', pad, c]) ++
    ["%.f", "%.3f", "%.6f", "%.9f", "%3f", "%6f", "%9f", "%:z", "%::z", "%:::z", "%#z",
      "%%"].map String.toList

end Strftime

/-- What is known of `strftime`, for a date that is given: `format` takes a text of conversions to what is
written, if there is no fault in it. -/
structure IsStrftime (format : List Char → Option (List Char)) : Prop where
  nil : format [] = some []
  /-- Text is copied. -/
  plain : ∀ c rest, c ≠ '%' → format (c :: rest) = (format rest).map (c :: ·)
  /-- A doubled percent sign is one. -/
  percent : format ['%', '%'] = some ['%']
  /-- The longest conversion that is there is written, and then what is behind it. -/
  conversion : ∀ s ∈ Strftime.conversions, ∀ rest,
    (∀ t ∈ Strftime.conversions, t <+: s ++ rest → t.length ≤ s.length) →
    format (s ++ rest) = (format s).bind fun x => (format rest).map (x ++ ·)

namespace Strftime

/-- The conversions that a template is translated to. -/
def used : List (List Char) := ['%', '%'] :: DatePart.all.map (·.strftime.toList)

theorem mem_used (p : DatePart) : p.strftime.toList ∈ used := by
  cases p <;> decide

theorem used_subset : used ⊆ conversions := by decide +kernel

/-- May a character stand between the percent sign and the last character of a conversion? -/
def isModifier (c : Char) : Bool := c ∈ "-_0.369:#".toList

/-- Does a text begin with a percent sign, and end with the first character behind it that is no such
one? -/
def isClosed (s : List Char) : Bool :=
  s == '%' :: (s.tail.dropLast ++ [s.getLastD '%']) && s.tail.dropLast.all isModifier &&
    !isModifier (s.getLastD '%')

theorem all_isClosed : conversions.all isClosed = true := by decide +kernel

theorem exists_of_mem_conversions {s : List Char} (hs : s ∈ conversions) : ∃ modifiers c,
    s = '%' :: (modifiers ++ [c]) ∧ (∀ d ∈ modifiers, isModifier d = true) ∧
      isModifier c = false := by
  have hclosed := List.all_eq_true.1 all_isClosed s hs
  rw [isClosed, Bool.and_eq_true, Bool.and_eq_true, beq_iff_eq, List.all_eq_true,
    Bool.not_eq_true'] at hclosed
  obtain ⟨⟨hshape, hmodifiers⟩, hlast⟩ := hclosed
  exact ⟨_, _, hshape, hmodifiers, hlast⟩

/-- So no conversion is the beginning of another one. -/
theorem eq_of_begins {s t : List Char} (hs : s ∈ conversions) (ht : t ∈ conversions)
    (h : s <+: t) : t = s := by
  obtain ⟨before, c, rfl, -, hlast⟩ := exists_of_mem_conversions hs
  obtain ⟨modifiers, d, rfl, hmodifiers, -⟩ := exists_of_mem_conversions ht
  rw [List.cons_prefix_cons] at h
  rcases List.prefix_concat_iff.1 h.2 with heq | hinside
  · rw [heq]
  · have hc : c ∈ modifiers := hinside.subset (List.mem_append_right _ List.mem_cons_self)
    rw [hmodifiers c hc] at hlast
    cases hlast

end Strftime

namespace IsStrftime

variable {format : List Char → Option (List Char)}

/-- A conversion of a template is taken whole, and no more with it, whatever is behind it. -/
theorem format_append (h : IsStrftime format) {s : List Char} (hs : s ∈ Strftime.used)
    (rest : List Char) :
    format (s ++ rest) = (format s).bind fun x => (format rest).map (x ++ ·) := by
  refine h.conversion s (Strftime.used_subset hs) rest fun t ht hprefix => ?_
  rcases List.prefix_or_prefix_of_prefix hprefix (List.prefix_append s rest) with hshort | hlong
  · exact hshort.length_le
  · exact Nat.le_of_eq (congrArg List.length
      (Strftime.eq_of_begins (Strftime.used_subset hs) ht hlong))

end IsStrftime

/-! ## What is written -/

/-- The conversions of a segment. -/
def DateSegment.strftime : DateSegment → List Char
  | .literal c => if c = '%' then ['%', '%'] else [c]
  | .part p => p.strftime.toList

/-- A segment of a template, for what is written of each part. -/
def DateSegment.fill (out : DatePart → List Char) : DateSegment → List Char
  | .literal c => [c]
  | .part p => out p

theorem DateSegment.fill_write (m : Moment) : DateSegment.fill (·.write m) = (·.write m) := by
  funext s
  cases s <;> rfl

namespace DateFormat

theorem toList_strftime (f : DateFormat) :
    f.strftime.toList = f.segments.flatMap (·.strftime) := by
  have hsegments : (fun s : DateSegment => s.strftime) = fun
      | .literal c => if c = '%' then ['%', '%'] else [c]
      | .part p => p.strftime.toList := by
    funext s
    cases s <;> rfl
  rw [strftime, String.toList_ofList]
  exact congrArg f.segments.flatMap hsegments.symm

/-- Segments that are translated and joined are written one after the other. -/
theorem format_segments {format : List Char → Option (List Char)} (h : IsStrftime format)
    {out : DatePart → List Char} {segments : List DateSegment}
    (hout : ∀ p, .part p ∈ segments → format p.strftime.toList = some (out p)) :
    format (segments.flatMap (·.strftime)) = some (segments.flatMap (·.fill out)) := by
  induction segments with
  | nil => exact h.nil
  | cons s rest ih =>
    have hrest := ih fun p hp => hout p (List.mem_cons_of_mem s hp)
    rw [List.flatMap_cons, List.flatMap_cons]
    cases s with
    | literal c =>
      by_cases hc : c = '%'
      · subst hc
        rw [DateSegment.strftime, if_pos rfl, h.format_append List.mem_cons_self, h.percent, hrest]
        rfl
      · rw [DateSegment.strftime, if_neg hc, List.singleton_append, h.plain c _ hc, hrest]
        rfl
    | part p =>
      rw [DateSegment.strftime, h.format_append (Strftime.mem_used p), hout p List.mem_cons_self,
        hrest]
      rfl

end DateFormat

/-- **Templates are translated without a change of meaning.**  A text is read as a template just if it is
one, and what `strftime` then writes under the joined conversions is the text of the template as it
stands, with each part written as its own conversion is written alone.  So it is what the template
writes, if the parts are. -/
theorem date_translated (source : String) :
    (∀ f, DateFormat.read source = .ok f ↔
      f.source = source ∧ TemplateText source.toList f.segments) ∧
    ∀ f, DateFormat.read source = .ok f →
      ∀ format : List Char → Option (List Char), IsStrftime format →
        (∀ out : DatePart → List Char,
          (∀ p, .part p ∈ f.segments → format p.strftime.toList = some (out p)) →
          format f.strftime.toList = some (f.segments.flatMap (·.fill out))) ∧
        ∀ m : Moment, (∀ p, .part p ∈ f.segments → format p.strftime.toList = some (p.write m)) →
          format f.strftime.toList = some (f.write m).toList := by
  refine ⟨fun f => DateFormat.read_eq_ok_iff, fun f _ format h => ⟨fun out hout => ?_, fun m hm => ?_⟩⟩
  · rw [f.toList_strftime]
    exact DateFormat.format_segments h hout
  · rw [f.toList_strftime, DateFormat.write, String.toList_ofList, ← DateSegment.fill_write]
    exact DateFormat.format_segments h hm

/-! ## A formatter of this kind -/

namespace Strftime

/-- Writes a text of conversions from left to right, for what each conversion writes; so many characters
are passed over first, the rest of a conversion that was written. -/
def format (out : List Char → Option (List Char)) : Nat → List Char → Option (List Char)
  | _, [] => some []
  | skip + 1, _ :: rest => format out skip rest
  | 0, c :: rest =>
    if c = '%' then
      (conversions.find? (·.isPrefixOf (c :: rest))).bind fun s =>
        (out s).bind fun x => (format out (s.length - 1) rest).map (x ++ ·)
    else (format out 0 rest).map (c :: ·)

/-- The conversion that is found is the one that is there. -/
theorem find?_append {s : List Char} (hs : s ∈ conversions) (rest : List Char) :
    conversions.find? (·.isPrefixOf (s ++ rest)) = some s := by
  have hfound : (conversions.find? (·.isPrefixOf (s ++ rest))).isSome = true :=
    List.find?_isSome.2 ⟨s, hs, List.isPrefixOf_iff_prefix.2 (List.prefix_append s rest)⟩
  obtain ⟨t, ht⟩ := Option.isSome_iff_exists.1 hfound
  have hmem := List.mem_of_find?_eq_some ht
  have hbegins := List.find?_some ht
  have hprefix : t <+: s ++ rest := List.isPrefixOf_iff_prefix.1 hbegins
  rw [ht]
  rcases List.prefix_or_prefix_of_prefix hprefix (List.prefix_append s rest) with h | h
  · rw [eq_of_begins hmem hs h]
  · rw [eq_of_begins hs hmem h]

theorem format_skip (out : List Char → Option (List Char)) (cs rest : List Char) :
    format out cs.length (cs ++ rest) = format out 0 rest := by
  induction cs with
  | nil => rfl
  | cons c cs ih => exact ih

theorem format_append {out : List Char → Option (List Char)} {s : List Char}
    (hs : s ∈ conversions) (rest : List Char) :
    format out 0 (s ++ rest) = (out s).bind fun x => (format out 0 rest).map (x ++ ·) := by
  have hfind := find?_append hs rest
  obtain ⟨modifiers, c, rfl, -, -⟩ := exists_of_mem_conversions hs
  rw [List.cons_append] at hfind ⊢
  rw [format, if_pos rfl, hfind, Option.bind_some, List.length_cons, Nat.add_sub_cancel,
    format_skip]

theorem format_alone {out : List Char → Option (List Char)} {s : List Char}
    (hs : s ∈ conversions) : format out 0 s = out s := by
  have hnothing : format out 0 (s ++ []) = _ := format_append hs []
  rw [List.append_nil] at hnothing
  rw [hnothing]
  cases out s with
  | none => rfl
  | some x => exact congrArg some (List.append_nil x)

/-- **What writes from left to right is of this kind.** -/
theorem isStrftime_format {out : List Char → Option (List Char)} (hout : out ['%', '%'] = some ['%']) :
    IsStrftime (format out 0) where
  nil := rfl
  plain c rest hc := by rw [format, if_neg hc]
  percent := (format_alone (used_subset List.mem_cons_self)).trans hout
  conversion s hs rest _ := by
    rw [format_append hs, format_alone hs]

end Strftime

namespace Logbook

/-- A template with text that would mean something to `strftime` in front of its parts and behind
them. -/
def ruled : DateFormat where
  source := "%%-d%%.%tL3f%%3%tb %TY0%tm%%%te:%tz"
  segments :=
    [.literal '%', .literal '-', .literal 'd', .literal '%', .literal '.', .part .millisecond,
     .literal '3', .literal 'f', .literal '%', .literal '3', .part .monthAbbreviation, .literal ' ',
     .part .year, .literal '0', .part .month, .literal '%', .part .bareDay, .literal ':',
     .part .zoneOffset]

/-- A moment of the morning. -/
def breakfast : Moment := ⟨⟨2024, 3, 8, by decide⟩, ⟨8, 5, 9, 250000000⟩, 7200⟩

/-- What the conversions of the parts write of it. -/
def outputs (s : List Char) : Option (List Char) :=
  if s = ['%', '%'] then some ['%']
  else (DatePart.all.find? fun p => p.strftime.toList = s).map (·.write breakfast)

end Logbook

/-- Text of a template is not taken for a conversion. -/
theorem date_translated_ruled :
    DateFormat.read Logbook.ruled.source = .ok Logbook.ruled ∧
      TemplateText Logbook.ruled.source.toList Logbook.ruled.segments ∧
      IsStrftime (Strftime.format Logbook.outputs 0) ∧
      Logbook.ruled.strftime = "%%-d%%.%3f3f%%3%b %Y0%m%%%-d:%z" ∧
      (∀ p : DatePart, Strftime.format Logbook.outputs 0 p.strftime.toList =
        some (p.write Logbook.breakfast)) ∧
      Logbook.ruled.write Logbook.breakfast = "%-d%.2503f%3Mar 2024003%8:+0200" ∧
      Strftime.format Logbook.outputs 0 Logbook.ruled.strftime.toList =
        some "%-d%.2503f%3Mar 2024003%8:+0200".toList := by
  have hread : DateFormat.read Logbook.ruled.source = .ok Logbook.ruled := by rfl
  have hformat : IsStrftime (Strftime.format Logbook.outputs 0) := Strftime.isStrftime_format rfl
  have hparts : ∀ p : DatePart, Strftime.format Logbook.outputs 0 p.strftime.toList =
      some (p.write Logbook.breakfast) := by
    intro p
    rw [Strftime.format_alone (Strftime.used_subset (Strftime.mem_used p))]
    cases p <;> rfl
  have htext : Logbook.ruled.write Logbook.breakfast = "%-d%.2503f%3Mar 2024003%8:+0200" := by
    decide
  obtain ⟨hiff, hall⟩ := date_translated Logbook.ruled.source
  obtain ⟨-, hwrite⟩ := hall Logbook.ruled hread _ hformat
  have hwritten := hwrite Logbook.breakfast fun p _ => hparts p
  rw [htext] at hwritten
  exact ⟨hread, ((hiff _).1 hread).2, hformat, by decide, hparts, htext, hwritten⟩

end Instrument
