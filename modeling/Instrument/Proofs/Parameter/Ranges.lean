/-
# Ranges and their notation

A range that is read is in order: a list has items, and none of them is empty, has blanks at its ends or
holds a comma or a bracket; the bounds of an interval are not the wrong way round.  A bound may be the
datum that is no number, since that is neither above nor below the other one.

The notation that is written of a range is read as the range again, the bounds of an interval with
every digit (`range_restored`).  A list of one item is the exception: it is read where a comma follows
the item, but the comma is not written, and what has neither brackets nor commas is no notation of a
range.
-/
import Instrument.Proofs.Number.Shortest
import Instrument.Proofs.Parameter.Intervals

namespace Instrument

open Number

/-! ## Characters of a numeral -/

/-- A numeral has neither blanks nor commas. -/
theorem Number.NumeralText.no_separator {cs : List Char} (h : NumeralText cs) {c : Char}
    (hc : c ∈ cs) : Text.isBlank c = false ∧ c ≠ ',' := by
  have hmark : ∀ {c}, isNumberMark c = true → Text.isBlank c = false ∧ c ≠ ',' := by
    refine fun hc => ⟨isBlank_of_isNumberMark hc, ?_⟩
    rintro rfl
    exact absurd hc (by decide)
  cases h with
  | word hsign hword =>
    rcases List.mem_append.1 hc with hc | hc
    · exact hmark (hsign.isNumberMark hc)
    · have hletters : ∀ w ∈ numeralWords, ∀ c ∈ w, Text.isBlank c = false ∧ c ≠ ',' := by decide
      obtain ⟨hblank, hcomma⟩ := hletters _ hword _ (List.mem_map_of_mem hc)
      refine ⟨Text.isBlank_toLower c ▸ hblank, ?_⟩
      rintro rfl
      exact hcomma rfl
  | number hnumber =>
    rcases hnumber.digit_or_mark hc with hdigit | hc
    · refine ⟨Text.isBlank_of_isDigit hdigit, ?_⟩
      rintro rfl
      exact absurd hdigit (by decide)
    · exact hmark hc

theorem no_separator_of_mem_displayFloat {x : Float} {c : Char} (hc : c ∈ displayFloat x) :
    Text.isBlank c = false ∧ c ≠ ',' := by
  refine NumeralText.no_separator (isSome_read?_iff.1 ?_) hc
  have hread := congrArg Option.isSome (readFloat?_displayFloat x)
  rwa [readFloat?, Option.isSome_map] at hread

namespace Range

/-! ## Ranges in order -/

/-- An item that a list can have. -/
structure IsItem (item : String) : Prop where
  nonempty : item ≠ ""
  trimmed : Text.trimmed item = item
  plain : ∀ c ∈ item.toList, c ≠ ',' ∧ isOpening c = false ∧ isClosing c = false

theorem IsItem.toList_ne_nil {item : String} (h : IsItem item) : item.toList ≠ [] :=
  fun hnil => h.nonempty (String.toList_eq_nil_iff.1 hnil)

theorem IsItem.trim {item : String} (h : IsItem item) : Text.trim item.toList = item.toList := by
  have htrim := congrArg String.toList h.trimmed
  rwa [Text.trimmed, String.toList_ofList] at htrim

/-- The ranges that have a notation. -/
inductive InOrder : Range → Prop
  | interval {lower upper : Float} (lowerClosed upperClosed : Bool) :
      lower ≤ upper ∨ lower.isNaN = true ∨ upper.isNaN = true →
      InOrder (.interval lower upper lowerClosed upperClosed)
  | list {items : List String} : items ≠ [] → (∀ item ∈ items, IsItem item) → InOrder (.list items)

theorem inOrder_of_readInterval {cs : List Char} {r : Range} (h : readInterval cs = .ok r) :
    r.InOrder := by
  unfold readInterval at h
  split at h
  · split at h
    · cases h
    · split at h
      · split at h
        · cases h
        · split at h
          · cases h
          · split at h
            · cases h
            · rename_i hlt
              cases h
              exact .interval _ _ (not_lt_iff_le.1 hlt)
      · cases h
  · cases h

/-- What a text without brackets has for items. -/
theorem isItem_of_mem_listItems {cs : List Char}
    (hcs : (cs.any fun c => isOpening c || isClosing c) = false) {item : String}
    (h : item ∈ listItems cs) : IsItem item := by
  obtain ⟨piece, hpiece, hitem⟩ := List.mem_filterMap.1 h
  obtain ⟨all, hall, rfl⟩ := List.mem_map.1 hpiece
  split at hitem
  · cases hitem
  · rename_i hne
    cases hitem
    refine ⟨fun hempty => hne ?_, ?_, fun c hc => ?_⟩
    · rw [List.isEmpty_iff, ← String.toList_ofList (l := Text.trim all), hempty]
      rfl
    · rw [Text.trimmed, String.toList_ofList, Text.trim_trim]
    · rw [String.toList_ofList] at hc
      have hc := Text.mem_of_mem_trim hc
      have hbracket := List.any_eq_false.1 hcs c (Text.mem_of_mem_splitOn hall hc)
      rw [Bool.or_eq_true, not_or, Bool.not_eq_true, Bool.not_eq_true] at hbracket
      exact ⟨fun hcomma => Text.not_mem_of_mem_splitOn hall (hcomma ▸ hc), hbracket⟩

theorem inOrder_of_read {text : String} {r : Range} (h : Range.read text = .ok r) : r.InOrder := by
  unfold Range.read at h
  dsimp only at h
  split at h
  · exact inOrder_of_readInterval h
  · rename_i hbracket
    rw [Bool.not_eq_true] at hbracket
    split at h
    · split at h
      · cases h
      · rename_i hne
        cases h
        exact .list hne fun item hitem => isItem_of_mem_listItems hbracket hitem
    · cases h

/-! ## The notation of a range -/

/-- An interval is read with the bounds that are written of it. -/
theorem read_display_interval {lower upper : Float} (lowerClosed upperClosed : Bool)
    (h : ¬ upper < lower) :
    Range.read (display (.interval lower upper lowerClosed upperClosed)) =
      .ok (.interval lower upper lowerClosed upperClosed) := by
  have hblank : ∀ x : Float, ∀ c ∈ displayFloat x, Text.isBlank c = false :=
    fun x c hc => (no_separator_of_mem_displayFloat hc).1
  have hcomma : ∀ x : Float, ',' ∉ displayFloat x :=
    fun x hc => (no_separator_of_mem_displayFloat hc).2 rfl
  have hread : ∀ x : Float, readFloat? (Text.trim (displayFloat x)) = some x := fun x => by
    rw [Text.trim_eq_self (hblank x), readFloat?_displayFloat]
  have hopening : Text.isBlank (if lowerClosed then '[' else '(') = false := by
    cases lowerClosed <;> decide
  have hclosing : Text.isBlank (if upperClosed then ']' else ')') = false := by
    cases upperClosed <;> decide
  have hwhole : ∀ c ∈ (if lowerClosed then '[' else '(') :: (displayFloat lower ++
      ',' :: displayFloat upper ++ [if upperClosed then ']' else ')']), Text.isBlank c = false :=
    List.forall_mem_cons.2 ⟨hopening, List.forall_mem_append.2 ⟨List.forall_mem_append.2
      ⟨hblank lower, List.forall_mem_cons.2 ⟨by decide, hblank upper⟩⟩,
      List.forall_mem_singleton.2 hclosing⟩⟩
  have htext := Text.trim_eq_self hwhole
  rw [read_interval_eq ?_ (hcomma lower) (hcomma upper) (hread lower) (hread upper), if_neg h]
  rw [display, String.toList_ofList]
  exact htext

section List

variable {items : List String}

/-- The text of a list is the one that is looked at. -/
theorem trim_display (h : ∀ item ∈ items, IsItem item) :
    Text.trim (display (.list items)).toList =
      List.intercalate [','] (items.map String.toList) := by
  rw [display, String.toList_intercalate]
  refine Text.trim_intercalate fun piece hpiece => ?_
  obtain ⟨item, hitem, rfl⟩ := List.mem_map.1 hpiece
  exact ⟨(h item hitem).toList_ne_nil, (h item hitem).trim⟩

theorem any_bracket_display (h : ∀ item ∈ items, IsItem item) :
    ((List.intercalate [','] (items.map String.toList)).any fun c => isOpening c || isClosing c) =
      false := by
  refine List.any_eq_false.2 fun c hc => ?_
  rcases Text.mem_intercalate hc with rfl | ⟨piece, hpiece, hc⟩
  · decide
  · obtain ⟨item, hitem, rfl⟩ := List.mem_map.1 hpiece
    obtain ⟨-, hopening, hclosing⟩ := (h item hitem).plain c hc
    rw [hopening, hclosing]
    decide

theorem listItems_intercalate (hne : items ≠ []) (h : ∀ item ∈ items, IsItem item) :
    listItems (List.intercalate [','] (items.map String.toList)) = items := by
  have hcomma : ∀ piece ∈ items.map String.toList, ',' ∉ piece := by
    intro piece hpiece hc
    obtain ⟨item, hitem, rfl⟩ := List.mem_map.1 hpiece
    exact ((h item hitem).plain ',' hc).1 rfl
  rw [listItems, Text.splitOn_intercalate (by simpa using hne) hcomma, List.map_map,
    List.filterMap_map]
  refine (List.filterMap_congr fun item hitem => ?_).trans List.filterMap_some
  show (if (Text.trim item.toList).isEmpty then none
    else some (String.ofList (Text.trim item.toList))) = some item
  rw [(h item hitem).trim, if_neg (by simpa using (h item hitem).toList_ne_nil),
    String.ofList_toList]

/-- A list is read with the items that are written of it, unless it has one only. -/
theorem read_display_list {first second : String} {items : List String}
    (h : ∀ item ∈ first :: second :: items, IsItem item) :
    Range.read (display (.list (first :: second :: items))) =
      .ok (.list (first :: second :: items)) := by
  have hcomma :
      (List.intercalate [','] ((first :: second :: items).map String.toList)).contains ',' = true := by
    rw [List.map_cons, List.map_cons, List.intercalate_cons_cons, List.contains_iff_mem]
    exact List.mem_append_left _ (List.mem_append_right _ List.mem_cons_self)
  unfold Range.read
  rw [trim_display h]
  dsimp only
  rw [any_bracket_display h, if_neg Bool.false_ne_true, if_pos hcomma,
    listItems_intercalate (List.cons_ne_nil _ _) h]

/-- What is written of a list of one item is no notation of a range. -/
theorem read_display_singleton {item : String} (h : IsItem item) :
    Range.read (display (.list [item])) = .error (.unrecognised item) := by
  have hall : ∀ i ∈ [item], IsItem i := List.forall_mem_singleton.2 h
  have hcomma : ¬ item.toList.contains ',' = true := fun hc =>
    (h.plain ',' (List.contains_iff_mem.1 hc)).1 rfl
  have hbracket := any_bracket_display hall
  unfold Range.read
  rw [trim_display hall]
  rw [List.map_singleton, List.intercalate_singleton] at hbracket ⊢
  dsimp only
  rw [hbracket, if_neg Bool.false_ne_true, if_neg hcomma, String.ofList_toList]

end List

end Range

/-- **A range that is read is in order, and its notation is read as the range again**, unless it is a
list of one item; what is written of that is refused. -/
theorem range_restored {text : String} {r : Range} (h : Range.read text = .ok r) :
    r.InOrder ∧ ((∀ item, r ≠ .list [item]) → Range.read r.display = .ok r) ∧
      ∀ item, r = .list [item] → Range.read r.display = .error (.unrecognised item) := by
  have horder := Range.inOrder_of_read h
  refine ⟨horder, ?_⟩
  cases horder with
  | interval lowerClosed upperClosed hle =>
    exact ⟨fun _ => Range.read_display_interval _ _ (not_lt_iff_le.2 hle), nofun⟩
  | @list items hne hitems =>
    rcases items with _ | ⟨first, _ | ⟨second, items⟩⟩
    · exact absurd rfl hne
    · refine ⟨fun hnot => absurd rfl (hnot first), ?_⟩
      rintro item ⟨⟩
      exact Range.read_display_singleton (hitems first List.mem_cons_self)
    · exact ⟨fun _ => Range.read_display_list hitems, nofun⟩

/-- The range of a thermostat, and the settings of a switch. -/
theorem range_restored_thermostat :
    (Range.read " (-5.5, 1e1]" =
        .ok (.interval (floatOfWord 0xC016000000000000) (floatOfWord 0x4024000000000000) false true) ∧
      Range.read (Range.interval (floatOfWord 0xC016000000000000) (floatOfWord 0x4024000000000000)
          false true).display =
        .ok (.interval (floatOfWord 0xC016000000000000) (floatOfWord 0x4024000000000000)
          false true)) ∧
      Range.read "on, off,,standby" = .ok (.list ["on", "off", "standby"]) ∧
      Range.read (Range.list ["on", "off", "standby"]).display =
        .ok (.list ["on", "off", "standby"]) := by
  have hinterval : Range.read " (-5.5, 1e1]" = .ok (.interval (floatOfWord 0xC016000000000000)
      (floatOfWord 0x4024000000000000) false true) := by rfl
  have hlist : Range.read "on, off,,standby" = .ok (.list ["on", "off", "standby"]) := by rfl
  exact ⟨⟨hinterval, (range_restored hinterval).2.1 nofun⟩, hlist,
    (range_restored hlist).2.1 (by rintro item ⟨⟩)⟩

/-- **A list of one item is not read again, and a bound may be no number.** -/
theorem range_not_restored :
    (Range.read "a," = .ok (.list ["a"]) ∧
      Range.read (Range.list ["a"]).display = .error (.unrecognised "a")) ∧
      Range.read "[nan,1]" = .ok (.interval (floatOfWord Binary.double.nanWord)
        (floatOfWord 0x3FF0000000000000) true true) ∧
      ¬ floatOfWord Binary.double.nanWord ≤ floatOfWord 0x3FF0000000000000 :=
  ⟨⟨by rfl, by rfl⟩, by rfl, by decide⟩

end Instrument
