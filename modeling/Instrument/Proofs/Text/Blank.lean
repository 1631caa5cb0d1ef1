/-
# Blanks at the ends

How a text is trimmed that is put together from two: blanks in front and behind do not count, and
what stands between characters that are no blanks is kept, blanks included.  And how such a text is
taken apart again at the separator between the two.
-/
import Instrument.Text.Blank

namespace Instrument.Text

variable {cs ds : List Char}

/-- What holds of the characters of a text is decided one character after the other, even where it
could be decided of all the characters that there are. -/
instance (priority := 1100) decidableForallMem {P : Char → Prop} [DecidablePred P]
    (cs : List Char) : Decidable (∀ c ∈ cs, P c) :=
  List.decidableBAll P cs

/-- Is there anything but blanks in a text? -/
def IsSolid (cs : List Char) : Prop := ∃ c ∈ cs, isBlank c = false

theorem isSolid_or_isBlank (cs : List Char) : IsSolid cs ∨ ∀ c ∈ cs, isBlank c = true := by
  by_cases h : ∀ c ∈ cs, isBlank c = true
  · exact .inr h
  · refine .inl ?_
    simpa [IsSolid] using h

theorem dropWhile_ne_nil (h : IsSolid cs) : cs.dropWhile isBlank ≠ [] := by
  obtain ⟨c, hc, hblank⟩ := h
  intro hnil
  have hall := List.all_eq_true.1 (List.all_takeWhile (p := isBlank) (l := cs)) c
  rw [← List.takeWhile_append_dropWhile (p := isBlank) (l := cs), hnil, List.append_nil] at hc
  rw [hall hc] at hblank
  cases hblank

theorem trimStart_cons {c : Char} (h : isBlank c = false) (cs : List Char) :
    trimStart (c :: cs) = c :: cs :=
  List.dropWhile_cons_of_neg (by simp [h])

theorem trimStart_of_isBlank (h : ∀ c ∈ cs, isBlank c = true) (ds : List Char) :
    trimStart (cs ++ ds) = trimStart ds :=
  List.dropWhile_append_of_pos h

theorem trimStart_append (h : IsSolid cs) (ds : List Char) :
    trimStart (cs ++ ds) = trimStart cs ++ ds := by
  rw [trimStart, List.dropWhile_append, if_neg]
  · rfl
  · simpa using dropWhile_ne_nil h

theorem trimEnd_of_isBlank (h : ∀ c ∈ ds, isBlank c = true) (cs : List Char) :
    trimEnd (cs ++ ds) = trimEnd cs := by
  rw [trimEnd, List.reverse_append,
    List.dropWhile_append_of_pos fun c hc => h c (List.mem_reverse.1 hc)]
  rfl

theorem trimEnd_append (h : IsSolid ds) (cs : List Char) :
    trimEnd (cs ++ ds) = cs ++ trimEnd ds := by
  have hreverse : IsSolid ds.reverse := by simpa [IsSolid] using h
  rw [trimEnd, List.reverse_append, List.dropWhile_append, if_neg]
  · simp [trimEnd]
  · simpa using dropWhile_ne_nil hreverse

theorem trimEnd_eq_nil (h : ∀ c ∈ cs, isBlank c = true) : trimEnd cs = [] :=
  trimEnd_of_isBlank h []

theorem trimEnd_cons {c : Char} (h : isBlank c = false) (cs : List Char) :
    trimEnd (c :: cs) = c :: trimEnd cs := by
  rcases isSolid_or_isBlank cs with hcs | hcs
  · exact trimEnd_append hcs [c]
  · have hsingle : trimEnd [c] = [c] := by simp [trimEnd, h]
    rw [trimEnd_eq_nil hcs]
    exact (trimEnd_of_isBlank hcs [c]).trans hsingle

/-- What stands up to a character that is no blank is kept when blanks are trimmed at the end. -/
theorem trimEnd_append_cons {c : Char} (h : isBlank c = false) (cs ds : List Char) :
    trimEnd (cs ++ c :: ds) = cs ++ c :: trimEnd ds := by
  rw [trimEnd_append ⟨c, List.mem_cons_self, h⟩, trimEnd_cons h]

theorem mem_of_mem_trimEnd {c : Char} (h : c ∈ trimEnd cs) : c ∈ cs := by
  rw [trimEnd, List.mem_reverse] at h
  exact List.mem_reverse.1 ((List.dropWhile_sublist _).mem h)

theorem trimEnd_eq_self (h : ∀ c ∈ cs.getLast?, isBlank c = false) : trimEnd cs = cs := by
  rcases List.eq_nil_or_concat cs with rfl | ⟨front, c, rfl⟩
  · rfl
  · rw [List.concat_eq_append] at h ⊢
    exact trimEnd_append_cons (h c List.getLast?_concat) front []

theorem isBlank_of_mem_getLast?_trimEnd {c : Char} (h : c ∈ (trimEnd cs).getLast?) :
    isBlank c = false := by
  have hhead := List.head?_dropWhile_not isBlank cs.reverse
  rw [trimEnd, List.getLast?_reverse, Option.mem_def] at h
  rwa [h] at hhead

theorem trimStart_eq_self (h : ∀ c ∈ cs.head?, isBlank c = false) : trimStart cs = cs := by
  cases cs with
  | nil => rfl
  | cons c rest => exact trimStart_cons (h c rfl) rest

theorem isBlank_of_mem_head?_trimStart {c : Char} (h : c ∈ (trimStart cs).head?) :
    isBlank c = false := by
  have hhead := List.head?_dropWhile_not isBlank cs
  rw [trimStart, Option.mem_def] at h
  rwa [h] at hhead

/-- What is left when blanks are trimmed at the start starts with a character that is none. -/
theorem exists_trimStart (h : IsSolid cs) :
    ∃ c rest, trimStart cs = c :: rest ∧ isBlank c = false := by
  obtain ⟨c, rest, hcs⟩ := List.exists_cons_of_ne_nil (dropWhile_ne_nil h)
  have hhead := List.head?_dropWhile_not isBlank cs
  rw [hcs] at hhead
  exact ⟨c, rest, hcs, hhead⟩

theorem isSolid_trimStart (h : IsSolid cs) : IsSolid (trimStart cs) := by
  obtain ⟨c, rest, hcs, hc⟩ := exists_trimStart h
  exact ⟨c, hcs ▸ List.mem_cons_self, hc⟩

theorem trimStart_eq_nil (h : ∀ c ∈ cs, isBlank c = true) : trimStart cs = [] := by
  simpa [trimStart] using trimStart_of_isBlank h []

/-- A text with nothing to trim is left when blanks in front of it are trimmed. -/
theorem trimStart_trimEnd (hcs : ∀ c ∈ cs, isBlank c = true) (hstart : trimStart ds = ds)
    (hend : trimEnd ds = ds) : trimStart (trimEnd (cs ++ ds)) = ds := by
  rcases isSolid_or_isBlank ds with hds | hds
  · rw [trimEnd_append hds, hend, trimStart_of_isBlank hcs, hstart]
  · obtain rfl : ds = [] := hstart.symm.trans (trimStart_eq_nil hds)
    rw [List.append_nil, trimEnd_eq_nil hcs]
    rfl

theorem trim_of_isBlank (h : ∀ c ∈ cs, isBlank c = true) : trim cs = [] := by
  rw [trim, trimStart_eq_nil h]
  rfl

/-- Blanks in front of a text do not count. -/
theorem trim_of_isBlank_append (h : ∀ c ∈ cs, isBlank c = true) (ds : List Char) :
    trim (cs ++ ds) = trim ds :=
  congrArg trimEnd (trimStart_of_isBlank h ds)

/-- Blanks around a text do not count. -/
theorem trim_between {before after : List Char} (hbefore : ∀ c ∈ before, isBlank c = true)
    (hafter : ∀ c ∈ after, isBlank c = true) (cs : List Char) :
    trim (before ++ (cs ++ after)) = trim cs := by
  rw [trim_of_isBlank_append hbefore]
  rcases isSolid_or_isBlank cs with h | h
  · rw [trim, trimStart_append h, trimEnd_of_isBlank hafter]
    rfl
  · have hall : ∀ c ∈ cs ++ after, isBlank c = true :=
      fun c hc => (List.mem_append.1 hc).elim (h c) (hafter c)
    exact (trim_of_isBlank hall).trans (trim_of_isBlank h).symm

/-- A text without blanks has none to lose. -/
theorem trim_eq_self {cs : List Char} (h : ∀ c ∈ cs, isBlank c = false) : trim cs = cs := by
  rw [trim, trimStart_eq_self fun c hc => h c (List.mem_of_head? hc),
    trimEnd_eq_self fun c hc => h c (List.mem_of_getLast? hc)]

theorem isBlank_of_isDigit {c : Char} (h : c.isDigit = true) : isBlank c = false := by
  obtain ⟨hlow, hhigh⟩ := Char.isDigit_iff_toNat.1 h
  have hrange : 0x30 ≤ c.toNat ∧ c.toNat ≤ 0x39 := ⟨hlow, hhigh⟩
  simp [isBlank, blankRanges, inRanges]
  omega

theorem isSolid_of_trim_ne_nil (h : trim cs ≠ []) : IsSolid cs :=
  (isSolid_or_isBlank cs).resolve_right fun hblank => h (trim_of_isBlank hblank)

theorem trim_ne_nil (h : IsSolid cs) : trim cs ≠ [] := by
  have hreverse : IsSolid (trimStart cs).reverse := by
    simpa [IsSolid] using isSolid_trimStart h
  rw [trim, trimEnd, Ne, List.reverse_eq_nil_iff]
  exact dropWhile_ne_nil hreverse

/-- Trimming takes blanks away at the ends, and nothing else. -/
theorem exists_trim (cs : List Char) :
    ∃ before after, (∀ c ∈ before, isBlank c = true) ∧ (∀ c ∈ after, isBlank c = true) ∧
      cs = before ++ (trim cs ++ after) := by
  have hall : ∀ ds : List Char, ∀ c ∈ ds.takeWhile isBlank, isBlank c = true :=
    fun ds => List.all_eq_true.1 List.all_takeWhile
  refine ⟨cs.takeWhile isBlank, ((trimStart cs).reverse.takeWhile isBlank).reverse, hall cs,
    fun c hc => hall _ c (List.mem_reverse.1 hc), ?_⟩
  have hend : trimStart cs = trim cs ++ ((trimStart cs).reverse.takeWhile isBlank).reverse := by
    rw [trim, trimEnd, ← List.reverse_append, List.takeWhile_append_dropWhile,
      List.reverse_reverse]
  rw [← hend]
  exact List.takeWhile_append_dropWhile.symm

theorem mem_of_mem_trim {c : Char} (hc : c ∈ trim cs) : c ∈ cs := by
  obtain ⟨before, after, -, -, hcs⟩ := exists_trim cs
  rw [hcs]
  exact List.mem_append_right _ (List.mem_append_left _ hc)

/-- There is nothing left to trim. -/
theorem trim_trim (cs : List Char) : trim (trim cs) = trim cs := by
  obtain ⟨before, after, hbefore, hafter, hcs⟩ := exists_trim cs
  have h := trim_between hbefore hafter (trim cs)
  rw [← hcs] at h
  exact h.symm

/-- What is no blank is not trimmed away. -/
theorem mem_trim {c : Char} (hc : c ∈ cs) (hblank : isBlank c = false) : c ∈ trim cs := by
  obtain ⟨before, after, hbefore, hafter, hcs⟩ := exists_trim cs
  rw [hcs] at hc
  have hnot : ∀ ds : List Char, (∀ d ∈ ds, isBlank d = true) → c ∉ ds := by
    intro ds hds hc
    rw [hds c hc] at hblank
    cases hblank
  rcases List.mem_append.1 hc with hc | hc
  · exact absurd hc (hnot before hbefore)
  · exact (List.mem_append.1 hc).resolve_right (hnot after hafter)

/-- What stands between two texts that are not blank is not trimmed. -/
theorem exists_trim_around (hcs : IsSolid cs) (hds : IsSolid ds) (mid : List Char) :
    ∃ front back, front ≠ [] ∧ trim (cs ++ (mid ++ ds)) = front ++ (mid ++ back) := by
  obtain ⟨c, rest, hfront, -⟩ := exists_trimStart hcs
  refine ⟨trimStart cs, trimEnd ds, hfront ▸ List.cons_ne_nil c rest, ?_⟩
  have hsolid : IsSolid (mid ++ ds) := by
    obtain ⟨d, hd, hblank⟩ := hds
    exact ⟨d, List.mem_append_right _ hd, hblank⟩
  rw [trim, trimStart_append hcs, trimEnd_append hsolid, trimEnd_append hds]

/-- Of two texts in a row, neither of them blank, the second is trimmed at its end alone. -/
theorem exists_trim_append (hcs : IsSolid cs) (hds : IsSolid ds) :
    ∃ front, IsSolid front ∧ trim (cs ++ ds) = front ++ trim ds := by
  have hsplit : ds = ds.takeWhile isBlank ++ trimStart ds :=
    List.takeWhile_append_dropWhile.symm
  have hend : trimEnd ds = ds.takeWhile isBlank ++ trim ds := calc
    trimEnd ds = trimEnd (ds.takeWhile isBlank ++ trimStart ds) := congrArg trimEnd hsplit
    _ = ds.takeWhile isBlank ++ trim ds := trimEnd_append (isSolid_trimStart hds) _
  obtain ⟨c, hc, hblank⟩ := isSolid_trimStart hcs
  refine ⟨trimStart cs ++ ds.takeWhile isBlank, ⟨c, List.mem_append_left _ hc, hblank⟩, ?_⟩
  rw [trim, trimStart_append hcs, trimEnd_append hds, hend, List.append_assoc]

/-- Two texts with nothing to trim have nothing to trim with something between them either. -/
theorem trim_around (hcs : trim cs = cs) (hds : trim ds = ds) (hne : cs ≠ []) (hne' : ds ≠ [])
    (mid : List Char) : trim (cs ++ (mid ++ ds)) = cs ++ (mid ++ ds) := by
  have hstart : ∀ {cs : List Char}, trim cs = cs → trimStart cs = cs := by
    intro cs hcs
    have hend : (trim cs).length ≤ (trimStart cs).length := by
      rw [trim, trimEnd, List.length_reverse]
      exact Nat.le_trans (List.dropWhile_suffix _).length_le (Nat.le_of_eq List.length_reverse)
    exact (List.dropWhile_suffix _).eq_of_length_le
      (Nat.le_trans (Nat.le_of_eq (congrArg List.length hcs.symm)) hend)
  have hsolid : ∀ {cs : List Char}, trim cs = cs → cs ≠ [] → IsSolid cs :=
    fun hcs hne => isSolid_of_trim_ne_nil (hcs.symm ▸ hne)
  have hend : trimEnd ds = ds := by
    rw [trim, hstart hds] at hds
    exact hds
  obtain ⟨c, hc, hblank⟩ := hsolid hds hne'
  rw [trim, trimStart_append (hsolid hcs hne), hstart hcs,
    trimEnd_append ⟨c, List.mem_append_right mid hc, hblank⟩, trimEnd_append (hsolid hds hne'), hend]

/-! ## Separators -/

theorem splitOn_of_not_mem {sep : Char} (h : sep ∉ cs) : splitOn sep cs = [cs] := by
  induction cs with
  | nil => rfl
  | cons c cs ih =>
    obtain ⟨hc, hcs⟩ := List.ne_and_not_mem_of_not_mem_cons h
    rw [splitOn, if_neg (Ne.symm hc), ih hcs]

/-- A text is taken apart at the first separator in it. -/
theorem splitOn_append {sep : Char} (h : sep ∉ cs) (ds : List Char) :
    splitOn sep (cs ++ sep :: ds) = cs :: splitOn sep ds := by
  induction cs with
  | nil => rw [List.nil_append, splitOn, if_pos rfl]
  | cons c cs ih =>
    obtain ⟨hc, hcs⟩ := List.ne_and_not_mem_of_not_mem_cons h
    rw [List.cons_append, splitOn, if_neg (Ne.symm hc), ih hcs]

theorem mem_intercalate {sep c : Char} {pieces : List (List Char)} :
    c ∈ List.intercalate [sep] pieces → c = sep ∨ ∃ piece ∈ pieces, c ∈ piece := by
  induction pieces with
  | nil => nofun
  | cons piece pieces ih =>
    cases pieces with
    | nil =>
      rw [List.intercalate_singleton]
      exact fun hc => .inr ⟨piece, List.mem_cons_self, hc⟩
    | cons next pieces =>
      rw [List.intercalate_cons_cons, List.append_assoc]
      intro hc
      rcases List.mem_append.1 hc with hc | hc
      · exact .inr ⟨piece, List.mem_cons_self, hc⟩
      rcases List.mem_cons.1 hc with hc | hc
      · exact .inl hc
      · exact (ih hc).imp_right fun ⟨p, hp, hc⟩ => ⟨p, List.mem_cons_of_mem _ hp, hc⟩

theorem mem_intercalate_of_mem {sep c : Char} {piece : List Char} {pieces : List (List Char)}
    (hpiece : piece ∈ pieces) (hc : c ∈ piece) : c ∈ List.intercalate [sep] pieces := by
  induction pieces with
  | nil => cases hpiece
  | cons first pieces ih =>
    cases pieces with
    | nil =>
      rw [List.intercalate_singleton]
      rwa [List.mem_singleton.1 hpiece] at hc
    | cons next pieces =>
      rw [List.intercalate_cons_cons]
      rcases List.mem_cons.1 hpiece with rfl | hpiece
      · exact List.mem_append_left _ (List.mem_append_left _ hc)
      · exact List.mem_append_right _ (ih hpiece)

/-- The pieces of a text have no other characters than the text. -/
theorem mem_of_mem_splitOn {sep c : Char} {cs piece : List Char} (hpiece : piece ∈ splitOn sep cs)
    (hc : c ∈ piece) : c ∈ cs := by
  rw [← intercalate_splitOn sep cs]
  exact mem_intercalate_of_mem hpiece hc

/-- What is joined ends with the last piece. -/
theorem suffix_intercalate {sep : Char} {piece : List Char} {pieces : List (List Char)}
    (h : piece ∈ pieces.getLast?) : piece <:+ List.intercalate [sep] pieces := by
  induction pieces with
  | nil => cases h
  | cons first pieces ih =>
    cases pieces with
    | nil =>
      obtain rfl : first = piece := Option.some.inj h
      exact ⟨[], List.intercalate_singleton.symm⟩
    | cons next pieces =>
      rw [List.getLast?_cons_cons] at h
      rw [List.intercalate_cons_cons]
      exact (ih h).trans (List.suffix_append _ _)

/-- A text ends with its last piece. -/
theorem suffix_of_mem_getLast?_splitOn {sep : Char} {cs piece : List Char}
    (h : piece ∈ (splitOn sep cs).getLast?) : piece <:+ cs := by
  rw [← intercalate_splitOn sep cs]
  exact suffix_intercalate h

/-- **Pieces without the separator are found again** in what they are joined to. -/
theorem splitOn_intercalate {sep : Char} {pieces : List (List Char)} (hne : pieces ≠ [])
    (h : ∀ piece ∈ pieces, sep ∉ piece) : splitOn sep (List.intercalate [sep] pieces) = pieces := by
  induction pieces with
  | nil => exact absurd rfl hne
  | cons piece pieces ih =>
    obtain ⟨hpiece, hpieces⟩ := List.forall_mem_cons.1 h
    cases pieces with
    | nil => rw [List.intercalate_singleton, splitOn_of_not_mem hpiece]
    | cons next pieces =>
      rw [List.intercalate_cons_cons, List.append_assoc, List.singleton_append,
        splitOn_append hpiece, ih (List.cons_ne_nil _ _) hpieces]

/-- Pieces with nothing to trim have nothing to trim when they are joined. -/
theorem trim_intercalate {sep : Char} {pieces : List (List Char)}
    (h : ∀ piece ∈ pieces, piece ≠ [] ∧ trim piece = piece) :
    trim (List.intercalate [sep] pieces) = List.intercalate [sep] pieces := by
  induction pieces with
  | nil => rfl
  | cons piece pieces ih =>
    obtain ⟨⟨hne, hpiece⟩, hpieces⟩ := List.forall_mem_cons.1 h
    cases pieces with
    | nil => rw [List.intercalate_singleton, hpiece]
    | cons next pieces =>
      have hrest : List.intercalate [sep] (next :: pieces) ≠ [] := by
        obtain ⟨hne, -⟩ := hpieces next List.mem_cons_self
        cases pieces with
        | nil => rwa [List.intercalate_singleton]
        | cons _ _ =>
          rw [List.intercalate_cons_cons, List.append_assoc]
          exact List.append_ne_nil_of_left_ne_nil hne _
      rw [List.intercalate_cons_cons, List.append_assoc]
      exact trim_around hpiece (ih hpieces) hne hrest [sep]

end Instrument.Text
