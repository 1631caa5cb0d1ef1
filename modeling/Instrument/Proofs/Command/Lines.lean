/-
# Arguments on a line

A line holds arguments between commas.  Blanks around the line and blanks in front of an argument do
not count, and a blank line holds no arguments at all.

`Separable` says which arguments can be told apart on a line: they hold no comma, they do not begin
with a blank, and the last does not end with one, as both would be lost.  A single empty argument
makes a blank line, so it is not found on it.  All other lists of separable arguments are found on
their lines, however these are spaced (`splitArguments_join`), and nothing else is ever found
(`separable_splitArguments`).  So what was found is found again when it is joined.
-/
import Instrument.Command.Wire
import Instrument.Proofs.Text.Blank
import Mathlib.Data.List.Basic

namespace Instrument

namespace Command

open Text

/-! ## Arguments that can be told apart -/

/-- Arguments that can be told apart on a line. -/
structure Separable (args : List String) : Prop where
  comma : ∀ a ∈ args, ',' ∉ a.toList
  starts : ∀ a ∈ args, ∀ c ∈ a.toList.head?, isBlank c = false
  ends : ∀ a ∈ args.getLast?, ∀ c ∈ a.toList.getLast?, isBlank c = false

theorem Separable.tail {a : String} {args : List String} (h : Separable (a :: args)) :
    Separable args where
  comma b hb := h.comma b (List.mem_cons_of_mem a hb)
  starts b hb := h.starts b (List.mem_cons_of_mem a hb)
  ends b hb := by
    cases args with
    | nil => cases hb
    | cons first rest => exact h.ends b (by rwa [List.getLast?_cons_cons])

/-! ## Lines -/

/-- The line of some arguments, each behind its blanks, with commas between them and with blanks at
the end. -/
def join (spaced : List (String × String)) (after : String) : String :=
  String.intercalate "," (spaced.map fun x => x.1 ++ x.2) ++ after

theorem toList_join (spaced : List (String × String)) (after : String) :
    (join spaced after).toList =
      List.intercalate [','] (spaced.map fun x => x.1.toList ++ x.2.toList) ++ after.toList := by
  rw [join, String.toList_append, String.toList_intercalate, List.map_map]
  simp only [Function.comp_def, String.toList_append]
  rfl

theorem toList_join_singleton (x : String × String) (after : String) :
    (join [x] after).toList = x.1.toList ++ (x.2.toList ++ after.toList) := by
  rw [toList_join, List.map_singleton, List.intercalate_singleton, List.append_assoc]

theorem toList_join_cons_cons (x y : String × String) (rest : List (String × String))
    (after : String) :
    (join (x :: y :: rest) after).toList =
      x.1.toList ++ (x.2.toList ++ ',' :: (join (y :: rest) after).toList) := by
  rw [toList_join, toList_join, List.map_cons, List.map_cons, List.intercalate_cons_cons]
  simp only [List.append_assoc, List.cons_append, List.nil_append]

/-- A line begins with the blanks in front of the first argument and with that argument. -/
theorem exists_toList_join (a : String) (rest : List (String × String)) (after : String) :
    ∃ tail, ∀ blanks : String,
      (join ((blanks, a) :: rest) after).toList = blanks.toList ++ (a.toList ++ tail) := by
  cases rest with
  | nil => exact ⟨_, fun blanks => toList_join_singleton (blanks, a) after⟩
  | cons y rest => exact ⟨_, fun blanks => toList_join_cons_cons (blanks, a) y rest after⟩

theorem splitArguments_eq_nil {s : String} (h : trim s.toList = []) : splitArguments s = [] := by
  rw [splitArguments, h]
  rfl

theorem splitArguments_eq_map {s : String} (h : trim s.toList ≠ []) :
    splitArguments s = ((splitOn ',' (trim s.toList)).map trimStart).map String.ofList := by
  rw [List.map_map]
  exact if_neg (by simpa using h)

/-! ## From arguments to a line and back -/

/-- An empty text is blank. -/
theorem isBlank_of_mem_empty : ∀ c ∈ "".toList, isBlank c = true := by simp

/-- Without the blanks in front of its first argument a line begins with a character that is no
blank, unless it is the line of one empty argument. -/
theorem exists_join_eq_cons {a : String} {rest : List (String × String)}
    (hargs : Separable (a :: rest.map (·.2))) (hnot : a :: rest.map (·.2) ≠ [""]) (after : String) :
    ∃ c cs, (join (("", a) :: rest) after).toList = c :: cs ∧ isBlank c = false := by
  cases ha : a.toList with
  | cons c cs =>
    obtain ⟨tail, htail⟩ := exists_toList_join a rest after
    refine ⟨c, cs ++ tail, ?_, hargs.starts a List.mem_cons_self c (by rw [ha]; rfl)⟩
    rw [htail "", ha]
    rfl
  | nil =>
    obtain rfl : a = "" := String.toList_eq_nil_iff.1 ha
    cases rest with
    | nil => exact absurd rfl hnot
    | cons y rest => exact ⟨',', _, toList_join_cons_cons ("", "") y rest after, rfl⟩

section Join

variable {spaced : List (String × String)} {after : String}
  (hblank : ∀ x ∈ spaced, ∀ c ∈ x.1.toList, isBlank c = true)
  (hafter : ∀ c ∈ after.toList, isBlank c = true)

include hblank hafter

/-- The pieces between the commas are the arguments, but for the blanks in front of them. -/
theorem trimStart_pieces (hargs : Separable (spaced.map (·.2))) (hne : spaced ≠ []) :
    (splitOn ',' (trimEnd (join spaced after).toList)).map trimStart =
      spaced.map (·.2.toList) := by
  -- By induction on the arguments; the blanks at the end of the line concern the last piece only.
  induction spaced with
  | nil => exact absurd rfl hne
  | cons x rest ih =>
    obtain ⟨hx, hrest⟩ := List.forall_mem_cons.1 hblank
    have hstart : trimStart x.2.toList = x.2.toList :=
      trimStart_eq_self (hargs.starts x.2 List.mem_cons_self)
    have hcomma : ',' ∉ x.1.toList ++ x.2.toList := by
      intro hmem
      rcases List.mem_append.1 hmem with hmem | hmem
      · cases hx ',' hmem
      · exact hargs.comma x.2 List.mem_cons_self hmem
    cases rest with
    | nil =>
      have hend : trimEnd x.2.toList = x.2.toList := trimEnd_eq_self (hargs.ends x.2 rfl)
      have hpiece : ',' ∉ trimEnd (x.1.toList ++ x.2.toList) :=
        fun hmem => hcomma (mem_of_mem_trimEnd hmem)
      rw [toList_join_singleton, ← List.append_assoc, trimEnd_of_isBlank hafter,
        splitOn_of_not_mem hpiece, List.map_singleton, trimStart_trimEnd hx hstart hend,
        List.map_singleton]
    | cons y rest =>
      rw [toList_join_cons_cons, ← List.append_assoc, trimEnd_append_cons rfl,
        splitOn_append hcomma, List.map_cons, List.map_cons,
        ih hrest hargs.tail (List.cons_ne_nil y rest), trimStart_of_isBlank hx, hstart]

/-- **Arguments are found on their line**, however it is spaced. -/
theorem splitArguments_join (hargs : Separable (spaced.map (·.2))) (hne : spaced.map (·.2) ≠ [])
    (hnot : spaced.map (·.2) ≠ [""]) : splitArguments (join spaced after) = spaced.map (·.2) := by
  cases spaced with
  | nil => exact absurd rfl hne
  | cons x rest =>
    obtain ⟨blanks, a⟩ := x
    obtain ⟨hblanks, hrest⟩ := List.forall_mem_cons.1 hblank
    obtain ⟨tail, htail⟩ := exists_toList_join a rest after
    obtain ⟨c, cs, hjoin, hc⟩ := exists_join_eq_cons hargs hnot after
    -- Of the blanks that are trimmed, those at the start stand in front of the first argument.
    have htrim : trim (join ((blanks, a) :: rest) after).toList =
        trimEnd (join (("", a) :: rest) after).toList :=
      calc trim (join ((blanks, a) :: rest) after).toList
          = trim (blanks.toList ++ (join (("", a) :: rest) after).toList) := by
            rw [htail blanks, htail ""]; rfl
        _ = trim (join (("", a) :: rest) after).toList := trim_of_isBlank_append hblanks _
        _ = trimEnd (join (("", a) :: rest) after).toList := by
            rw [trim, hjoin, trimStart_cons hc]
    have hsolid : trim (join ((blanks, a) :: rest) after).toList ≠ [] := by
      rw [htrim, hjoin, trimEnd_cons hc]
      exact List.cons_ne_nil _ _
    have hunspaced : ∀ x ∈ ("", a) :: rest, ∀ c ∈ x.1.toList, isBlank c = true :=
      List.forall_mem_cons.2 ⟨isBlank_of_mem_empty, hrest⟩
    have hpieces := trimStart_pieces hunspaced hafter hargs (List.cons_ne_nil _ _)
    rw [splitArguments_eq_map hsolid, htrim, hpieces, List.map_map]
    exact List.map_congr_left fun x _ => String.ofList_toList

end Join

/-! ## What is found on a line -/

section Found

variable {s : String}

theorem mem_splitArguments {a : String} (h : trim s.toList ≠ []) (ha : a ∈ splitArguments s) :
    ∃ piece ∈ splitOn ',' (trim s.toList), a.toList = trimStart piece := by
  rw [splitArguments_eq_map h, List.map_map] at ha
  obtain ⟨piece, hpiece, rfl⟩ := List.mem_map.1 ha
  exact ⟨piece, hpiece, String.toList_ofList⟩

/-- **What is found on a line is separable.** -/
theorem separable_splitArguments (h : trim s.toList ≠ []) : Separable (splitArguments s) where
  comma a ha hcomma := by
    obtain ⟨piece, hpiece, hpiece'⟩ := mem_splitArguments h ha
    rw [hpiece'] at hcomma
    exact not_mem_of_mem_splitOn hpiece ((List.dropWhile_sublist _).mem hcomma)
  starts a ha c hc := by
    obtain ⟨piece, -, hpiece⟩ := mem_splitArguments h ha
    rw [hpiece] at hc
    exact isBlank_of_mem_head?_trimStart hc
  ends a ha c hc := by
    -- The last argument ends as its piece does, and that as the line without blanks.
    rw [splitArguments_eq_map h, List.map_map, List.getLast?_map, Option.mem_def,
      Option.map_eq_some_iff] at ha
    obtain ⟨piece, hpiece, rfl⟩ := ha
    have hsuffix : trimStart piece <:+ trim s.toList :=
      (List.dropWhile_suffix _).trans (suffix_of_mem_getLast?_splitOn hpiece)
    obtain ⟨front, hfront⟩ := hsuffix
    rw [Function.comp_apply, String.toList_ofList] at hc
    have hlast : c ∈ (trim s.toList).getLast? :=
      hfront ▸ List.mem_getLast?_append_of_mem_getLast? hc
    exact isBlank_of_mem_getLast?_trimEnd hlast

theorem splitArguments_ne_nil (h : trim s.toList ≠ []) : splitArguments s ≠ [] := by
  intro hnil
  rw [splitArguments_eq_map h, List.map_eq_nil_iff, List.map_eq_nil_iff] at hnil
  exact splitOn_ne_nil _ _ hnil

/-- A single empty argument is never found. -/
theorem splitArguments_ne_blank (s : String) : splitArguments s ≠ [""] := by
  intro hblank
  by_cases h : trim s.toList = []
  · rw [splitArguments_eq_nil h] at hblank
    cases hblank
  · rw [splitArguments_eq_map h, List.map_map] at hblank
    obtain ⟨piece, hsplit, hpiece⟩ := List.map_eq_singleton_iff.1 hblank
    -- The line is that piece, and there were no blanks left to trim in front of it.
    have hline : trim s.toList = piece := by
      rw [← intercalate_splitOn ',' (trim s.toList), hsplit, List.intercalate_singleton]
    have hnil : trimStart piece = [] := by
      rw [← String.toList_ofList (l := trimStart piece)]
      exact congrArg String.toList hpiece
    have htrim : trim (trim s.toList) = [] := by
      rw [hline, trim, hnil]
      rfl
    exact h ((trim_trim s.toList).symm.trans htrim)

end Found

/-- What is found on a line is found again when it is joined. -/
theorem splitArguments_intercalate (s : String) :
    splitArguments (String.intercalate "," (splitArguments s)) = splitArguments s := by
  by_cases h : trim s.toList = []
  · rw [splitArguments_eq_nil h]
    exact splitArguments_eq_nil rfl
  · have hunspaced : ((splitArguments s).map fun a => ("", a)).map (·.2) = splitArguments s := by
      rw [List.map_map]
      exact List.map_id _
    have hjoin : join ((splitArguments s).map fun a => ("", a)) "" =
        String.intercalate "," (splitArguments s) := by
      simp [join, List.map_map, Function.comp_def]
    have hblank : ∀ x ∈ (splitArguments s).map fun a => ("", a), ∀ c ∈ x.1.toList,
        isBlank c = true := by
      intro x hx
      obtain ⟨a, -, rfl⟩ := List.mem_map.1 hx
      exact isBlank_of_mem_empty
    have hfound := splitArguments_join hblank isBlank_of_mem_empty
      (hunspaced.symm ▸ separable_splitArguments h) (hunspaced.symm ▸ splitArguments_ne_nil h)
      (hunspaced.symm ▸ splitArguments_ne_blank s)
    rwa [hjoin, hunspaced] at hfound

end Command

open Command in
/-- **Splitting a line undoes joining.**  Separable arguments, but for no arguments and for a single
empty one, are found again on any line of them, whatever blanks there are around it and behind its
commas, and wherever arguments are empty.  Conversely, a single empty argument is found on no line,
and what is found on a line is found again when it is joined with commas. -/
theorem arguments_joined :
    (∀ (spaced : List (String × String)) (after : String),
      (∀ x ∈ spaced, ∀ c ∈ x.1.toList, Text.isBlank c = true) →
      (∀ c ∈ after.toList, Text.isBlank c = true) → Separable (spaced.map (·.2)) →
      spaced.map (·.2) ≠ [] → spaced.map (·.2) ≠ [""] →
      splitArguments (join spaced after) = spaced.map (·.2)) ∧
    ∀ line : String, splitArguments line ≠ [""] ∧
      splitArguments (String.intercalate "," (splitArguments line)) = splitArguments line := by
  refine ⟨fun spaced after hblank hafter hargs hne hnot => ?_, fun line => ⟨?_, ?_⟩⟩
  · exact splitArguments_join hblank hafter hargs hne hnot
  · exact splitArguments_ne_blank line
  · exact splitArguments_intercalate line

open Command in
/-- Four arguments, the first with a blank at its end, two of them empty and one of these the last;
and a line of two empty arguments. -/
theorem arguments_joined_empty :
    let spaced := [("\t ", "move "), (" ", ""), ("", "12 mm"), ("\u3000", "")]
    let args := ["move ", "", "12 mm", ""]
    (Separable args ∧ args ≠ [] ∧ args ≠ [""] ∧ spaced.map (·.2) = args) ∧
    join spaced "  " = "\t move , ,12 mm,\u3000  " ∧ splitArguments (join spaced "  ") = args ∧
    splitArguments " , " = ["", ""] ∧
    splitArguments (String.intercalate "," (splitArguments " , ")) = ["", ""] := by
  intro spaced args
  have hargs : Separable args := by
    refine ⟨by decide, fun a ha c hc => ?_, ?_⟩
    · simp only [args, List.mem_cons, List.not_mem_nil, or_false] at ha
      rcases ha with rfl | rfl | rfl | rfl <;> cases hc <;> rfl
    · rintro a ⟨⟩ c ⟨⟩
  have hfound := arguments_joined.1 spaced "  " (by decide) (by decide) hargs (by decide) (by decide)
  have hpair : splitArguments " , " = ["", ""] := by decide
  exact ⟨⟨hargs, by decide, by decide, rfl⟩, by decide, hfound, hpair,
    (arguments_joined.2 " , ").2.trans hpair⟩

end Instrument
