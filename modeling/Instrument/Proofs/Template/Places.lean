/-
# Places of templates

A template is scanned once, from left to right, and what the scan cuts out decides both which
parameters a command has and where their texts go.  This file says without the scan what a place is
(`IsPlace`): somewhere in the text an opening parenthesis, a name and a closing one, where a name is
not empty and holds neither blanks nor parentheses.

The scan cuts out every place of the text and nothing else (`exists_hole_of_isPlace`,
`isName_of_mem_scan`), however the parentheses around it are nested or left open.  That goes by
induction on the text, for any name that was begun before it: the invariant is that what was begun
is a parenthesis and name characters, so a place either ends in what is to come or has not started
yet.

So a text has one dissection, `l₀ (n₁) l₁ … (nₙ) lₙ`, and a command with that template is rendered
as `l₀ x₁ l₁ … xₙ lₙ` (`places_filled`): what is put in is not looked at again.
-/
import Instrument.Proofs.Command.Arguments
import Instrument.Proofs.Profile.CommandEntries

namespace Instrument

namespace Template

/-! ## Names and places -/

/-- A name that may stand in a place. -/
def IsName (name : List Char) : Prop := name ≠ [] ∧ ∀ c ∈ name, isNameChar c = true

/-- A name with the parentheses around it. -/
def placed (name : List Char) : List Char := '(' :: name ++ [')']

/-- A place in a text: what stands before it, the name in it and what stands behind it. -/
structure IsPlace (cs before name after : List Char) : Prop where
  text : cs = before ++ (placed name ++ after)
  isName : IsName name

/-- The names in the places among parts. -/
def holeNames (parts : List TemplatePart) : List (List Char) :=
  parts.filterMap fun
    | .literal _ => none
    | .hole name => some name

/-- The text that parts make up. -/
def textOf (parts : List TemplatePart) : List Char := parts.flatMap partText

theorem textOf_append (front back : List TemplatePart) :
    textOf (front ++ back) = textOf front ++ textOf back :=
  List.flatMap_append

theorem textOf_hole (name : List Char) (parts : List TemplatePart) :
    textOf (.hole name :: parts) = placed name ++ textOf parts := rfl

theorem textOf_unfinished (name : List Char) :
    textOf (unfinished (some name)) = '(' :: name.reverse :=
  flatMap_partText_unfinished name

theorem textOf_scan (begun : Option (List Char)) (cs : List Char) :
    textOf (scan begun cs) = textOf (unfinished begun) ++ cs :=
  flatMap_partText_scan begun cs

theorem names_eq (t : Template) : t.names = (holeNames t.parts).map String.ofList := by
  obtain ⟨source, parts⟩ := t
  unfold names
  induction parts with
  | nil => rfl
  | cons part rest ih =>
    cases part with
    | literal c => exact ih
    | hole name => exact congrArg (String.ofList name :: ·) ih

theorem toList_names (t : Template) : t.names.map (·.toList) = holeNames t.parts := by
  rw [names_eq, List.map_map]
  exact List.map_id'' (fun _ => String.toList_ofList) _

/-! ## Places in a text -/

theorem isNameChar_open : isNameChar '(' = false := by decide

theorem isNameChar_close : isNameChar ')' = false := by decide

/-- Where two texts agree, so do the runs of name characters at their start. -/
theorem run_unique {xs ys : List Char} {x y : Char} {us vs : List Char}
    (hxs : ∀ c ∈ xs, isNameChar c = true) (hx : isNameChar x = false)
    (hys : ∀ c ∈ ys, isNameChar c = true) (hy : isNameChar y = false)
    (h : xs ++ x :: us = ys ++ y :: vs) : xs = ys ∧ x = y ∧ us = vs := by
  induction xs generalizing ys with
  | nil =>
    cases ys with
    | nil => simpa using h
    | cons d ys =>
      obtain ⟨rfl, -⟩ := List.cons.inj h
      rw [hys x List.mem_cons_self] at hx
      cases hx
  | cons c xs ih =>
    cases ys with
    | nil =>
      obtain ⟨rfl, -⟩ := List.cons.inj h
      rw [hxs c List.mem_cons_self] at hy
      cases hy
    | cons d ys =>
      obtain ⟨rfl, hrest⟩ := List.cons.inj h
      obtain ⟨rfl, hxy, huv⟩ := ih (fun a ha => hxs a (List.mem_cons_of_mem c ha))
        (fun a ha => hys a (List.mem_cons_of_mem c ha)) hrest
      exact ⟨rfl, hxy, huv⟩

/-- A text without an opening parenthesis lies before every place. -/
theorem exists_before {xs ys before rest : List Char} (hxs : '(' ∉ xs)
    (h : xs ++ ys = before ++ '(' :: rest) :
    ∃ before', before = xs ++ before' ∧ ys = before' ++ '(' :: rest := by
  rcases List.append_eq_append_iff.1 h with ⟨mid, hbefore, hys⟩ | ⟨mid, hxs', hrest⟩
  · exact ⟨mid, hbefore, hys⟩
  · cases mid with
    | nil => exact ⟨[], by simpa using hxs'.symm, by simpa using hrest.symm⟩
    | cons c mid =>
      obtain ⟨rfl, -⟩ := List.cons.inj hrest
      exact absurd (hxs' ▸ List.mem_append_right before List.mem_cons_self) hxs

variable {cs before name after rest : List Char}

theorem not_mem_open (h : ∀ c ∈ cs, isNameChar c = true) : '(' ∉ cs := by
  intro hmem
  have hname := h _ hmem
  rw [isNameChar_open] at hname
  cases hname

theorem IsPlace.skip {c : Char} (h : IsPlace (c :: rest) before name after) (hc : c ≠ '(') :
    ∃ before', before = c :: before' ∧ IsPlace rest before' name after := by
  have hskipped : '(' ∉ [c] := by simpa using hc.symm
  obtain ⟨before', hbefore, hrest⟩ := exists_before hskipped h.text
  exact ⟨before', hbefore, hrest, h.isName⟩

/-- Behind a parenthesis and name characters that go no further, a place is that very run or comes
later. -/
theorem IsPlace.begun {run : List Char} {c : Char}
    (h : IsPlace ('(' :: (run ++ c :: rest)) before name after)
    (hrun : ∀ d ∈ run, isNameChar d = true) (hc : isNameChar c = false) :
    (before = [] ∧ name = run ∧ c = ')' ∧ after = rest) ∨
      ∃ before', before = '(' :: (run ++ before') ∧ IsPlace (c :: rest) before' name after := by
  obtain ⟨htext, hname⟩ := h
  cases before with
  | nil =>
    have hinside : run ++ c :: rest = name ++ ')' :: after := by
      simpa [placed] using htext
    obtain ⟨hrun', hclose, hafter⟩ := run_unique hrun hc hname.2 isNameChar_close hinside
    exact .inl ⟨rfl, hrun'.symm, hclose, hafter.symm⟩
  | cons d before =>
    obtain ⟨rfl, htail⟩ := List.cons.inj htext
    obtain ⟨before', rfl, hrest⟩ := exists_before (not_mem_open hrun) htail
    exact .inr ⟨before', rfl, hrest, hname⟩

/-! ## What is scanned -/

/-- What one character does to the scan of a name that was begun. -/
theorem scan_begun (run : List Char) (c : Char) (rest : List Char) :
    (c = ')' ∧ run ≠ [] ∧ scan (some run) (c :: rest) = .hole run.reverse :: scan none rest) ∨
    (c = '(' ∧ scan (some run) (c :: rest) = unfinished (some run) ++ scan (some []) rest) ∨
    (isNameChar c = true ∧ scan (some run) (c :: rest) = scan (some (c :: run)) rest) ∨
    (isNameChar c = false ∧ c ≠ '(' ∧ (c = ')' → run = []) ∧
      scan (some run) (c :: rest) = unfinished (some run) ++ .literal c :: scan none rest) := by
  simp only [scan]
  split
  · rename_i h
    rw [Bool.and_eq_true, decide_eq_true_eq, Bool.not_eq_true', List.isEmpty_eq_false_iff] at h
    exact .inl ⟨h.1, h.2, rfl⟩
  · rename_i hclose
    split
    · rename_i hopen
      exact .inr (.inl ⟨hopen, rfl⟩)
    · rename_i hopen
      split
      · rename_i hc
        exact .inr (.inr (.inl ⟨hc, rfl⟩))
      · rename_i hc
        refine .inr (.inr (.inr ⟨by simpa using hc, hopen, fun h => ?_, rfl⟩))
        simpa [h] using hclose

/-- What was begun are name characters. -/
def Begun (begun : Option (List Char)) : Prop :=
  ∀ run ∈ begun, ∀ c ∈ run, isNameChar c = true

theorem begun_none : Begun none := nofun

theorem begun_nil : Begun (some []) := by
  intro run hrun
  cases hrun
  exact nofun

theorem Begun.cons {run : List Char} {c : Char} (h : Begun (some run)) (hc : isNameChar c = true) :
    Begun (some (c :: run)) := by
  intro run' hrun' d hd
  cases hrun'
  rcases List.mem_cons.1 hd with rfl | hd
  · exact hc
  · exact h run rfl d hd

theorem Begun.reverse {run : List Char} (h : Begun (some run)) :
    ∀ c ∈ run.reverse, isNameChar c = true :=
  fun c hc => h run rfl c (List.mem_reverse.1 hc)

theorem not_mem_unfinished (begun : Option (List Char)) : .hole name ∉ unfinished begun := by
  cases begun <;> simp [unfinished]

/-- **The scan cuts out nothing but names.** -/
theorem isName_of_mem_scan {begun : Option (List Char)} (hbegun : Begun begun)
    (h : .hole name ∈ scan begun cs) : IsName name := by
  induction cs generalizing begun with
  | nil =>
    rw [scan] at h
    exact absurd h (not_mem_unfinished begun)
  | cons c rest ih =>
    cases begun with
    | none =>
      simp only [scan] at h
      split at h
      · exact ih begun_nil h
      · exact ih begun_none (by simpa using h)
    | some run =>
      rcases scan_begun run c rest with ⟨-, hne, hscan⟩ | ⟨-, hscan⟩ | ⟨hc, hscan⟩ |
        ⟨-, -, -, hscan⟩ <;> rw [hscan] at h
      · rcases List.mem_cons.1 h with heq | h
        · cases heq
          exact ⟨fun hnil => hne (List.reverse_eq_nil_iff.1 hnil), hbegun.reverse⟩
        · exact ih begun_none h
      · exact ih begun_nil ((List.mem_append.1 h).resolve_left (not_mem_unfinished _))
      · exact ih (hbegun.cons hc) h
      · have hrest := (List.mem_append.1 h).resolve_left (not_mem_unfinished _)
        exact ih begun_none (by simpa using hrest)

/-- **The scan cuts out every place.** -/
theorem exists_hole_of_isPlace {begun : Option (List Char)} (hbegun : Begun begun)
    (h : IsPlace (textOf (unfinished begun) ++ cs) before name after) :
    ∃ front back, scan begun cs = front ++ .hole name :: back ∧
      textOf front = before ∧ textOf back = after := by
  induction cs generalizing begun before with
  | nil =>
    cases begun with
    | none => simpa [unfinished, textOf, placed] using h.text
    | some run =>
      -- No closing parenthesis came, so this is no place yet.
      have hclose : ')' ∈ '(' :: run.reverse := by
        rw [← textOf_unfinished, ← List.append_nil (textOf _), h.text]
        simp [placed]
      have hmem : ')' ∈ run.reverse := by simpa using hclose
      have hname := hbegun.reverse _ hmem
      rw [isNameChar_close] at hname
      cases hname
  | cons c rest ih =>
    cases begun with
    | none =>
      simp only [scan]
      split
      · rename_i hopen
        subst hopen
        exact ih begun_nil h
      · rename_i hopen
        obtain ⟨before', rfl, hrest⟩ := IsPlace.skip h hopen
        obtain ⟨front, back, hscan, rfl, hback⟩ := ih begun_none hrest
        exact ⟨.literal c :: front, back, congrArg (.literal c :: ·) hscan, rfl, hback⟩
    | some run =>
      rw [textOf_unfinished, List.cons_append] at h
      rcases scan_begun run c rest with ⟨rfl, hne, hscan⟩ | ⟨rfl, hscan⟩ | ⟨hc, hscan⟩ |
        ⟨hc, hopen, hclose, hscan⟩ <;> rw [hscan]
      · rcases h.begun hbegun.reverse isNameChar_close with ⟨rfl, rfl, -, rfl⟩ | ⟨before', rfl, hlater⟩
        · exact ⟨[], scan none after, rfl, rfl, textOf_scan none after⟩
        · obtain ⟨later, rfl, hrest⟩ := hlater.skip (by decide)
          obtain ⟨front, back, hrest', rfl, hback⟩ := ih begun_none hrest
          refine ⟨.hole run.reverse :: front, back, congrArg (_ :: ·) hrest', ?_, hback⟩
          simp [textOf_hole, placed]
      · rcases h.begun hbegun.reverse isNameChar_open with ⟨-, -, hne, -⟩ | ⟨before', rfl, hlater⟩
        · exact absurd hne (by decide)
        · obtain ⟨front, back, hrest, rfl, hback⟩ := ih begun_nil hlater
          refine ⟨unfinished (some run) ++ front, back, ?_, ?_, hback⟩
          · rw [hrest, List.append_assoc]
          · rw [textOf_append, textOf_unfinished, List.cons_append]
      · refine ih (hbegun.cons hc) ?_
        rw [textOf_unfinished, List.reverse_cons, List.cons_append, List.append_assoc]
        exact h
      · rcases h.begun hbegun.reverse hc with ⟨-, rfl, hc', -⟩ | ⟨before', rfl, hlater⟩
        · exact absurd (List.reverse_eq_nil_iff.2 (hclose hc')) h.isName.1
        · obtain ⟨later, rfl, hrest⟩ := hlater.skip hopen
          obtain ⟨front, back, hrest', rfl, hback⟩ := ih begun_none hrest
          refine ⟨unfinished (some run) ++ .literal c :: front, back, ?_, ?_, hback⟩
          · rw [hrest', List.append_assoc, List.cons_append]
          · rw [textOf_append, textOf_unfinished]
            rfl

/-- A place in a text, by the parts of its template. -/
theorem exists_hole_of_source {source : String} (h : IsPlace source.toList before name after) :
    ∃ front back, (ofText source).parts = front ++ .hole name :: back ∧
      textOf front = before ∧ textOf back = after :=
  exists_hole_of_isPlace begun_none h

/-- **Places do not overlap**: of two that are not the same, one ends where the other has not begun
yet. -/
theorem places_apart {source : String} {before' name' after' : List Char}
    (h : IsPlace source.toList before name after)
    (h' : IsPlace source.toList before' name' after') :
    (before = before' ∧ name = name' ∧ after = after') ∨ before ++ placed name <+: before' ∨
      before' ++ placed name' <+: before := by
  obtain ⟨front, back, hparts, rfl, rfl⟩ := exists_hole_of_source h
  obtain ⟨front', back', hparts', rfl, rfl⟩ := exists_hole_of_source h'
  have later : ∀ {front front' : List TemplatePart} {name : List Char}
      (mid : List TemplatePart), front' = front ++ .hole name :: mid →
      textOf front ++ placed name <+: textOf front' := by
    rintro front _ name mid rfl
    rw [textOf_append, textOf_hole, ← List.append_assoc]
    exact List.prefix_append _ _
  rcases List.append_eq_append_iff.1 (hparts.symm.trans hparts') with
    ⟨mid, hfront, hmid⟩ | ⟨mid, hfront, hmid⟩
  · cases mid with
    | nil =>
      rw [List.append_nil] at hfront
      cases hmid
      exact .inl ⟨by rw [hfront], rfl, rfl⟩
    | cons part mid =>
      obtain ⟨rfl, -⟩ := List.cons.inj hmid
      exact .inr (.inl (later mid hfront))
  · cases mid with
    | nil =>
      rw [List.append_nil] at hfront
      cases hmid
      exact .inl ⟨by rw [hfront], rfl, rfl⟩
    | cons part mid =>
      obtain ⟨rfl, -⟩ := List.cons.inj hmid
      exact .inr (.inr (later mid hfront))

/-! ## Dissections -/

/-- Literal texts with other texts between them: `l₀ x₁ l₁ … xₙ lₙ`. -/
def woven : List (List Char) → List (List Char) → List Char
  | [], _ => []
  | l :: _, [] => l
  | l :: ls, x :: xs => l ++ (x ++ woven ls xs)

/-- The literal texts before, between and behind the places among parts. -/
def literals : List TemplatePart → List (List Char)
  | [] => [[]]
  | .literal c :: rest => (literals rest).modifyHead (c :: ·)
  | .hole _ :: rest => [] :: literals rest

/-- A text is cut at its places, all of them, into names and the literal texts between them. -/
structure Dissects (cs : List Char) (names literals : List (List Char)) : Prop where
  length : literals.length = names.length + 1
  text : cs = woven literals (names.map placed)
  isName : ∀ name ∈ names, IsName name
  /-- Every place of the text is one of these. -/
  all : ∀ before name after, IsPlace cs before name after →
    ∃ names₁ names₂ literals₁ literals₂, names = names₁ ++ name :: names₂ ∧
      literals = literals₁ ++ literals₂ ∧ literals₁.length = names₁.length + 1 ∧
      before = woven literals₁ (names₁.map placed) ∧ after = woven literals₂ (names₂.map placed)

theorem length_literals (parts : List TemplatePart) :
    (literals parts).length = holes parts + 1 := by
  induction parts with
  | nil => rfl
  | cons part rest ih =>
    cases part with
    | literal c => rw [literals, List.length_modifyHead, ih, holes]
    | hole name => rw [literals, List.length_cons, ih, holes]

theorem length_holeNames (parts : List TemplatePart) : (holeNames parts).length = holes parts := by
  induction parts with
  | nil => rfl
  | cons part rest ih =>
    cases part with
    | literal c => exact ih
    | hole name => exact congrArg Nat.succ ih

theorem woven_modifyHead {ls : List (List Char)} (h : ls ≠ []) (c : Char) (xs : List (List Char)) :
    woven (ls.modifyHead (c :: ·)) xs = c :: woven ls xs := by
  obtain ⟨l, more, rfl⟩ := List.exists_cons_of_ne_nil h
  cases xs <;> rfl

theorem literals_ne_nil (parts : List TemplatePart) : literals parts ≠ [] := by
  intro h
  have hlength := length_literals parts
  rw [h] at hlength
  cases hlength

/-- **Filled parts are woven.** -/
theorem woven_literals {parts : List TemplatePart} {texts : List (List Char)}
    (h : texts.length = holes parts) : woven (literals parts) texts = fillParts parts texts := by
  induction parts generalizing texts with
  | nil =>
    obtain rfl : texts = [] := List.eq_nil_of_length_eq_zero h
    rfl
  | cons part rest ih =>
    cases part with
    | literal c => rw [literals, woven_modifyHead (literals_ne_nil rest), ih h, fillParts]
    | hole name =>
      obtain ⟨x, texts, rfl⟩ := List.exists_cons_of_length_eq_add_one h
      rw [literals, woven, fillParts, ih (Nat.succ.inj h), List.nil_append]

/-- Parts with their own places put in are their text. -/
theorem fillParts_holeNames (parts : List TemplatePart) :
    fillParts parts ((holeNames parts).map placed) = textOf parts := by
  induction parts with
  | nil => rfl
  | cons part rest ih =>
    cases part with
    | literal c => exact congrArg (c :: ·) ih
    | hole name => exact congrArg (placed name ++ ·) ih

theorem woven_holeNames (parts : List TemplatePart) :
    woven (literals parts) ((holeNames parts).map placed) = textOf parts := by
  rw [woven_literals, fillParts_holeNames]
  rw [List.length_map, length_holeNames]

theorem literals_append (front back : List TemplatePart) (name : List Char) :
    literals (front ++ .hole name :: back) = literals front ++ literals back := by
  induction front with
  | nil => rfl
  | cons part rest ih =>
    cases part with
    | literal c =>
      obtain ⟨l, more, hl⟩ := List.exists_cons_of_ne_nil (literals_ne_nil rest)
      rw [List.cons_append, literals, literals, ih, hl]
      rfl
    | hole other => exact congrArg ([] :: ·) ih

/-- **The parts of a template are a dissection of its text.** -/
theorem dissects_ofText (source : String) :
    Dissects source.toList (holeNames (ofText source).parts) (literals (ofText source).parts) where
  length := by rw [length_literals, length_holeNames]
  text := by
    rw [woven_holeNames]
    exact (textOf_scan none source.toList).symm
  isName := by
    intro name hname
    obtain ⟨part, hpart, heq⟩ := List.mem_filterMap.1 hname
    cases part with
    | literal c => cases heq
    | hole other =>
      cases heq
      exact isName_of_mem_scan begun_none hpart
  all := by
    intro before name after h
    obtain ⟨front, back, hparts, rfl, rfl⟩ := exists_hole_of_source h
    refine ⟨holeNames front, holeNames back, literals front, literals back, ?_, ?_, ?_,
      (woven_holeNames front).symm, (woven_holeNames back).symm⟩
    · rw [hparts]
      exact List.filterMap_append
    · rw [hparts, literals_append]
    · rw [length_literals, length_holeNames]

end Template

/-! ## Rendering -/

namespace Command

open Template

/-- A command that was read has the template of its entry. -/
theorem template_of_ofEntry {registry : Registry} {failure : Option String} {key : String}
    {e : CommandEntry} {c : Command} (h : ofEntry registry failure key e = .ok c) :
    c.template = .ofText e.template := by
  obtain ⟨ps, reply, expression, -, -, -, rfl⟩ := ofEntry_eq_ok_iff.1 h
  rfl

theorem render_of_length_ne {c : Command} {args : List Argument}
    (h : args.length ≠ c.parameters.length) :
    c.render args = .error (.arity c.name c.parameters.length args.length) := by
  have harity : c.checkArity args.length =
      .error (.arity c.name c.parameters.length args.length) := if_neg h
  rw [render, harity]
  rfl

end Command

open Template in
/-- **Extraction and rendering go by one dissection of the template.**  The names of a template are
those in the places of its text, all of them and in order; places do not overlap.  A command with
that template is rendered, for as many arguments as there are names, as the literal texts between the
places with the arguments between them, whatever stands in the arguments; for any other number it is
not rendered. -/
theorem places_filled (source : String) :
    (∀ before name after before' name' after', IsPlace source.toList before name after →
      IsPlace source.toList before' name' after' →
      (before = before' ∧ name = name' ∧ after = after') ∨ before ++ placed name <+: before' ∨
        before' ++ placed name' <+: before) ∧
    ∃ between, Dissects source.toList ((ofText source).names.map (·.toList)) between ∧
      ∀ registry failure key (e : CommandEntry) c, e.template = source →
        Command.ofEntry registry failure key e = .ok c → ∀ args : List Argument,
          (args.length = (ofText source).names.length → c.render args =
            .ok (String.ofList (woven between (args.map (·.wire.toList))))) ∧
          (args.length ≠ (ofText source).names.length → c.render args =
            .error (.arity key (ofText source).names.length args.length)) := by
  refine ⟨fun _ _ _ _ _ _ => places_apart, literals (ofText source).parts, ?_, ?_⟩
  · rw [toList_names]
    exact dissects_ofText source
  · rintro registry failure key e c rfl hread args
    have hfrom := Command.readFrom_of_ofEntry hread
    have hlength : (ofText e.template).names.length = c.parameters.length :=
      hfrom.parameters.length_eq
    rw [hlength]
    constructor
    · intro h
      have hholes : (args.map (·.wire.toList)).length = holes (ofText e.template).parts := by
        rw [List.length_map, h, ← hlength, length_names]
      rw [Command.render_of_length h, Command.template_of_ofEntry hread, woven_literals hholes,
        fill, List.map_map]
      rfl
    · intro h
      rw [Command.render_of_length_ne h, hfrom.name]

/-- A registry of a level and a mode. -/
def Registry.levelAndMode : Registry := ⟨[.plain "level" .int none, .plain "mode" .token none]⟩

open Template in
/-- Two places behind a parenthesis that is left open, and one argument that looks like a place. -/
theorem places_filled_nested :
    let source := "SET ((level)(a b)(mode)"
    let e : CommandEntry := ⟨none, source, none, none, none⟩
    let c : Command :=
      ⟨"set", none, .ofText source, Registry.levelAndMode.parameters, none, none, none⟩
    let args : List Argument := [⟨.int 7, "7"⟩, ⟨.text "(level)", "(level)"⟩]
    (IsPlace source.toList "SET (".toList "level".toList "(a b)(mode)".toList ∧
      IsPlace source.toList "SET ((level)(a b)".toList "mode".toList [] ∧
      "SET (".toList ++ placed "level".toList <+: "SET ((level)(a b)".toList) ∧
    Command.ofEntry .levelAndMode none "set" e = .ok c ∧
    ∃ between, Dissects source.toList ["level".toList, "mode".toList] between ∧
      (args.length = 2 ∧
        c.render args = .ok (String.ofList (woven between ["7".toList, "(level)".toList])) ∧
        c.render args = .ok "SET (7(a b)(level)") ∧
      (([] : List Argument).length ≠ 2 ∧ c.render [] = .error (.arity "set" 2 0)) := by
  intro source e c args
  have hlevel : IsPlace source.toList "SET (".toList "level".toList "(a b)(mode)".toList :=
    ⟨by decide, by decide, List.all_eq_true.1 rfl⟩
  have hmode : IsPlace source.toList "SET ((level)(a b)".toList "mode".toList [] :=
    ⟨by decide, by decide, List.all_eq_true.1 rfl⟩
  have hnames : (Template.ofText source).names = ["level", "mode"] := by decide +kernel
  have hresolve : Command.resolve .levelAndMode "set" .argument ["level", "mode"] =
      .ok Registry.levelAndMode.parameters := rfl
  have hread : Command.ofEntry .levelAndMode none "set" e = .ok c :=
    Command.ofEntry_eq_ok_iff.2 ⟨_, none, none, hnames ▸ hresolve, rfl, rfl, rfl⟩
  obtain ⟨hapart, between, hdissects, hrender⟩ := places_filled source
  rw [hnames] at hdissects hrender
  refine ⟨⟨hlevel, hmode, ?_⟩, hread, between, hdissects, ⟨rfl, ?_, by decide +kernel⟩, ?_⟩
  · rcases hapart _ _ _ _ _ _ hlevel hmode with ⟨hsame, -⟩ | hbefore | hafter
    · exact absurd hsame (by decide)
    · exact hbefore
    · exact absurd hafter (by decide)
  · exact (hrender _ none "set" e c rfl hread args).1 rfl
  · exact ⟨by decide, (hrender _ none "set" e c rfl hread []).2 (by decide)⟩

end Instrument
