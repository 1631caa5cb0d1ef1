/-
# The form of a good reply

A template of good replies is turned into pattern text, that text is read as a pattern, and the
pattern is searched for in a reply.  This file proves that the three steps together do what the
template says.

Write `l₀ x₁ l₁ … xₙ lₙ` for the template with the texts `x₁ … xₙ` in its places
(`Template.fillParts`).  Whatever parameters are assigned to the places:

* the pattern text is a pattern, so the template is always accepted;
* a reply has a match exactly if some part of it is `l₀ x₁ l₁ … xₙ lₙ` with each `xᵢ` in the
  language of its parameter;
* the rows of a reply stand for such parts, one behind the other, and row by row the values are
  those that the parameters read from `x₁ … xₙ`.

The literal text is escaped and the patterns of parameters have no groups, so the groups of the
pattern are the places of the template and nothing else.  That is the invariant: `formItems` numbers
the groups as they come, and `tagged` are the groups that a way through them leaves behind.
-/
import Instrument.Proofs.Outcome
import Instrument.Proofs.Parameter.Fragment
import Instrument.Proofs.Pattern.Search
import Instrument.Command.Reply
import Mathlib.Data.List.Forall2

namespace Instrument

open Pattern

/-! ## Places of a template -/

namespace Template

/-- The number of places in the parts of a template. -/
def holes : List TemplatePart → Nat
  | [] => 0
  | .literal _ :: rest => holes rest
  | .hole _ :: rest => holes rest + 1

theorem length_names (t : Template) : t.names.length = holes t.parts := by
  obtain ⟨source, parts⟩ := t
  unfold names
  induction parts with
  | nil => rfl
  | cons part rest ih => cases part <;> simpa [holes] using ih

end Template

/-! ## The pattern of a form -/

namespace Command

/-- The patterns of the parts of a template; the groups are numbered after the `n`-th. -/
def formItems (n : Nat) : List TemplatePart → List Parameter → List Pattern
  | [], _ => []
  | .literal c :: rest, ps => .char (.one c) :: formItems n rest ps
  | .hole _ :: rest, p :: ps => .group (n + 1) p.fragment :: formItems (n + 1) rest ps
  | .hole name :: rest, [] =>
    ((Template.partText (.hole name)).map fun c => .char (.one c)) ++ formItems n rest []

/-- The pattern of a form. -/
def formPattern (parts : List TemplatePart) (ps : List Parameter) : Pattern :=
  seqs (formItems 0 parts ps)

/-- A parameter in a place: its pattern text is put into a marked group. -/
theorem denotes_place (n : Nat) (p : Parameter) (rest : List Char) :
    Denotes n ('(' :: p.pattern.toList ++ [')']) rest [.group (n + 1) p.fragment] (n + 1) 10 := by
  obtain ⟨cs, hcs⟩ := p.exists_pattern
  have h := p.denotes_pattern (n + 1) (')' :: rest)
  rw [hcs] at h ⊢
  exact h.marked

/-- **The pattern text of a template denotes the patterns of its parts.** -/
theorem denotes_replyPattern (n : Nat) (parts : List TemplatePart) (ps : List Parameter)
    (after : List Char) :
    ∃ m, Denotes n (replyPattern parts ps) after (formItems n parts ps) m 10 := by
  induction parts generalizing n ps with
  | nil => exact ⟨n, .nil n after 10⟩
  | cons part rest ih =>
    match part, ps with
    | .literal c, ps =>
      obtain ⟨m, h⟩ := ih n ps
      have hc := denotes_escapeChar n c (replyPattern rest ps ++ after)
      exact ⟨m, (hc.mono (Nat.zero_le 10)).append h⟩
    | .hole name, [] =>
      obtain ⟨m, h⟩ := ih n []
      have hcs := denotes_escape n (Template.partText (.hole name)) (replyPattern rest [] ++ after)
      exact ⟨m, (hcs.mono (Nat.zero_le 10)).append h⟩
    | .hole name, p :: ps =>
      obtain ⟨m, h⟩ := ih (n + 1) ps
      have hp := (denotes_place n p (replyPattern rest ps ++ after)).append h
      exact ⟨m, by simpa [replyPattern, formItems] using hp⟩

/-- The pattern text of a template is read as the pattern of its form. -/
theorem ofText?_replyPattern (parts : List TemplatePart) (ps : List Parameter) :
    Expression.ofText? (String.ofList (replyPattern parts ps)) =
      some ⟨String.ofList (replyPattern parts ps), formPattern parts ps⟩ := by
  obtain ⟨m, h⟩ := denotes_replyPattern 0 parts ps []
  unfold Expression.ofText?
  rw [String.toList_ofList, read_of_denotes h (by decide)]
  rfl

/-! ## Its ways -/

/-- Groups with the texts of a form in front of others, numbered after the `n`-th. -/
def tagged (n : Nat) : List (List Char) → List (Nat × List Char) → List (Nat × List Char)
  | [], groups => groups
  | x :: rest, groups => tagged (n + 1) rest ((n + 1, x) :: groups)

theorem lookup_tagged_of_le {n k : Nat} (h : k ≤ n) (texts : List (List Char))
    (groups : List (Nat × List Char)) : (tagged n texts groups).lookup k = groups.lookup k := by
  induction texts generalizing n groups with
  | nil => rfl
  | cons x rest ih =>
    have hk : (k == n + 1) = false := beq_false_of_ne (by omega)
    rw [tagged, ih (by omega), List.lookup_cons, hk]

theorem lookup_tagged {n i : Nat} {texts : List (List Char)} (h : i < texts.length)
    (groups : List (Nat × List Char)) :
    (tagged n texts groups).lookup (n + i + 1) = some texts[i] := by
  induction texts generalizing n i groups with
  | nil => exact absurd h (Nat.not_lt_zero i)
  | cons x rest ih =>
    cases i with
    | zero => rw [tagged, lookup_tagged_of_le (Nat.le_refl _)]; simp
    | succ i =>
      have := ih (n := n + 1) (i := i) (by simpa using h) ((n + 1, x) :: groups)
      rw [tagged, ← Nat.add_assoc, Nat.add_right_comm n i 1]
      simpa using this

/-- The texts of the groups of a match are those of its places. -/
theorem groupTexts_of_tagged {f : Found} {texts : List (List Char)}
    (h : f.last.groups = tagged 0 texts []) : f.groupTexts texts.length = texts := by
  refine List.ext_getElem (by simp [Found.groupTexts]) fun i _ hi => ?_
  have := lookup_tagged (n := 0) hi []
  rw [Nat.zero_add] at this
  simp [Found.groupTexts, Found.group?, h, this]

/-- The group of a text that was taken. -/
theorem close_past {i : Nat} {p : Place} {x rest : List Char} (h : p.rest = x ++ rest) :
    p.close i (p.past x) = { p.past x with groups := (i, x) :: p.groups } := by
  simp [Place.close, Place.textTo, h]

/-- A group around a plain pattern keeps the text that the pattern spells. -/
theorem way_group_iff {i : Nat} {a : Pattern} (ha : a.plain = true) {p q : Place} :
    Way (.group i a) p q ↔
      ∃ x rest, p.rest = x ++ rest ∧ a.Spells x ∧
        q = { p.past x with groups := (i, x) :: p.groups } := by
  constructor
  · rintro ⟨⟩
    rename_i m h
    obtain ⟨x, rest, hr, hx, rfl⟩ := h.spells ha
    exact ⟨x, rest, hr, hx, close_past hr⟩
  · rintro ⟨x, rest, hr, hx, rfl⟩
    rw [← close_past hr]
    exact .group (hx.way ha hr)

/-- **The ways of a form**: literal text as it stands, and in each place a text of its parameter's
language, which becomes the group of that place. -/
theorem ways_formItems_iff {n : Nat} {parts : List TemplatePart} {ps : List Parameter}
    (hlen : Template.holes parts = ps.length) {p q : Place} :
    Ways (formItems n parts ps) p q ↔
      ∃ texts rest, List.Forall₂ Parameter.Spells ps texts ∧
        p.rest = Template.fillParts parts texts ++ rest ∧
        q = { p.past (Template.fillParts parts texts) with groups := tagged n texts p.groups } := by
  induction parts generalizing n ps p with
  | nil =>
    obtain rfl : ps = [] := List.eq_nil_of_length_eq_zero hlen.symm
    constructor
    · rintro ⟨⟩
      exact ⟨[], _, .nil, rfl, rfl⟩
    · rintro ⟨texts, rest, ⟨⟩, -, rfl⟩
      exact .nil
  | cons part more ih =>
    match part, ps with
    | .literal c, ps =>
      simp only [formItems, ways_cons_iff, ih hlen, Template.fillParts]
      constructor
      · rintro ⟨m, ⟨⟩, texts, rest, hx, hr, rfl⟩
        rename_i hstep
        obtain ⟨d, tail, hd, hmem, rfl⟩ := Place.step?_eq_some_iff.1 hstep
        obtain rfl := (CharSet.has_one c d).1 hmem
        rw [Place.past_rest (x := [d]) hd] at hr
        exact ⟨texts, rest, hx, by rw [hd, hr, List.cons_append],
          by rw [Place.past_cons p d (Template.fillParts more texts)]; rfl⟩
      · rintro ⟨texts, rest, hx, hr, rfl⟩
        refine ⟨p.past [c], .char (Place.step?_eq_some_iff.2 ⟨c, _, hr, ?_, rfl⟩), texts, rest, hx,
          Place.past_rest (x := [c]) hr, ?_⟩
        · exact (CharSet.has_one c c).2 rfl
        · rw [Place.past_cons p c (Template.fillParts more texts)]; rfl
    | .hole name, a :: ps =>
      have hmore : Template.holes more = ps.length := Nat.succ.inj hlen
      simp only [formItems, ways_cons_iff, ih hmore, way_group_iff a.plain_fragment]
      constructor
      · rintro ⟨m, ⟨x, tail, hp, hx, rfl⟩, texts, rest, hxs, hr, rfl⟩
        have hr' : (p.past x).rest = Template.fillParts more texts ++ rest := hr
        rw [Place.past_rest hp] at hr'
        refine ⟨x :: texts, rest, .cons (Parameter.spells_iff.2 hx) hxs, ?_, ?_⟩
        · rw [hp, hr', Template.fillParts, List.append_assoc]
        · rw [Template.fillParts, Place.past_append]; rfl
      · rintro ⟨texts, rest, hxs, hr, rfl⟩
        cases hxs with
        | @cons _ x _ texts hx hxs =>
          rw [Template.fillParts, List.append_assoc] at hr
          refine ⟨_, ⟨x, _, hr, Parameter.spells_iff.1 hx, rfl⟩, texts, rest, hxs,
            Place.past_rest hr, ?_⟩
          rw [Template.fillParts, Place.past_append]; rfl

/-- The groups of a form are its places. -/
theorem groupCount_formPattern {parts : List TemplatePart} {ps : List Parameter}
    (hlen : Template.holes parts = ps.length) : (formPattern parts ps).groupCount = ps.length := by
  have hitems : ∀ (n : Nat) (parts : List TemplatePart) (ps : List Parameter),
      Template.holes parts = ps.length →
      ((formItems n parts ps).map groupCount).foldr max 0 =
        if ps = [] then 0 else n + ps.length := by
    intro n parts ps hlen
    induction parts generalizing n ps with
    | nil => rw [List.eq_nil_of_length_eq_zero hlen.symm]; rfl
    | cons part more ih =>
      match part, ps with
      | .literal c, ps =>
        simp only [formItems, List.map_cons, List.foldr_cons, groupCount, ih n ps hlen]
        exact Nat.max_eq_right (Nat.zero_le _)
      | .hole name, p :: ps =>
        have hp := groupCount_of_plain p.plain_fragment
        simp only [formItems, List.map_cons, List.foldr_cons, groupCount, hp,
          ih (n + 1) ps (Nat.succ.inj hlen)]
        cases ps with
        | nil => simp
        | cons q ps => simp; omega
  rw [formPattern, groupCount_seqs, hitems 0 parts ps hlen]
  cases ps with
  | nil => rfl
  | cons p ps => simp

/-! ## Rows -/

/-- The values of a row are those that the parameters read from the texts. -/
def RowOf (ps : List Parameter) (texts : List (List Char)) (row : List Value) : Prop :=
  List.Forall₂ (fun (px : Parameter × List Char) v =>
    ∃ a, px.1.decode (String.ofList px.2) = .ok a ∧ a.value = v) (ps.zip texts) row

theorem rowOf_of_decodeGroups {ps : List Parameter} {texts : List (List Char)} {row : List Value}
    (h : decodeGroups ps texts = .ok row) : RowOf ps texts row := by
  induction ps generalizing texts row with
  | nil =>
    cases h
    exact .nil
  | cons p ps ih =>
    cases texts with
    | nil =>
      cases h
      exact .nil
    | cons x texts =>
      obtain ⟨a, ha, h⟩ := bind_eq_ok_iff.1 h
      obtain ⟨more, hmore, h⟩ := bind_eq_ok_iff.1 h
      cases h
      exact .cons ⟨a, ha, rfl⟩ (ih hmore)

theorem decodeMatches_cons {f : ReplyForm} {m : Found} {ms : List Found} {rows : List (List Value)}
    (h : decodeMatches f (m :: ms) = .ok rows) :
    ∃ row more, decodeGroups f.parameters (m.groupTexts f.parameters.length) = .ok row ∧
      decodeMatches f ms = .ok more ∧ rows = row :: more := by
  obtain ⟨row, hrow, h⟩ := bind_eq_ok_iff.1 h
  obtain ⟨more, hmore, h⟩ := bind_eq_ok_iff.1 h
  cases h
  exact ⟨row, more, hrow, hmore, rfl⟩

/-- There is a row for each match. -/
theorem length_of_decodeMatches {f : ReplyForm} {ms : List Found} {rows : List (List Value)}
    (h : decodeMatches f ms = .ok rows) : rows.length = ms.length := by
  induction ms generalizing rows with
  | nil =>
    cases h
    rfl
  | cons m ms ih =>
    obtain ⟨row, more, -, hmore, rfl⟩ := decodeMatches_cons h
    rw [List.length_cons, List.length_cons, ih hmore]

end Command

/-- A part of a reply that has the form: what is skipped before it, and the texts in its places. -/
structure Occurrence where
  gap : List Char
  texts : List (List Char)

/-- Occurrences of a form one behind the other. -/
def Occurrence.join (parts : List TemplatePart) (occurrences : List Occurrence) : List Char :=
  occurrences.flatMap fun o => o.gap ++ Template.fillParts parts o.texts

namespace Command

theorem exists_occurrences {f : ReplyForm}
    (hlen : Template.holes f.template.parts = f.parameters.length) {p : Place} {ms : List Found}
    (hms : Succession (formPattern f.template.parts f.parameters) p ms) {rows : List (List Value)}
    (hrows : decodeMatches f ms = .ok rows) :
    ∃ occurrences after, p.rest = Occurrence.join f.template.parts occurrences ++ after ∧
      List.Forall₂ (fun (o : Occurrence) row =>
        List.Forall₂ Parameter.Spells f.parameters o.texts ∧ RowOf f.parameters o.texts row)
        occurrences rows := by
  induction hms generalizing rows with
  | nil =>
    cases hrows
    exact ⟨[], _, rfl, .nil⟩
  | @cons p m ms gap hm _ ih =>
    obtain ⟨row, more, hrow, hmore, rfl⟩ := decodeMatches_cons hrows
    obtain ⟨texts, rest, hspells, hr, hlast⟩ :=
      (ways_formItems_iff hlen).1 (way_seqs_iff.1 hm.way)
    obtain ⟨occurrences, after, hafter, hall⟩ := ih hmore
    have htexts : m.groupTexts f.parameters.length = texts := by
      rw [hspells.length_eq]
      refine groupTexts_of_tagged ?_
      rw [hlast, hm.first_eq]
      rfl
    have hrest : m.last.rest = rest := by
      rw [hlast]
      exact Place.past_rest hr
    refine ⟨⟨gap, texts⟩ :: occurrences, after, ?_, .cons ⟨hspells, ?_⟩ hall⟩
    · have hjoin : rest = Occurrence.join f.template.parts occurrences ++ after := by
        rw [← hrest]
        exact hafter
      rw [hm.rest_eq, hr, hjoin]
      simp [Occurrence.join]
    · rw [htexts] at hrow
      exact rowOf_of_decodeGroups hrow

end Command

/-! ## The form of a reply -/

/-- What a form of good replies is for.  The form finds something in a reply exactly if a part of
the reply is its template with a text of the language of its parameter in each place, and its rows
stand for such parts, one behind the other, with the values that the parameters read from those
texts; there is a row for everything that the form finds. -/
structure ReplyForm.Exact (f : ReplyForm) : Prop where
  groups : f.expression.pattern.groupCount = f.parameters.length
  finds_iff : ∀ reply : String, f.expression.findAll reply ≠ [] ↔
    ∃ before texts after, List.Forall₂ Parameter.Spells f.parameters texts ∧
      reply.toList = before ++ Template.fillParts f.template.parts texts ++ after
  rows : ∀ (c : Command) (reply : String) (rows : List (List Value)), c.reply = some f →
    c.goodRows reply = .ok rows →
    ∃ occurrences after,
      reply.toList = Occurrence.join f.template.parts occurrences ++ after ∧
      List.Forall₂ (fun (o : Occurrence) row =>
        List.Forall₂ Parameter.Spells f.parameters o.texts ∧ row.length = f.parameters.length ∧
          Command.RowOf f.parameters o.texts row) occurrences rows
  length_rows : ∀ (c : Command) (reply : String) (rows : List (List Value)), c.reply = some f →
    c.goodRows reply = .ok rows → rows.length = (f.expression.findAll reply).length

/-- **The compiler of reply templates is sound and complete.**  With any parameters in its places a
template is accepted, and the form that it becomes is exact. -/
theorem replyForm_exact (text : String) (ps : List Parameter)
    (hps : ps.length = (Template.ofText text).names.length) :
    ∃ e, Expression.ofText? (String.ofList
        (Command.replyPattern (Template.ofText text).parts ps)) = some e ∧
      (∀ registry command,
        Command.resolve registry command .result (Template.ofText text).names = .ok ps →
        Command.ReplyForm.ofText registry command text = .ok ⟨Template.ofText text, ps, e⟩) ∧
      ReplyForm.Exact ⟨Template.ofText text, ps, e⟩ := by
  have hlen : Template.holes (Template.ofText text).parts = ps.length := by
    rw [hps, Template.length_names]
  have he := Command.ofText?_replyPattern (Template.ofText text).parts ps
  refine ⟨_, he, fun registry command hresolve => ?_, ?_, fun reply => ?_,
    fun c reply rows hc hrows => ?_, fun c reply rows hc hrows => ?_⟩
  · simp only [Command.ReplyForm.ofText, hresolve, he, bind, Except.bind]
    rfl
  · exact Command.groupCount_formPattern hlen
  · refine Iff.trans findAll_ne_nil_iff ⟨?_, ?_⟩
    · rintro ⟨gap, rest, q, hreply, hw⟩
      obtain ⟨texts, after, hspells, hr, -⟩ :=
        (Command.ways_formItems_iff hlen).1 (way_seqs_iff.1 hw)
      have hrest : rest = Template.fillParts (Template.ofText text).parts texts ++ after := by
        rw [← hr, Place.past_rest hreply]
      exact ⟨gap, texts, after, hspells, by rw [hreply, hrest, List.append_assoc]⟩
    · rintro ⟨before, texts, after, hspells, hreply⟩
      rw [List.append_assoc] at hreply
      refine ⟨before, _, _, hreply, way_seqs_iff.2 ((Command.ways_formItems_iff hlen).2
        ⟨texts, after, hspells, ?_, rfl⟩)⟩
      exact Place.past_rest hreply
  · rw [Command.goodRows, hc] at hrows
    obtain ⟨occurrences, after, hreply, hall⟩ :=
      Command.exists_occurrences hlen (succession_findAll _ reply.toList) hrows
    refine ⟨occurrences, after, hreply, hall.imp fun o row h => ⟨h.1, ?_, h.2⟩⟩
    have hrow := h.2.length_eq
    rw [List.length_zip, ← h.1.length_eq, Nat.min_self] at hrow
    exact hrow.symm
  · rw [Command.goodRows, hc] at hrows
    exact Command.length_of_decodeMatches hrows

/-- An integer, and a year whose format has parentheses, behind literal text with signs of patterns.
-/
theorem replyForm_exact_year :
    let ps : List Parameter := [.plain "n" .int none,
      { Parameter.plain "y" .date none with
        encoding := .date ⟨"(%tY)", [.literal '(', .part .year, .literal ')']⟩
        encoding_suits := rfl }]
    ps.length = (Template.ofText "T[*]=(n) at (y)").names.length ∧
      ∃ e, Expression.ofText? (String.ofList
          (Command.replyPattern (Template.ofText "T[*]=(n) at (y)").parts ps)) = some e ∧
        (∀ registry command,
          Command.resolve registry command .result (Template.ofText "T[*]=(n) at (y)").names =
            .ok ps →
          Command.ReplyForm.ofText registry command "T[*]=(n) at (y)" =
            .ok ⟨Template.ofText "T[*]=(n) at (y)", ps, e⟩) ∧
        ReplyForm.Exact ⟨Template.ofText "T[*]=(n) at (y)", ps, e⟩ :=
  ⟨by decide, replyForm_exact _ _ (by decide)⟩

end Instrument
