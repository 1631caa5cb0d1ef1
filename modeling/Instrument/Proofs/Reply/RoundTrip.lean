/-
# Values through a reply

An instrument that fills a template with the texts of values sends them back: the reply has the form
of the template exactly once, and its row is the list of values that were written.

The search could go wrong in two ways.  A pattern may take more than its text, into the literal text
or the next place behind it; so each place must end where the characters of its last run do
(`Template.delimited`).  And the text may have a second match; so each place must hold a character
at least.  What is left is an induction over the parts of the template: at each, the pattern prefers
the text that stands there (`matcher_formItems`).
-/
import Instrument.Proofs.Command.Arguments
import Instrument.Proofs.Parameter.RoundTrip
import Instrument.Proofs.Reply.Form
import Instrument.Session

namespace Instrument

open Pattern

/-! ## Delimited templates -/

namespace Template

/-- Does a text of the kind end in front of these parts, whatever is put in their places? -/
def endsBefore (k : Kind) : List TemplatePart → Bool
  | [] => true
  | .literal c :: _ => (!k.isInteger || !Text.isDecimalDigit c) && (k ≠ .token || Text.isBlank c)
  | .hole _ :: _ => !k.isInteger && k ≠ .token

/-- Does every place end where the text of its parameter does? -/
def delimited : List TemplatePart → List Parameter → Bool
  | [], _ => true
  | .literal _ :: rest, ps => delimited rest ps
  | .hole _ :: rest, p :: ps => endsBefore p.kind rest && delimited rest ps
  | .hole _ :: rest, [] => delimited rest []

theorem tail_of_endsBefore {k : Kind} {parts : List TemplatePart} (h : endsBefore k parts = true)
    (texts : List (List Char)) :
    ∀ c ∈ (fillParts parts texts).head?, k.tail.has c = false := by
  intro c hc
  match parts with
  | [] => cases hc
  | .literal d :: rest =>
    cases hc
    cases k <;> simp_all [endsBefore, Kind.tail, CharSet.has, Kind.isInteger]
  | .hole name :: rest =>
    cases k <;> simp_all [endsBefore, Kind.tail, CharSet.has, Kind.isInteger]

/-- A template with a place is not filled to nothing. -/
theorem fillParts_ne_nil {parts : List TemplatePart} {x : List Char} {texts : List (List Char)}
    (hlen : holes parts = (x :: texts).length) (hx : x ≠ []) :
    fillParts parts (x :: texts) ≠ [] := by
  match parts with
  | [] => cases hlen
  | .literal c :: rest => exact List.cons_ne_nil _ _
  | .hole name :: rest => exact List.append_ne_nil_of_left_ne_nil hx _

end Template

/-! ## One match -/

/-- The pattern of the parameter takes the text, if what stands behind it does not go on. -/
def Parameter.Takes (p : Parameter) (x : List Char) : Prop :=
  ∀ rest : List Char, (∀ c ∈ rest.head?, p.kind.tail.has c = false) → p.fragment.Prefers x rest

namespace Command

/-- **The pattern of a form prefers the texts in its places.** -/
theorem matcher_formItems {n : Nat} {parts : List TemplatePart} {ps : List Parameter}
    {texts : List (List Char)} (hlen : Template.holes parts = ps.length)
    (htexts : List.Forall₂ Parameter.Takes ps texts) (hends : Template.delimited parts ps = true)
    {p r : Place} {goal : Place → Option Place} (hp : p.rest = Template.fillParts parts texts)
    (hgoal : goal { p.past (Template.fillParts parts texts) with
      groups := tagged n texts p.groups } = some r) :
    (seqs (formItems n parts ps)).matcher p goal = some r := by
  induction parts generalizing n ps texts p with
  | nil =>
    obtain rfl : ps = [] := List.eq_nil_of_length_eq_zero hlen.symm
    cases htexts
    exact hgoal
  | cons part more ih =>
    -- The rest of the pattern is the goal of the first part, so the induction is over the goals too.
    match part, ps with
    | .literal c, ps =>
      rw [Template.fillParts, Place.past_cons] at hgoal
      rw [formItems, matcher_seqs_cons]
      refine prefers_char ((CharSet.has_one c c).2 rfl) (Template.fillParts more texts) hp ?_
      exact ih hlen htexts hends (Place.past_rest (x := [c]) hp) hgoal
    | .hole name, a :: ps =>
      cases htexts with
      | @cons _ x _ texts hx hmore =>
        obtain ⟨hfirst, hends⟩ := Bool.and_eq_true_iff.1 hends
        rw [Template.fillParts, Place.past_append] at hgoal
        rw [formItems, matcher_seqs_cons]
        refine hx _ (Template.tail_of_endsBefore hfirst texts) hp ?_
        rw [close_past hp]
        exact ih (Nat.succ.inj hlen) hmore hends (Place.past_rest hp) hgoal

/-- The pattern of a form finds nothing where no text is left, if its places need a character. -/
theorem matcher_formItems_end {n : Nat} {parts : List TemplatePart} {ps : List Parameter}
    (hlen : Template.holes parts = ps.length) (hne : ps ≠ [])
    (hsolid : ∀ p ∈ ps, p.fragment.solid = true) {p : Place} (hp : p.rest = []) :
    (seqs (formItems n parts ps)).matcher p some = none := by
  rw [Option.eq_none_iff_forall_not_mem]
  intro q hq
  -- What it finds lies at the end of a way, and a way takes a character in the first place.
  obtain ⟨m, hway, -⟩ := exists_way_of_matcher _ hq
  obtain ⟨texts, rest, hspells, hrest, -⟩ := (ways_formItems_iff hlen).1 (way_seqs_iff.1 hway)
  have hnil : Template.fillParts parts texts = [] := by
    rw [hp] at hrest
    exact (List.append_eq_nil_iff.1 hrest.symm).1
  cases hspells with
  | nil => exact hne rfl
  | @cons a x ps texts hx hmore =>
    have hlen' : Template.holes parts = (x :: texts).length := by
      rw [hlen, List.length_cons, List.length_cons, hmore.length_eq]
    have hx' : x ≠ [] := (Parameter.spells_iff.1 hx).ne_nil (hsolid a List.mem_cons_self)
    exact Template.fillParts_ne_nil hlen' hx' hnil

end Command

/-! ## Its row -/

namespace Parameter

/-- What the round trip asks of a parameter: a kind whose values come back, in the standard format.
-/
structure Restores (p : Parameter) : Prop where
  kind : p.kind.isRestored = true
  format : p.encoding = .standard p.kind

theorem Restores.fragment_eq {p : Parameter} (h : p.Restores) : p.fragment = p.kind.fragment := by
  have hkind := h.kind
  unfold Parameter.fragment
  rw [h.format]
  cases hk : p.kind with
  | float | double | text | date => rw [hk] at hkind; cases hkind
  | byte | int | long | boolean | char | token => rfl

theorem Restores.solid {p : Parameter} (h : p.Restores) : p.fragment.solid = true := by
  rw [h.fragment_eq]
  exact solid_kindFragment p.kind

theorem Restores.takes {p : Parameter} (h : p.Restores) {v : Value} {x : List Char}
    (hx : p.kind.Writes v x) (hchar : ∀ c, v = .char c → Text.isBlank c = false) : p.Takes x := by
  intro rest hrest
  rw [h.fragment_eq]
  exact hx.prefers hchar hrest

end Parameter

namespace Command

/-- The wire texts of values are taken by the patterns of their parameters, and are read back. -/
theorem takes_of_overPairs {ps : List Parameter} {values : List Value} {args : List Argument}
    (hps : ∀ p ∈ ps, p.Restores) (hlen : values.length = ps.length)
    (hargs : overPairs Parameter.encode ps values = .ok args)
    (hchar : ∀ c, .char c ∈ values → Text.isBlank c = false) :
    List.Forall₂ Parameter.Takes ps (args.map (·.wire.toList)) ∧
      decodeGroups ps (args.map (·.wire.toList)) = .ok values := by
  induction ps generalizing values args with
  | nil =>
    obtain rfl := List.eq_nil_of_length_eq_zero hlen
    cases hargs
    exact ⟨.nil, rfl⟩
  | cons p ps ih =>
    match values with
    | v :: values =>
      obtain ⟨first, more, hfirst, hmore, rfl⟩ := overPairs_cons hargs
      have hp := hps p List.mem_cons_self
      obtain ⟨rfl, hwrites, hdecode⟩ := Parameter.decode_of_encode hp.kind hp.format hfirst
      obtain ⟨htakes, hrow⟩ := ih (fun q hq => hps q (List.mem_cons_of_mem p hq))
        (Nat.succ.inj hlen) hmore fun c hc => hchar c (List.mem_cons_of_mem _ hc)
      refine ⟨.cons (hp.takes hwrites ?_) htakes, ?_⟩
      · exact fun c hc => hchar c (hc ▸ List.mem_cons_self)
      · simp only [List.map_cons, decodeGroups, String.ofList_toList, hdecode, hrow]
        rfl

/-- **A filled template has one match**, with the texts in its places for groups. -/
theorem findAll_fillParts {parts : List TemplatePart} {ps : List Parameter}
    {texts : List (List Char)} (hlen : Template.holes parts = ps.length) (hne : ps ≠ [])
    (hps : ∀ p ∈ ps, p.Restores) (htexts : List.Forall₂ Parameter.Takes ps texts)
    (hends : Template.delimited parts ps = true) :
    ∃ f : Found, (formPattern parts ps).findAll (Template.fillParts parts texts) = [f] ∧
      f.groupTexts ps.length = texts := by
  let start := Place.start (Template.fillParts parts texts)
  let last := { start.past (Template.fillParts parts texts) with groups := tagged 0 texts [] }
  have hrest : last.rest = [] :=
    Place.past_rest (p := start) (List.append_nil (Template.fillParts parts texts)).symm
  have hfirst : (formPattern parts ps).matcher start some = some last :=
    matcher_formItems hlen htexts hends rfl rfl
  have hend : (formPattern parts ps).matcher last.fresh some = none :=
    matcher_formItems_end hlen hne (fun p hp => (hps p hp).solid) hrest
  refine ⟨⟨start, last⟩, findAll_eq_singleton hfirst hrest hend, ?_⟩
  rw [htexts.length_eq]
  exact groupTexts_of_tagged rfl

/-- A reply with good rows means those rows. -/
theorem readReply_of_goodRows {c : Command} {f : ReplyForm} (hc : c.reply = some f)
    {reply : String} {row : List Value} (h : c.goodRows reply = .ok [row]) (marker : String) :
    c.readReply reply marker = .ok (.ofRows [row]) := by
  have hexpects : c.expectsReply = true := by simp [expectsReply, hc]
  simp [readReply, hexpects, h]

end Command

theorem Response.ofRows_row {values : List Value} (h : values.length ≠ 1) :
    Response.ofRows [values] = .row values := by
  match values with
  | [] => rfl
  | [v] => exact absurd rfl h
  | v :: w :: more => rfl

/-- **Decoding undoes encoding through a reply.**  Values that their parameters take to the wire,
put into the places of a delimited template, come back from the reply as its only row, and the
response is the value itself if there is one and the row if there are more. -/
theorem reply_roundTrip (text : String) (ps : List Parameter) (values : List Value)
    (args : List Argument) (hlen : ps.length = (Template.ofText text).names.length) (hne : ps ≠ [])
    (hps : ∀ p ∈ ps, p.Restores)
    (hends : Template.delimited (Template.ofText text).parts ps = true)
    (hvalues : values.length = ps.length)
    (hargs : Command.overPairs Parameter.encode ps values = .ok args)
    (hchar : ∀ c, .char c ∈ values → Text.isBlank c = false) :
    ∃ e, Expression.ofText? (String.ofList
        (Command.replyPattern (Template.ofText text).parts ps)) = some e ∧
      ∀ c : Command, c.reply = some ⟨Template.ofText text, ps, e⟩ →
        c.goodRows ((Template.ofText text).fill (args.map (·.wire))) = .ok [values] ∧
        ∀ (profile : Profile) (name : String), profile.command? name = some c →
          (∀ v, values = [v] → profile.readReply name
            ((Template.ofText text).fill (args.map (·.wire))) = .ok (.value v)) ∧
          (values.length ≠ 1 → profile.readReply name
            ((Template.ofText text).fill (args.map (·.wire))) = .ok (.row values)) := by
  have hholes : Template.holes (Template.ofText text).parts = ps.length := by
    rw [hlen, Template.length_names]
  refine ⟨_, Command.ofText?_replyPattern _ ps, fun c hc => ?_⟩
  obtain ⟨htakes, hrow⟩ := Command.takes_of_overPairs hps hvalues hargs hchar
  obtain ⟨f, hfind, hgroups⟩ := Command.findAll_fillParts hholes hne hps htakes hends
  have hgood : c.goodRows ((Template.ofText text).fill (args.map (·.wire))) = .ok [values] := by
    have hfill : ((Template.ofText text).fill (args.map (·.wire))).toList =
        Template.fillParts (Template.ofText text).parts (args.map (·.wire.toList)) := by
      rw [Template.fill, String.toList_ofList, List.map_map]
      rfl
    simp only [Command.goodRows, hc, Expression.findAll, hfill, hfind, Command.decodeMatches,
      hgroups, hrow]
    rfl
  refine ⟨hgood, fun profile name hname => ?_⟩
  have hresponse : profile.readReply name ((Template.ofText text).fill (args.map (·.wire))) =
      .ok (.ofRows [values]) := by
    have hread := Command.readReply_of_goodRows hc hgood profile.marker
    simp only [Profile.readReply, Profile.command, hname, bind, Except.bind, hread]
    rfl
  rw [hresponse]
  refine ⟨?_, fun h => by rw [Response.ofRows_row h]⟩
  rintro v rfl
  rfl

/-- The least integer, a truth value from a list, a digit for a character and a word, the last three
with nothing between them. -/
theorem reply_roundTrip_adjacent :
    let text := "+(n).(b)(c)(w) ok"
    let ps : List Parameter := [.plain "n" .long none,
      { Parameter.plain "b" .boolean none with
        range := some ⟨"true,false", .list ["true", "false"]⟩
        range_suits := rfl },
      .plain "c" .char none, .plain "w" .token none]
    let values : List Value := [.long Int64.minValue, .boolean false, .char '7', .text "a+b"]
    let args : List Argument :=
      [⟨.long Int64.minValue, "-9223372036854775808"⟩, ⟨.boolean false, "false"⟩,
        ⟨.char '7', "7"⟩, ⟨.text "a+b", "a+b"⟩]
    ps.length = (Template.ofText text).names.length ∧ ps ≠ [] ∧ (∀ p ∈ ps, p.Restores) ∧
      Template.delimited (Template.ofText text).parts ps = true ∧ values.length = ps.length ∧
      Command.overPairs Parameter.encode ps values = .ok args ∧
      (∀ c, .char c ∈ values → Text.isBlank c = false) ∧
      (Template.ofText text).fill (args.map (·.wire)) = "+-9223372036854775808.false7a+b ok" ∧
      ∃ e, Expression.ofText? (String.ofList
          (Command.replyPattern (Template.ofText text).parts ps)) = some e ∧
        ∀ c : Command, c.reply = some ⟨Template.ofText text, ps, e⟩ →
          c.goodRows ((Template.ofText text).fill (args.map (·.wire))) = .ok [values] ∧
          ∀ (profile : Profile) (name : String), profile.command? name = some c →
            (∀ v, values = [v] → profile.readReply name
              ((Template.ofText text).fill (args.map (·.wire))) = .ok (.value v)) ∧
            (values.length ≠ 1 → profile.readReply name
              ((Template.ofText text).fill (args.map (·.wire))) = .ok (.row values)) := by
  intro text ps values args
  have hlen : ps.length = (Template.ofText text).names.length := by decide
  have hne : ps ≠ [] := List.cons_ne_nil _ _
  have hps : ∀ p ∈ ps, p.Restores := by
    simp only [ps, List.forall_mem_cons]
    exact ⟨⟨rfl, rfl⟩, ⟨rfl, rfl⟩, ⟨rfl, rfl⟩, ⟨rfl, rfl⟩, by simp⟩
  have hends : Template.delimited (Template.ofText text).parts ps = true := by decide
  have hargs : Command.overPairs Parameter.encode ps values = .ok args := rfl
  have hchar : ∀ c, .char c ∈ values → Text.isBlank c = false := by
    intro c hc
    obtain rfl : c = '7' := by simpa [values] using hc
    rfl
  exact ⟨hlen, hne, hps, hends, rfl, hargs, hchar, by decide,
    reply_roundTrip text ps values args hlen hne hps hends rfl hargs hchar⟩

end Instrument
