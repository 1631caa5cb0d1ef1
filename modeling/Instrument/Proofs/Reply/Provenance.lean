/-
# Where the rows of a reply come from

The rows of a response are those of good replies where the form of the command finds anything in the
reply, and those of bad replies otherwise (`Command.Provenance`).  Both kinds of rows are lists of
values, and a response does not keep which they are: a caller asks whether the first row begins with
the marker of failures.

Every row of a bad reply does.  So a response that is said not to be a failure is none; but a row of a
good reply may begin with the marker as well, if the first place of the form can hold it
(`reply_provenance_disguised`).  Where it cannot, by its kind or by its range, the marker tells the two
apart.
-/
import Instrument.Proofs.Session.Admission

namespace Instrument

namespace Command

/-- Does the form of good replies find anything in the reply? -/
def Finds (c : Command) (reply : String) : Prop :=
  ∃ f, c.reply = some f ∧ f.expression.findAll reply ≠ []

variable {c : Command} {reply marker : String} {rows : List (List Value)}

/-! ## Rows -/

theorem finds_iff (h : c.goodRows reply = .ok rows) : c.Finds reply ↔ rows ≠ [] := by
  unfold Finds
  cases hc : c.reply with
  | none =>
    simp only [goodRows, hc] at h
    cases h
    simp
  | some f =>
    simp only [goodRows, hc] at h
    have hlen := length_of_decodeMatches h
    simp only [Option.some.injEq, exists_eq_left', ne_eq, ← List.length_eq_zero_iff, hlen]

/-- Rows of bad replies begin with the marker. -/
theorem head?_of_mem_badRows {row : List Value} (h : row ∈ c.badRows reply marker) :
    row.head? = some (.text marker) := by
  unfold badRows at h
  split at h
  · cases h
  · obtain ⟨m, -, rfl⟩ := List.mem_map.1 h
    rfl

/-- A row of a good reply begins with a value that the first parameter of the form admits. -/
theorem admits_head_of_goodRows {row : List Value} {v : Value} (h : c.goodRows reply = .ok rows)
    (hrow : row ∈ rows) (hv : row.head? = some v) : ∃ q ∈ c.results.head?, q.Admits v := by
  have hadmits := admits_of_goodRows h row hrow
  generalize c.results = ps at hadmits ⊢
  cases hadmits with
  | nil => cases hv
  | cons hq _ =>
    cases hv
    exact ⟨_, rfl, hq⟩

end Command

/-! ## Responses -/

theorem Value.asText?_eq_some_iff {v : Value} {s : String} : v.asText? = some s ↔ v = .text s := by
  cases v <;> simp [asText?]

theorem Response.isFailure_ofRows_iff {rows : List (List Value)} {marker : String} :
    (ofRows rows).isFailure marker = true ↔
      ∃ row ∈ rows.head?, row.head? = some (.text marker) := by
  rw [isFailure, decide_eq_true_iff, first?, toRows_ofRows]
  simp only [Option.bind_eq_some_iff, Value.asText?_eq_some_iff, exists_eq_right, Option.mem_def]

/-! ## Rows of texts -/

/-- The texts in rows; other values have none. -/
def textsOf (rows : List (List Value)) : List (List (Option String)) := rows.map (·.map (·.asText?))

theorem eq_map_of_map_eq {α β γ : Type} {f : α → γ} {g : β → α} {k : β → γ}
    (h : ∀ {a b}, f a = k b → a = g b) {xs : List α} {ys : List β} (hmap : xs.map f = ys.map k) :
    xs = ys.map g := by
  induction xs generalizing ys with
  | nil =>
    obtain rfl := List.map_eq_nil_iff.1 hmap.symm
    rfl
  | cons x xs ih =>
    obtain ⟨y, ys, rfl, hy, hys⟩ := List.map_eq_cons_iff.1 hmap.symm
    rw [h hy.symm, ih hys.symm]
    rfl

/-- Rows of which every value is a text are made of their texts. -/
theorem eq_texts_of_textsOf {rows : List (List Value)} {texts : List (List String)}
    (h : textsOf rows = texts.map (·.map some)) : rows = texts.map (·.map .text) :=
  eq_map_of_map_eq (fun hrow => eq_map_of_map_eq Value.asText?_eq_some_iff.1 hrow) h

theorem eq_texts_of_toOption {ε : Type} {found : Except ε (List (List Value))}
    {texts : List (List String)} (h : found.toOption.map textsOf = some (texts.map (·.map some))) :
    found = .ok (texts.map (·.map .text)) := by
  cases found with
  | error e => cases h
  | ok rows => rw [eq_texts_of_textsOf (Option.some.inj h)]

/-- A response of which every value is a text is the one with these texts. -/
theorem Profile.readReply_of_texts {p : Profile} {name reply : String}
    {texts : List (List String)}
    (h : (p.readReply name reply).toOption.map (textsOf ·.toRows) =
      some (texts.map (·.map some))) :
    p.readReply name reply = .ok (.ofRows (texts.map (·.map .text))) := by
  cases hread : p.readReply name reply with
  | error e =>
    rw [hread] at h
    cases h
  | ok r =>
    rw [hread] at h
    obtain ⟨c, -, hc⟩ := bind_eq_ok_iff.1 hread
    obtain ⟨rows, rfl⟩ : ∃ rows, r = .ofRows rows := by
      rcases Command.readReply_eq_ok (mapError_eq_ok_iff.1 hc) with ⟨rows, -, -, rfl⟩ | ⟨-, rfl⟩
      · exact ⟨rows, rfl⟩
      · exact ⟨_, rfl⟩
    have htexts : textsOf (Response.ofRows rows).toRows = texts.map (·.map some) :=
      Option.some.inj h
    rw [Response.toRows_ofRows] at htexts
    rw [eq_texts_of_textsOf htexts]

/-! ## Where the rows come from -/

/-- What the rows of a response to a reply are, and what it means that they begin with the marker. -/
structure Command.Provenance (c : Command) (reply marker : String) (r : Response) : Prop where
  good : c.Finds reply → c.goodRows reply = .ok r.toRows
  bad : ¬ c.Finds reply → r.toRows = c.badRows reply marker ∧ r.toRows ≠ []
  isFailure_iff : r.isFailure marker = true ↔
    ¬ c.Finds reply ∨ ∃ rest more, c.goodRows reply = .ok ((.text marker :: rest) :: more)
  tells : (∀ q ∈ c.results.head?, ¬ q.Admits (.text marker)) →
    (r.isFailure marker = true ↔ ¬ c.Finds reply)

namespace Command

variable {c : Command} {reply marker : String} {r : Response}

theorem badRows_ne_nil (h : c.readReply reply marker = .ok r) (hgood : c.goodRows reply = .ok []) :
    c.badRows reply marker ≠ [] := by
  intro hbad
  unfold readReply at h
  rw [hgood, hbad] at h
  split at h <;> cases h

/-- Good rows are passed on as they are. -/
theorem provenance_of_good {rows : List (List Value)} (hgood : c.goodRows reply = .ok rows)
    (hne : rows ≠ []) : c.Provenance reply marker (.ofRows rows) := by
  have hfinds : c.Finds reply := (finds_iff hgood).2 hne
  have hiff : (Response.ofRows rows).isFailure marker = true ↔
      ∃ rest more, c.goodRows reply = .ok ((.text marker :: rest) :: more) := by
    rw [Response.isFailure_ofRows_iff, hgood]
    match rows with
    | (v :: rest) :: more => simp
    | [] :: more => simp
    | [] => exact absurd rfl hne
  refine ⟨fun _ => ?_, fun hnot => absurd hfinds hnot, ?_, fun hadmits => ?_⟩
  · rw [Response.toRows_ofRows, hgood]
  · rw [hiff]
    exact ⟨.inr, Or.rec (absurd hfinds) id⟩
  · rw [hiff]
    refine ⟨?_, absurd hfinds⟩
    rintro ⟨rest, more, hmarked⟩
    obtain ⟨q, hq, hv⟩ := admits_head_of_goodRows hmarked List.mem_cons_self rfl
    exact absurd hv (hadmits q hq)

/-- Bad rows are told by the marker that they begin with. -/
theorem provenance_of_bad (hgood : c.goodRows reply = .ok []) (hne : c.badRows reply marker ≠ []) :
    c.Provenance reply marker (.ofRows (c.badRows reply marker)) := by
  have hfinds : ¬ c.Finds reply := fun hfinds => (finds_iff hgood).1 hfinds rfl
  have hfailure : (Response.ofRows (c.badRows reply marker)).isFailure marker = true := by
    obtain ⟨row, more, hrows⟩ := List.exists_cons_of_ne_nil hne
    have hrow : row ∈ c.badRows reply marker := hrows ▸ List.mem_cons_self
    exact Response.isFailure_ofRows_iff.2 ⟨row, by rw [hrows]; rfl, head?_of_mem_badRows hrow⟩
  refine ⟨fun h => absurd h hfinds, fun _ => ?_, ?_, fun _ => ?_⟩
  · rw [Response.toRows_ofRows]
    exact ⟨rfl, hne⟩
  · exact ⟨fun _ => .inl hfinds, fun _ => hfailure⟩
  · exact ⟨fun _ => hfinds, fun _ => hfailure⟩

theorem provenance_of_readReply (h : c.readReply reply marker = .ok r) :
    c.Provenance reply marker r := by
  rcases readReply_eq_ok h with ⟨rows, hgood, hne, rfl⟩ | ⟨hgood, rfl⟩
  · exact provenance_of_good hgood hne
  · exact provenance_of_bad hgood (badRows_ne_nil h hgood)

end Command

/-- **What the marker of failures tells.**  The rows of a response are all the rows of good replies
if the form of the command finds any, and all those of bad replies if not.  The response is said to
be a failure exactly if they are rows of bad replies, or rows of good replies the first of which
happens to begin with the marker; so it says just where the rows come from if the first parameter
of the form does not admit the marker. -/
theorem reply_provenance {p : Profile} {name reply : String} {r : Response}
    (h : p.readReply name reply = .ok r) :
    ∃ c, p.command? name = some c ∧ c.Provenance reply p.marker r := by
  obtain ⟨c, hc, h⟩ := bind_eq_ok_iff.1 h
  exact ⟨c, Profile.command_eq_ok hc, Command.provenance_of_readReply (mapError_eq_ok_iff.1 h)⟩

namespace Beacon

/-- A beacon that says any word. -/
def schema : Schema where
  name := "beacon"
  description := none
  connection := .rpc (.plain "localhost" 7700)
  failure := some "E(\\d+)"
  marker := none
  parameters := []
  commands := [("ask", ⟨none, "ASK", some "S=(string)", none, none⟩)]

end Beacon

/-- A word that is said, and a fault that is reported in its place. -/
theorem reply_provenance_beacon :
    ∃ p, Profile.ofSchema Beacon.schema .standard = .ok p ∧
      (∃ c, p.command? "ask" = some c ∧ c.Provenance "S=lit" p.marker (.value (.text "lit"))) ∧
      ∃ c, p.command? "ask" = some c ∧
        c.Provenance "E12" p.marker (.row [.text "ERROR", .text "12"]) := by
  have hread : (Profile.ofSchema Beacon.schema .standard).map (fun p =>
      ((p.readReply "ask" "S=lit").toOption.map (textsOf ·.toRows),
        (p.readReply "ask" "E12").toOption.map (textsOf ·.toRows))) =
      .ok (some [[some "lit"]], some [[some "ERROR", some "12"]]) := by decide +kernel
  obtain ⟨p, hp, hread⟩ := map_eq_ok_iff.1 hread
  obtain ⟨hgood, hbad⟩ := Prod.mk.inj hread
  have hgood := @Profile.readReply_of_texts p "ask" "S=lit" [["lit"]] hgood
  have hbad := @Profile.readReply_of_texts p "ask" "E12" [["ERROR", "12"]] hbad
  exact ⟨p, hp, reply_provenance hgood, reply_provenance hbad⟩

/-- **A good reply in the disguise of a bad one.**  The beacon says the word that marks failures; the
form finds it, so the row is one of a good reply, and the response is said to be a failure. -/
theorem reply_provenance_disguised :
    ∃ p c r, Profile.ofSchema Beacon.schema .standard = .ok p ∧ p.command? "ask" = some c ∧
      p.readReply "ask" "S=ERROR" = .ok r ∧ c.Finds "S=ERROR" ∧
      c.goodRows "S=ERROR" = .ok r.toRows ∧ r.isFailure p.marker = true := by
  have hmade : (Profile.ofSchema Beacon.schema .standard).map (·.marker) = .ok "ERROR" := by
    decide +kernel
  have hcommand : (Profile.ofSchema Beacon.schema .standard).map (fun p =>
      (p.command? "ask").map fun c => (c.goodRows "S=ERROR").toOption.map textsOf) =
      .ok (some (some [[some "ERROR"]])) := by decide +kernel
  have hresponse : (Profile.ofSchema Beacon.schema .standard).map (fun p =>
      (p.readReply "ask" "S=ERROR").toOption.map (textsOf ·.toRows)) =
      .ok (some [[some "ERROR"]]) := by decide +kernel
  obtain ⟨p, hp, hmarker⟩ := map_eq_ok_iff.1 hmade
  rw [hp] at hcommand hresponse
  obtain ⟨c, hc, hgood⟩ := Option.map_eq_some_iff.1 (Except.ok.inj hcommand)
  have hresponse :=
    @Profile.readReply_of_texts p "ask" "S=ERROR" [["ERROR"]] (Except.ok.inj hresponse)
  have hrows : c.goodRows "S=ERROR" = .ok [[.text "ERROR"]] :=
    @eq_texts_of_toOption _ _ [["ERROR"]] hgood
  have hfinds : c.Finds "S=ERROR" := (Command.finds_iff hrows).2 (List.cons_ne_nil _ _)
  exact ⟨p, c, _, hp, hc, hresponse, hfinds, hrows, by rw [hmarker]; rfl⟩

end Instrument
