/-
# Opening a record

An object is opened as a record whatever the order of its members and under whichever of its names
each field is given.  Members are followed through `gather` here and nowhere else: `exists_gather`
says what is held of each field, and `openRecord_bind` lets a reader of records go on with fields
that are read as they should.  Of a record it asks that its names agree with those of its slots
(`Agree`), which is decided by looking, and of each field that what is written of it gives a value
(`Field.Gives`), which is the law of the field; `Written` collects the laws of a record.
-/
import Instrument.Proofs.Outcome
import Instrument.Proofs.Schema.Spelling
import Instrument.Schema.Shape
import Mathlib.Data.List.Nodup

namespace Instrument.Shape

open Json (present)
open Spelling (Form Respelled)

/-! ## Lists -/

section

variable {α β γ : Type}

theorem filterMap_sublist_map {f : α → Option β} {g : α → β} {l : List α}
    (h : ∀ a ∈ l, ∀ b ∈ f a, b = g a) : (l.filterMap f).Sublist (l.map g) := by
  induction l with
  | nil => exact List.Sublist.slnil
  | cons a rest ih =>
    have hrest := ih fun a' ha' => h a' (List.mem_cons_of_mem _ ha')
    rw [List.filterMap_cons, List.map_cons]
    cases hf : f a with
    | none => exact hrest.cons _
    | some b =>
      rw [h a List.mem_cons_self b hf]
      exact hrest.cons_cons _

variable {R : α → β → Prop} {as : List α} {bs : List β}

theorem exists_left_of_forall₂ (h : List.Forall₂ R as bs) {b : β} (hb : b ∈ bs) :
    ∃ a ∈ as, R a b := by
  induction h with
  | nil => cases hb
  | cons hR _ ih =>
    rcases List.mem_cons.1 hb with rfl | hb
    · exact ⟨_, List.mem_cons_self, hR⟩
    · obtain ⟨a, ha, hR⟩ := ih hb
      exact ⟨a, List.mem_cons_of_mem _ ha, hR⟩

theorem exists_right_of_forall₂ (h : List.Forall₂ R as bs) {a : α} (ha : a ∈ as) :
    ∃ b ∈ bs, R a b :=
  exists_left_of_forall₂ (R := fun b a => R a b) h.flip ha

theorem filterMap_eq_of_forall₂ {f : α → Option γ} {g : β → Option γ} (h : List.Forall₂ R as bs)
    (hfg : ∀ a ∈ as, ∀ b, R a b → g b = f a) : bs.filterMap g = as.filterMap f := by
  induction h with
  | nil => rfl
  | cons hR _ ih =>
    have hrest := ih fun a ha => hfg a (List.mem_cons_of_mem _ ha)
    rw [List.filterMap_cons, List.filterMap_cons, hfg _ List.mem_cons_self _ hR, hrest]

end

/-! ## Members -/

section

variable {fields : List (String × Option Json)} {n : String}

theorem mem_present {w : Json} : (n, w) ∈ present fields ↔ (n, some w) ∈ fields := by
  simp [present]

theorem names_present (fields : List (String × Option Json)) :
    ((present fields).map Prod.fst).Sublist (fields.map Prod.fst) := by
  rw [present, List.map_filterMap]
  refine filterMap_sublist_map fun m _ n hn => ?_
  obtain ⟨v, hv, rfl⟩ := Option.map_eq_some_iff.1 hn
  obtain ⟨w, -, rfl⟩ := Option.map_eq_some_iff.1 hv
  rfl

theorem eq_of_mem_fields (hnodup : (fields.map Prod.fst).Nodup) {o o' : Option Json}
    (ho : (n, o) ∈ fields) (ho' : (n, o') ∈ fields) : o = o' :=
  congrArg Prod.snd (List.inj_on_of_nodup_map hnodup ho ho' rfl)

/-- What is found under a name among members that stand for what was written. -/
theorem rel_lookup {R : Form} {o : Option Json} {values : List (String × Json)}
    (hto : ∀ w, o = some w → ∃ v, (n, v) ∈ values)
    (hfrom : ∀ v, (n, v) ∈ values → ∃ w, o = some w ∧ R w v) :
    Option.Rel R o (values.lookup n) := by
  cases hlookup : values.lookup n with
  | none =>
    cases o with
    | none => exact .none
    | some w =>
      obtain ⟨v, hv⟩ := hto w rfl
      simpa using List.lookup_eq_none_iff.1 hlookup _ hv
  | some v =>
    obtain ⟨before, after, hvalues, -⟩ := List.lookup_eq_some_iff.1 hlookup
    obtain ⟨w, rfl, hR⟩ := hfrom v (hvalues ▸ by simp)
    exact .some hR

end

/-! ## Names -/

variable {slots : List Slot} {older : String → Option String} {others : List String}
  {form : String → Form} {fields : List (String × Option Json)} {given : List (String × Json)}

/-- The name of the field that a key names. -/
def named (slots : List Slot) (key : String) : Option String :=
  (slots.find? (·.isNamed key)).map (·.name)

/-- The names of a record's fields and of what else is written with them agree with its slots: each
field is found by its name, nothing else is, and an older name stands for the same as the newer. -/
structure Agree (slots : List Slot) (older : String → Option String) (others : List String) :
    Prop where
  nodup : (others ++ slots.map (·.name)).Nodup
  own : ∀ n ∈ slots.map (·.name), named slots n = some n
  other : ∀ n ∈ others, named slots n = none
  older : ∀ n ∈ others ++ slots.map (·.name), ∀ key ∈ older n, named slots key = named slots n

instance : Decidable (Agree slots older others) :=
  decidable_of_iff
    ((others ++ slots.map (·.name)).Nodup ∧ (∀ n ∈ slots.map (·.name), named slots n = some n) ∧
      (∀ n ∈ others, named slots n = none) ∧
      ∀ n ∈ others ++ slots.map (·.name), ∀ key ∈ older n, named slots key = named slots n)
    ⟨fun ⟨hnodup, hown, hother, holder⟩ => ⟨hnodup, hown, hother, holder⟩,
      fun ⟨hnodup, hown, hother, holder⟩ => ⟨hnodup, hown, hother, holder⟩⟩

theorem Agree.named_eq (h : Agree slots older others) {n key : String}
    (hn : n ∈ others ++ slots.map (·.name)) (hkey : key = n ∨ older n = some key) :
    named slots key = named slots n := by
  rcases hkey with rfl | hkey
  · rfl
  · exact h.older n hn key hkey

theorem Agree.eq_of_named (h : Agree slots older others) {n n' : String}
    (hn : n ∈ others ++ slots.map (·.name)) (hnamed : named slots n = some n') : n' = n := by
  rcases List.mem_append.1 hn with hn | hn
  · rw [h.other n hn] at hnamed
    cases hnamed
  · rw [h.own n hn] at hnamed
    exact (Option.some.inj hnamed).symm

/-! ## Gathering -/

/-- Members none of which repeats a field are gathered under the names of their fields, if each is
as its field asks. -/
theorem gather_eq {seen : List String}
    (hcheck : ∀ m ∈ given, ∀ s, slots.find? (·.isNamed m.1) = some s → s.check m.2 = .ok ())
    (hnodup : (given.filterMap fun m => named slots m.1).Nodup)
    (hseen : ∀ m ∈ given, ∀ n, named slots m.1 = some n → n ∉ seen) :
    gather slots seen given =
      .ok (given.filterMap fun m => (named slots m.1).map fun n => (n, m.2)) := by
  induction given generalizing seen with
  | nil => rfl
  | cons m rest ih =>
    have hrest : ∀ m' ∈ rest, m' ∈ m :: rest := fun _ h => List.mem_cons_of_mem _ h
    cases hfind : slots.find? (·.isNamed m.1) with
    | none =>
      have hnone : named slots m.1 = none := by rw [named, hfind]; rfl
      rw [List.filterMap_cons, hnone] at hnodup
      rw [gather, hfind, List.filterMap_cons, hnone]
      exact ih (fun m' h => hcheck m' (hrest m' h)) hnodup fun m' h => hseen m' (hrest m' h)
    | some s =>
      have hsome : named slots m.1 = some s.name := by rw [named, hfind]; rfl
      rw [List.filterMap_cons, hsome, List.nodup_cons] at hnodup
      have hnew : s.name ∉ seen := hseen m List.mem_cons_self _ hsome
      have hmore : gather slots (s.name :: seen) rest = _ :=
        ih (fun m' h => hcheck m' (hrest m' h)) hnodup.2 fun m' h n hn hmem => by
          rcases List.mem_cons.1 hmem with rfl | hmem
          · exact hnodup.1 (List.mem_filterMap.2 ⟨m', h, hn⟩)
          · exact hseen m' (hrest m' h) n hn hmem
      rw [gather, hfind, List.filterMap_cons, hsome]
      simp [hnew, hcheck m List.mem_cons_self s hfind, hmore, bind, Except.bind, pure, Except.pure]

section

variable (hagree : Agree slots older others)
  (hnames : fields.map Prod.fst = others ++ slots.map (·.name))
  (h : Respelled older form (present fields) given)

include hnames in
theorem mem_names {n : String} {o : Option Json} (ho : (n, o) ∈ fields) :
    n ∈ others ++ slots.map (·.name) :=
  hnames ▸ List.mem_map_of_mem ho

include hagree hnames h

/-- What is given stands for something that was written. -/
theorem exists_written {m : String × Json} (hm : m ∈ given) :
    ∃ n w, (n, some w) ∈ fields ∧ named slots m.1 = named slots n ∧ form n w m.2 := by
  obtain ⟨members, hall, hperm⟩ := h
  obtain ⟨⟨n, w⟩, hw, hkey, hform⟩ := exists_left_of_forall₂ hall (hperm.mem_iff.2 hm)
  have ho := mem_present.1 hw
  exact ⟨n, w, ho, hagree.named_eq (mem_names hnames ho) hkey, hform⟩

/-- What was written is given. -/
theorem exists_given {n : String} {w : Json} (ho : (n, some w) ∈ fields) :
    ∃ m ∈ given, named slots m.1 = named slots n := by
  obtain ⟨members, hall, hperm⟩ := h
  obtain ⟨m, hm, hkey, -⟩ := exists_right_of_forall₂ hall (mem_present.2 ho)
  exact ⟨m, hperm.mem_iff.1 hm, hagree.named_eq (mem_names hnames ho) hkey⟩

/-- No field is given twice. -/
theorem nodup_named : (given.filterMap fun m => named slots m.1).Nodup := by
  obtain ⟨members, hall, hperm⟩ := h
  have hwritten : members.filterMap (fun m => named slots m.1) =
      (present fields).filterMap fun w => named slots w.1 :=
    filterMap_eq_of_forall₂ hall fun w hw m hm =>
      hagree.named_eq (mem_names hnames (mem_present.1 hw)) hm.1
  have hsublist : ((present fields).filterMap fun w => named slots w.1).Sublist
      ((present fields).map Prod.fst) :=
    filterMap_sublist_map fun w hw n hn =>
      hagree.eq_of_named (mem_names hnames (mem_present.1 hw)) hn
  rw [← (hperm.filterMap _).nodup_iff, hwritten]
  exact (hsublist.trans (names_present fields)).nodup (hnames ▸ hagree.nodup)

/-- **The members of a record are gathered from any spelling.**  What is held of each field is a
form of what was written of it, and nothing where nothing was. -/
theorem exists_gather (hcheck : ∀ s ∈ slots, ∀ w v, (s.name, some w) ∈ fields →
      form s.name w v → s.check v = .ok ()) :
    ∃ values, gather slots [] given = .ok values ∧ ∀ s ∈ slots, ∀ o, (s.name, o) ∈ fields →
      Option.Rel (form s.name) o (values.lookup s.name) := by
  refine ⟨_, gather_eq ?_ (nodup_named hagree hnames h) nofun, fun s hs o ho => ?_⟩
  · intro m hm s hfind
    obtain ⟨n, w, hfield, hsame, hform⟩ := exists_written hagree hnames h hm
    have hs : named slots m.1 = some s.name := congrArg (Option.map _) hfind
    obtain rfl : s.name = n := hagree.eq_of_named (mem_names hnames hfield) (hsame ▸ hs)
    exact hcheck s (List.mem_of_find?_eq_some hfind) w m.2 hfield hform
  · have hvalues : ∀ v, (s.name, v) ∈ given.filterMap (fun m => (named slots m.1).map (·, m.2)) ↔
        ∃ m ∈ given, named slots m.1 = some s.name ∧ m.2 = v := by
      simp [List.mem_filterMap]
    refine rel_lookup (fun w hw => ?_) fun v hv => ?_
    · obtain ⟨m, hm, hsame⟩ := exists_given hagree hnames h (hw ▸ ho)
      have hown := hagree.own s.name (List.mem_map_of_mem hs)
      exact ⟨m.2, (hvalues _).2 ⟨m, hm, hsame.trans hown, rfl⟩⟩
    · obtain ⟨m, hm, hnamed, rfl⟩ := (hvalues v).1 hv
      obtain ⟨n, w, hfield, hsame, hform⟩ := exists_written hagree hnames h hm
      obtain rfl : s.name = n := hagree.eq_of_named (mem_names hnames hfield) (hsame ▸ hnamed)
      exact ⟨w, eq_of_mem_fields (hnames ▸ hagree.nodup) ho hfield, hform⟩

end

/-- A member that has but one name is found under it. -/
theorem rel_lookup_given (h : Respelled older form (present fields) given)
    (hnodup : (fields.map Prod.fst).Nodup) {n : String} {o : Option Json} (ho : (n, o) ∈ fields)
    (hn : older n = none) (hothers : ∀ n', older n' ≠ some n) :
    Option.Rel (form n) o (given.lookup n) := by
  obtain ⟨members, hall, hperm⟩ := h
  refine rel_lookup (fun w hw => ?_) fun v hv => ?_
  · obtain ⟨m, hm, rfl | hkey, -⟩ := exists_right_of_forall₂ hall (mem_present.2 (hw ▸ ho))
    · exact ⟨m.2, hperm.mem_iff.1 hm⟩
    · rw [hn] at hkey
      cases hkey
  · obtain ⟨w, hw, rfl | hkey, hform⟩ := exists_left_of_forall₂ hall (hperm.mem_iff.2 hv)
    · exact ⟨w.2, eq_of_mem_fields hnodup ho (mem_present.1 hw), hform⟩
    · exact absurd hkey (hothers w.1)

/-! ## Fields -/

section

variable {α : Type} {f : Field α} {o : Option Json} {a d : α} {default : Option α} {r : Record}

/-- What is written of a field gives a value: each form of it is read as that value, and where
nothing is written the value is the default. -/
structure Field.Gives (f : Field α) (form : String → Form) (o : Option Json) (default : Option α)
    (a : α) : Prop where
  read : ∀ w v, o = some w → form f.name w v → f.read v = .ok a
  default : o = none → default = some a

/-- What is always written gives a value if all its forms are read as that value. -/
theorem gives_some {w : Json} (h : ∀ v, form f.name w v → f.read v = .ok a) :
    f.Gives form (some w) default a where
  read := by
    rintro _ v ⟨⟩
    exact h v
  default := nofun

/-- What is written of a field gives a value, which is the one that a record reads. -/
theorem Field.Gives.cases (h : f.Gives form o default a)
    (hr : Option.Rel (form f.name) o (r.values.lookup f.name)) :
    (∃ v, r.values.lookup f.name = some v ∧ f.read v = .ok a) ∨
      (r.values.lookup f.name = none ∧ default = some a) := by
  generalize r.values.lookup f.name = found at hr
  cases hr with
  | none => exact .inr ⟨rfl, h.default rfl⟩
  | some hv => exact .inl ⟨_, rfl, h.read _ _ rfl hv⟩

theorem Field.Gives.get (h : f.Gives form o none a)
    (hr : Option.Rel (form f.name) o (r.values.lookup f.name)) : r.get f = .ok a := by
  rcases h.cases hr with ⟨v, hv, hread⟩ | ⟨-, hdefault⟩
  · rw [Record.get, hv]
    exact hread
  · cases hdefault

theorem Field.Gives.getD (h : f.Gives form o (some d) a)
    (hr : Option.Rel (form f.name) o (r.values.lookup f.name)) : r.getD f d = .ok a := by
  rcases h.cases hr with ⟨v, hv, hread⟩ | ⟨hnone, hdefault⟩
  · rw [Record.getD, hv]
    exact hread
  · rw [Record.getD, hnone, Option.some.inj hdefault]

end

/-- What is written of the fields of a record, slot by slot, gives each of them a value; then
`Reads` is what a record reads. -/
inductive Written (form : String → Form) :
    List Slot → List (String × Option Json) → (Record → Prop) → Prop
  | nil : Written form [] [] fun _ => True
  | required {α : Type} {f : Field α} {o : Option Json} {a : α} {slots : List Slot}
      {own : List (String × Option Json)} {Reads : Record → Prop} (h : f.Gives form o none a)
      (hrest : Written form slots own Reads) :
      Written form (f.slot :: slots) ((f.name, o) :: own) fun r => r.get f = .ok a ∧ Reads r
  | optional {α : Type} {f : Field α} {o : Option Json} {d a : α} {slots : List Slot}
      {own : List (String × Option Json)} {Reads : Record → Prop} (h : f.Gives form o (some d) a)
      (hrest : Written form slots own Reads) :
      Written form (f.slot :: slots) ((f.name, o) :: own) fun r => r.getD f d = .ok a ∧ Reads r

section

variable {own : List (String × Option Json)} {Reads : Record → Prop}

theorem Written.names (h : Written form slots own Reads) :
    own.map Prod.fst = slots.map (·.name) := by
  induction h with
  | nil => rfl
  | required _ _ ih => exact congrArg _ ih
  | optional _ _ ih => exact congrArg _ ih

theorem Written.exists_check (h : Written form slots own Reads) {s : Slot} (hs : s ∈ slots) :
    ∃ o, (s.name, o) ∈ own ∧ ∀ w v, o = some w → form s.name w v → s.check v = .ok () := by
  induction h with
  | nil => cases hs
  | required h _ ih | optional h _ ih =>
    rcases List.mem_cons.1 hs with rfl | hs
    · exact ⟨_, List.mem_cons_self, fun w v hw hv => map_eq_ok_iff.2 ⟨_, h.read w v hw hv, rfl⟩⟩
    · obtain ⟨o, ho, hcheck⟩ := ih hs
      exact ⟨o, List.mem_cons_of_mem _ ho, hcheck⟩

theorem Written.reads (h : Written form slots own Reads) {r : Record}
    (hr : ∀ m ∈ own, Option.Rel (form m.1) m.2 (r.values.lookup m.1)) : Reads r := by
  induction h with
  | nil => trivial
  | required h _ ih =>
    obtain ⟨hfirst, hrest⟩ := List.forall_mem_cons.1 hr
    exact ⟨h.get hfirst, ih hrest⟩
  | optional h _ ih =>
    obtain ⟨hfirst, hrest⟩ := List.forall_mem_cons.1 hr
    exact ⟨h.getD hfirst, ih hrest⟩

/-- **A record is opened from any spelling of it**, and what goes on from its fields goes on.  With
its `own` fields there may be `others` that it passes over. -/
theorem openRecord_bind {β : Type} {type : String} {next : Record → Except ShapeFault β} {b : β}
    (others : List (String × Option Json)) (hagree : Agree slots older (others.map Prod.fst))
    (hwritten : Written form slots own Reads)
    (h : Respelled older form (present (others ++ own)) given)
    (hnext : ∀ r, Reads r → next r = .ok b) :
    openRecord type slots (.object given) >>= next = .ok b := by
  have hnames : (others ++ own).map Prod.fst = others.map Prod.fst ++ slots.map (·.name) := by
    rw [List.map_append, hwritten.names]
  obtain ⟨values, hvalues, hholds⟩ := exists_gather hagree hnames h fun s hs w v hw hv => by
    obtain ⟨o, ho, hcheck⟩ := hwritten.exists_check hs
    have hsame := eq_of_mem_fields (hnames ▸ hagree.nodup) (List.mem_append_right _ ho) hw
    exact hcheck w v hsame hv
  refine bind_eq_ok_iff.2 ⟨⟨values, .missing⟩, ?_, hnext _ (hwritten.reads fun m hm => ?_)⟩
  · rw [openRecord, hvalues]
    rfl
  · obtain ⟨s, hs, hname⟩ := List.mem_map.1 (hwritten.names ▸ List.mem_map_of_mem hm)
    rw [← hname]
    exact hholds s hs m.2 (List.mem_append_right _ (hname ▸ hm))

end

end Instrument.Shape
