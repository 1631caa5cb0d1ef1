/-
# The arguments of a command

A caller gives the arguments of a command as values, as texts or as a line (`Given`).  Whatever the
form, what comes out are arguments that fit the parameters in their places, or the fault of one of
them or of their number (`Given.fits_of_onWire`, `Given.rejects_of_onWire`); and arguments that fit
can be rendered (`render_of_fits`), so that nothing else can go wrong before a command is sent.

Texts and values that they spell come to the same (`decode_of_spelled`), the first fault included:
both lists are gone through from the left, and at each place the two functions agree.
-/
import Instrument.Command.Wire
import Instrument.Proofs.Parameter.Admission
import Mathlib.Data.List.Forall2

namespace Instrument

namespace Command

/-! ## Item by item -/

section Items

variable {α : Type} {f : Parameter → α → Except ParameterFault Argument} {ps : List Parameter}
  {items : List α} {args : List Argument}

theorem overPairs_cons {p : Parameter} {x : α}
    (h : overPairs f (p :: ps) (x :: items) = .ok args) :
    ∃ first more, f p x = .ok first ∧ overPairs f ps items = .ok more ∧ args = first :: more := by
  obtain ⟨first, hfirst, h⟩ := bind_eq_ok_iff.1 h
  obtain ⟨more, hmore, h⟩ := bind_eq_ok_iff.1 h
  cases h
  exact ⟨first, more, hfirst, hmore, rfl⟩

/-- What holds of each argument that comes out holds of all, with the parameters in their places. -/
theorem forall₂_of_overPairs {R : Parameter → Argument → Prop}
    (hf : ∀ {p x a}, f p x = .ok a → R p a) (hlen : items.length = ps.length)
    (h : overPairs f ps items = .ok args) : List.Forall₂ R ps args := by
  induction ps generalizing items args with
  | nil =>
    cases h
    exact .nil
  | cons p ps ih =>
    match items with
    | x :: items =>
      obtain ⟨first, more, hfirst, hmore, rfl⟩ := overPairs_cons h
      exact .cons (hf hfirst) (ih (Nat.succ.inj hlen) hmore)

/-- A fault is that of an item for the parameter in its place. -/
theorem exists_of_overPairs_eq_error {e : ParameterFault} (h : overPairs f ps items = .error e) :
    ∃ p ∈ ps, ∃ x ∈ items, f p x = .error e := by
  induction ps generalizing items with
  | nil => cases h
  | cons p ps ih =>
    match items with
    | [] => cases h
    | x :: items =>
      rcases bind_eq_error_iff.1 h with hfirst | ⟨first, -, h⟩
      · exact ⟨p, List.mem_cons_self, x, List.mem_cons_self, hfirst⟩
      · rcases bind_eq_error_iff.1 h with hmore | ⟨more, -, h⟩
        · obtain ⟨q, hq, y, hy, he⟩ := ih hmore
          exact ⟨q, List.mem_cons_of_mem p hq, y, List.mem_cons_of_mem x hy, he⟩
        · cases h

end Items

/-! ## All of them -/

/-- The faults of what is given for a command: of the number of arguments, or of one of them. -/
inductive Rejects (c : Command) : ParameterFault → Prop
  | arity {count : Nat} :
      count ≠ c.parameters.length → c.Rejects (.arity c.name c.parameters.length count)
  | argument {p : Parameter} {e : ParameterFault} :
      p ∈ c.parameters → p.Rejects e → c.Rejects e

variable {c : Command}

theorem checkArity_eq_ok {count : Nat} {u : Unit} (h : c.checkArity count = .ok u) :
    count = c.parameters.length := by
  unfold checkArity at h
  split at h
  · assumption
  · cases h

theorem rejects_of_checkArity {count : Nat} {e : ParameterFault}
    (h : c.checkArity count = .error e) : c.Rejects e := by
  unfold checkArity at h
  split at h
  · cases h
  · rename_i hcount
    cases h
    exact .arity hcount

section Items

variable {α : Type} {f : Parameter → α → Except ParameterFault Argument} {items : List α}

theorem fits_of_items {args : List Argument} (hf : ∀ {p x a}, f p x = .ok a → p.Fits a)
    (h : (c.checkArity items.length >>= fun _ => overPairs f c.parameters items) = .ok args) :
    List.Forall₂ Parameter.Fits c.parameters args := by
  obtain ⟨u, harity, hargs⟩ := bind_eq_ok_iff.1 h
  exact forall₂_of_overPairs hf (checkArity_eq_ok harity) hargs

theorem rejects_of_items {e : ParameterFault} (hf : ∀ {p x e}, f p x = .error e → p.Rejects e)
    (h : (c.checkArity items.length >>= fun _ => overPairs f c.parameters items) = .error e) :
    c.Rejects e := by
  rcases bind_eq_error_iff.1 h with harity | ⟨u, -, hargs⟩
  · exact rejects_of_checkArity harity
  · obtain ⟨p, hp, x, -, he⟩ := exists_of_overPairs_eq_error hargs
    exact .argument hp (hf he)

end Items

/-- As many arguments as there are parameters can be rendered. -/
theorem render_of_length {args : List Argument} (h : args.length = c.parameters.length) :
    c.render args = .ok (c.template.fill (args.map (·.wire))) := by
  have harity : c.checkArity args.length = .ok () := if_pos h
  simp only [render, harity, bind, Except.bind, pure, Except.pure]

/-- Arguments that fit can be rendered. -/
theorem render_of_fits {args : List Argument}
    (h : List.Forall₂ Parameter.Fits c.parameters args) :
    c.render args = .ok (c.template.fill (args.map (·.wire))) :=
  render_of_length h.length_eq.symm

/-! ## Texts and values -/

/-- Do the texts spell the values, each for the parameter in its place? -/
def Spelled (ps : List Parameter) (texts : List String) (values : List Value) : Prop :=
  ∀ (i : Nat) (p : Parameter) (text : String) (v : Value),
    ps[i]? = some p → texts[i]? = some text → values[i]? = some v → p.readValue text = .ok v

theorem overPairs_of_spelled {ps : List Parameter} {texts : List String} {values : List Value}
    (hlen : texts.length = values.length) (h : Spelled ps texts values) :
    overPairs Parameter.decode ps texts = overPairs Parameter.encode ps values := by
  induction ps generalizing texts values with
  | nil => simp only [overPairs]
  | cons p ps ih =>
    cases texts with
    | nil =>
      obtain rfl : values = [] := List.eq_nil_of_length_eq_zero hlen.symm
      simp only [overPairs]
    | cons text texts =>
      obtain ⟨v, values, rfl⟩ := List.exists_cons_of_length_eq_add_one hlen.symm
      have hfirst : p.readValue text = .ok v := h 0 p text v rfl rfl rfl
      have hmore : Spelled ps texts values := fun i => h (i + 1)
      simp only [overPairs, Parameter.decode_of_readValue hfirst, ih (Nat.succ.inj hlen) hmore]

/-- **Texts come to what the values come to that they spell**, arguments or fault. -/
theorem decode_of_spelled {texts : List String} {values : List Value}
    (hlen : texts.length = values.length) (h : Spelled c.parameters texts values) :
    c.decode texts = c.encode values := by
  rw [decode, encode, hlen, overPairs_of_spelled hlen h]

end Command

/-! ## In any form -/

/-- The arguments of a command as a caller gives them. -/
inductive Given
  | values (values : List Value)
  | texts (texts : List String)
  | line (line : String)

namespace Given

/-- The arguments on the wire. -/
def onWire (c : Command) : Given → Except ParameterFault (List Argument)
  | .values vs => c.encode vs
  | .texts ts => c.decode ts
  | .line l => c.decode (Command.splitArguments l)

variable {c : Command} {given : Given}

/-- **What comes out fits**, whatever it was given as. -/
theorem fits_of_onWire {args : List Argument} (h : given.onWire c = .ok args) :
    List.Forall₂ Parameter.Fits c.parameters args := by
  cases given with
  | values vs =>
    exact Command.fits_of_items (f := Parameter.encode) Parameter.fits_of_encode h
  | texts ts =>
    exact Command.fits_of_items (f := Parameter.decode) Parameter.fits_of_decode h
  | line l =>
    exact Command.fits_of_items (f := Parameter.decode) Parameter.fits_of_decode h

/-- **What does not come out is rejected** for the number of arguments or for one of them. -/
theorem rejects_of_onWire {e : ParameterFault} (h : given.onWire c = .error e) : c.Rejects e := by
  cases given with
  | values vs =>
    exact Command.rejects_of_items (f := Parameter.encode) Parameter.rejects_of_encode h
  | texts ts =>
    exact Command.rejects_of_items (f := Parameter.decode) Parameter.rejects_of_decode h
  | line l =>
    exact Command.rejects_of_items (f := Parameter.decode) Parameter.rejects_of_decode h

end Given

end Instrument
