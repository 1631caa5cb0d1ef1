/-
# Registries of parameters

A registry holds parameters by name, in ascending order of names.  The standard one has a parameter
of each kind, named for the kind, so that a template may say `(int)` without any declaration.
-/
import Instrument.Parameter.Basic

namespace Instrument

/-- Parameters by name. -/
structure Registry where
  parameters : List Parameter
  deriving Repr

namespace Registry

/-- The registry without parameters. -/
def empty : Registry := ⟨[]⟩

/-- Puts a parameter in its place; one of the same name is replaced. -/
def place (p : Parameter) : List Parameter → List Parameter
  | [] => [p]
  | q :: rest =>
    if p.name = q.name then p :: rest
    else if p.name < q.name then p :: q :: rest
    else q :: place p rest

/-- The registry with a parameter more; one of the same name is replaced. -/
def insert (r : Registry) (p : Parameter) : Registry := ⟨place p r.parameters⟩

/-- The registry of a list; of two parameters of one name the later counts. -/
def ofList (ps : List Parameter) : Registry := ps.foldl insert empty

/-- The parameter of a name. -/
def get? (r : Registry) (name : String) : Option Parameter :=
  r.parameters.find? fun p => p.name = name

/-- Is there a parameter of this name? -/
def contains (r : Registry) (name : String) : Bool := (r.get? name).isSome

/-- The number of parameters. -/
def size (r : Registry) : Nat := r.parameters.length

/-- One parameter of each kind. -/
def standard : Registry :=
  ofList (Kind.all.map fun k => .plain k.name k (some ("Default " ++ k.name ++ " parameter")))

theorem find?_place (p : Parameter) (ps : List Parameter) (name : String) :
    ((place p ps).find? fun q => q.name = name) =
      if p.name = name then some p else ps.find? fun q => q.name = name := by
  induction ps with
  | nil => by_cases h : p.name = name <;> simp [place, h]
  | cons q rest ih =>
    simp only [place]
    split
    · rename_i hq
      by_cases h : p.name = name
      · simp [h]
      · simp [h, hq ▸ h]
    · rename_i hq
      split
      · by_cases h : p.name = name <;> simp [h]
      · by_cases h : p.name = name
        · have hn : q.name ≠ name := fun hq' => hq (h.trans hq'.symm)
          simpa [List.find?_cons, hn, h] using ih
        · by_cases hn : q.name = name <;> simp [hn, h, ih]

/-- What was put in last is found, and all else as before. -/
theorem get?_insert (r : Registry) (p : Parameter) (name : String) :
    (r.insert p).get? name = if p.name = name then some p else r.get? name :=
  find?_place p r.parameters name

end Registry

end Instrument
